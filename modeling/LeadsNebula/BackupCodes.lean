/-
Backup codes under concurrent logins (`verify_otp_login`).

A request reads the whole list of codes, takes its code out and writes the list
back; the statement that writes does not look at what is stored by then.

* `backup_codes_single_use` — if the stored list is still the one that was read
  whenever a request writes, every code that was used is gone and no other;
* `backup_code_used_twice` — two logins with one code.
-/
import LeadsNebula.Auth

namespace LeadsNebula

namespace AuthSys

/-- The backup codes that are stored for a user. -/
def storedCodes (s : AuthSys) (u : Uuid) : Option (List String) :=
  (s.otp.find u).bind OtpSettings.backupCodes

/-- The codes by which logins of a user have succeeded. -/
def usedBy (s : AuthSys) (u : Uuid) : List String :=
  s.used.filterMap fun p => if p.1 = u then some p.2 else none

/-- If the next statement writes codes back, it finds the list that the request has read. -/
def FindsRead (s : AuthSys) : AuthStage → Prop
  | .verifyUpdate user codes _ => s.storedCodes user.id = some codes
  | _ => True

instance (s : AuthSys) (st : AuthStage) : Decidable (s.FindsRead st) :=
  match st with
  | .verifyUpdate user codes _ =>
    inferInstanceAs (Decidable (s.storedCodes user.id = some codes))
  | .login _ | .loginOtp _ | .verify _ | .verifyEnabled _ _ | .verifySettings _ _ | .done _ =>
    inferInstanceAs (Decidable True)

/-- A request that writes the codes back finds the list that it has read. -/
def WritesOnto (s : AuthSys) : AuthAction → Prop
  | .next i _ true => ∀ st ∈ s.threads[i]?, s.FindsRead st
  | _ => True

instance (s : AuthSys) (a : AuthAction) : Decidable (WritesOnto s a) :=
  match a with
  | .next i _ true => inferInstanceAs (Decidable (∀ st ∈ s.threads[i]?, s.FindsRead st))
  | .next _ _ false | .login _ | .verify _ | .setUser _ => inferInstanceAs (Decidable True)

/-- The place of a code that was found is in the list. -/
def InRange (s : AuthSys) : Prop :=
  ∀ (i : ℕ) (user : User) (codes : List String) (index : ℕ),
    s.threads[i]? = some (.verifyUpdate user codes index) → index < codes.length

/-- What was stored for a user at first is what was used since and what is stored now, and what is
stored keeps its order. -/
structure CodesKept (u : Uuid) (codes₀ : Option (List String)) (s : AuthSys) : Prop where
  range : s.InRange
  perm : (s.usedBy u ++ (s.storedCodes u).getD []).Perm (codes₀.getD [])
  sublist : ((s.storedCodes u).getD []).Sublist (codes₀.getD [])

variable {s : AuthSys}

theorem storedCodes_write (user : User) (codes : List String) (index : ℕ) (u : Uuid) :
    (s.write true (.verifyUpdate user codes index)).storedCodes u =
      if u = user.id then (s.otp.find u).map fun _ => codes.eraseIdx index
      else s.storedCodes u := by
  rw [write, if_pos rfl, storedCodes, Table.find_update, storedCodes]
  cases hr : s.otp.find u with
  | none => simp
  | some r =>
    have hk := Table.find_key hr
    by_cases hu : u = user.id
    · simp [hk, hu]
    · simp [hk, hu]

theorem usedBy_write {user : User} {codes : List String} {index : ℕ} (h : index < codes.length)
    (u : Uuid) : (s.write true (.verifyUpdate user codes index)).usedBy u =
      if user.id = u then codes[index] :: s.usedBy u else s.usedBy u := by
  rw [write, if_pos rfl, usedBy, List.getElem?_eq_getElem h]
  simp only [Option.toList_some, List.map_cons, List.map_nil, List.singleton_append]
  split
  · next hu => rw [List.filterMap_cons_some (by simp [hu]; rfl), usedBy]
  · next hu => rw [List.filterMap_cons_none (by simp [hu]), usedBy]

variable [StdText] {p : AuthParams}

/-- Only the check of a backup code leads to a write, and it has found the code. -/
theorem advance_verifyUpdate {now : ℕ} {ok : Bool} {st : AuthStage} {user : User}
    {codes : List String} {index : ℕ}
    (h : s.advance p now ok st = some (.verifyUpdate user codes index)) : index < codes.length := by
  have hunver : ∀ {st' : AuthStage}, st'.Unverified (fun _ => false) →
      st' ≠ .verifyUpdate user codes index := by
    rintro _ hun rfl
    exact hun.elim
  cases st with
  | login req => exact absurd (Option.some_inj.mp h) (hunver (loginStart_unverified req ok _))
  | loginOtp user' =>
    have heq := Option.some_inj.mp h
    rw [loginFinish] at heq
    split_ifs at heq
  | verify req => exact absurd (Option.some_inj.mp h) (hunver (verifyStart_unverified req now ok _))
  | verifyEnabled req user' =>
    exact absurd (Option.some_inj.mp h) (hunver (verifyOtpEnabled_unverified req user' ok _))
  | verifySettings req user' =>
    have heq := Option.some_inj.mp h
    rw [verifyCode] at heq
    split at heq
    · cases heq
    split at heq
    · cases heq
    split at heq
    · split at heq
      · cases heq
      split at heq
      · -- the index is where the hash was found among the codes that are written back
        next hidx =>
        cases heq
        exact (List.findIdx?_eq_some_iff_getElem.mp hidx).1
      · cases heq
    · split at heq
      · cases heq
      split at heq <;> cases heq
  | verifyUpdate user' codes' index' => cases h
  | done resp => cases h

theorem inRange_step {s' : AuthSys} {a : AuthAction} (h : s.InRange)
    (hstep : step p s a = some s') : s'.InRange := by
  intro i user codes index hi
  rcases step_cases p hstep with ⟨st, hst, -, rfl⟩ | ⟨j, now, ok, st, st', rfl, hst, hadv, rfl⟩ |
    ⟨user', -, rfl⟩
  · rcases Transition.get_concat_cases hi with hi | rfl
    · exact h i user codes index hi
    · rcases hst with ⟨req, hreq⟩ | ⟨req, hreq⟩ <;> cases hreq
  · rcases Transition.get_set_cases hi with ⟨rfl, rfl⟩ | ⟨-, hi⟩
    · exact advance_verifyUpdate hadv
    · exact h i user codes index hi
  · exact h i user codes index hi

omit [StdText] in
/-- A write onto the list that was read moves one code from the stored ones to the used ones. -/
theorem codesKept_write {u : Uuid} {codes₀ : Option (List String)} {user : User}
    {codes : List String} {index : ℕ} (hindex : index < codes.length)
    (hstored : s.storedCodes user.id = some codes)
    (hperm : (s.usedBy u ++ (s.storedCodes u).getD []).Perm (codes₀.getD []))
    (hsub : ((s.storedCodes u).getD []).Sublist (codes₀.getD [])) {s' : AuthSys}
    (hs' : s' = s.write true (.verifyUpdate user codes index)) :
    (s'.usedBy u ++ (s'.storedCodes u).getD []).Perm (codes₀.getD []) ∧
      ((s'.storedCodes u).getD []).Sublist (codes₀.getD []) := by
  rw [hs', storedCodes_write, usedBy_write hindex]
  by_cases hu : u = user.id
  · subst hu
    obtain ⟨row, hrow, -⟩ := Option.bind_eq_some_iff.mp hstored
    rw [if_pos rfl, if_pos rfl, hrow, Option.map_some, Option.getD_some]
    rw [hstored, Option.getD_some] at hperm hsub
    constructor
    · have hmove : (codes[index] :: s.usedBy user.id ++ codes.eraseIdx index).Perm
          (s.usedBy user.id ++ codes[index] :: codes.eraseIdx index) := List.perm_middle.symm
      have hback : (s.usedBy user.id ++ codes[index] :: codes.eraseIdx index).Perm
          (s.usedBy user.id ++ codes) := (List.getElem_cons_eraseIdx_perm hindex).append_left _
      exact (hmove.trans hback).trans hperm
    · exact (List.eraseIdx_sublist codes index).trans hsub
  · rw [if_neg hu, if_neg (Ne.symm hu)]
    exact ⟨hperm, hsub⟩

theorem codesKept_step {s' : AuthSys} {a : AuthAction} {u : Uuid}
    {codes₀ : Option (List String)} (h : CodesKept u codes₀ s) (hwrite : WritesOnto s a)
    (hstep : step p s a = some s') : CodesKept u codes₀ s' := by
  have hrange := inRange_step h.range hstep
  rcases step_cases p hstep with ⟨st, -, -, rfl⟩ | ⟨i, now, ok, st, st', rfl, hst, -, rfl⟩ |
    ⟨user, -, rfl⟩
  · exact ⟨hrange, h.perm, h.sublist⟩
  · cases st with
    | verifyUpdate user codes index =>
      cases ok with
      | false => exact ⟨hrange, h.perm, h.sublist⟩
      | true =>
        have hread : s.storedCodes user.id = some codes := hwrite _ hst
        obtain ⟨hperm, hsub⟩ :=
          codesKept_write (h.range i user codes index hst) hread h.perm h.sublist rfl
        exact ⟨hrange, hperm, hsub⟩
    | _ => exact ⟨hrange, h.perm, h.sublist⟩
  · exact ⟨hrange, h.perm, h.sublist⟩

/-- In a run in which every request that writes the codes back finds the list that it has read,
each code that is stored at first authorises at most one login, and the codes that are stored in
the end are those that were not used. -/
theorem backup_codes_single_use {s₀ : AuthSys} {acts : List AuthAction} (hinit : s₀.threads = [])
    (hused : s₀.used = []) (hrun : Transition.run (step p) s₀ acts = some s)
    (hwrite : Transition.Along (step p) WritesOnto s₀ acts) (u : Uuid) :
    (s.usedBy u ++ (s.storedCodes u).getD []).Perm ((s₀.storedCodes u).getD []) ∧
      ((s.storedCodes u).getD []).Sublist ((s₀.storedCodes u).getD []) := by
  have hstart : CodesKept u (s₀.storedCodes u) s₀ := by
    refine ⟨fun i user codes index hi => ?_, ?_, List.Sublist.refl _⟩
    · rw [hinit, List.getElem?_nil] at hi
      cases hi
    · rw [usedBy, hused]
      exact List.Perm.refl _
  have hkept := Transition.inv_of_run
    (fun h hp hstep => codesKept_step h hp hstep) hstart hwrite hrun
  exact ⟨hkept.perm, hkept.sublist⟩

end AuthSys

namespace Sample

/-- Two logins with backup codes; both read the list before either writes. -/
def concurrentLogins (code₁ code₂ : String) : List AuthAction :=
  [.verify ⟨loginToken 1000 user, none, some code₁⟩,
    .verify ⟨loginToken 1000 user, none, some code₂⟩,
    .next 0 1001 true, .next 1 1001 true, .next 0 1001 true, .next 1 1001 true,
    .next 0 1001 true, .next 1 1001 true, .next 0 1001 true, .next 1 1001 true]

/-- The same logins, one after the other. -/
def sequentialLogins (code₁ code₂ : String) : List AuthAction :=
  [.verify ⟨loginToken 1000 user, none, some code₁⟩,
    .next 0 1001 true, .next 0 1001 true, .next 0 1001 true, .next 0 1001 true,
    .verify ⟨loginToken 1000 user, none, some code₂⟩,
    .next 1 1002 true, .next 1 1002 true, .next 1 1002 true, .next 1 1002 true]

end Sample

open Sample in
/-- Two concurrent logins succeed with one code; with two codes, one of them stays stored. -/
theorem backup_code_used_twice :
    (Transition.run (AuthSys.step authParams) (otpAccount ["AAAA"])
      (concurrentLogins "aaaa" "AAAA")).map (fun s => (s.usedBy 7, s.storedCodes 7)) =
        some (["AAAA", "AAAA"], some []) ∧
    (Transition.run (AuthSys.step authParams) (otpAccount ["AAAA", "BBBB"])
      (concurrentLogins "AAAA" "BBBB")).map (fun s => (s.usedBy 7, s.storedCodes 7)) =
        some (["BBBB", "AAAA"], some ["AAAA"]) := by
  decide

open Sample in
theorem backup_codes_single_use_sequential :
    ∃ s, Transition.run (AuthSys.step authParams) (otpAccount ["AAAA", "BBBB"])
        (sequentialLogins "aaaa" "BBBB") = some s ∧
      (s.usedBy 7 ++ (s.storedCodes 7).getD []).Perm ["AAAA", "BBBB"] ∧
      ((s.storedCodes 7).getD []).Sublist ["AAAA", "BBBB"] := by
  have hrun : Transition.run (AuthSys.step authParams) (otpAccount ["AAAA", "BBBB"])
      (sequentialLogins "aaaa" "BBBB") =
        some { otpAccount [] with
          threads := [.done (.loggedIn 1001 user), .done (.loggedIn 1002 user)]
          used := [(7, "BBBB"), (7, "AAAA")] } := by
    rfl
  refine ⟨_, hrun, ?_⟩
  exact AuthSys.backup_codes_single_use rfl rfl hrun (by decide) 7

end LeadsNebula
