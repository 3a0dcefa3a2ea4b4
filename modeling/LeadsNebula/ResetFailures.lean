/-
What a failed `forgot_password` leaves behind.

The handler stores the token before it mails it, and takes nothing back.

* `run_eq_finish` — a request that runs alone goes through its stages one after the
  other (`finish`);
* `traceless_iff` — the reset columns of all users are as they were before a request
  that ends with an error, unless the delivery of a token fails that was stored;
* `checkLimit_of_traceless` — then a retry meets the limit that it would have met.
-/
import LeadsNebula.PasswordReset

namespace LeadsNebula

/-- The columns that a reset reads. -/
def InstanceUser.resetColumns (r : InstanceUser) : Option String × Option ℕ :=
  (r.resetPasswordToken, r.resetPasswordSentAt)

namespace ResetSys

variable {p : ResetParams} {s s' : ResetSys} {st : ResetStage} {reply : ResetReply}
  {turns : List Turn}

/-! ### A request that runs alone -/

section Alone

variable [StdText]

/-- The state and the reply at the end of a request, when nothing else runs: it takes exactly as
many turns as it has statements. -/
def finish (p : ResetParams) : ResetSys → ResetStage → List Turn → Option (ResetSys × ResetReply)
  | s, .done reply, [] => some (s, reply)
  | _, _, [] => none
  | s, st, turn :: turns =>
    (s.advance p turn st).bind fun st' => finish p (s.write p turn st) st' turns

theorem finish_nil_iff :
    finish p s st [] = some (s', reply) ↔ st = .done reply ∧ s' = s := by
  cases st <;> simp [finish, and_comm, eq_comm]

theorem finish_done {reply' : ResetReply} (h : finish p s (.done reply') turns = some (s', reply)) :
    turns = [] ∧ s' = s ∧ reply' = reply := by
  cases turns with
  | nil =>
    obtain ⟨hreply, hs⟩ := finish_nil_iff.mp h
    exact ⟨rfl, hs, ResetStage.done.inj hreply⟩
  | cons t ts => cases h

theorem finish_cons (turn : Turn) :
    finish p s st (turn :: turns) =
      (s.advance p turn st).bind fun st' => finish p (s.write p turn st) st' turns := by
  cases st <;> rfl

/-- The other requests do not matter. -/
theorem finish_threads (threads : List ResetStage) :
    finish p { s with threads := threads } st turns =
      (finish p s st turns).map fun r => ({ r.1 with threads := threads }, r.2) := by
  induction turns generalizing s st with
  | nil => cases st <;> rfl
  | cons turn turns ih =>
    -- no stage reads the list of requests
    have hadvance : advance p { s with threads := threads } turn st = s.advance p turn st := by
      cases st <;> rfl
    have hwrite : write p { s with threads := threads } turn st =
        { s.write p turn st with threads := threads } := by
      cases st with
      | store e user =>
        have htaken : tokenTaken { s with threads := threads } user turn.rand =
            s.tokenTaken user turn.rand := rfl
        rw [write, write, htaken]
        cases turn.ok && !s.tokenTaken user turn.rand <;> rfl
      | reset req =>
        rw [write, write]
        split <;> rfl
      | _ => rfl
    rw [finish_cons, finish_cons, hadvance, hwrite]
    cases s.advance p turn st with
    | none => rfl
    | some st' => exact ih

/-- A run in which only request `i` moves. -/
theorem run_eq_finish {i : ℕ} (hi : s.threads[i]? = some st)
    (hrun : Transition.run (step p) s (turns.map (.next i)) = some s')
    (hdone : s'.threads[i]? = some (.done reply)) :
    ∃ s₁, finish p s st turns = some (s₁, reply) ∧ s₁.users = s'.users := by
  induction turns generalizing s st with
  | nil =>
    obtain rfl := Option.some.inj hrun
    rw [hi, Option.some_inj] at hdone
    exact ⟨s, finish_nil_iff.mpr ⟨hdone, rfl⟩, rfl⟩
  | cons turn turns ih =>
    obtain ⟨t, ht, hrun⟩ := Transition.run_cons_eq_some.mp hrun
    simp only [step, hi, Option.bind_some, Option.map_eq_some_iff] at ht
    obtain ⟨st', hst', rfl⟩ := ht
    have hlt : i < s.threads.length := (List.getElem?_eq_some_iff.mp hi).1
    obtain ⟨s₁, hfinish, husers⟩ := ih (List.getElem?_set_self hlt) hrun
    rw [finish_threads, Option.map_eq_some_iff] at hfinish
    obtain ⟨⟨s₂, reply₂⟩, hfinish, heq⟩ := hfinish
    cases heq
    refine ⟨s₂, ?_, husers⟩
    rw [finish_cons, hst']
    exact hfinish

end Alone

/-! ### The stages of `forgot_password` -/

section Stages

variable [StdText]

theorem finish_mail {e : ResetEndpoint} :
    finish p s (.mail e) turns = some (s', reply) ↔
      ∃ t, turns = [t] ∧ s' = s ∧ reply = if t.ok then e.sent else e.serverError := by
  cases turns with
  | nil => simp [finish]
  | cons t ts =>
    rw [finish_cons]
    cases ts with
    | nil =>
      show finish p s (.done (if t.ok then e.sent else e.serverError)) [] = _ ↔ _
      rw [finish_nil_iff, ResetStage.done.injEq]
      constructor
      · rintro ⟨hreply, hs⟩
        exact ⟨t, rfl, hs, hreply.symm⟩
      · rintro ⟨t', ht, hs, hreply⟩
        rw [List.singleton_inj.mp ht]
        exact ⟨hreply.symm, hs⟩
    | cons t' ts => simp [advance, finish_cons]

/-- The token is stored, or the request ends. -/
theorem finish_store {e : ResetEndpoint} {user : Uuid}
    (h : finish p s (.store e user) turns = some (s', reply)) :
    ∃ t ts, turns = t :: ts ∧
      if t.ok = true ∧ s.tokenTaken user t.rand = false then
        ∃ t', ts = [t'] ∧ s' = s.storeToken user t.rand t.now ∧
          reply = if t'.ok then e.sent else e.serverError
      else ts = [] ∧ s' = s ∧ reply = e.serverError := by
  cases turns with
  | nil => cases h
  | cons t ts =>
    refine ⟨t, ts, rfl, ?_⟩
    rw [finish_cons, advance, write, Option.bind_some] at h
    split
    · next hstore =>
      rw [hstore.1, hstore.2] at h
      exact finish_mail.mp h
    · next hstore =>
      have hfalse : (t.ok && !s.tokenTaken user t.rand) = false := by simpa using hstore
      rw [hfalse] at h
      obtain ⟨hts, hs, hreply⟩ := finish_done h
      exact ⟨hts, hs, hreply.symm⟩

/-- The lookup ends the request, or finds an active user. -/
theorem forgotStart_cases (s : ResetSys) (req : Option ForgotPasswordRequest) (ok : Bool) :
    (∃ reply, s.forgotStart req ok = .done reply) ∨
      ∃ r ∈ req, toLowercase (trim r.email) ≠ "" ∧
        ∃ user ∈ s.users.select fun u => u.email = toLowercase (trim r.email) ∧ u.status = .active,
          ok = true ∧ s.forgotStart req ok = .limit .forgotPassword user.id := by
  unfold forgotStart
  cases req with
  | none => exact Or.inl ⟨_, rfl⟩
  | some r =>
    dsimp only
    split
    · exact Or.inl ⟨_, rfl⟩
    · next hne =>
      split
      · exact Or.inl ⟨_, rfl⟩
      · next hok =>
        split
        · exact Or.inl ⟨_, rfl⟩
        · next user huser => exact Or.inr ⟨r, rfl, hne, user, huser, by simpa using hok, rfl⟩

omit [StdText] in
/-- The limit ends the request, or the last token of the user was sent five minutes ago. -/
theorem checkLimit_cases {e : ResetEndpoint} {user : InstanceUser} (t : Turn)
    (huser : s.users.find user.id = some user) :
    (∃ reply, s.checkLimit e user.id t = .done reply) ∨
      t.ok = true ∧ (∀ ts ∈ user.resetPasswordSentAt, ts + 300 ≤ t.now) ∧
        s.checkLimit e user.id t = .store e user.id := by
  unfold checkLimit
  rw [huser, Option.bind_some]
  split
  · exact Or.inl ⟨_, rfl⟩
  · next hok =>
    have hok : t.ok = true := by simpa using hok
    cases hsent : user.resetPasswordSentAt with
    | none => exact Or.inr ⟨hok, by simp, rfl⟩
    | some ts =>
      dsimp only
      split
      · exact Or.inl ⟨_, rfl⟩
      · next hlt =>
        refine Or.inr ⟨hok, ?_, rfl⟩
        rintro ts' hts
        obtain rfl := Option.some.inj hts
        omega

end Stages

/-! ### What is left -/

/-- The reset columns of all users are as they were. -/
def Traceless (s s' : ResetSys) : Prop :=
  ∀ id, (s'.users.find id).map InstanceUser.resetColumns =
    (s.users.find id).map InstanceUser.resetColumns

theorem Traceless.refl (s : ResetSys) : Traceless s s := fun _ => rfl

/-- A token leaves a trace, unless it is the one in the row, with the time of the row. -/
theorem traceless_storeToken_iff {user : InstanceUser} {token : String} {now : ℕ}
    (huser : s.users.find user.id = some user) :
    Traceless s (s.storeToken user.id token now) ↔ user.resetColumns = (some token, some now) := by
  constructor
  · intro h
    have hrow := h user.id
    rw [storeToken, Table.find_update_of_some huser, if_pos (decide_eq_true rfl), huser,
      Option.map_some, Option.map_some, Option.some_inj] at hrow
    exact hrow.symm
  · intro h id
    rw [storeToken, Table.find_update]
    cases hfind : s.users.find id with
    | none => rfl
    | some r =>
      rw [Option.map_some, Option.map_some, Option.map_some]
      by_cases hid : r.id = user.id
      · have hr : r = user := by
          rw [← hid, Table.find_key hfind, hfind, Option.some_inj] at huser
          exact huser
        rw [if_pos (decide_eq_true hid), hr, h]
        rfl
      · rw [if_neg (fun hd => hid (of_decide_eq_true hd))]

section Failures

variable [StdText]

/-- The request names an active user who may be sent a token again, the token is stored (over
another one), and its delivery fails. -/
def DeliveryFails (s : ResetSys) (req : Option ForgotPasswordRequest) : List Turn → Prop
  | [t₁, t₂, t₃, t₄] =>
    ∃ r ∈ req, toLowercase (trim r.email) ≠ "" ∧
      ∃ user ∈ s.users.select fun u => u.email = toLowercase (trim r.email) ∧ u.status = .active,
        t₁.ok = true ∧ t₂.ok = true ∧ (∀ ts ∈ user.resetPasswordSentAt, ts + 300 ≤ t₂.now) ∧
          t₃.ok = true ∧ s.tokenTaken user.id t₃.rand = false ∧
          user.resetColumns ≠ (some t₃.rand, some t₃.now) ∧ t₄.ok = false
  | _ => False

/-- What has happened at the end of a request: nothing was written before the delivery, or a token
was stored and the delivery is over. -/
theorem finish_forgot {req : Option ForgotPasswordRequest}
    (h : finish p s (.forgot req) turns = some (s', reply)) :
    (turns.length < 4 ∧ s' = s) ∨
      ∃ t₁ t₂ t₃ t₄ user, turns = [t₁, t₂, t₃, t₄] ∧
        (DeliveryFails s req turns ↔
          user.resetColumns ≠ (some t₃.rand, some t₃.now) ∧ t₄.ok = false) ∧
        s.users.find user.id = some user ∧ s' = s.storeToken user.id t₃.rand t₃.now ∧
        reply = if t₄.ok then ResetEndpoint.forgotPassword.sent
          else ResetEndpoint.forgotPassword.serverError := by
  cases turns with
  | nil => cases h
  | cons t₁ ts =>
    rw [finish_cons] at h
    change finish p s (s.forgotStart req t₁.ok) ts = _ at h
    -- the account is looked up: without one the reply comes at once
    obtain ⟨reply', hend⟩ | ⟨r, hr, hne, user, huser, hok₁, hnext⟩ := forgotStart_cases s req t₁.ok
    · rw [hend] at h
      obtain ⟨rfl, hs, -⟩ := finish_done h
      exact Or.inl ⟨by simp, hs⟩
    · rw [hnext] at h
      have hfind : s.users.find user.id = some user := Table.find_of_select huser
      cases ts with
      | nil => cases h
      | cons t₂ ts =>
        rw [finish_cons] at h
        change finish p s (s.checkLimit .forgotPassword user.id t₂) ts = _ at h
        -- the rate limit of the user may end the request as well
        obtain ⟨reply', hend⟩ | ⟨hok₂, hlimit, hnext⟩ := checkLimit_cases t₂ hfind
        · rw [hend] at h
          obtain ⟨rfl, hs, -⟩ := finish_done h
          exact Or.inl ⟨by simp, hs⟩
        · rw [hnext] at h
          obtain ⟨t₃, ts, rfl, hstored⟩ := finish_store h
          -- the token is stored, and what is left is the delivery of the mail
          split at hstored
          · next hstore =>
            obtain ⟨t₄, rfl, hs, hreply⟩ := hstored
            refine Or.inr ⟨t₁, t₂, t₃, t₄, user, rfl, ⟨?_, ?_⟩, hfind, hs, hreply⟩
            · rintro ⟨r', hr', -, user', huser', -, -, -, -, -, hfails⟩
              obtain rfl := Option.some.inj (hr.symm.trans hr')
              obtain rfl := Option.some.inj (huser.symm.trans huser')
              exact hfails
            · intro hfails
              exact ⟨r, hr, hne, user, huser, hok₁, hok₂, hlimit, hstore.1, hstore.2, hfails⟩
          · obtain ⟨rfl, hs, -⟩ := hstored
            exact Or.inl ⟨by simp, hs⟩

theorem not_deliveryFails {req : Option ForgotPasswordRequest} (h : turns.length < 4) :
    ¬DeliveryFails s req turns := by
  intro hfails
  unfold DeliveryFails at hfails
  split at hfails
  · simp at h
  · exact hfails

/-- A `forgot_password` that runs alone: if it ends with an error, the reset columns of all users
are as they were, unless the delivery of a stored token has failed. -/
theorem traceless_iff (p : ResetParams) (s s' : ResetSys) (req : Option ForgotPasswordRequest)
    (turns : List Turn) (reply : ResetReply)
    (hrun : Transition.run (step p) s (.forgotPassword req ::
      turns.map (.next s.threads.length)) = some s')
    (hdone : s'.threads[s.threads.length]? = some (.done reply)) :
    (reply.status ≠ 200 → Traceless s s') ↔ ¬DeliveryFails s req turns := by
  obtain ⟨t, ht, hrun⟩ := Transition.run_cons_eq_some.mp hrun
  obtain rfl := Option.some.inj ht
  have hstart : (s.arrive (.forgot req)).threads[s.threads.length]? = some (.forgot req) := by
    simp [arrive]
  obtain ⟨s₁, hfinish, husers⟩ := run_eq_finish hstart hrun hdone
  have htrace : Traceless s s₁ ↔ Traceless s s' := by
    unfold Traceless
    rw [husers]
  rw [← htrace]
  obtain ⟨hlength, rfl⟩ | ⟨t₁, t₂, t₃, t₄, user, hturns, hfails, hfind, rfl, hreply⟩ :=
    finish_forgot hfinish
  · -- nothing was stored
    exact iff_of_true (fun _ => Traceless.refl s) (not_deliveryFails hlength)
  · have hstored : Traceless s ((s.arrive (.forgot req)).storeToken user.id t₃.rand t₃.now) ↔
        user.resetColumns = (some t₃.rand, some t₃.now) := traceless_storeToken_iff hfind
    have hfails : DeliveryFails s req turns ↔
        user.resetColumns ≠ (some t₃.rand, some t₃.now) ∧ t₄.ok = false := hfails
    rw [hstored, hfails, hreply]
    cases t₄.ok with
    | true => exact iff_of_true (fun hne => absurd rfl hne) fun h => Bool.noConfusion h.2
    | false =>
      have hstatus : (ResetEndpoint.serverError .forgotPassword).status ≠ 200 := by decide
      simp [hstatus]

end Failures

/-! ### After a request without a trace -/

/-- A retry meets the limit that it would have met before the request. -/
theorem checkLimit_of_traceless (h : Traceless s s') (e : ResetEndpoint)
    (user : Uuid) (turn : Turn) :
    s'.checkLimit e user turn = s.checkLimit e user turn := by
  have hsent : (s'.users.find user).bind InstanceUser.resetPasswordSentAt =
      (s.users.find user).bind InstanceUser.resetPasswordSentAt := by
    have hsnd := congrArg (fun o => o.bind Prod.snd) (h user)
    simp only [Option.bind_map] at hsnd
    exact hsnd
  unfold checkLimit
  rw [hsent]

end ResetSys

namespace Sample

open ResetSys

/-- A user with a link of ten minutes ago. -/
def linkedAccount : ResetSys where
  users := ⟨[⟨7, "ada@example.com", "old", .active, some "earlier", some 4000⟩], by decide⟩
  threads := []
  issued := []
  used := []

/-- A request that stores a token or fails to, and then fails to deliver it. -/
def forgotTurns (stored : Bool) : List Turn :=
  [⟨4600, true, ""⟩, ⟨4600, true, ""⟩, ⟨4600, stored, "later"⟩] ++
    if stored then [⟨4601, false, ""⟩] else []

def forgotRun (stored : Bool) : Option ResetSys :=
  Transition.run (ResetSys.step resetParams) linkedAccount
    (.forgotPassword (some ⟨"ada@example.com"⟩) :: (forgotTurns stored).map (.next 0))

theorem traceless_not_stored :
    ∃ s', forgotRun false = some s' ∧ Traceless linkedAccount s' := by
  refine ⟨_, rfl, ?_⟩
  refine (traceless_iff resetParams linkedAccount _ (some ⟨"ada@example.com"⟩) (forgotTurns false)
    ResetReply.serverError rfl rfl).mpr ?_ (by decide)
  exact not_deliveryFails (by decide)

/-- After a failed delivery the retry is refused, and the earlier link finds no row. -/
theorem trace_of_failed_delivery :
    ∃ s', forgotRun true = some s' ∧
      (∃ reply, s'.threads[0]? = some (.done reply) ∧ reply.status = 500) ∧
      (s'.users.find 7).map InstanceUser.resetColumns = some (some "later", some 4600) ∧
      ¬Traceless linkedAccount s' ∧
      (∃ reply, s'.checkLimit .forgotPassword 7 ⟨4602, true, ""⟩ = .done reply ∧
        reply.status = 200) ∧
      (∃ error, s'.resetReply resetParams (some ⟨"earlier", "NewPass123"⟩) ⟨4602, true, "c2FsdA"⟩ =
        .failed 200 error) := by
  refine ⟨_, rfl, ⟨_, rfl, rfl⟩, by decide, fun h => ?_, ⟨_, rfl, rfl⟩, ⟨_, rfl⟩⟩
  exact absurd (h 7) (by decide)

end Sample

end LeadsNebula
