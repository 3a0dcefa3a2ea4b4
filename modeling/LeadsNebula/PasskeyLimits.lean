/-
The limits on passkeys.

The limit of three passkeys is checked when options are issued and not when a
credential is stored, and a session is read and deleted in two steps; so a user can get
more passkeys than that, and one challenge can be used twice (`passkey_limits_fail`).

A challenge goes through phases: a request has drawn it, the count of the passkeys has
passed, its session is stored, a registration has read the session, has deleted it, has
stored the credential.

* `passkeyInv_step` — a challenge is in one phase at a time, and an outstanding
  challenge has a place among the three, if the step is `orderly`;
* `passkey_limits` — both limits hold along every run in which sessions are not read
  twice, are deleted when they are used, and options are issued only for places that no
  outstanding challenge can take.
-/
import LeadsNebula.Passkeys

namespace LeadsNebula

/-- What a request is doing with a challenge. -/
inductive ChallengePhase where
  /-- The challenge is drawn; the passkeys have not been counted. -/
  | waiting
  /-- The passkeys have been counted, and the session will be stored. -/
  | pledged
  /-- The session has been read. -/
  | read
  /-- The session has been deleted, and the credential will be stored. -/
  | consumed
  deriving DecidableEq

def PasskeyStage.phase : PasskeyStage → Option (ChallengePhase × Challenge)
  | options userId draw => some (.waiting, userId, draw.challengeToken)
  | optionsCount userId draw => some (.waiting, userId, draw.challengeToken)
  | optionsStore userId draw => some (.pledged, userId, draw.challengeToken)
  | registerConsume userId req _ => some (.read, userId, req.challengeToken)
  | registerInsert userId req _ => some (.consumed, userId, req.challengeToken)
  | _ => none

theorem Challenge.cacheKey_inj {c c' : Challenge} (h : c.cacheKey = c'.cacheKey) : c = c' := by
  unfold cacheKey at h
  rw [String.append_assoc, String.append_assoc, String.append_assoc, String.append_assoc] at h
  have hlist := congrArg String.toList ((String.append_right_inj _).mp h)
  simp only [String.toList_append] at hlist
  -- the texts of two users have the same length
  have hlen : c.1.toString.toList.length = c'.1.toString.toList.length :=
    (Uuid.length_toString c.1).trans (Uuid.length_toString c'.1).symm
  obtain ⟨huser, hrest⟩ := List.append_inj hlist hlen
  have htoken : c.2 = c'.2 := String.toList_inj.mp (List.append_cancel_left hrest)
  exact Prod.ext (Uuid.toString_inj (String.toList_inj.mp huser)) htoken

namespace PasskeySys

variable {s s' : PasskeySys} {c c₀ : Challenge} {st st' : PasskeyStage} {i : ℕ} {ok : Bool}

/-- The number of requests in a phase of a challenge. -/
def count (s : PasskeySys) (ph : ChallengePhase) (c : Challenge) : ℕ :=
  s.threads.countP fun st => st.phase = some (ph, c)

/-- Whether the session of a challenge can be read, as a number. -/
def stored (s : PasskeySys) (c : Challenge) : ℕ := (s.session c).isSome.toNat

/-- The challenge may still lead to a credential. -/
def live (s : PasskeySys) (c : Challenge) : Bool :=
  0 < s.count .pledged c + s.stored c + s.count .read c + s.count .consumed c

/-- The number of challenges of a user that may still lead to a credential. -/
def outstanding (s : PasskeySys) (userId : Uuid) : ℕ :=
  s.drawn.countP fun c => c.1 = userId && s.live c

/-- A challenge is in one phase at a time.  While a registration has read the session, the session
may be there or not. -/
structure ChallengeInv (s : PasskeySys) (c : Challenge) : Prop where
  stored : s.count .waiting c + s.count .pledged c + s.stored c + s.count .consumed c +
    s.inserted.count c ≤ 1
  read : s.count .waiting c + s.count .pledged c + s.count .read c + s.count .consumed c +
    s.inserted.count c ≤ 1
  drawn : c ∉ s.drawn → s.count .waiting c + s.count .pledged c + s.stored c + s.count .read c +
    s.count .consumed c + s.inserted.count c = 0

structure PasskeyInv (s : PasskeySys) : Prop where
  tokens : (s.drawn.map Prod.snd).Nodup
  challenge : ∀ c, s.ChallengeInv c
  limit : ∀ userId, (s.credentialsOf userId).length + s.outstanding userId ≤ 3

/-! ### Counting -/

/-- A condition that holds of one more element. -/
theorem countP_le_succ {α : Type} [DecidableEq α] {p q : α → Bool} {a : α}
    {l : List α} (hl : l.Nodup)
    (h : ∀ x ∈ l, x ≠ a → p x = true → q x = true) : l.countP p ≤ l.countP q + 1 := by
  induction l with
  | nil => exact Nat.zero_le _
  | cons x l ih =>
    obtain ⟨hx, hl⟩ := List.nodup_cons.mp hl
    rw [List.countP_cons, List.countP_cons]
    by_cases hxa : x = a
    · have hle : l.countP p ≤ l.countP q := List.countP_mono_left fun y hy =>
        h y (List.mem_cons_of_mem _ hy) fun hya => hx (hxa.trans hya.symm ▸ hy)
      split <;> omega
    · have hle := ih hl fun y hy => h y (List.mem_cons_of_mem _ hy)
      have hpq := h x List.mem_cons_self hxa
      split
      · next hp =>
        rw [if_pos (hpq hp)]
        omega
      · omega

/-- A condition that holds of one element less. -/
theorem countP_lt {α : Type} {p q : α → Bool} {a : α} {l : List α} (ha : a ∈ l) (hq : q a = true)
    (hp : p a = false) (h : ∀ x ∈ l, p x = true → q x = true) : l.countP p < l.countP q := by
  induction l with
  | nil => cases ha
  | cons x l ih =>
    rw [List.countP_cons, List.countP_cons]
    have hle : l.countP p ≤ l.countP q :=
      List.countP_mono_left fun y hy => h y (List.mem_cons_of_mem _ hy)
    have hpq := h x List.mem_cons_self
    rcases List.mem_cons.mp ha with rfl | ha
    · rw [hp, hq]
      simp only [Bool.false_eq_true, if_false, if_true]
      omega
    · have hlt := ih ha fun y hy => h y (List.mem_cons_of_mem _ hy)
      split
      · next hpx =>
        rw [if_pos (hpq hpx)]
        omega
      · omega

/-- A request moves from one phase to another. -/
theorem count_set (hst : s.threads[i]? = some st) (hthreads : s'.threads = s.threads.set i st')
    (ph : ChallengePhase) (c : Challenge) :
    s'.count ph c + (if st.phase = some (ph, c) then 1 else 0) =
      s.count ph c + if st'.phase = some (ph, c) then 1 else 0 := by
  obtain ⟨hi, hget⟩ := List.getElem?_eq_some_iff.mp hst
  unfold count
  have hle : (if st.phase = some (ph, c) then 1 else 0) ≤
      s.threads.countP fun st => st.phase = some (ph, c) := by
    have h := List.boole_getElem_le_countP
      (p := fun st : PasskeyStage => st.phase = some (ph, c)) hi
    simpa only [hget, decide_eq_true_eq] using h
  rw [hthreads, List.countP_set hi, hget]
  simp only [decide_eq_true_eq]
  omega

theorem count_concat (hthreads : s'.threads = s.threads ++ [st]) (ph : ChallengePhase)
    (c : Challenge) : s'.count ph c = s.count ph c + if st.phase = some (ph, c) then 1 else 0 := by
  unfold count
  rw [hthreads, List.countP_append, List.countP_singleton]
  simp only [decide_eq_true_eq]

/-- The session of another challenge is as it was. -/
theorem session_insert_of_ne (hc : c ≠ c₀) (data : RegistrationData) :
    ({ s with redis := s.redis.insert s.now c₀.cacheKey data } :
      PasskeySys).session c = s.session c :=
  TtlCache.get_insert_of_ne (fun h => hc (Challenge.cacheKey_inj h)) data s.now

theorem session_insert_self (data : RegistrationData) :
    ({ s with redis := s.redis.insert s.now c₀.cacheKey data } :
      PasskeySys).session c₀ = some data :=
  TtlCache.get_insert_self (show 0 < sessionTtl by decide) _ data

theorem session_deleteSession_of_ne (ok : Bool) (hc : c ≠ c₀) :
    (s.deleteSession ok c₀).session c = s.session c := by
  unfold deleteSession
  split
  · exact TtlCache.get_evict_of_ne fun h => hc (Challenge.cacheKey_inj h)
  · rfl

theorem session_deleteSession_self : (s.deleteSession true c₀).session c₀ = none :=
  TtlCache.get_evict_self _

theorem deleteSession_inserted : (s.deleteSession ok c₀).inserted = s.inserted := by
  unfold deleteSession
  split <;> rfl

theorem deleteSession_drawn : (s.deleteSession ok c₀).drawn = s.drawn := by
  unfold deleteSession
  split <;> rfl

theorem deleteSession_credentialsOf {u : Uuid} :
    (s.deleteSession ok c₀).credentialsOf u = s.credentialsOf u := by
  unfold deleteSession
  split <;> rfl

/-- A deletion makes no session readable. -/
theorem stored_deleteSession_le (ok : Bool) (c c₀ : Challenge) :
    (s.deleteSession ok c₀).stored c ≤ s.stored c := by
  unfold stored
  by_cases hc : c = c₀
  · subst hc
    cases ok with
    | false => exact le_rfl
    | true =>
      rw [session_deleteSession_self]
      exact Nat.zero_le _
  · rw [session_deleteSession_of_ne ok hc]

/-! ### Steps that only give up challenges -/

theorem live_mono (hcount : ∀ ph, s'.count ph c ≤ s.count ph c) (hstored : s'.stored c ≤ s.stored c)
    (h : s'.live c = true) : s.live c = true := by
  have hpledged := hcount .pledged
  have hread := hcount .read
  have hconsumed := hcount .consumed
  unfold live at h ⊢
  rw [decide_eq_true_eq] at h ⊢
  omega

theorem inv_of_le (h : PasskeyInv s) (hcount : ∀ ph c, s'.count ph c ≤ s.count ph c)
    (hstored : ∀ c, s'.stored c ≤ s.stored c) (hinserted : s'.inserted = s.inserted)
    (hdrawn : s'.drawn = s.drawn)
    (hcredentials : ∀ u, (s'.credentialsOf u).length ≤ (s.credentialsOf u).length) :
    PasskeyInv s' where
  tokens := hdrawn ▸ h.tokens
  challenge := by
    intro c
    obtain ⟨h₁, h₂, h₃⟩ := h.challenge c
    have hwaiting := hcount .waiting c
    have hpledged := hcount .pledged c
    have hread := hcount .read c
    have hconsumed := hcount .consumed c
    have hsession := hstored c
    constructor
    · rw [hinserted]
      omega
    · rw [hinserted]
      omega
    · intro hc
      rw [hdrawn] at hc
      have hzero := h₃ hc
      rw [hinserted]
      omega
  limit := by
    intro u
    -- fewer challenges are live than before
    have hle : s'.outstanding u ≤ s.outstanding u := by
      unfold outstanding
      rw [hdrawn]
      refine List.countP_mono_left fun c _ hc => ?_
      rw [Bool.and_eq_true] at hc ⊢
      exact ⟨hc.1, live_mono (fun ph => hcount ph c) (hstored c) hc.2⟩
    have hlimit := h.limit u
    have hlength := hcredentials u
    omega

/-- A request leaves its phase, or stays in it. -/
theorem count_le_of_phase (hst : s.threads[i]? = some st)
    (hthreads : s'.threads = s.threads.set i st')
    (hphase : st'.phase = none ∨ st'.phase = st.phase) (ph : ChallengePhase) (c : Challenge) :
    s'.count ph c ≤ s.count ph c := by
  have hset := count_set hst hthreads ph c
  rcases hphase with hnone | hsame
  · simp only [hnone, reduceCtorEq, if_false] at hset
    omega
  · rw [hsame] at hset
    omega

/-! ### A request moves on -/

/-- What is known of a request that moves on from one phase of a challenge to another. -/
structure Moves (s s' : PasskeySys) (i : ℕ) (st st' : PasskeyStage) (a a' : Option ChallengePhase)
    (c₀ : Challenge) : Prop where
  thread : s.threads[i]? = some st
  threads : s'.threads = s.threads.set i st'
  phase : st.phase = a.map fun ph => (ph, c₀)
  phase' : st'.phase = a'.map fun ph => (ph, c₀)
  drawn : s'.drawn = s.drawn
  stored : ∀ c, c ≠ c₀ → s'.stored c = s.stored c
  inserted : ∀ c, c ≠ c₀ → s'.inserted.count c = s.inserted.count c
  credentials : ∀ u, u ≠ c₀.1 → (s'.credentialsOf u).length = (s.credentialsOf u).length

section Moves

variable {a a' : Option ChallengePhase}

theorem Moves.count_of_ne (h : Moves s s' i st st' a a' c₀) (hc : c ≠ c₀) (ph : ChallengePhase) :
    s'.count ph c = s.count ph c := by
  have hne : ∀ o : Option ChallengePhase, (o.map fun ph => (ph, c₀)) ≠ some (ph, c) := by
    intro o heq
    obtain ⟨_, -, heq⟩ := Option.map_eq_some_iff.mp heq
    exact hc (Prod.mk.inj heq).2.symm
  have hset := count_set h.thread h.threads ph c
  rw [h.phase, h.phase', if_neg (hne a), if_neg (hne a')] at hset
  exact hset

theorem Moves.count_self (h : Moves s s' i st st' a a' c₀) (ph : ChallengePhase) :
    s'.count ph c₀ + (if a = some ph then 1 else 0) =
      s.count ph c₀ + if a' = some ph then 1 else 0 := by
  have hiff : ∀ o : Option ChallengePhase,
    (o.map fun ph => (ph, c₀)) = some (ph, c₀) ↔ o = some ph := by
    intro o
    cases o with
    | none => exact iff_of_false (fun h => by cases h) (fun h => by cases h)
    | some ph' =>
      constructor
      · intro heq
        exact congrArg some (Prod.mk.inj (Option.some_inj.mp heq)).1
      · intro heq
        rw [heq]
        rfl
  have hset := count_set h.thread h.threads ph c₀
  simpa only [h.phase, h.phase', hiff] using hset

theorem Moves.live_of_ne (h : Moves s s' i st st' a a' c₀) (hc : c ≠ c₀) :
    s'.live c = s.live c := by
  unfold live
  rw [h.count_of_ne hc, h.count_of_ne hc, h.count_of_ne hc, h.stored c hc]

/-- Only the challenge of the request has to be looked at. -/
theorem Moves.challengeInv (h : Moves s s' i st st' a a' c₀) (hinv : ∀ c, s.ChallengeInv c)
    (h₀ : s'.ChallengeInv c₀) (c : Challenge) : s'.ChallengeInv c := by
  by_cases hc : c = c₀
  · exact hc ▸ h₀
  · obtain ⟨hstored, hread, hdrawn⟩ := hinv c
    constructor
    · rw [h.count_of_ne hc, h.count_of_ne hc, h.count_of_ne hc, h.stored c hc, h.inserted c hc]
      exact hstored
    · rw [h.count_of_ne hc, h.count_of_ne hc, h.count_of_ne hc, h.count_of_ne hc, h.inserted c hc]
      exact hread
    · rw [h.drawn, h.count_of_ne hc, h.count_of_ne hc, h.count_of_ne hc, h.count_of_ne hc,
        h.stored c hc, h.inserted c hc]
      exact hdrawn

/-- The outstanding challenges of another user. -/
theorem Moves.outstanding_of_ne (h : Moves s s' i st st' a a' c₀)
    {userId : Uuid} (hu : c₀.1 ≠ userId) :
    s'.outstanding userId = s.outstanding userId := by
  unfold outstanding
  rw [h.drawn]
  refine List.countP_congr fun c _ => ?_
  by_cases hc : c.1 = userId
  · rw [h.live_of_ne fun heq => hu (heq ▸ hc)]
  · simp [hc]

theorem Moves.outstanding_le_succ (h : Moves s s' i st st' a a' c₀)
    (hdrawn : s.drawn.Nodup) (userId : Uuid) :
    s'.outstanding userId ≤ s.outstanding userId + 1 := by
  unfold outstanding
  rw [h.drawn]
  refine countP_le_succ (a := c₀) hdrawn fun c _ hc hlive => ?_
  rw [h.live_of_ne hc] at hlive
  exact hlive

theorem Moves.outstanding_le (h : Moves s s' i st st' a a' c₀)
    (hlive : s'.live c₀ = true → s.live c₀ = true)
    (userId : Uuid) : s'.outstanding userId ≤ s.outstanding userId := by
  unfold outstanding
  rw [h.drawn]
  refine List.countP_mono_left fun c _ hc => ?_
  rw [Bool.and_eq_true] at hc ⊢
  by_cases hc₀ : c = c₀
  · subst hc₀
    exact ⟨hc.1, hlive hc.2⟩
  · exact ⟨hc.1, h.live_of_ne hc₀ ▸ hc.2⟩

theorem Moves.outstanding_lt (h : Moves s s' i st st' a a' c₀) (hmem : c₀ ∈ s.drawn)
    (hlive : s.live c₀ = true) (hdead : s'.live c₀ = false) :
    s'.outstanding c₀.1 < s.outstanding c₀.1 := by
  unfold outstanding
  rw [h.drawn]
  refine countP_lt hmem ?_ ?_ fun c _ hc => ?_
  · rw [hlive, Bool.and_true]
    exact decide_eq_true rfl
  · rw [hdead, Bool.and_false]
  · rw [Bool.and_eq_true] at hc ⊢
    by_cases hc₀ : c = c₀
    · rw [hc₀, hdead] at hc
      cases hc.2
    · exact ⟨hc.1, h.live_of_ne hc₀ ▸ hc.2⟩

/-- The challenge and the user of the request are what has to be looked at. -/
theorem Moves.inv (h : Moves s s' i st st' a a' c₀) (hinv : PasskeyInv s) (h₀ : s'.ChallengeInv c₀)
    (hlimit : (s'.credentialsOf c₀.1).length + s'.outstanding c₀.1 ≤ 3) : PasskeyInv s' where
  tokens := h.drawn ▸ hinv.tokens
  challenge := h.challengeInv hinv.challenge h₀
  limit := by
    intro u
    by_cases hu : u = c₀.1
    · exact hu ▸ hlimit
    · rw [h.credentials u hu, h.outstanding_of_ne fun heq => hu heq.symm]
      exact hinv.limit u

theorem Moves.counts (h : Moves s s' i st st' a a' c₀) :
    (s'.count .waiting c₀ + (if a = some .waiting then 1 else 0) =
      s.count .waiting c₀ + if a' = some .waiting then 1 else 0) ∧
    (s'.count .pledged c₀ + (if a = some .pledged then 1 else 0) =
      s.count .pledged c₀ + if a' = some .pledged then 1 else 0) ∧
    (s'.count .read c₀ + (if a = some .read then 1 else 0) =
      s.count .read c₀ + if a' = some .read then 1 else 0) ∧
    (s'.count .consumed c₀ + (if a = some .consumed then 1 else 0) =
      s.count .consumed c₀ + if a' = some .consumed then 1 else 0) :=
  ⟨h.count_self .waiting, h.count_self .pledged, h.count_self .read, h.count_self .consumed⟩

end Moves

/-! ### The phases of a challenge -/

theorem ChallengeInv.mem_drawn (h : s.ChallengeInv c) (hpos : 0 < s.count .waiting c +
    s.count .pledged c + s.stored c + s.count .read c + s.count .consumed c) : c ∈ s.drawn := by
  by_contra hc
  have hzero := h.drawn hc
  omega

/-- The challenge was outstanding before, so that it had been drawn and its place was counted. -/
theorem Moves.inv_of_live {a a' : Option ChallengePhase} (h : Moves s s' i st st' a a' c₀)
    (hinv : PasskeyInv s) (hlive : s.live c₀ = true)
    (h₁ : s'.count .waiting c₀ + s'.count .pledged c₀ + s'.stored c₀ + s'.count .consumed c₀ +
      s'.inserted.count c₀ ≤ 1)
    (h₂ : s'.count .waiting c₀ + s'.count .pledged c₀ + s'.count .read c₀ + s'.count .consumed c₀ +
      s'.inserted.count c₀ ≤ 1)
    (hcredentials : s'.credentialsOf c₀.1 = s.credentialsOf c₀.1) : PasskeyInv s' := by
  have hpos := of_decide_eq_true hlive
  have hmem : c₀ ∈ s'.drawn := h.drawn ▸ (hinv.challenge c₀).mem_drawn (by omega)
  refine h.inv hinv ⟨h₁, h₂, fun hc => absurd hmem hc⟩ ?_
  have hle := h.outstanding_le (fun _ => hlive) c₀.1
  have hlimit := hinv.limit c₀.1
  rw [hcredentials]
  omega

/-- The passkeys have been counted, and there is a place. -/
theorem inv_pledge (c₀ : Challenge)
    (hmoves : Moves s s' i st st' (some .waiting) (some .pledged) c₀)
    (hinv : PasskeyInv s) (hstored : s'.stored c₀ = s.stored c₀)
    (hinserted : s'.inserted.count c₀ = s.inserted.count c₀)
    (hcredentials : s'.credentialsOf c₀.1 = s.credentialsOf c₀.1)
    (hplace : (s.credentialsOf c₀.1).length + s.outstanding c₀.1 < 3) : PasskeyInv s' := by
  have hcounts := hmoves.counts
  simp only [Option.some_inj, reduceCtorEq, if_true, if_false] at hcounts
  obtain ⟨h₁, h₂, -⟩ := hinv.challenge c₀
  have hmem : c₀ ∈ s'.drawn := hmoves.drawn ▸ (hinv.challenge c₀).mem_drawn (by omega)
  refine hmoves.inv hinv ⟨by omega, by omega, fun hc => absurd hmem hc⟩ ?_
  have hle := hmoves.outstanding_le_succ hinv.tokens.of_map c₀.1
  rw [hcredentials]
  omega

/-- The session is stored. -/
theorem inv_store (c₀ : Challenge) (hmoves : Moves s s' i st st' (some .pledged) none c₀)
    (hinv : PasskeyInv s)
    (hstored : s'.stored c₀ = 1) (hinserted : s'.inserted.count c₀ = s.inserted.count c₀)
    (hcredentials : s'.credentialsOf c₀.1 = s.credentialsOf c₀.1) : PasskeyInv s' := by
  have hcounts := hmoves.counts
  simp only [Option.some_inj, reduceCtorEq, if_true, if_false] at hcounts
  obtain ⟨h₁, h₂, -⟩ := hinv.challenge c₀
  exact hmoves.inv_of_live hinv (decide_eq_true (by omega)) (by omega) (by omega) hcredentials

/-- The session is read, by one registration only. -/
theorem inv_read (c₀ : Challenge) (hmoves : Moves s s' i st st' none (some .read) c₀)
    (hinv : PasskeyInv s)
    (hsession : s.stored c₀ = 1) (hstored : s'.stored c₀ = s.stored c₀)
    (hinserted : s'.inserted.count c₀ = s.inserted.count c₀)
    (hcredentials : s'.credentialsOf c₀.1 = s.credentialsOf c₀.1)
    (honce : s.count .read c₀ + s.count .consumed c₀ = 0) : PasskeyInv s' := by
  have hcounts := hmoves.counts
  simp only [Option.some_inj, reduceCtorEq, if_true, if_false] at hcounts
  obtain ⟨h₁, h₂, -⟩ := hinv.challenge c₀
  exact hmoves.inv_of_live hinv (decide_eq_true (by omega)) (by omega) (by omega) hcredentials

/-- The session is deleted. -/
theorem inv_consume (c₀ : Challenge) (hmoves : Moves s s' i st st' (some .read) (some .consumed) c₀)
    (hinv : PasskeyInv s) (hstored : s'.stored c₀ = 0)
    (hinserted : s'.inserted.count c₀ = s.inserted.count c₀)
    (hcredentials : s'.credentialsOf c₀.1 = s.credentialsOf c₀.1) : PasskeyInv s' := by
  have hcounts := hmoves.counts
  simp only [Option.some_inj, reduceCtorEq, if_true, if_false] at hcounts
  obtain ⟨h₁, h₂, -⟩ := hinv.challenge c₀
  exact hmoves.inv_of_live hinv (decide_eq_true (by omega)) (by omega) (by omega) hcredentials

/-- The credential is stored, in the place of the challenge. -/
theorem inv_insert (c₀ : Challenge) (hmoves : Moves s s' i st st' (some .consumed) none c₀)
    (hinv : PasskeyInv s)
    (hstored : s'.stored c₀ = s.stored c₀)
    (hinserted : s'.inserted.count c₀ = s.inserted.count c₀ + 1)
    (hcredentials : (s'.credentialsOf c₀.1).length ≤ (s.credentialsOf c₀.1).length + 1) :
    PasskeyInv s' := by
  have hcounts := hmoves.counts
  simp only [Option.some_inj, reduceCtorEq, if_true, if_false] at hcounts
  obtain ⟨h₁, h₂, -⟩ := hinv.challenge c₀
  have hmem : c₀ ∈ s.drawn := (hinv.challenge c₀).mem_drawn (by omega)
  refine hmoves.inv hinv ⟨by omega, by omega, fun hc => absurd (hmoves.drawn ▸ hmem) hc⟩ ?_
  have hlive : s.live c₀ = true := decide_eq_true (by omega)
  have hdead : s'.live c₀ = false := decide_eq_false (by omega)
  have hlt := hmoves.outstanding_lt hmem hlive hdead
  have hlimit := hinv.limit c₀.1
  omega

/-! ### Steps -/

/-- The options are issued only for a place that no outstanding challenge can take; a session that a
registration has read is not read again; and the session of a registration is deleted. -/
def orderly (s : PasskeySys) : PasskeyAction → Bool
  | .next i ok =>
    match s.threads[i]? with
    | some (.optionsCount userId _) =>
      3 ≤ (s.credentialsOf userId).length ||
        (s.credentialsOf userId).length + s.outstanding userId < 3
    | some (.registerRead userId req) =>
      s.count .read (userId, req.challengeToken) + s.count .consumed
        (userId, req.challengeToken) = 0
    | some (.registerConsume _ _ _) => ok
    | _ => true
  | _ => true

/-- The request only moves on. -/
theorem inv_of_threads (h : PasskeyInv s) (hst : s.threads[i]? = some st)
    (hphase : st'.phase = none ∨ st'.phase = st.phase) :
    PasskeyInv { s with threads := s.threads.set i st' } :=
  inv_of_le h (count_le_of_phase hst rfl hphase) (fun _ => le_rfl) rfl rfl fun _ => le_rfl

theorem loadUser_phase {userId : Uuid} {next : PasskeyStage} :
    (s.loadUser ok userId next).phase = none ∨ (s.loadUser ok userId next).phase = next.phase := by
  unfold loadUser
  split
  · exact Or.inl rfl
  · split
    · exact Or.inr rfl
    · exact Or.inl rfl

/-- A session that is found, and a credential that is made for it. -/
theorem checkCredential_cases (userId : Uuid) (req : RegisterPasskeyRequest)
    (o : Option RegistrationData) :
    (checkCredential userId req o).phase = none ∨
      ∃ credId, o.isSome = true ∧
        checkCredential userId req o = .registerConsume userId req credId := by
  cases o with
  | none => exact Or.inl rfl
  | some data =>
    simp only [checkCredential]
    split
    · exact Or.inl rfl
    · split
      · exact Or.inl rfl
      · split
        · exact Or.inl rfl
        · next credId _ => exact Or.inr ⟨credId, rfl, rfl⟩

/-- A new credential is of one user only. -/
theorem credentialsOf_insert_of_ne {credential : WebauthnCredential} {u : Uuid}
    (hcredentials : s'.credentials = s.credentials.insert credential)
    (hu : u ≠ credential.instanceUserId) :
    (s'.credentialsOf u).length = (s.credentialsOf u).length := by
  have hfilter : ((s.credentials.insert credential).filter fun c => c.instanceUserId = u) =
      s.credentials.filter fun c => c.instanceUserId = u :=
    Table.filter_insert_of_not (decide_eq_false (Ne.symm hu))
  unfold credentialsOf
  rw [hcredentials]
  exact congrArg (fun t => t.rows.length) hfilter

theorem credentialsOf_insert_le {credential : WebauthnCredential} (u : Uuid)
    (hcredentials : s'.credentials = s.credentials.insert credential) :
    (s'.credentialsOf u).length ≤ (s.credentialsOf u).length + 1 := by
  rcases Table.rows_insert s.credentials credential with hrows | hrows
  · simp only [credentialsOf, hcredentials, hrows]
    omega
  · simp only [credentialsOf, hcredentials, hrows, List.filter_append, List.length_append]
    exact Nat.add_le_add_left (List.length_filter_le _ _) _

theorem passkeyInv_next (hinv : PasskeyInv s) (horderly : s.orderly (.next i ok) = true)
    (hst : s.threads[i]? = some st) (hadv : s.advance ok st = some st') :
    PasskeyInv { s.write ok st with threads := s.threads.set i st' } := by
  simp only [orderly, hst] at horderly
  cases st with
  | options userId draw =>
    cases hadv
    refine inv_of_threads hinv hst ?_
    exact loadUser_phase
  | optionsCount userId draw =>
    cases hadv
    simp only [write]
    split
    · exact inv_of_threads hinv hst (Or.inl rfl)
    · split
      · exact inv_of_threads hinv hst (Or.inl rfl)
      · next hcount =>
        split
        · exact inv_of_threads hinv hst (Or.inl rfl)
        · -- fewer than three passkeys: the options are issued, and `orderly` says there is a place
          simp only [hcount, decide_false, Bool.false_or, decide_eq_true_eq] at horderly
          exact inv_pledge (userId, draw.challengeToken) ⟨hst, rfl, rfl, rfl, rfl,
            fun _ _ => rfl, fun _ _ => rfl, fun _ _ => rfl⟩ hinv rfl rfl rfl horderly
  | optionsStore userId draw =>
    cases hadv
    cases ok with
    | false => exact inv_of_threads hinv hst (Or.inl rfl)
    | true =>
      refine inv_store (userId, draw.challengeToken) ⟨hst, rfl, rfl, rfl, rfl, fun c hc => ?_,
        fun _ _ => rfl, fun _ _ => rfl⟩ hinv ?_ rfl rfl
      · exact congrArg (fun o => o.isSome.toNat) (session_insert_of_ne hc _)
      · exact congrArg (fun o => o.isSome.toNat) (session_insert_self _)
  | register userId req =>
    cases hadv
    exact inv_of_threads hinv hst loadUser_phase
  | registerRead userId req =>
    cases hadv
    simp only [write]
    split
    · exact inv_of_threads hinv hst (Or.inl rfl)
    · rcases checkCredential_cases userId req (s.session (userId, req.challengeToken)) with
        hnone | ⟨credId, hsome, hcheck⟩
      · exact inv_of_threads hinv hst (Or.inl hnone)
      · -- the session is only read here: it can be found again until it is deleted
        rw [hcheck]
        refine inv_read (userId, req.challengeToken) ⟨hst, rfl, rfl, rfl, rfl,
          fun _ _ => rfl, fun _ _ => rfl, fun _ _ => rfl⟩ hinv ?_ rfl rfl rfl ?_
        · exact congrArg Bool.toNat hsome
        · exact of_decide_eq_true horderly
  | registerConsume userId req credId =>
    cases hadv
    -- a failed deletion is logged and ignored; `orderly` rules it out
    simp only at horderly
    subst horderly
    refine inv_consume (userId, req.challengeToken) ⟨hst, rfl, rfl, rfl, rfl, fun c hc => ?_,
      fun _ _ => rfl, fun _ _ => rfl⟩ hinv ?_ rfl rfl
    · exact congrArg (fun o => o.isSome.toNat) (session_deleteSession_of_ne true hc)
    · exact congrArg (fun o => o.isSome.toNat) session_deleteSession_self
  | registerInsert userId req credId =>
    cases hadv
    simp only [write]
    split
    · next hok =>
      refine inv_insert (userId, req.challengeToken) ⟨hst, rfl, rfl, rfl, rfl, fun _ _ => rfl,
        fun c hc => ?_, fun u hu => ?_⟩ hinv rfl ?_ ?_
      · exact List.count_cons_of_ne (Ne.symm hc)
      · exact credentialsOf_insert_of_ne rfl hu
      · exact List.count_cons_self
      · exact credentialsOf_insert_le userId rfl
    · exact inv_of_threads hinv hst (Or.inl rfl)
  | registerClear userId req =>
    cases hadv
    refine inv_of_le hinv (count_le_of_phase hst rfl (Or.inl rfl)) (fun c => ?_) ?_ ?_ fun u => ?_
    · exact stored_deleteSession_le ok c (userId, req.challengeToken)
    · exact deleteSession_inserted
    · exact deleteSession_drawn
    · exact le_of_eq (congrArg List.length deleteSession_credentialsOf)
  | done response => cases hadv

/-- A request for options draws a new challenge. -/
theorem passkeyInv_options (hinv : PasskeyInv s) (hfresh : c₀.2 ∉ s.drawn.map Prod.snd)
    (hphase : st.phase = some (.waiting, c₀)) (hthreads : s'.threads = s.threads ++ [st])
    (hdrawn : s'.drawn = c₀ :: s.drawn) (hstored : ∀ c, s'.stored c = s.stored c)
    (hinserted : s'.inserted = s.inserted)
      (hcredentials : ∀ u, s'.credentialsOf u = s.credentialsOf u) :
    PasskeyInv s' := by
  have hnew : c₀ ∉ s.drawn := fun hmem => hfresh (List.mem_map.mpr ⟨c₀, hmem, rfl⟩)
  have hcount := count_concat hthreads
  simp only [hphase, Option.some_inj, Prod.mk.injEq] at hcount
  have hlive : ∀ c, s'.live c = s.live c := by
    intro c
    simp only [live, hcount, hstored, reduceCtorEq, false_and, if_false, Nat.add_zero]
  constructor
  · rw [hdrawn, List.map_cons]
    exact List.nodup_cons.mpr ⟨hfresh, hinv.tokens⟩
  · intro c
    obtain ⟨h₁, h₂, h₃⟩ := hinv.challenge c
    by_cases hc : c = c₀
    · -- nothing is known of the new challenge yet, so it waits once and is nowhere else
      subst hc
      have hzero := h₃ hnew
      constructor
      · simp only [hcount, hstored, hinserted, reduceCtorEq, false_and, true_and, if_true, if_false]
        omega
      · simp only [hcount, hinserted, reduceCtorEq, false_and, true_and, if_true, if_false]
        omega
      · intro hmem
        rw [hdrawn] at hmem
        exact absurd List.mem_cons_self hmem
    · have hsame : ∀ ph, s'.count ph c = s.count ph c := by
        intro ph
        rw [hcount, if_neg fun h => hc h.2.symm]
        exact Nat.add_zero _
      constructor
      · rw [hsame, hsame, hsame, hstored, hinserted]
        exact h₁
      · rw [hsame, hsame, hsame, hsame, hinserted]
        exact h₂
      · intro hmem
        rw [hdrawn, List.mem_cons, not_or] at hmem
        rw [hsame, hsame, hsame, hsame, hstored, hinserted]
        exact h₃ hmem.2
  · intro u
    -- the new challenge waits: it is not outstanding before the passkeys are counted
    have hdead : s.live c₀ = false := by
      have hzero := (hinv.challenge c₀).drawn hnew
      exact decide_eq_false (by omega)
    have hsame : s'.outstanding u = s.outstanding u := by
      simp only [outstanding, hdrawn, hlive, List.countP_cons, hdead, Bool.and_false,
        Bool.false_eq_true, if_false, Nat.add_zero]
    rw [hcredentials, hsame]
    exact hinv.limit u

theorem passkeyInv_step {a : PasskeyAction} (hinv : PasskeyInv s) (horderly : s.orderly a = true)
    (h : s.step a = some s') : PasskeyInv s' := by
  cases a with
  | options userId draw =>
    simp only [step] at h
    split at h
    · cases h
    · -- the challenge is new, so nobody has an answer for it
      next hfresh =>
      cases h
      exact passkeyInv_options hinv hfresh rfl rfl rfl (fun _ => rfl) rfl fun _ => rfl
  | register userId req =>
    cases h
    refine inv_of_le hinv (fun ph c => ?_) (fun _ => le_rfl) rfl rfl fun _ => le_rfl
    rw [count_concat rfl, if_neg (fun h => by cases h)]
    exact le_rfl
  | delete userId passkeyId ok =>
    cases h
    split
    · -- a deletion frees a place
      refine inv_of_le hinv (fun _ _ => le_rfl) (fun _ => le_rfl) rfl rfl fun u => ?_
      exact (List.filter_sublist.filter _).length_le
    · exact hinv
  | next i ok =>
    simp only [step, Option.bind_eq_some_iff, Option.map_eq_some_iff] at h
    obtain ⟨st, hst, st', hadv, rfl⟩ := h
    exact passkeyInv_next hinv horderly hst hadv
  | tick d =>
    cases h
    refine inv_of_le hinv (fun _ _ => le_rfl) (fun c => ?_) rfl rfl fun _ => le_rfl
    -- time may end a session, which only lowers the counts
    unfold stored
    cases hsession : s.session c with
    | none =>
      have hlater : ({ s with now := s.now + d } : PasskeySys).session c = none :=
        TtlCache.get_eq_none_later hsession d
      rw [hlater]
    | some data => exact Bool.toNat_le _

/-- Nothing is under way, and no user has more than three passkeys. -/
structure Init (s : PasskeySys) : Prop where
  threads : s.threads = []
  redis : ∀ c, s.session c = none
  drawn : s.drawn = []
  inserted : s.inserted = []
  limit : ∀ userId, (s.credentialsOf userId).length ≤ 3

theorem passkeyInv_init (h : Init s) : PasskeyInv s where
  tokens := by
    rw [h.drawn]
    exact List.nodup_nil
  challenge := by
    intro c
    have hcount : ∀ ph, s.count ph c = 0 := by
      intro ph
      rw [count, h.threads]
      rfl
    have hstored : s.stored c = 0 := by
      rw [stored, h.redis]
      rfl
    constructor
    · simp [hcount, hstored, h.inserted]
    · simp [hcount, h.inserted]
    · simp [hcount, hstored, h.inserted]
  limit := by
    intro u
    rw [outstanding, h.drawn]
    exact h.limit u

/-- A challenge that has led to a credential is the only one with its token. -/
theorem PasskeyInv.count_token_le_one (h : PasskeyInv s) (token : String) :
    (s.inserted.map Prod.snd).count token ≤ 1 := by
  have hnodup : s.inserted.Nodup := by
    refine List.nodup_iff_count_le_one.mpr fun c => ?_
    have hstored := (h.challenge c).stored
    omega
  have hdrawn : ∀ c ∈ s.inserted, c ∈ s.drawn := by
    intro c hc
    by_contra hnew
    have hpos := List.count_pos_iff.mpr hc
    have hzero := (h.challenge c).drawn hnew
    omega
  refine List.nodup_iff_count_le_one.mp (List.Nodup.map_on ?_ hnodup) token
  intro c hc c' hc' htoken
  exact List.inj_on_of_nodup_map h.tokens (hdrawn c hc) (hdrawn c' hc') htoken

/-- Along a run in which options are issued only for places that no outstanding challenge can take,
no session is read again by another registration before it is deleted, and no deletion of a session
by a registration fails: no user has more than three passkeys, and no challenge token leads to more
than one credential. -/
theorem passkey_limits (s s' : PasskeySys) (as : List PasskeyAction) (hinit : Init s)
    (horderly : Transition.Along step (fun s a => s.orderly a = true) s as)
    (hrun : Transition.run step s as = some s') :
    (∀ userId, (s'.credentialsOf userId).length ≤ 3) ∧
      ∀ token, (s'.inserted.map Prod.snd).count token ≤ 1 := by
  have hinv : PasskeyInv s' := Transition.inv_of_run
    (fun hinv horderly h => passkeyInv_step hinv horderly h) (passkeyInv_init hinit) horderly hrun
  refine ⟨fun userId => ?_, hinv.count_token_le_one⟩
  have hlimit := hinv.limit userId
  omega

end PasskeySys

/-! ### Four passkeys, and a challenge that is used twice -/

namespace Sample

open PasskeySys

/-- A user without passkeys. -/
def passkeySys : PasskeySys := ⟨0, [7], .empty, .empty, [], [], []⟩

theorem passkeySys_init : Init passkeySys :=
  ⟨rfl, fun _ => rfl, rfl, rfl, fun _ => Nat.zero_le _⟩

/-- Request `i` of the user runs `k` statements. -/
def statements (i k : ℕ) : List PasskeyAction := List.replicate k (.next i true)

/-- A request for options; its token is the text of `n`. -/
def passkeyOptions (n : ℕ) : PasskeyAction := .options 7 ⟨toString n, n, none⟩

/-- A registration with challenge `n` and a key `k`. -/
def registerPasskey (n k : ℕ) : PasskeyAction :=
  .register 7 ⟨toString n, "Key", some ⟨n, toString k⟩, none, ⟨BitVec.ofNat 128 k⟩⟩

/-- Four challenges are issued before the first is used. -/
def fourPasskeys : List PasskeyAction :=
  (List.range 4).flatMap (fun n => passkeyOptions n :: statements n 3) ++
    (List.range 4).flatMap fun n => registerPasskey n n :: statements (4 + n) 5

/-- Two registrations read the session before one of them deletes it. -/
def challengeTwice : List PasskeyAction :=
  passkeyOptions 0 :: statements 0 3 ++ [registerPasskey 0 0, registerPasskey 0 1] ++
    statements 1 2 ++ statements 2 2 ++ statements 1 3 ++ statements 2 3

theorem passkey_limits_fail :
    Init passkeySys ∧
      (∃ s', Transition.run step passkeySys fourPasskeys = some s' ∧
        (s'.credentialsOf 7).length = 4) ∧
      ∃ s', Transition.run step passkeySys challengeTwice = some s' ∧
        (s'.inserted.map Prod.snd).count "0" = 2 := by
  have hfour : (Transition.run step passkeySys fourPasskeys).map
      (fun s => (s.credentialsOf 7).length) = some 4 := by
    decide
  have htwice : (Transition.run step passkeySys challengeTwice).map
      (fun s => (s.inserted.map Prod.snd).count "0") = some 2 := by
    decide
  exact ⟨passkeySys_init, Option.map_eq_some_iff.mp hfour, Option.map_eq_some_iff.mp htwice⟩

/-- A challenge is issued and used, and then another one. -/
def twoPasskeys : List PasskeyAction :=
  passkeyOptions 0 :: statements 0 3 ++ registerPasskey 0 0 :: statements 1 5 ++
    passkeyOptions 1 :: statements 2 3 ++ registerPasskey 1 1 :: statements 3 5

theorem passkey_limits_twoPasskeys :
    ∃ s', Transition.run step passkeySys twoPasskeys = some s' ∧
      (s'.credentialsOf 7).length = 2 ∧ (∀ userId, (s'.credentialsOf userId).length ≤ 3) ∧
        ∀ token, (s'.inserted.map Prod.snd).count token ≤ 1 := by
  have htwo : (Transition.run step passkeySys twoPasskeys).map
      (fun s => (s.credentialsOf 7).length) = some 2 := by
    decide
  have horderly : Transition.Along step (fun s a => s.orderly a = true) passkeySys twoPasskeys := by
    decide
  obtain ⟨s', hrun, hlength⟩ := Option.map_eq_some_iff.mp htwo
  exact ⟨s', hrun, hlength, passkey_limits passkeySys s' twoPasskeys passkeySys_init horderly hrun⟩

end Sample

end LeadsNebula
