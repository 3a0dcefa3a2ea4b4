/-
Fixed-window rate limiting.

Each key has a bucket: the start of its window and the number of calls admitted in
it.  A call that comes a full window after the start, or to a key without a bucket,
opens a new window; then it is admitted if the count is below the limit.

* `run_filter` — the decisions for a key depend only on its own calls;
* `count_le_run` — no count exceeds the limit;
* `admitted_le_of_no_reset` — at most `limit` calls are admitted from one reset of the
  bucket to the next;
* `admitted_le_of_interval` — and at most twice as many in any interval shorter than
  the window.
-/
import Mathlib.Data.List.Basic
import Mathlib.Logic.Function.Basic
import Mathlib.Tactic.Linarith

namespace FixedWindow

variable {κ : Type*} [DecidableEq κ]

structure Bucket where
  start : ℕ
  count : ℕ
  deriving DecidableEq

/-- One call and what came of it. -/
structure Event (κ : Type*) where
  key : κ
  time : ℕ
  /-- The call opened a new window. -/
  reset : Bool
  admitted : Bool

/-- The bucket that a call meets, and whether its window is new. -/
def meet (window now : ℕ) : Option Bucket → Bucket × Bool
  | none => (⟨now, 0⟩, true)
  | some b => if window ≤ now - b.start then (⟨now, 0⟩, true) else (b, false)

/-- The bucket after a call. -/
def Bucket.charge (limit : ℕ) (b : Bucket) : Bucket :=
  if b.count < limit then { b with count := b.count + 1 } else b

def step (limit window : ℕ) (s : κ → Option Bucket) (k : κ) (now : ℕ) :
    (κ → Option Bucket) × Event κ :=
  let b := (meet window now (s k)).1
  (Function.update s k (some (b.charge limit)),
    ⟨k, now, (meet window now (s k)).2, decide (b.count < limit)⟩)

/-- The decisions for a sequence of calls. -/
def run (limit window : ℕ) (s : κ → Option Bucket) : List (κ × ℕ) → List (Event κ)
  | [] => []
  | c :: calls =>
    (step limit window s c.1 c.2).2 :: run limit window (step limit window s c.1 c.2).1 calls

/-- The buckets after a sequence of calls. -/
def final (limit window : ℕ) (s : κ → Option Bucket) : List (κ × ℕ) → (κ → Option Bucket)
  | [] => s
  | c :: calls => final limit window (step limit window s c.1 c.2).1 calls

variable {limit window : ℕ} {s s' : κ → Option Bucket} {k : κ}

/-! ### One call -/

theorem step_of_ne {k' : κ} (h : k' ≠ k) (now : ℕ) :
    (step limit window s k now).1 k' = s k' := Function.update_of_ne h _ _

theorem step_key (s : κ → Option Bucket) (k : κ) (now : ℕ) :
    (step limit window s k now).2.key = k := rfl

theorem step_self (s : κ → Option Bucket) (k : κ) (now : ℕ) :
    (step limit window s k now).1 k = some ((meet window now (s k)).1.charge limit) :=
  Function.update_self _ _ _

/-- The bucket that a call meets: a new one, or the old one within its window. -/
theorem meet_cases (window now : ℕ) (o : Option Bucket) :
    meet window now o = (⟨now, 0⟩, true) ∧ (∀ b, o = some b → window ≤ now - b.start) ∨
      ∃ b, o = some b ∧ meet window now o = (b, false) ∧ now - b.start < window := by
  cases o with
  | none => exact Or.inl ⟨rfl, nofun⟩
  | some b =>
    rw [meet]
    by_cases h : window ≤ now - b.start
    · rw [if_pos h]
      refine Or.inl ⟨rfl, fun b' hb' => ?_⟩
      rw [← Option.some_inj.mp hb']
      exact h
    · rw [if_neg h]
      exact Or.inr ⟨b, rfl, rfl, not_le.mp h⟩

theorem charge_count (b : Bucket) :
    (b.charge limit).count = b.count + (if b.count < limit then 1 else 0) := by
  rw [Bucket.charge]
  split <;> rfl

@[simp] theorem charge_start (b : Bucket) : (b.charge limit).start = b.start := by
  rw [Bucket.charge]
  split <;> rfl

/-! ### Runs -/

/-- A division of the decisions is one of the calls. -/
theorem run_eq_append {calls : List (κ × ℕ)} {es es' : List (Event κ)}
    (h : run limit window s calls = es ++ es') : ∃ calls₁ calls₂, calls = calls₁ ++ calls₂ ∧
      run limit window s calls₁ = es ∧
      run limit window (final limit window s calls₁) calls₂ = es' := by
  induction es generalizing s calls with
  | nil => exact ⟨[], calls, rfl, rfl, h⟩
  | cons e es ih =>
    cases calls with
    | nil => cases h
    | cons c calls =>
      obtain ⟨he, h⟩ := List.cons.inj h
      obtain ⟨calls₁, calls₂, rfl, h₁, h₂⟩ := ih h
      exact ⟨c :: calls₁, calls₂, rfl, by rw [run, he, h₁], h₂⟩

/-- What a key's calls leave untouched. -/
theorem final_of_not_mem {calls : List (κ × ℕ)} (h : ∀ c ∈ calls, c.1 ≠ k)
    (s : κ → Option Bucket) : final limit window s calls k = s k := by
  induction calls generalizing s with
  | nil => rfl
  | cons c calls ih =>
    rw [final, ih fun c' hc' => h c' (List.mem_cons_of_mem c hc')]
    exact step_of_ne (h c List.mem_cons_self).symm c.2

/-- The decisions for a key are those of a run in which nobody else calls. -/
theorem run_filter (calls : List (κ × ℕ)) (h : s k = s' k) :
    (run limit window s calls).filter (fun e => e.key = k) =
      run limit window s' (calls.filter fun c => c.1 = k) := by
  induction calls generalizing s s' with
  | nil => rfl
  | cons c calls ih =>
    obtain ⟨k', now⟩ := c
    by_cases hk : k' = k
    · subst hk
      have hevent : (step limit window s k' now).2 = (step limit window s' k' now).2 := by
        rw [step, step, h]
      have hstate : (step limit window s k' now).1 k' = (step limit window s' k' now).1 k' := by
        rw [step_self, step_self, h]
      rw [run, List.filter_cons, List.filter_cons, step_key, if_pos (decide_eq_true rfl),
        if_pos (decide_eq_true rfl), run, ih hstate, hevent]
    · have hstate : (step limit window s k' now).1 k = s' k :=
        (step_of_ne (Ne.symm hk) now).trans h
      have hne : ¬ decide (k' = k) = true := fun h => hk (of_decide_eq_true h)
      rw [run, List.filter_cons, List.filter_cons, step_key, if_neg hne, if_neg hne, ih hstate]

/-! ### Counts -/

/-- No count exceeds the limit. -/
def CountLe (limit : ℕ) (s : κ → Option Bucket) : Prop := ∀ k b, s k = some b → b.count ≤ limit

omit [DecidableEq κ] in
theorem countLe_init : CountLe limit (fun _ : κ => none) := nofun

theorem charge_count_le {b : Bucket} (h : b.count ≤ limit) : (b.charge limit).count ≤ limit := by
  rw [Bucket.charge]
  split
  · next hlt => exact hlt
  · exact h

omit [DecidableEq κ] in
theorem meet_count_le (hs : CountLe limit s) (window now : ℕ) (k : κ) :
    (meet window now (s k)).1.count ≤ limit := by
  rcases meet_cases window now (s k) with ⟨h, -⟩ | ⟨b, hb, h, -⟩
  · rw [h]
    exact Nat.zero_le limit
  · rw [h]
    exact hs k b hb

theorem countLe_step (hs : CountLe limit s) (k : κ) (now : ℕ) :
    CountLe limit (step limit window s k now).1 := by
  intro k' b hb
  by_cases hk : k' = k
  · subst hk
    rw [step_self, Option.some_inj] at hb
    rw [← hb]
    exact charge_count_le (meet_count_le hs window now k')
  · rw [step_of_ne hk] at hb
    exact hs k' b hb

theorem countLe_final (hs : CountLe limit s) (calls : List (κ × ℕ)) :
    CountLe limit (final limit window s calls) := by
  induction calls generalizing s with
  | nil => exact hs
  | cons c calls ih => exact ih (countLe_step hs c.1 c.2)

/-- A window begins with a call. -/
theorem start_le_final {t : ℕ} {calls : List (κ × ℕ)} (h : ∀ c ∈ calls, c.2 ≤ t)
    (hs : ∀ b, s k = some b → b.start ≤ t) {b : Bucket}
    (hb : final limit window s calls k = some b) : b.start ≤ t := by
  induction calls generalizing s with
  | nil => exact hs b hb
  | cons c calls ih =>
    obtain ⟨k', now⟩ := c
    refine ih (fun c hc => h c (List.mem_cons_of_mem _ hc)) (fun b' hb' => ?_) hb
    by_cases hk : k = k'
    · subst hk
      rw [step_self, Option.some_inj] at hb'
      rw [← hb', charge_start]
      rcases meet_cases window now (s k) with ⟨hmeet, -⟩ | ⟨b₀, hb₀, hmeet, -⟩
      · rw [hmeet]
        exact h _ List.mem_cons_self
      · rw [hmeet]
        exact hs b₀ hb₀
    · rw [step_of_ne hk] at hb'
      exact hs b' hb'

/-! ### From one reset to the next -/

/-- The calls of a key that were admitted. -/
def admittedOf (k : κ) (es : List (Event κ)) : ℕ := es.countP fun e => e.key = k && e.admitted

theorem admittedOf_cons_self (s : κ → Option Bucket) (k : κ) (now : ℕ) (es : List (Event κ)) :
    admittedOf k ((step limit window s k now).2 :: es) + (meet window now (s k)).1.count =
      admittedOf k es + ((meet window now (s k)).1.charge limit).count := by
  rw [admittedOf, List.countP_cons, charge_count]
  simp only [step, decide_true, Bool.true_and, decide_eq_true_iff]
  rw [admittedOf]
  omega

theorem admittedOf_cons_of_ne {k' : κ} (h : k' ≠ k) (s : κ → Option Bucket) (now : ℕ)
    (es : List (Event κ)) :
    admittedOf k ((step limit window s k' now).2 :: es) = admittedOf k es := by
  rw [admittedOf, List.countP_cons_of_neg, admittedOf]
  rw [Bool.and_eq_true, decide_eq_true_iff]
  exact fun hkey => h hkey.1

/-- As long as the window of a bucket lasts, its count bounds what is still admitted. -/
theorem admittedOf_add_count_le (hs : CountLe limit s) (calls : List (κ × ℕ))
    (hreset : ∀ e ∈ run limit window s calls, e.key = k → e.reset = false) {b : Bucket}
    (hb : s k = some b) : admittedOf k (run limit window s calls) + b.count ≤ limit := by
  induction calls generalizing s b with
  | nil =>
    rw [run, admittedOf, List.countP_nil, Nat.zero_add]
    exact hs k b hb
  | cons c calls ih =>
    obtain ⟨k', now⟩ := c
    have hrest := fun e he => hreset e (List.mem_cons_of_mem _ he)
    have hs' : CountLe limit (step limit window s k' now).1 := countLe_step hs k' now
    by_cases hk : k' = k
    · subst hk
      have hold : (meet window now (s k')).2 = false := hreset _ List.mem_cons_self rfl
      rcases meet_cases window now (s k') with ⟨h, -⟩ | ⟨b', hb', h, -⟩
      · rw [h] at hold
        cases hold
      · obtain rfl : b = b' := Option.some_inj.mp (hb.symm.trans hb')
        have ih := ih hs' hrest (step_self s k' now)
        rw [← admittedOf_cons_self, h] at ih
        exact ih
    · rw [run, admittedOf_cons_of_ne hk]
      exact ih hs' hrest ((step_of_ne (Ne.symm hk) now).trans hb)

/-- Without a bucket the first call opens a window. -/
theorem admittedOf_eq_zero (calls : List (κ × ℕ))
    (hreset : ∀ e ∈ run limit window s calls, e.key = k → e.reset = false) (hk : s k = none) :
    admittedOf k (run limit window s calls) = 0 := by
  induction calls generalizing s with
  | nil => rfl
  | cons c calls ih =>
    obtain ⟨k', now⟩ := c
    by_cases hk' : k' = k
    · subst hk'
      have hold : (meet window now (s k')).2 = false := hreset _ List.mem_cons_self rfl
      rw [hk] at hold
      cases hold
    · rw [run, admittedOf_cons_of_ne hk']
      exact ih (fun e he => hreset e (List.mem_cons_of_mem _ he))
        ((step_of_ne (Ne.symm hk') now).trans hk)

/-- From one reset to the next at most `limit` calls are admitted. -/
theorem admitted_le_of_no_reset (hs : CountLe limit s) {calls : List (κ × ℕ)}
    {before after es : List (Event κ)} {e : Event κ}
    (h : run limit window s calls = before ++ (e :: es) ++ after)
    (hreset : ∀ e' ∈ es, e'.key = k → e'.reset = false) : admittedOf k (e :: es) ≤ limit := by
  -- the calls are cut where the event is
  rw [List.append_assoc] at h
  obtain ⟨calls₁, calls₂, -, -, h⟩ := run_eq_append h
  obtain ⟨calls₃, calls₄, -, h, -⟩ := run_eq_append h
  have hs : CountLe limit (final limit window s calls₁) := countLe_final hs calls₁
  generalize final limit window s calls₁ = s₁ at h hs
  cases calls₃ with
  | nil => cases h
  | cons c calls₃ =>
    obtain ⟨k', now⟩ := c
    obtain ⟨rfl, rfl⟩ := List.cons.inj h
    have hs' : CountLe limit (step limit window s₁ k' now).1 := countLe_step hs k' now
    -- the first event is of this key, or only the later ones count
    by_cases hk : k' = k
    · subst hk
      have hle := admittedOf_add_count_le hs' calls₃ hreset (step_self s₁ k' now)
      rw [← admittedOf_cons_self] at hle
      exact le_of_add_le_left hle
    · rw [admittedOf_cons_of_ne hk]
      cases hb : s₁ k with
      | none =>
        rw [admittedOf_eq_zero calls₃ hreset ((step_of_ne (Ne.symm hk) now).trans hb)]
        exact Nat.zero_le limit
      | some b =>
        exact le_of_add_le_left (admittedOf_add_count_le hs' calls₃ hreset
          ((step_of_ne (Ne.symm hk) now).trans hb))

/-! ### Intervals shorter than the window -/

/-- The calls of a key that were admitted from `a` to `b`. -/
def admittedIn (k : κ) (a b : ℕ) (es : List (Event κ)) : ℕ :=
  es.countP fun e => (e.key = k && e.admitted) && (a ≤ e.time && e.time ≤ b)

theorem run_times (s : κ → Option Bucket) (calls : List (κ × ℕ)) :
    (run limit window s calls).map Event.time = calls.map Prod.snd := by
  induction calls generalizing s with
  | nil => rfl
  | cons c calls ih => exact congrArg (List.cons _) (ih _)

/-- Of `n` calls admitted since `a`: those before the window of the bucket are at most `limit`, and
there are none if that window began before `a`. -/
def IntervalInv (limit a n : ℕ) : Option Bucket → Prop
  | none => n = 0
  | some b => b.count ≤ limit ∧ (b.start < a → n ≤ b.count) ∧ n ≤ limit + b.count

theorem IntervalInv.le {a n : ℕ} {o : Option Bucket} (h : IntervalInv limit a n o) :
    n ≤ 2 * limit := by
  cases o with
  | none =>
    rw [show n = 0 from h]
    exact Nat.zero_le _
  | some b =>
    obtain ⟨hcount, -, hle⟩ := h
    omega

/-- A call in the interval keeps the bound: a second window can begin in it, but no third. -/
theorem intervalInv_step {a n now : ℕ} {o : Option Bucket} (h : IntervalInv limit a n o)
    (ha : a ≤ now) (hnow : now < a + window) :
    IntervalInv limit a (n + if (meet window now o).1.count < limit then 1 else 0)
      (some ((meet window now o).1.charge limit)) := by
  rcases meet_cases window now o with ⟨hmeet, hold⟩ | ⟨b, rfl, hmeet, -⟩
  · -- a new window: what was admitted before belongs to one that began before `a`
    have hn : n ≤ limit := by
      cases o with
      | none =>
        rw [show n = 0 from h]
        exact Nat.zero_le limit
      | some b =>
        obtain ⟨hcount, hbefore, -⟩ := h
        have hb := hold b rfl
        exact (hbefore (by omega)).trans hcount
    rw [hmeet]
    refine ⟨charge_count_le (Nat.zero_le limit), fun hlt => ?_, ?_⟩
    · rw [charge_start] at hlt
      exact absurd hlt (not_lt.mpr ha)
    · rw [charge_count]
      omega
  · obtain ⟨hcount, hbefore, hle⟩ := h
    rw [hmeet]
    refine ⟨charge_count_le hcount, fun hlt => ?_, ?_⟩
    · rw [charge_start] at hlt
      rw [charge_count]
      exact Nat.add_le_add_right (hbefore hlt) _
    · rw [charge_count, ← Nat.add_assoc]
      exact Nat.add_le_add_right hle _

theorem admittedIn_add_le {a b n : ℕ} (hab : b < a + window) {calls : List (κ × ℕ)}
    (hsorted : calls.Pairwise fun c c' => c.2 ≤ c'.2) (ha : ∀ c ∈ calls, a ≤ c.2)
    (h : IntervalInv limit a n (s k)) :
    n + admittedIn k a b (run limit window s calls) ≤ 2 * limit := by
  induction calls generalizing s n with
  | nil => exact h.le
  | cons c calls ih =>
    obtain ⟨k', now⟩ := c
    rw [List.pairwise_cons] at hsorted
    have hnow := ha _ List.mem_cons_self
    have ha' : ∀ c ∈ calls, a ≤ c.2 := fun c hc => ha c (List.mem_cons_of_mem _ hc)
    by_cases hb : now ≤ b
    · by_cases hk : k' = k
      · subst hk
        have hstep := intervalInv_step h hnow (lt_of_le_of_lt hb hab)
        rw [← step_self] at hstep
        have hcons : admittedIn k' a b (run limit window s ((k', now) :: calls)) =
            (if (meet window now (s k')).1.count < limit then 1 else 0) +
              admittedIn k' a b (run limit window (step limit window s k' now).1 calls) := by
          rw [run, admittedIn, List.countP_cons, admittedIn, Nat.add_comm]
          simp only [step, decide_true, Bool.true_and, Bool.and_eq_true, decide_eq_true_iff, hnow,
            hb, and_true]
        rw [hcons, ← Nat.add_assoc]
        exact ih hsorted.2 ha' hstep
      · have hskip : admittedIn k a b (run limit window s ((k', now) :: calls)) =
            admittedIn k a b (run limit window (step limit window s k' now).1 calls) := by
          rw [run, admittedIn, List.countP_cons_of_neg, admittedIn]
          simp only [Bool.and_eq_true, decide_eq_true_iff]
          exact fun h => hk h.1.1
        rw [hskip]
        refine ih hsorted.2 ha' ?_
        rw [step_of_ne (Ne.symm hk)]
        exact h
    · -- the interval is over
      have hnone : admittedIn k a b (run limit window s ((k', now) :: calls)) = 0 := by
        rw [admittedIn, List.countP_eq_zero]
        intro e he hin
        simp only [Bool.and_eq_true, decide_eq_true_iff] at hin
        have htime : e.time ∈ ((k', now) :: calls).map Prod.snd := by
          rw [← run_times]
          exact List.mem_map.mpr ⟨e, he, rfl⟩
        obtain ⟨c, hc, hce⟩ := List.mem_map.mp htime
        rcases List.mem_cons.mp hc with rfl | hc
        · exact hb (hce.le.trans hin.2.2)
        · exact hb ((hsorted.1 c hc).trans (hce.le.trans hin.2.2))
      rw [hnone]
      exact h.le

/-- In an interval shorter than the window at most `2 * limit` calls are admitted. -/
theorem admitted_le_of_interval {a b : ℕ} (hab : b < a + window) {calls : List (κ × ℕ)}
    (hsorted : calls.Pairwise fun c c' => c.2 ≤ c'.2) (hs : CountLe limit s) :
    admittedIn k a b (run limit window s calls) ≤ 2 * limit := by
  induction calls generalizing s with
  | nil => exact Nat.zero_le _
  | cons c calls ih =>
    obtain ⟨k', now⟩ := c
    have hsorted' := List.pairwise_cons.mp hsorted
    by_cases ha : a ≤ now
    · -- from here on every call is after `a`
      have hle : 0 + admittedIn k a b (run limit window s ((k', now) :: calls)) ≤ 2 * limit := by
        refine admittedIn_add_le hab hsorted ?_ ?_
        · intro c hc
          rcases List.mem_cons.mp hc with rfl | hc
          · exact ha
          · exact ha.trans (hsorted'.1 c hc)
        · cases hb : s k with
          | none => exact rfl
          | some b => exact ⟨hs k b hb, fun _ => Nat.zero_le _, Nat.zero_le _⟩
      rwa [Nat.zero_add] at hle
    · have hskip : admittedIn k a b (run limit window s ((k', now) :: calls)) =
          admittedIn k a b (run limit window (step limit window s k' now).1 calls) := by
        rw [run, admittedIn, List.countP_cons_of_neg, admittedIn]
        simp only [Bool.and_eq_true, decide_eq_true_iff]
        exact fun h => ha h.2.1
      rw [hskip]
      exact ih hsorted'.2 (countLe_step hs k' now)

end FixedWindow
