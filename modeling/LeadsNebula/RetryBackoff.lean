/-
Retries with exponential backoff (`core/src/services/retry.rs`).

An operation that fails is called again after a delay, `max_retries` times at most.  The
delay is multiplied and capped after each sleep.  The multiplier is an exact rational.

* `Ended` — what the loop has done when it returns: which calls failed, and which delays
  it slept; `ended_retryWithBackoff` shows it of every run;
* `nextDelay_mono` — delays under the cap do not decrease;
* `retriesRight_iff` — when all delays are under the cap.
-/
import Mathlib.Data.Rat.Floor

namespace LeadsNebula

/-! ### The loop -/

structure RetryConfig where
  maxRetries : ℕ
  initialDelayMs : ℕ
  maxDelayMs : ℕ
  multiplier : ℚ
  maxRetries_lt : maxRetries < 2 ^ 32
  initialDelayMs_lt : initialDelayMs < 2 ^ 64
  maxDelayMs_lt : maxDelayMs < 2 ^ 64

/-- `q as u64`: toward zero, and the nearest `u64` for what is out of range. -/
def asU64 (q : ℚ) : ℕ := min ⌊q⌋₊ (2 ^ 64 - 1)

/-- What the loop carries; `calls` and `slept` tell what it has done. -/
structure RetryState where
  attempt : ℕ
  delayMs : ℕ
  calls : ℕ
  slept : List ℕ

structure Retried (ε α : Type*) where
  result : Except ε α
  calls : ℕ
  slept : List ℕ

namespace RetryConfig

variable {ε α : Type*} (c : RetryConfig)

def nextDelay (delayMs : ℕ) : ℕ := min (asU64 (delayMs * c.multiplier)) c.maxDelayMs

/-- The loop, when the operation ends at its `n`-th call as `f n` says. -/
def retryLoop (f : ℕ → Except ε α) (s : RetryState) : Retried ε α :=
  match f s.calls with
  | .ok result => ⟨.ok result, s.calls + 1, s.slept⟩
  | .error e =>
    if c.maxRetries ≤ s.attempt then ⟨.error e, s.calls + 1, s.slept⟩
    else
      retryLoop f
        { attempt := s.attempt + 1
          delayMs := c.nextDelay s.delayMs
          calls := s.calls + 1
          slept := s.slept ++ [s.delayMs] }
termination_by c.maxRetries - s.attempt

def retryWithBackoff (f : ℕ → Except ε α) : Retried ε α :=
  c.retryLoop f ⟨0, c.initialDelayMs, 0, []⟩

/-! ### What a run has done -/

variable {c} {f : ℕ → Except ε α}

/-- The loop has come so far: every call has failed, and after each it has slept. -/
structure Retrying (c : RetryConfig) (f : ℕ → Except ε α) (s : RetryState) : Prop where
  attempt_eq : s.attempt = s.calls
  calls_le : s.calls ≤ c.maxRetries
  failed : ∀ i < s.calls, ∃ e, f i = .error e
  delayMs_eq : s.delayMs = c.nextDelay^[s.calls] c.initialDelayMs
  slept_eq : s.slept = (List.range s.calls).map fun i => c.nextDelay^[i] c.initialDelayMs

/-- The loop has returned after call `n`: the calls before it have failed, and it has succeeded or
is the last one allowed. -/
structure Ended (c : RetryConfig) (f : ℕ → Except ε α) (n : ℕ) (r : Retried ε α) : Prop where
  calls_eq : r.calls = n + 1
  le : n ≤ c.maxRetries
  result_eq : r.result = f n
  failed : ∀ i < n, ∃ e, f i = .error e
  last : (∃ a, f n = .ok a) ∨ n = c.maxRetries
  slept_eq : r.slept = (List.range n).map fun i => c.nextDelay^[i] c.initialDelayMs

theorem retrying_start (c : RetryConfig) (f : ℕ → Except ε α) :
    Retrying c f ⟨0, c.initialDelayMs, 0, []⟩ :=
  ⟨rfl, Nat.zero_le _, fun i hi => absurd hi (Nat.not_lt_zero i), rfl, rfl⟩

theorem Retrying.next {s : RetryState} {e : ε} (h : Retrying c f s) (hfail : f s.calls = .error e)
    (hlt : s.attempt < c.maxRetries) :
    Retrying c f ⟨s.attempt + 1, c.nextDelay s.delayMs, s.calls + 1, s.slept ++ [s.delayMs]⟩ := by
  refine ⟨?_, ?_, ?_, ?_, ?_⟩
  · show s.attempt + 1 = s.calls + 1
    rw [h.attempt_eq]
  · show s.calls + 1 ≤ c.maxRetries
    rw [← h.attempt_eq]
    exact hlt
  · intro i hi
    obtain hi | rfl := Nat.lt_succ_iff_lt_or_eq.mp hi
    · exact h.failed i hi
    · exact ⟨e, hfail⟩
  · show c.nextDelay s.delayMs = _
    rw [Function.iterate_succ_apply', ← h.delayMs_eq]
  · show s.slept ++ [s.delayMs] = _
    rw [List.range_succ, List.map_append, ← h.slept_eq, List.map_singleton, ← h.delayMs_eq]

theorem Retrying.ended {s : RetryState} (h : Retrying c f s) : ∃ n,
    Ended c f n (c.retryLoop f s) := by
  fun_induction c.retryLoop f s with
  | case1 s a hok =>
    exact ⟨s.calls, rfl, h.calls_le, hok.symm, h.failed, Or.inl ⟨a, hok⟩, h.slept_eq⟩
  | case2 s e hfail hlast =>
    have heq : s.calls = c.maxRetries := le_antisymm h.calls_le (h.attempt_eq ▸ hlast)
    exact ⟨s.calls, rfl, h.calls_le, hfail.symm, h.failed, Or.inr heq, h.slept_eq⟩
  | case3 s e hfail hlast ih => exact ih (h.next hfail (Nat.not_le.mp hlast))

theorem ended_retryWithBackoff (c : RetryConfig) (f : ℕ → Except ε α) :
    ∃ n, Ended c f n (c.retryWithBackoff f) := (retrying_start c f).ended

/-! ### Delays -/

theorem le_asU64 {n : ℕ} {q : ℚ} (h : n ≤ q) (hn : n < 2 ^ 64) : n ≤ asU64 q :=
  le_min (Nat.le_floor h) (by omega)

/-- A delay under the cap does not decrease. -/
theorem le_nextDelay (hm : 1 ≤ c.multiplier) {d : ℕ} (hd : d ≤ c.maxDelayMs) :
    d ≤ c.nextDelay d := by
  have hgrow : (d : ℚ) ≤ d * c.multiplier := le_mul_of_one_le_right (Nat.cast_nonneg d) hm
  exact le_min (le_asU64 hgrow (hd.trans_lt c.maxDelayMs_lt)) hd

theorem iterate_le (h : c.initialDelayMs ≤ c.maxDelayMs) (i : ℕ) :
    c.nextDelay^[i] c.initialDelayMs ≤ c.maxDelayMs := by
  cases i with
  | zero => exact h
  | succ i =>
    rw [Function.iterate_succ_apply']
    exact min_le_right _ _

theorem monotone_delays (hm : 1 ≤ c.multiplier) (h : c.initialDelayMs ≤ c.maxDelayMs) :
    Monotone fun i => c.nextDelay^[i] c.initialDelayMs := by
  refine monotone_nat_of_le_succ fun i => ?_
  show _ ≤ c.nextDelay^[i + 1] c.initialDelayMs
  rw [Function.iterate_succ_apply']
  exact le_nextDelay hm (iterate_le h i)

/-! ### The whole run -/

/-- The first call that succeeds is call `n`, counted from zero. -/
def FirstSuccess (f : ℕ → Except ε α) (n : ℕ) : Prop :=
  (∃ a, f n = .ok a) ∧ ∀ i < n, ∃ e, f i = .error e

/-- The operation is called until it succeeds, `max_retries + 1` times at most; its last outcome is
the result; and the delays are under the cap, and do not decrease if the multiplier is at least
one. -/
structure RetriesRight (c : RetryConfig) (f : ℕ → Except ε α) : Prop where
  calls_first : ∀ n, FirstSuccess f n →
    (c.retryWithBackoff f).calls = min (c.maxRetries + 1) (n + 1)
  calls_never : (∀ n, ∃ e, f n = .error e) → (c.retryWithBackoff f).calls = c.maxRetries + 1
  result_eq : (c.retryWithBackoff f).result = f ((c.retryWithBackoff f).calls - 1)
  capped : ∀ d ∈ (c.retryWithBackoff f).slept, d ≤ c.maxDelayMs
  sorted : 1 ≤ c.multiplier → (c.retryWithBackoff f).slept.Pairwise (· ≤ ·)

/-- The loop stops at the first success. -/
theorem Ended.eq_first {n m : ℕ} {r : Retried ε α} (h : Ended c f n r) (hm : FirstSuccess f m) :
    n = min c.maxRetries m := by
  obtain ⟨⟨a, ha⟩, hfail⟩ := hm
  have hle : n ≤ m := by
    by_contra hlt
    obtain ⟨e, he⟩ := h.failed m (by omega)
    cases ha.symm.trans he
  obtain ⟨b, hb⟩ | hlast := h.last
  · have hge : m ≤ n := by
      by_contra hlt
      obtain ⟨e, he⟩ := hfail n (by omega)
      cases hb.symm.trans he
    have hmax := h.le
    omega
  · omega

theorem Ended.eq_max {n : ℕ} {r : Retried ε α} (h : Ended c f n r)
    (hnever : ∀ i, ∃ e, f i = .error e) :
    n = c.maxRetries := by
  obtain ⟨a, ha⟩ | hlast := h.last
  · obtain ⟨e, he⟩ := hnever n
    cases ha.symm.trans he
  · exact hlast

/-- Nothing is slept if the first call succeeds or is the only one. -/
theorem Ended.eq_zero_iff {n : ℕ} {r : Retried ε α} (h : Ended c f n r) :
    n = 0 ↔ c.maxRetries = 0 ∨ ∃ a, f 0 = .ok a := by
  constructor
  · rintro rfl
    exact h.last.symm.imp_left Eq.symm
  · rintro (hzero | ⟨a, ha⟩)
    · have hle := h.le
      omega
    · by_contra hpos
      obtain ⟨e, he⟩ := h.failed 0 (by omega)
      cases ha.symm.trans he

/-- The delays stay under the cap exactly when the first one does or none is slept. -/
theorem retriesRight_iff (c : RetryConfig) (f : ℕ → Except ε α) :
    RetriesRight c f ↔
      c.initialDelayMs ≤ c.maxDelayMs ∨ c.maxRetries = 0 ∨ ∃ a, f 0 = .ok a := by
  obtain ⟨n, h⟩ := ended_retryWithBackoff c f
  rw [← h.eq_zero_iff]
  constructor
  · intro hright
    obtain rfl | hpos := Nat.eq_zero_or_pos n
    · -- a delay was slept, so the cap holds for the first one
      exact Or.inr rfl
    · refine Or.inl (hright.capped _ ?_)
      rw [h.slept_eq]
      exact List.mem_map.mpr ⟨0, List.mem_range.mpr hpos, rfl⟩
  · intro hcond
    refine ⟨?_, ?_, ?_, ?_, ?_⟩
    · intro m hm
      rw [h.calls_eq, h.eq_first hm]
      omega
    · intro hnever
      rw [h.calls_eq, h.eq_max hnever]
    · rw [h.calls_eq, h.result_eq]
      rfl
    · rw [h.slept_eq]
      intro d hd
      obtain ⟨i, hi, rfl⟩ := List.mem_map.mp hd
      -- each delay is the least of the cap and the doubled one before
      obtain hle | rfl := hcond
      · exact iterate_le hle i
      · cases hi
    · intro hm
      rw [h.slept_eq]
      obtain hle | rfl := hcond
      · exact List.pairwise_map.mpr (List.pairwise_lt_range.imp fun hij =>
          monotone_delays hm hle hij.le)
      · exact List.Pairwise.nil

namespace Sample

/-- The first delay is longer than the cap. -/
def impatient : RetryConfig :=
  ⟨1, 500, 100, 2, by norm_num, by norm_num, by norm_num⟩

def down (_ : ℕ) : Except String Unit := .error "down"

theorem first_delay_uncapped :
    (impatient.retryWithBackoff down).slept = [500] ∧
      ¬∀ (c : RetryConfig) (f : ℕ → Except String Unit), RetriesRight c f := by
  have hslept : (impatient.retryWithBackoff down).slept = [500] := by
    obtain ⟨n, h⟩ := ended_retryWithBackoff impatient down
    obtain rfl : n = 1 := h.eq_max fun _ => ⟨"down", rfl⟩
    exact h.slept_eq
  refine ⟨hslept, fun hall => ?_⟩
  have hcapped : 500 ≤ 100 := (hall impatient down).capped 500 (by simp [hslept])
  omega

end Sample

end RetryConfig

end LeadsNebula
