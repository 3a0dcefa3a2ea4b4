/-
Calls of the circuit breaker that overlap (`core/src/services/retry.rs`).

A success handler reads the state, counts the success and then writes `Closed`, each under
its own lock.  In between, the handler of a failed probe may write `Open`.

* `safe_iff` — the next step changes the state to `Closed` only from `HalfOpen`, unless a
  success handler is about to write `Closed` while the state is `Open`;
* `keepsSafe_iff` — which steps bring that about;
* `reopening_kept_iff` — the same for all the steps of a run.
-/
import LeadsNebula.CircuitBreaker

namespace LeadsNebula

namespace CircuitBreaker

open Interleaving (Sys Action)

/-- A breaker with its calls. -/
abbrev Calls := Sys CircuitBreaker Stage

variable {c : BreakerConfig} {s s' : Calls} {a : Action Moment}

/-- Nobody has called the breaker. -/
def idle : Calls := ⟨.new, []⟩

/-- Whichever call moves next, the state changes to `Closed` only from `HalfOpen`. -/
def Safe (c : BreakerConfig) (s : Calls) : Prop :=
  ∀ a s', Interleaving.step (machine c) s a = some s' →
    s'.shared.state = .closed → s.shared.state ≠ .closed → s.shared.state = .halfOpen

/-- A step to a safe state. -/
def KeepsSafe (c : BreakerConfig) (s : Calls) (a : Action Moment) : Prop :=
  ∀ s', Interleaving.step (machine c) s a = some s' → Safe c s'

/-- The call does not write `Open` while a success handler is about to write `Closed`, and does not
count a success up to the threshold while the state is `Open`. -/
def OnTime (c : BreakerConfig) (s : Calls) : Stage → Prop
  | .reopen | .toOpen => Stage.toClosed ∉ s.threads
  | .countSuccess =>
    s.shared.state = .opened → fetchAdd s.shared.successCount < c.successThreshold
  | _ => True

def Timely (c : BreakerConfig) (s : Calls) : Action Moment → Prop
  | .spawn => True
  | .next i _ => ∀ t, s.threads[i]? = some t → OnTime c s t

/-! ### One step -/

/-- The steps that change the state. -/
theorem write_state (b : CircuitBreaker) (t : Stage) (x : Moment) :
    (write b t x).state =
      match t with
      | .toHalfOpen => .halfOpen
      | .toClosed => .closed
      | .reopen | .toOpen => .opened
      | _ => b.state := by
  cases t <;> rfl

/-- A success handler is about to write `Closed` when it has counted the last success. -/
theorem advance_eq_toClosed {b : CircuitBreaker} {t : Stage} {x : Moment} :
    advance c b t x = some .toClosed ↔
      t = .countSuccess ∧ c.successThreshold ≤ fetchAdd b.successCount := by
  obtain ⟨state, failures, successes, last⟩ := b
  cases t with
  | enter => simp [advance]; split <;> simp
  | readLastFailure =>
    cases last with
    | none => simp [advance]
    | some last => simp [advance]; split <;> simp
  | run => simp [advance]; split <;> simp
  | onSuccess => cases state <;> simp [advance]
  | onFailure => cases state <;> simp [advance]
  | countSuccess => simp [advance]
  | failureTime failures => simp [advance]; split <;> simp
  | _ => simp [advance]

/-- Safe means that no success handler is late. -/
theorem safe_iff : Safe c s ↔ (s.shared.state = .opened → Stage.toClosed ∉ s.threads) := by
  constructor
  · intro hs hopen hmem
    obtain ⟨i, hi⟩ := List.mem_iff_getElem?.mp hmem
    have hstep := Interleaving.step_next (m := machine c) (x := ⟨0, true⟩) hi rfl
    have hhalf : s.shared.state = .halfOpen := hs _ _ hstep rfl (by simp [hopen])
    simp [hopen] at hhalf
  · intro hlate a s' hstep hclosed hchange
    obtain ⟨-, rfl⟩ | ⟨i, x, t, t', -, hi, -, rfl⟩ := Interleaving.step_cases hstep
    · exact absurd hclosed hchange
    · have hwrite : (write s.shared t x).state = .closed := hclosed
      rw [write_state] at hwrite
      cases t with
      | toClosed =>
        cases hstate : s.shared.state with
        | halfOpen => rfl
        | closed => exact absurd hstate hchange
        | opened => exact absurd (List.mem_of_getElem? hi) (hlate hstate)
      | toHalfOpen => cases hwrite
      | reopen => cases hwrite
      | toOpen => cases hwrite
      | _ => exact absurd hwrite hchange

/-- What a call brings about that moves on in a safe state. -/
theorem safe_next_iff {i : ℕ} {t t' : Stage} {x : Moment} (hs : Safe c s)
    (hi : s.threads[i]? = some t)
    (ht : advance c s.shared t x = some t') :
    Safe c ⟨write s.shared t x, s.threads.set i t'⟩ ↔ OnTime c s t := by
  rw [safe_iff] at hs
  have hmem (hne : t ≠ .toClosed) : Stage.toClosed ∉ s.threads.set i t' ↔
      Stage.toClosed ∉ s.threads ∧
        ¬(t = .countSuccess ∧ c.successThreshold ≤ fetchAdd s.shared.successCount) := by
    rw [Transition.mem_set_iff hi hne, not_or, ← advance_eq_toClosed (x := x), ht, Option.some_inj,
      eq_comm (a := t')]
  rw [safe_iff]
  show ((write s.shared t x).state = .opened → Stage.toClosed ∉ s.threads.set i t') ↔ _
  rw [write_state]
  cases t with
  | toClosed => exact iff_of_true (fun h => nomatch h) trivial
  | toHalfOpen => exact iff_of_true (fun h => nomatch h) trivial
  | reopen => simp [hmem, OnTime]
  | toOpen => simp [hmem, OnTime]
  | countSuccess =>
    rw [hmem (fun h => nomatch h)]
    refine forall_congr' fun hopen => ?_
    simp [hs hopen]
  | _ => simpa [hmem, OnTime] using hs

/-- A call that does not move has returned. -/
theorem eq_done_of_advance {b : CircuitBreaker} {t : Stage} {x : Moment}
    (h : advance c b t x = none) : ∃ r, t = .done r := by
  obtain ⟨state, failures, successes, last⟩ := b
  cases t with
  | done r => exact ⟨r, rfl⟩
  | readLastFailure => cases last <;> cases h
  | onSuccess => cases state <;> cases h
  | onFailure => cases state <;> cases h
  | _ => cases h

/-- The steps from a safe state to a safe one. -/
theorem keepsSafe_iff (hs : Safe c s) : KeepsSafe c s a ↔ Timely c s a := by
  cases a with
  | spawn =>
    refine iff_of_true ?_ trivial
    intro s' hstep
    obtain rfl := Option.some.inj hstep
    -- a new call has not read the breaker yet
    rw [safe_iff] at hs ⊢
    intro hopen
    simpa [machine] using hs hopen
  | next i x =>
    cases hi : s.threads[i]? with
    | none =>
      have hstep : Interleaving.step (machine c) s (.next i x) = none := by
        rw [Interleaving.step, hi, Option.bind_none]
      simp [KeepsSafe, Timely, hstep, hi]
    | some t =>
      have htimely : Timely c s (.next i x) ↔ OnTime c s t := by simp [Timely, hi]
      rw [htimely]
      cases ht : advance c s.shared t x with
      | none =>
        -- a finished call takes no step
        obtain ⟨r, rfl⟩ := eq_done_of_advance ht
        have hstep : Interleaving.step (machine c) s (.next i x) = none := by
          rw [Interleaving.step, hi]
          rfl
        refine iff_of_true ?_ trivial
        intro s' h
        rw [hstep] at h
        cases h
      | some t' =>
        have hstep := Interleaving.step_next (m := machine c) hi ht
        rw [KeepsSafe, hstep]
        simp only [Option.some_inj, forall_eq']
        exact safe_next_iff hs hi ht

/-! ### Runs -/

theorem safe_idle (c : BreakerConfig) : Safe c idle := by
  rw [safe_iff]
  intro _
  exact List.not_mem_nil

/-- In a run the state changes to `Closed` only from `HalfOpen`, whatever call moves next, exactly
when its steps are timely. -/
theorem reopening_kept_iff (c : BreakerConfig) (as : List (Action Moment)) :
    Transition.Along (Interleaving.step (machine c)) (KeepsSafe c) idle as ↔
      Transition.Along (Interleaving.step (machine c)) (Timely c) idle as := by
  constructor
  · exact Transition.along_of_inv (fun _ hkeeps hstep => hkeeps _ hstep)
      (fun hs => (keepsSafe_iff hs).mp) (safe_idle c)
  · exact Transition.along_of_inv (fun hs ht hstep => (keepsSafe_iff hs).mpr ht _ hstep)
      (fun hs => (keepsSafe_iff hs).mpr) (safe_idle c)

namespace Sample

/-- A breaker that one failure opens and one success closes, without a timeout. -/
def hasty : BreakerConfig := ⟨1, 1, 0, by decide, by decide⟩

/-- Thread `i` takes `n` steps. -/
def steps (i n : ℕ) (ok : Bool) : List (Action Moment) := List.replicate n (.next i ⟨0, ok⟩)

/-- A failure opens the breaker.  A probe succeeds and its handler reads `HalfOpen`; another probe
fails and writes `Open`; then the first handler counts its success. -/
def lateSuccess : List (Action Moment) :=
  .spawn :: steps 0 6 false ++ .spawn :: steps 1 6 true ++ .spawn :: steps 2
    4 false ++ steps 1 1 true

/-- The next step of that handler closes the breaker that the failed probe has opened. -/
theorem reopening_overwritten :
    ¬∀ (c : BreakerConfig) (as : List (Action Moment)) (s : Calls),
      Transition.run (Interleaving.step (machine c)) idle as = some s → Safe c s := by
  intro hall
  have hsafe := hall hasty lateSuccess _ rfl
  have hhalf := hsafe (.next 1 ⟨0, true⟩) _ rfl rfl (fun h => nomatch h)
  cases hhalf

end Sample

end CircuitBreaker

end LeadsNebula
