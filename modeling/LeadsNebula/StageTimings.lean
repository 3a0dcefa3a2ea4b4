/-
How long the stages of a request take (`core/src/services/diagnostic_metrics.rs`).

The durations of a stage are kept in the order in which they come, the last thousand of
them.  A percentile is an entry of their sorted list; the index of the 99th is divided by
`100.min(len - 1)`.

* `timings_after` — what is kept after a history of records;
* `stagePercentiles_long`, `stagePercentiles_short` — the percentiles of more than a hundred
  durations, and of fewer;
* `hasPercentiles_iff` — when a stage has percentiles.
-/
import LeadsNebula.Fallible
import Mathlib.Data.List.Induction
import Mathlib.Data.List.Sort
import Mathlib.Logic.Function.Basic

namespace LeadsNebula

/-! ### Records -/

/-- `stage_timings`. -/
structure DiagnosticMetrics where
  stageTimings : String → Option (List ℕ)

structure StageTiming where
  stageName : String
  durationMs : ℕ

namespace DiagnosticMetrics

def new : DiagnosticMetrics := ⟨fun _ => none⟩

/-- The last `n` entries. -/
def lastEntries (n : ℕ) (times : List ℕ) : List ℕ := times.drop (times.length - n)

def recordStageTiming (m : DiagnosticMetrics) (r : StageTiming) : DiagnosticMetrics :=
  let times := (m.stageTimings r.stageName).getD [] ++ [r.durationMs]
  let kept := if 1000 < times.length then times.drop (times.length - 1000) else times
  ⟨Function.update m.stageTimings r.stageName (some kept)⟩

/-! ### Percentiles -/

def stagePercentiles (times : List ℕ) : Fallible Empty (ℕ × ℕ × ℕ) := do
  let sorted := times.insertionSort (· ≤ ·)
  let p50 ← Fallible.index sorted (sorted.length * 50 / 100)
  let p95 ← Fallible.index sorted (sorted.length * 95 / 100)
  -- `100.min(..)` is taken before the division
  let i ← Fallible.div (sorted.length * 99) (min 100 (sorted.length - 1))
  let p99 ← Fallible.index sorted i
  return (p50, p95, p99)

def getStagePercentiles (m : DiagnosticMetrics) (stageName : String) :
    Fallible Empty (Option (ℕ × ℕ × ℕ)) :=
  match m.stageTimings stageName with
  | none => .ok none
  | some times =>
    if times = [] then .ok none
    else (stagePercentiles times).bind fun p => .ok (some p)

/-- The metrics after a history of records. -/
def after (history : List StageTiming) : DiagnosticMetrics := history.foldl recordStageTiming new

/-- The durations recorded for a stage. -/
def durations (stageName : String) (history : List StageTiming) : List ℕ :=
  (history.filter fun r => decide (r.stageName = stageName)).map StageTiming.durationMs

/-- The percentiles of a stage are there and in order, are among the last thousand durations, and
depend on nothing but these. -/
def HasPercentiles (stageName : String) (history : List StageTiming) : Prop :=
  (∃ p50 p95 p99, (after history).getStagePercentiles stageName = .ok (some (p50, p95, p99)) ∧
    p50 ≤ p95 ∧ p95 ≤ p99 ∧
    ∀ p ∈ [p50, p95, p99], p ∈ lastEntries 1000 (durations stageName history)) ∧
  ∀ history', (lastEntries 1000 (durations stageName history')).Perm
      (lastEntries 1000 (durations stageName history)) →
    (after history').getStagePercentiles stageName = (after history).getStagePercentiles stageName

/-! ### What is kept -/

variable {times times' : List ℕ} {stageName : String} {history : List StageTiming} {n : ℕ}

theorem lastEntries_of_length_le (h : times.length ≤ n) : lastEntries n times = times := by
  rw [lastEntries, Nat.sub_eq_zero_of_le h, List.drop_zero]

theorem length_lastEntries : (lastEntries n times).length = min times.length n := by
  rw [lastEntries, List.length_drop]
  omega

theorem lastEntries_eq_nil_iff (hn : 0 < n) : lastEntries n times = [] ↔ times = [] := by
  rw [← List.length_eq_zero_iff, length_lastEntries, ← List.length_eq_zero_iff]
  omega

/-- What is forgotten stays forgotten. -/
theorem lastEntries_concat (x : ℕ) :
    lastEntries n (lastEntries n times ++ [x]) = lastEntries n (times ++ [x]) := by
  by_cases h : times.length ≤ n
  · rw [lastEntries_of_length_le h]
  · have hdrop : lastEntries n times ++ [x] = (times ++ [x]).drop (times.length - n) := by
      rw [List.drop_append_of_le_length (Nat.sub_le _ _), lastEntries]
    rw [hdrop, lastEntries, lastEntries, List.drop_drop]
    congr 1
    simp only [List.length_drop, List.length_append, List.length_singleton]
    omega

theorem stageTimings_recordStageTiming (m : DiagnosticMetrics) (r : StageTiming) :
    (m.recordStageTiming r).stageTimings stageName =
      if stageName = r.stageName then
        some (lastEntries 1000 ((m.stageTimings stageName).getD [] ++ [r.durationMs]))
      else m.stageTimings stageName := by
  show Function.update m.stageTimings r.stageName _ stageName = _
  rw [Function.update_apply]
  refine if_ctx_congr Iff.rfl (fun h => ?_) (fun _ => rfl)
  subst h
  refine congrArg some ?_
  split
  · rfl
  · rw [lastEntries_of_length_le (by omega)]

/-- A stage without an entry has kept nothing. -/
theorem getD_kept :
    (if times = [] then none else some (lastEntries n times)).getD [] = lastEntries n times := by
  split
  · next h => rw [h, Option.getD_none, lastEntries_of_length_le (Nat.zero_le n)]
  · rfl

theorem timings_after (stageName : String) (history : List StageTiming) :
    (after history).stageTimings stageName =
      if durations stageName history = [] then none
      else some (lastEntries 1000 (durations stageName history)) := by
  induction history using List.reverseRecOn with
  | nil => rfl
  | append_singleton history r ih =>
    have hafter : after (history ++ [r]) = (after history).recordStageTiming r := by
      rw [after, List.foldl_concat, after]
    rw [hafter, stageTimings_recordStageTiming, ih]
    by_cases h : stageName = r.stageName
    · have hdurations : durations stageName (history ++ [r]) =
          durations stageName history ++ [r.durationMs] := by
        simp [durations, h]
      rw [if_pos h, hdurations, getD_kept, lastEntries_concat, if_neg (by simp)]
    · have hdurations : durations stageName (history ++ [r]) = durations stageName history := by
        simp [durations, Ne.symm h]
      rw [if_neg h, hdurations]

/-! ### The percentiles of a list -/

theorem stagePercentiles_perm (h : times.Perm times') :
    stagePercentiles times = stagePercentiles times' := by
  have hperm : (times.insertionSort (· ≤ ·)).Perm (times'.insertionSort (· ≤ ·)) :=
    ((List.perm_insertionSort _ times).trans h).trans (List.perm_insertionSort _ times').symm
  have hsort : times.insertionSort (· ≤ ·) = times'.insertionSort (· ≤ ·) :=
    List.Perm.eq_of_sortedLE List.sortedLE_insertionSort List.sortedLE_insertionSort hperm
  rw [stagePercentiles, stagePercentiles, hsort]

/-- Of more than a hundred durations. -/
theorem stagePercentiles_long (h : 101 ≤ times.length) :
    ∃ p50 p95 p99, stagePercentiles times = .ok (p50, p95, p99) ∧ p50 ≤ p95 ∧ p95 ≤ p99 ∧
      ∀ p ∈ [p50, p95, p99], p ∈ times := by
  set sorted := times.insertionSort (· ≤ ·) with hsorted
  have hlength : sorted.length = times.length := List.length_insertionSort _ _
  have hle : sorted.SortedLE := List.sortedLE_insertionSort
  have hmem : ∀ p ∈ sorted, p ∈ times := fun p => (List.mem_insertionSort _).mp
  have hmin : min 100 (sorted.length - 1) = 100 := by omega
  have h50 : sorted.length * 50 / 100 < sorted.length := by omega
  have h95 : sorted.length * 95 / 100 < sorted.length := by omega
  have h99 : sorted.length * 99 / 100 < sorted.length := by omega
  refine ⟨sorted[sorted.length * 50 / 100], sorted[sorted.length * 95 / 100],
    sorted[sorted.length * 99 / 100], ?_, ?_, ?_, ?_⟩
  · simp [stagePercentiles, ← hsorted, Fallible.index_eq, h50, h95, h99, hmin, Fallible.div_eq]
  · exact hle.getElem_le_getElem_of_le (by omega)
  · exact hle.getElem_le_getElem_of_le (by omega)
  · intro p hp
    refine hmem p ?_
    simp only [List.mem_cons, List.not_mem_nil, or_false] at hp
    obtain rfl | rfl | rfl := hp <;> exact List.getElem_mem _

/-- Of a hundred or fewer the index of the 99th is not in the list, and for a single one it is not
there at all. -/
theorem stagePercentiles_short (hsome : times ≠ []) (h : times.length ≤ 100) :
    stagePercentiles times = .panic := by
  set sorted := times.insertionSort (· ≤ ·) with hsorted
  have hlength : sorted.length = times.length := List.length_insertionSort _ _
  have hpos : 0 < times.length := List.length_pos_of_ne_nil hsome
  have h50 : sorted.length * 50 / 100 < sorted.length := by omega
  have h95 : sorted.length * 95 / 100 < sorted.length := by omega
  -- the last index is the one that `min` takes, so the 99th percentile divides by it
  have hmin : min 100 (sorted.length - 1) = sorted.length - 1 := by omega
  have hfirst : stagePercentiles times =
      (Fallible.div (sorted.length * 99) (sorted.length - 1)).bind fun i =>
        (Fallible.index sorted i).bind fun p99 =>
          .ok (sorted[sorted.length * 50 / 100], sorted[sorted.length * 95 / 100], p99) := by
    simp [stagePercentiles, ← hsorted, Fallible.index_eq, h50, h95, hmin]
  rw [hfirst]
  -- one duration: a division by zero
  by_cases hone : sorted.length = 1
  · have hdiv : (Fallible.div (sorted.length * 99) (sorted.length - 1) :
      Fallible Empty ℕ) = .panic :=
      Fallible.assert_eq_panic_iff.mpr (by omega)
    rw [hdiv]
    rfl
  · -- up to a hundred: the quotient is past the end
    have hout : sorted.length ≤ sorted.length * 99 / (sorted.length - 1) := by
      rw [Nat.le_div_iff_mul_le (by omega)]
      exact Nat.mul_le_mul_left _ (by omega)
    have hindex : (Fallible.index sorted _ : Fallible Empty ℕ) = .panic :=
      Fallible.index_eq_panic_iff.mpr hout
    rw [Fallible.div_eq (by omega), Fallible.bind_ok, hindex]
    rfl

/-! ### The percentiles of a stage -/

theorem getStagePercentiles_after (hsome : durations stageName history ≠ []) :
    (after history).getStagePercentiles stageName =
      (stagePercentiles (lastEntries 1000 (durations stageName history))).bind fun p =>
        .ok (some p) := by
  have hkept : lastEntries 1000 (durations stageName history) ≠ [] := by
    rwa [Ne, lastEntries_eq_nil_iff (by omega)]
  rw [getStagePercentiles, timings_after, if_neg hsome]
  exact if_neg hkept

/-- A recorded stage has percentiles exactly when more than a hundred durations are recorded. -/
theorem hasPercentiles_iff (hsome : durations stageName history ≠ []) :
    HasPercentiles stageName history ↔ 101 ≤ (durations stageName history).length := by
  have hkept : lastEntries 1000 (durations stageName history) ≠ [] := by
    rwa [Ne, lastEntries_eq_nil_iff (by omega)]
  have hlength : (lastEntries 1000 (durations stageName history)).length =
      min (durations stageName history).length 1000 := length_lastEntries
  rw [HasPercentiles, getStagePercentiles_after hsome]
  constructor
  · rintro ⟨⟨p50, p95, p99, heq, -⟩, -⟩
    -- up to a hundred the percentiles panic
    by_contra hshort
    rw [stagePercentiles_short hkept (by omega)] at heq
    cases heq
  · intro hlong
    have hmany : 101 ≤ (lastEntries 1000 (durations stageName history)).length := by omega
    obtain ⟨p50, p95, p99, heq, h50, h95, hmem⟩ := stagePercentiles_long hmany
    refine ⟨⟨p50, p95, p99, by rw [heq]; rfl, h50, h95, hmem⟩, ?_⟩
    -- above, they depend on the durations and not on their order
    intro history' hperm
    have hsome' : durations stageName history' ≠ [] := by
      intro hnone
      have hnil : lastEntries 1000 (durations stageName history') = [] := by
        rw [lastEntries_eq_nil_iff (by omega), hnone]
      rw [hnil] at hperm
      exact hkept hperm.nil_eq.symm
    rw [getStagePercentiles_after hsome', stagePercentiles_perm hperm]

namespace Sample

theorem hasPercentiles_replicate :
    HasPercentiles "ping_auction" (List.replicate 101 ⟨"ping_auction", 40⟩) := by
  have hdurations : durations "ping_auction" (List.replicate 101 ⟨"ping_auction", 40⟩) =
      List.replicate 101 40 := by
    simp [durations]
  refine (hasPercentiles_iff ?_).mpr ?_
  · rw [hdurations]
    decide
  · rw [hdurations, List.length_replicate]

/-- The stage of a single request. -/
theorem single_timing_panics :
    (after [⟨"ping_auction", 40⟩]).getStagePercentiles "ping_auction" = .panic ∧
      ¬∀ stageName history, durations stageName history ≠ [] →
        HasPercentiles stageName history := by
  have hpanic : (after [⟨"ping_auction", 40⟩]).getStagePercentiles "ping_auction" = .panic := by
    decide
  refine ⟨hpanic, fun hall => ?_⟩
  obtain ⟨⟨p50, p95, p99, heq, -⟩, -⟩ :=
    hall "ping_auction" [⟨"ping_auction", 40⟩] (by decide)
  rw [hpanic] at heq
  cases heq

end Sample

end DiagnosticMetrics

end LeadsNebula
