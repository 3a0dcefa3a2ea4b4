/-
Runs of a partial step function.

A system is a step function `step : σ → α → Option σ`: an action that is not
enabled in a state gives `none`.  A run is a list of actions, and every
nondeterministic choice of the system is data of the action, so a run can be
evaluated.

* `run` — the state after a list of actions, if all of them were enabled;
* `Along P` — every step of a run meets `P`, a condition on the state before
  the step and the action;
* `inv_of_run` — what one step preserves under `P`, a run whose steps all meet
  `P` preserves;
* `inv_iff_along` — when a step that does not meet `P` does a damage that
  lasts, a run keeps the invariant only if its steps all meet `P`;
* `along_of_inv`, `along_congr` — from one condition on the steps to another;
* `refines_run` — the runs of a system that refines another one.
-/
import Mathlib.Data.List.Basic

namespace Transition

variable {σ α : Type*} {step : σ → α → Option σ}

/-- The state after the actions of a list, in order. -/
def run (step : σ → α → Option σ) : σ → List α → Option σ
  | s, [] => some s
  | s, a :: as => (step s a).bind fun s' => run step s' as

/-- Every step of the run from `s` meets `P`. -/
def Along (step : σ → α → Option σ) (P : σ → α → Prop) : σ → List α → Prop
  | _, [] => True
  | s, a :: as => P s a ∧ (step s a).elim True fun s' => Along step P s' as

@[simp] theorem run_nil (s : σ) : run step s [] = some s := rfl

theorem run_cons_eq_some {s s' : σ} {a : α} {as : List α} :
    run step s (a :: as) = some s' ↔ ∃ t, step s a = some t ∧ run step t as = some s' := by
  simp only [run, Option.bind_eq_some_iff]

@[simp] theorem along_nil (P : σ → α → Prop) (s : σ) : Along step P s [] := trivial

theorem along_true (s : σ) (as : List α) : Along step (fun _ _ => True) s as := by
  induction as generalizing s with
  | nil => trivial
  | cons a as ih =>
    refine ⟨trivial, ?_⟩
    cases step s a with
    | none => trivial
    | some t => exact ih t

theorem along_cons {P : σ → α → Prop} {s t : σ} {a : α} {as : List α}
    (ht : step s a = some t) (h : Along step P s (a :: as)) : P s a ∧ Along step P t as := by
  simp only [Along, ht, Option.elim_some] at h
  exact h

/-- A condition on the actions alone may be added. -/
theorem along_and {P : σ → α → Prop} {Q : α → Prop} {s : σ} {as : List α}
    (hP : Along step P s as) (hQ : ∀ a ∈ as, Q a) : Along step (fun s a => P s a ∧ Q a) s as := by
  induction as generalizing s with
  | nil => trivial
  | cons a as ih =>
    refine ⟨⟨hP.1, hQ a List.mem_cons_self⟩, ?_⟩
    have hrest := hP.2
    cases h : step s a with
    | none => trivial
    | some t =>
      rw [h] at hrest
      exact ih hrest (fun a ha => hQ a (List.mem_cons_of_mem _ ha))

instance decidableAlong {P : σ → α → Prop} [∀ s a, Decidable (P s a)] :
    ∀ (s : σ) (as : List α), Decidable (Along step P s as)
  | _, [] => inferInstanceAs (Decidable True)
  | s, a :: as =>
    match h : step s a with
    | none => decidable_of_iff (P s a) (by simp [Along, h])
    | some t =>
      have := decidableAlong (P := P) t as
      decidable_of_iff (P s a ∧ Along step P t as) (by simp [Along, h])

/-- The invariant rule for whole runs. -/
theorem inv_of_run {Inv : σ → Prop} {P : σ → α → Prop}
    (hstep : ∀ {s a s'}, Inv s → P s a → step s a = some s' → Inv s') :
    ∀ {as : List α} {s s' : σ}, Inv s → Along step P s as →
      run step s as = some s' → Inv s' := by
  intro as
  induction as with
  | nil =>
    intro s s' hs _ h
    rw [run_nil, Option.some_inj] at h
    exact h ▸ hs
  | cons a as ih =>
    intro s s' hs hP h
    obtain ⟨t, ht, hrun⟩ := run_cons_eq_some.mp h
    obtain ⟨hPa, hPas⟩ := along_cons ht hP
    exact ih (hstep hs hPa ht) hPas hrun

/-- A run keeps an invariant exactly if its steps all meet `P`: a step that does not leaves the
system in a bad state, and no step leads out of these. -/
theorem inv_iff_along {Inv : σ → Prop} (Bad : σ → Prop) {P : σ → α → Prop}
    (hstep : ∀ {s a s'}, Inv s → P s a → step s a = some s' → Inv s')
    (hbreak : ∀ {s a s'}, Inv s → ¬P s a → step s a = some s' → Bad s')
    (hbad : ∀ {s a s'}, Bad s → step s a = some s' → Bad s')
    (hnot : ∀ {s}, Bad s → ¬Inv s) :
    ∀ {as : List α} {s s' : σ}, Inv s → run step s as = some s' →
      (Inv s' ↔ Along step P s as) := by
  have hstay : ∀ {as : List α} {s s' : σ}, Bad s → run step s as = some s' → Bad s' :=
    fun hs hrun => inv_of_run (fun hs _ ht => hbad hs ht) hs (along_true _ _) hrun
  intro as
  induction as with
  | nil =>
    intro s s' hs h
    rw [run_nil, Option.some_inj] at h
    exact ⟨fun _ => trivial, fun _ => h ▸ hs⟩
  | cons a as ih =>
    intro s s' hs h
    obtain ⟨t, ht, hrun⟩ := run_cons_eq_some.mp h
    by_cases hP : P s a
    · rw [ih (hstep hs hP ht) hrun, Along, ht, Option.elim_some, and_iff_right hP]
    · refine ⟨fun h' => ?_, fun h' => absurd h'.1 hP⟩
      exact absurd h' (hnot (hstay (hbreak hs hP ht) hrun))

/-- A condition on the steps of a run gives another one, if an invariant that it keeps does. -/
theorem along_of_inv {Inv : σ → Prop} {P Q : σ → α → Prop}
    (hstep : ∀ {s a s'}, Inv s → P s a → step s a = some s' → Inv s')
    (himp : ∀ {s a}, Inv s → P s a → Q s a) :
    ∀ {as : List α} {s : σ}, Inv s → Along step P s as → Along step Q s as := by
  intro as
  induction as with
  | nil => exact fun _ _ => trivial
  | cons a as ih =>
    intro s hs hP
    refine ⟨himp hs hP.1, ?_⟩
    cases h : step s a with
    | none => trivial
    | some t =>
      obtain ⟨hPa, hPas⟩ := along_cons h hP
      exact ih (hstep hs hPa h) hPas

/-- Two conditions on the steps that agree in the states of an invariant agree on the runs that keep
it. -/
theorem along_congr {Inv : σ → Prop} {P Q R : σ → α → Prop}
    (hstep : ∀ {s a s'}, Inv s → P s a → step s a = some s' → Inv s')
    (hiff : ∀ {s a}, Inv s → P s a → (Q s a ↔ R s a)) :
    ∀ {as : List α} {s : σ}, Inv s → Along step P s as →
      (Along step Q s as ↔ Along step R s as) := by
  intro as
  induction as with
  | nil => exact fun _ _ => Iff.rfl
  | cons a as ih =>
    intro s hs hP
    rw [Along, Along]
    refine and_congr (hiff hs hP.1) ?_
    cases h : step s a with
    | none => exact Iff.rfl
    | some t =>
      obtain ⟨hPa, hPas⟩ := along_cons h hP
      exact ih (hstep hs hPa h) hPas

/-- A run in two parts. -/
theorem run_append {s s' : σ} {as bs : List α} :
    run step s (as ++ bs) = some s' ↔
      ∃ t, run step s as = some t ∧ run step t bs = some s' := by
  induction as generalizing s with
  | nil => simp
  | cons a as ih =>
    rw [List.cons_append, run_cons_eq_some]
    constructor
    · rintro ⟨t, ht, hrun⟩
      obtain ⟨u, hu, hu'⟩ := ih.mp hrun
      exact ⟨u, run_cons_eq_some.mpr ⟨t, ht, hu⟩, hu'⟩
    · rintro ⟨u, hu, hu'⟩
      obtain ⟨t, ht, hrun⟩ := run_cons_eq_some.mp hu
      exact ⟨t, ht, ih.mpr ⟨u, hrun, hu'⟩⟩

/-- The first part of a run. -/
theorem along_append_left {P : σ → α → Prop} {s : σ} {as bs : List α}
    (h : Along step P s (as ++ bs)) : Along step P s as := by
  induction as generalizing s with
  | nil => trivial
  | cons a as ih =>
    refine ⟨h.1, ?_⟩
    cases ht : step s a with
    | none => trivial
    | some t => exact ih (along_cons ht h).2

theorem along_append_right {P : σ → α → Prop} {s t : σ} {as bs : List α}
    (hrun : run step s as = some t) (h : Along step P s (as ++ bs)) : Along step P t bs := by
  induction as generalizing s with
  | nil =>
    obtain rfl := Option.some.inj hrun
    exact h
  | cons a as ih =>
    obtain ⟨s', hs', hrest⟩ := run_cons_eq_some.mp hrun
    exact ih hrest (along_cons hs' h).2

/-- A system whose steps are steps of another one, or change nothing there: so are its runs. -/
theorem refines_run {τ β : Type*} {step' : τ → β → Option τ} {Inv : σ → Prop} {P : σ → α → Prop}
    {Q : τ → β → Prop} (f : σ → τ)
    (hinv : ∀ {s s' a}, Inv s → P s a → step s a = some s' → Inv s')
    (hsim : ∀ {s s' a}, Inv s → P s a → step s a = some s' →
      f s' = f s ∨ ∃ b, Q (f s) b ∧ step' (f s) b = some (f s'))
    {s s' : σ} {as : List α} (hs : Inv s) (hP : Along step P s as)
      (hrun : run step s as = some s') :
    ∃ bs, Along step' Q (f s) bs ∧ run step' (f s) bs = some (f s') := by
  induction as generalizing s with
  | nil =>
    obtain rfl := Option.some.inj hrun
    exact ⟨[], trivial, rfl⟩
  | cons a as ih =>
    obtain ⟨t, ht, hrest⟩ := run_cons_eq_some.mp hrun
    obtain ⟨hPa, hPas⟩ := along_cons ht hP
    obtain ⟨bs, hQ, hbs⟩ := ih (hinv hs hPa ht) hPas hrest
    rcases hsim hs hPa ht with heq | ⟨b, hb, hstep⟩
    · rw [heq] at hQ hbs
      exact ⟨bs, hQ, hbs⟩
    · refine ⟨b :: bs, ⟨hb, ?_⟩, run_cons_eq_some.mpr ⟨f t, hstep, hbs⟩⟩
      rw [hstep]
      exact hQ

/-! ### Lists of threads -/

section Threads

variable {τ : Type*} {l : List τ} {i j : ℕ} {x y : τ}

/-- A thread of the list after thread `i` has moved on. -/
theorem get_set_cases (h : (l.set i x)[j]? = some y) :
    j = i ∧ y = x ∨ j ≠ i ∧ l[j]? = some y := by
  by_cases hij : i = j
  · subst hij
    left
    rw [List.getElem?_set_self'] at h
    obtain ⟨_, -, hx⟩ := Option.map_eq_some_iff.mp h
    exact ⟨rfl, hx.symm⟩
  · right
    rw [List.getElem?_set_ne hij] at h
    exact ⟨Ne.symm hij, h⟩

/-- A thread of the list after a new thread has come. -/
theorem get_concat_cases (h : (l ++ [x])[j]? = some y) : l[j]? = some y ∨ y = x := by
  rw [List.getElem?_append] at h
  split at h
  · exact Or.inl h
  · right
    have hmem := List.mem_of_getElem? h
    rwa [List.mem_singleton] at hmem

/-- Who is where `u` is after a thread that was elsewhere has moved on. -/
theorem mem_set_iff {u : τ} (hi : l[i]? = some x) (hne : x ≠ u) :
    u ∈ l.set i y ↔ u ∈ l ∨ u = y := by
  constructor
  · exact List.mem_or_eq_of_mem_set
  · rintro (hu | rfl)
    · obtain ⟨j, hj⟩ := List.mem_iff_getElem?.mp hu
      have hij : i ≠ j := by
        rintro rfl
        exact hne (Option.some.inj (hi.symm.trans hj))
      exact List.mem_of_getElem? ((List.getElem?_set_ne hij).trans hj)
    · exact List.mem_set (List.getElem?_eq_some_iff.mp hi).1 u

end Threads

end Transition
