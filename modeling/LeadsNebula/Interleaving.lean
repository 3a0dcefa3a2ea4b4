/-
Threads that interleave over a shared state.

A machine says what a thread at some point does next: where it goes, and what it writes
to the shared state, given what the environment supplies for the step.  A system has a
shared state and any number of threads, each of which may take the next step.

* `step_cases` — a step starts a thread, or is the step of one thread;
* `Reaches` — where a thread comes to that runs alone, step by step;
* `Reaches.run` — it comes there in a system in which no other thread moves.
-/
import LeadsNebula.Transition

namespace Interleaving

/-- Where a thread begins, where it goes, and what it writes. -/
structure Machine (σ τ ι : Type*) where
  start : τ
  advance : σ → τ → ι → Option τ
  write : σ → τ → ι → σ

structure Sys (σ τ : Type*) where
  shared : σ
  threads : List τ

inductive Action (ι : Type*) where
  | spawn
  | next (i : ℕ) (x : ι)

variable {σ τ ι : Type*} {m : Machine σ τ ι} {s s' : Sys σ τ} {a : Action ι}

/-- A new thread comes, or thread `i` takes its next step. -/
def step (m : Machine σ τ ι) (s : Sys σ τ) : Action ι → Option (Sys σ τ)
  | .spawn => some ⟨s.shared, s.threads ++ [m.start]⟩
  | .next i x =>
    (s.threads[i]?).bind fun t =>
      (m.advance s.shared t x).map fun t' => ⟨m.write s.shared t x, s.threads.set i t'⟩

theorem step_cases (h : step m s a = some s') :
    (a = .spawn ∧ s' = ⟨s.shared, s.threads ++ [m.start]⟩) ∨
      ∃ i x t t', a = .next i x ∧ s.threads[i]? = some t ∧ m.advance s.shared t x = some t' ∧
        s' = ⟨m.write s.shared t x, s.threads.set i t'⟩ := by
  cases a with
  | spawn => exact Or.inl ⟨rfl, (Option.some.inj h).symm⟩
  | next i x =>
    obtain ⟨t, ht, h⟩ := Option.bind_eq_some_iff.mp h
    obtain ⟨t', ht', rfl⟩ := Option.map_eq_some_iff.mp h
    exact Or.inr ⟨i, x, t, t', rfl, ht, ht', rfl⟩

theorem step_next {i : ℕ} {x : ι} {t t' : τ} (hi : s.threads[i]? = some t)
    (ht : m.advance s.shared t x = some t') :
    step m s (.next i x) = some ⟨m.write s.shared t x, s.threads.set i t'⟩ := by
  rw [step, hi, Option.bind_some, ht, Option.map_some]

/-! ### One thread alone -/

/-- The steps of one thread, while the shared state is its own. -/
def alone (m : Machine σ τ ι) : σ → τ → List ι → Option (σ × τ)
  | sh, t, [] => some (sh, t)
  | sh, t, x :: xs => (m.advance sh t x).bind fun t' => alone m (m.write sh t x) t' xs

/-- Alone, a thread comes to a point with a shared state. -/
def Reaches (m : Machine σ τ ι) (sh : σ) (t : τ) (r : σ × τ) : Prop := ∃ xs,
    alone m sh t xs = some r

theorem Reaches.refl (sh : σ) (t : τ) : Reaches m sh t (sh, t) := ⟨[], rfl⟩

theorem Reaches.step {sh : σ} {t t' : τ} {r : σ × τ} (x : ι) (h : m.advance sh t x = some t')
    (hr : Reaches m (m.write sh t x) t' r) : Reaches m sh t r := by
  obtain ⟨xs, hxs⟩ := hr
  refine ⟨x :: xs, ?_⟩
  rw [alone, h, Option.bind_some, hxs]

theorem run_alone {i : ℕ} {t t' : τ} {sh : σ} {xs : List ι} (hi : s.threads[i]? = some t)
    (h : alone m s.shared t xs = some (sh, t')) :
    Transition.run (step m) s (xs.map (.next i)) = some ⟨sh, s.threads.set i t'⟩ := by
  induction xs generalizing s t with
  | nil =>
    obtain ⟨rfl, rfl⟩ := Prod.mk.inj (Option.some.inj h)
    obtain ⟨hlt, rfl⟩ := List.getElem?_eq_some_iff.mp hi
    rw [List.set_getElem_self]
    rfl
  | cons x xs ih =>
    obtain ⟨t₁, ht₁, h⟩ := Option.bind_eq_some_iff.mp h
    have hlt : i < s.threads.length := (List.getElem?_eq_some_iff.mp hi).1
    rw [List.map_cons, Transition.run_cons_eq_some]
    refine ⟨_, step_next hi ht₁, ?_⟩
    have hrest := ih (s := ⟨m.write s.shared t x, s.threads.set i t₁⟩)
      (List.getElem?_set_self hlt) h
    rw [hrest, List.set_set]

/-- In a system the other threads stay where they are. -/
theorem Reaches.run {i : ℕ} {t t' : τ} {sh : σ} (hi : s.threads[i]? = some t)
    (h : Reaches m s.shared t (sh, t')) :
    ∃ xs : List ι, Transition.run (Interleaving.step m) s (xs.map (.next i)) =
      some ⟨sh, s.threads.set i t'⟩ := by
  obtain ⟨xs, hxs⟩ := h
  exact ⟨xs, run_alone hi hxs⟩

end Interleaving
