/-
Reordering the operations of a run.

`act a s` is the state after operation `a` in state `s`, and `view s` is what of
a state is compared.  Operations that respect the view and keep an invariant may
be reordered where they commute:

* `run_partition` — taking the operations that meet `p` first, and the others
  after them, does not change the view if each operation that meets `p` commutes
  with the others before it;
* `run_flatMap_congr` — blocks of operations may be replaced one by one.
-/
import Mathlib.Data.List.Basic

namespace Reorder

variable {σ α β ι : Type*} (act : α → σ → σ) (view : σ → β) (I : σ → Prop)

/-- The state after the operations of a list, in order. -/
def run (as : List α) (s : σ) : σ := as.foldl (fun s a => act a s) s

/-- An operation keeps the invariant, and its effect on the view depends on the view only. -/
structure Respects (a : α) : Prop where
  inv : ∀ s, I s → I (act a s)
  congr : ∀ s s', view s = view s' → view (act a s) = view (act a s')

/-- The order of two operations does not matter. -/
def Commutes (a b : α) : Prop := ∀ s, I s → view (act b (act a s)) = view (act a (act b s))

variable {act view I}

@[simp] theorem run_nil (s : σ) : run act [] s = s := rfl

@[simp] theorem run_cons (a : α) (as : List α) (s : σ) :
    run act (a :: as) s = run act as (act a s) := rfl

theorem run_append (as bs : List α) (s : σ) :
    run act (as ++ bs) s = run act bs (run act as s) := List.foldl_append

theorem run_inv {as : List α} (h : ∀ a ∈ as, Respects act view I a) {s : σ} (hs : I s) :
    I (run act as s) := by
  induction as generalizing s with
  | nil => exact hs
  | cons a as ih =>
    rw [List.forall_mem_cons] at h
    exact ih h.2 (h.1.inv s hs)

theorem run_congr {as : List α} (h : ∀ a ∈ as, Respects act view I a) {s s' : σ}
    (hv : view s = view s') : view (run act as s) = view (run act as s') := by
  induction as generalizing s s' with
  | nil => exact hv
  | cons a as ih =>
    rw [List.forall_mem_cons] at h
    exact ih h.2 (h.1.congr s s' hv)

/-- An operation may be moved to the front of those it commutes with. -/
theorem run_moveFront {a : α} {bs : List α} (hbs : ∀ b ∈ bs, Respects act view I b)
    (hcomm : ∀ b ∈ bs, Commutes act view I a b) {s : σ} (hs : I s) :
    view (run act (bs ++ [a]) s) = view (run act (a :: bs) s) := by
  induction bs generalizing s with
  | nil => rfl
  | cons b bs ih =>
    rw [List.forall_mem_cons] at hbs hcomm
    calc view (run act (b :: bs ++ [a]) s)
        = view (run act bs (act a (act b s))) := ih hbs.2 hcomm.2 (hbs.1.inv s hs)
      _ = view (run act bs (act b (act a s))) := run_congr hbs.2 (hcomm.1 s hs).symm

theorem run_partition (p : α → Bool) {as : List α} (h : ∀ a ∈ as, Respects act view I a)
    (hcomm : as.Pairwise fun a b => p a = false → p b = true → Commutes act view I a b)
    {s : σ} (hs : I s) :
    view (run act (as.filter p ++ as.filter fun a => !p a) s) = view (run act as s) := by
  induction as generalizing s with
  | nil => rfl
  | cons a as ih =>
    rw [List.forall_mem_cons] at h
    rw [List.pairwise_cons] at hcomm
    have ih' := ih h.2 hcomm.2 (h.1.inv s hs)
    by_cases hp : p a = true
    · simp only [List.filter_cons, hp, if_true, Bool.not_true, Bool.false_eq_true, if_false]
      exact ih'
    · -- the operation stands behind those that meet `p`: move it to the front first
      rw [Bool.not_eq_true] at hp
      simp only [List.filter_cons, hp, Bool.false_eq_true, if_false, Bool.not_false, if_true]
      have hfront : view (run act (as.filter p ++ [a]) s) =
          view (run act (a :: as.filter p) s) := by
        refine run_moveFront (fun b hb => h.2 b (List.mem_of_mem_filter hb)) ?_ hs
        intro b hb
        rw [List.mem_filter] at hb
        exact hcomm.1 b hb.1 hp hb.2
      have hrest : ∀ b ∈ as.filter fun b => !p b, Respects act view I b :=
        fun b hb => h.2 b (List.mem_of_mem_filter hb)
      calc view (run act (as.filter p ++ a :: as.filter fun b => !p b) s)
          = view (run act (as.filter fun b => !p b) (run act (as.filter p ++ [a]) s)) := by
            rw [List.append_cons, run_append]
        _ = view (run act (as.filter fun b => !p b) (run act (as.filter p) (act a s))) :=
            run_congr hrest hfront
        _ = view (run act as (act a s)) := by rw [← run_append, ih']

theorem run_flatMap_congr {f g : ι → List α} {xs : List ι}
    (hf : ∀ x ∈ xs, ∀ a ∈ f x, Respects act view I a)
    (hg : ∀ x ∈ xs, ∀ a ∈ g x, Respects act view I a)
    (h : ∀ x ∈ xs, ∀ s, I s → view (run act (f x) s) = view (run act (g x) s))
    {s : σ} (hs : I s) :
    view (run act (xs.flatMap f) s) = view (run act (xs.flatMap g) s) := by
  induction xs generalizing s with
  | nil => rfl
  | cons x xs ih =>
    rw [List.forall_mem_cons] at hf hg h
    rw [List.flatMap_cons, List.flatMap_cons, run_append, run_append]
    have hrest : ∀ a ∈ xs.flatMap g, Respects act view I a := by
      intro a ha
      obtain ⟨y, hy, hay⟩ := List.mem_flatMap.mp ha
      exact hg.2 y hy a hay
    rw [ih hf.2 hg.2 h.2 (run_inv hf.1 hs)]
    exact run_congr hrest (h.1 s hs)

end Reorder
