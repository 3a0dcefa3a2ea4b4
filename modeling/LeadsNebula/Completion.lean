/-
Collecting the results of concurrent calls.

Calls are made for the elements of a list and complete in some order, a list of
their positions.  `collect` pairs each result with the key of its own call;
`zipCollect` pairs the results, in the order in which they arrive, with the keys
in the order in which the calls were made.

* `zipCollect_eq_collect_iff` — the two agree exactly when every call that gives
  a result completes in a place of its own key (`InPlace`);
* `collect_eq_of_inPlace` — then the order of completion does not matter.
-/
import Mathlib.Data.List.Basic
import Mathlib.Data.List.Perm.Basic

namespace Completion

variable {α β κ : Type*}

/-- The elements of a list in the order in which their calls complete. -/
def inOrder (order : List ℕ) (xs : List α) : List α := order.filterMap (xs[·]?)

theorem inOrder_subset (order : List ℕ) (l : List α) : inOrder order l ⊆ l := by
  intro a ha
  obtain ⟨i, -, hi⟩ := List.mem_filterMap.mp ha
  exact List.mem_of_getElem? hi

theorem inOrder_range (xs : List α) : inOrder (List.range xs.length) xs = xs := by
  induction xs with
  | nil => rfl
  | cons x xs ih =>
    rw [inOrder, List.length_cons, List.range_succ_eq_map]
    show x :: List.filterMap _ (List.map Nat.succ _) = _
    rw [List.filterMap_map]
    exact congrArg (List.cons x) ih

theorem inOrder_perm {order : List ℕ} {xs : List α}
    (h : order.Perm (List.range xs.length)) : (inOrder order xs).Perm xs := by
  have hp : (inOrder order xs).Perm (inOrder (List.range xs.length) xs) := h.filterMap _
  rw [inOrder_range] at hp
  exact hp

/-- Any of the calls may be the first one to complete. -/
theorem exists_order_cons {xs : List α} {x : α} (h : x ∈ xs) : ∃ order ys,
    order.Perm (List.range xs.length) ∧ inOrder order xs = x :: ys := by
  obtain ⟨i, hi, hx⟩ := List.mem_iff_getElem.mp h
  have hmem : i ∈ List.range xs.length := List.mem_range.mpr hi
  refine ⟨i :: (List.range xs.length).erase i, inOrder ((List.range xs.length).erase i) xs,
    (List.perm_cons_erase hmem).symm, ?_⟩
  rw [inOrder, List.filterMap_cons_some (hx ▸ List.getElem?_eq_getElem hi)]
  rfl

variable (key : α → κ) (out : α → Option β)

/-- The results of the calls, each with the key of its call. -/
def collect (ys : List α) : List (β × κ) :=
  ys.filterMap fun y => (out y).map fun b => (b, key y)

/-- The results of the calls `ys`, paired by position with the keys of `xs`. -/
def zipCollect (xs ys : List α) : List (β × κ) :=
  ((xs.map key).zip (ys.map out)).filterMap fun p => p.2.map fun b => (b, p.1)

/-- The results themselves come as they arrive. -/
theorem map_fst_zipCollect {xs ys : List α} (hlen : xs.length = ys.length) :
    (zipCollect key out xs ys).map Prod.fst = ys.filterMap out := by
  induction xs generalizing ys with
  | nil =>
    rw [List.length_nil, eq_comm, List.length_eq_zero_iff] at hlen
    subst hlen
    rfl
  | cons x xs ih =>
    cases ys with
    | nil => cases hlen
    | cons y ys =>
      have ih := ih (Nat.succ.inj hlen)
      rw [zipCollect] at ih ⊢
      simp only [List.map_cons, List.zip_cons_cons, List.filterMap_cons]
      cases out y with
      | none => exact ih
      | some b => exact congrArg (List.cons b) ih

theorem zipCollect_key_mem {xs ys : List α} {p : β × κ} (h : p ∈ zipCollect key out xs ys) :
    p.2 ∈ xs.map key := by
  obtain ⟨⟨k, o⟩, hzip, hp⟩ := List.mem_filterMap.mp h
  obtain ⟨b, -, rfl⟩ := Option.map_eq_some_iff.mp hp
  exact (List.of_mem_zip hzip).1

/-- If every call gives a result, every key gets one, in its place. -/
theorem map_snd_zipCollect {xs ys : List α} (hlen : xs.length = ys.length)
    (hout : ∀ y ∈ ys, (out y).isSome = true) :
    (zipCollect key out xs ys).map Prod.snd = xs.map key := by
  induction xs generalizing ys with
  | nil =>
    rw [List.length_nil, eq_comm, List.length_eq_zero_iff] at hlen
    subst hlen
    rfl
  | cons x xs ih =>
    cases ys with
    | nil => cases hlen
    | cons y ys =>
      have ih := ih (Nat.succ.inj hlen) fun y' hy' => hout y' (List.mem_cons_of_mem y hy')
      obtain ⟨b, hb⟩ := Option.isSome_iff_exists.mp (hout y List.mem_cons_self)
      rw [zipCollect] at ih ⊢
      simp only [List.map_cons, List.zip_cons_cons, List.filterMap_cons, hb, Option.map_some, ih]

/-- Every call that gives a result is in a place of its own key. -/
def InPlace (xs ys : List α) : Prop := ∀ p ∈ xs.zip ys, (out p.2).isSome = true → key p.1 = key p.2

instance [DecidableEq κ] (xs ys : List α) : Decidable (InPlace key out xs ys) :=
  inferInstanceAs (Decidable (∀ p ∈ xs.zip ys, (out p.2).isSome = true → key p.1 = key p.2))

variable {key out}

theorem inPlace_cons {x y : α} {xs ys : List α} :
    InPlace key out (x :: xs) (y :: ys) ↔
      ((out y).isSome = true → key x = key y) ∧ InPlace key out xs ys := by
  rw [InPlace, List.zip_cons_cons, List.forall_mem_cons]
  rfl

theorem inPlace_refl (xs : List α) : InPlace key out xs xs := by
  induction xs with
  | nil =>
    intro p hp
    cases hp
  | cons x xs ih => exact inPlace_cons.mpr ⟨fun _ => rfl, ih⟩

theorem zipCollect_eq_collect_iff {xs ys : List α} (hlen : xs.length = ys.length) :
    zipCollect key out xs ys = collect key out ys ↔ InPlace key out xs ys := by
  induction xs generalizing ys with
  | nil =>
    rw [List.length_nil, eq_comm, List.length_eq_zero_iff] at hlen
    subst hlen
    exact iff_of_true rfl fun p hp => by cases hp
  | cons x xs ih =>
    cases ys with
    | nil => cases hlen
    | cons y ys =>
      have ih := ih (Nat.succ.inj hlen)
      rw [inPlace_cons, ← ih, zipCollect, collect]
      simp only [List.map_cons, List.zip_cons_cons, List.filterMap_cons]
      cases out y with
      | none => simp [zipCollect, collect]
      | some b => simp [zipCollect, collect]

/-- In their places, the calls that give a result keep the order of `xs`. -/
theorem collect_sublist {xs ys : List α} (hlen : xs.length = ys.length)
    (hkey : ∀ x ∈ xs, ∀ y ∈ ys, key x = key y → x = y) (h : InPlace key out xs ys) :
    (collect key out ys).Sublist (collect key out xs) := by
  induction xs generalizing ys with
  | nil =>
    rw [List.length_nil, eq_comm, List.length_eq_zero_iff] at hlen
    subst hlen
    exact List.Sublist.refl _
  | cons x xs ih =>
    cases ys with
    | nil => cases hlen
    | cons y ys =>
      obtain ⟨hxy, h⟩ := inPlace_cons.mp h
      have ih := ih (Nat.succ.inj hlen) (fun x' hx' y' hy' =>
        hkey x' (List.mem_cons_of_mem _ hx') y' (List.mem_cons_of_mem _ hy')) h
      rw [collect, collect] at ih ⊢
      -- without a result the head only adds to the longer side
      cases hy : out y with
      | none =>
        rw [List.filterMap_cons_none (by rw [hy]; rfl), List.filterMap_cons]
        split
        · exact ih
        · exact ih.cons _
      | some b =>
        -- the head gives a result, so it is in its place
        obtain rfl : x = y :=
          hkey x List.mem_cons_self y List.mem_cons_self (hxy (by rw [hy]; rfl))
        rw [List.filterMap_cons_some (by rw [hy]; rfl), List.filterMap_cons_some (by rw [hy]; rfl)]
        exact ih.cons_cons _

/-- If every call that gives a result completes in its place, the order of completion does not
matter. -/
theorem collect_eq_of_inPlace {xs ys : List α} (hperm : ys.Perm xs)
    (hkey : ∀ x ∈ xs, ∀ y ∈ xs, key x = key y → x = y) (h : InPlace key out xs ys) :
    collect key out ys = collect key out xs := by
  have hsub := collect_sublist hperm.length_eq.symm
    (fun x hx y hy => hkey x hx y (hperm.subset hy)) h
  exact hsub.eq_of_length (hperm.filterMap _).length_eq

end Completion
