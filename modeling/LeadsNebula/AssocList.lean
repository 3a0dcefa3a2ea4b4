/-
Association lists.

* `mem_of_lookup`, `lookup_of_mem` — what is found is in the list, and with distinct
  keys what is in the list is found;
* `lookup_filterMap_field` — values chosen key by key.
-/
import Mathlib.Data.List.Basic

namespace AssocList

variable {κ α β : Type*}

theorem map_fst_filterMap_sublist {l : List (κ × α)} (g : κ → α → Option β) :
    ((l.filterMap fun p => (g p.1 p.2).map fun v => (p.1, v)).map Prod.fst).Sublist
      (l.map Prod.fst) := by
  induction l with
  | nil => exact List.Sublist.refl []
  | cons p l ih =>
    rw [List.filterMap_cons]
    cases g p.1 p.2 with
    | none => exact ih.cons p.1
    | some v => exact ih.cons_cons p.1

variable [DecidableEq κ]

theorem mem_of_lookup {k : κ} {v : α} {l : List (κ × α)}
    (h : l.lookup k = some v) : (k, v) ∈ l := by
  obtain ⟨l₁, l₂, rfl, -⟩ := List.lookup_eq_some_iff.mp h
  exact List.mem_append_right l₁ List.mem_cons_self

/-- Among distinct keys every one is found. -/
theorem lookup_of_mem {k : κ} {v : α} {l : List (κ × α)} (hkeys : (l.map Prod.fst).Nodup)
    (h : (k, v) ∈ l) : l.lookup k = some v := by
  obtain ⟨l₁, l₂, rfl⟩ := List.append_of_mem h
  refine List.lookup_eq_some_iff.mpr ⟨l₁, l₂, rfl, fun p hp => ?_⟩
  rw [List.map_append, List.nodup_append] at hkeys
  refine bne_iff_ne.mpr fun hk => ?_
  exact hkeys.2.2 p.1 (List.mem_map.mpr ⟨p, hp, rfl⟩) k (List.mem_map.mpr ⟨(k, v),
    List.mem_cons_self, rfl⟩) hk.symm

theorem lookup_eq_none_of_notMem {k : κ} {l : List (κ × α)} (h : k ∉ l.map Prod.fst) :
    l.lookup k = none := by
  rw [List.lookup_eq_none_iff]
  intro p hp
  exact bne_iff_ne.mpr fun heq => h (List.mem_map.mpr ⟨p, hp, heq.symm⟩)

/-- Values chosen key by key, from distinct keys. -/
theorem lookup_filterMap_field {l : List (κ × α)} (g : κ → α → Option β)
    (h : (l.map Prod.fst).Nodup) (k : κ) :
    (l.filterMap fun p => (g p.1 p.2).map fun v => (p.1, v)).lookup
      k = (l.lookup k).bind (g k) := by
  induction l with
  | nil => rfl
  | cons p l ih =>
    obtain ⟨k₀, a⟩ := p
    obtain ⟨hk₀, htail⟩ := List.nodup_cons.mp h
    rw [List.filterMap_cons]
    by_cases hk : k = k₀
    · subst hk
      rw [List.lookup_cons_self, Option.bind_some]
      cases hg : g k a with
      | none =>
        exact (ih htail).trans (by rw [lookup_eq_none_of_notMem hk₀, Option.bind_none])
      | some v => exact List.lookup_cons_self
    · have hne : (k == k₀) = false := beq_eq_false_iff_ne.mpr hk
      rw [List.lookup_cons, hne]
      cases g k₀ a with
      | none => exact ih htail
      | some v =>
        simp only [Option.map_some]
        rw [List.lookup_cons, hne]
        exact ih htail

/-- What is left without a key. -/
theorem lookup_filter_ne (k k' : κ) (l : List (κ × α)) :
    (l.filter (·.1 ≠ k)).lookup k' = if k' = k then none else l.lookup k' := by
  induction l with
  | nil => simp
  | cons p l ih =>
    obtain ⟨k₀, a⟩ := p
    by_cases hk₀ : k₀ = k
    · subst hk₀
      rw [List.filter_cons_of_neg (by simp), ih]
      by_cases hk' : k' = k₀
      · rw [if_pos hk', if_pos hk']
      · rw [if_neg hk', if_neg hk', List.lookup_cons, beq_eq_false_iff_ne.mpr hk']
    · rw [List.filter_cons_of_pos (by simpa using hk₀), List.lookup_cons, List.lookup_cons, ih]
      by_cases hk' : k' = k₀
      · subst hk'
        rw [beq_self_eq_true]
        simp [hk₀]
      · rw [beq_eq_false_iff_ne.mpr hk']

end AssocList
