/-
Left joins with a table that has a primary key.

`leftJoin l rows on` pairs every element of `l` with the rows it meets, and with
none if it meets no row.  Where the join condition fixes the primary key of a
table there is at most one such row, and the join is a lookup:

* `filter_key` — the rows with a key;
* `leftJoin_find` — a left join on the primary key is a map of lookups;
* `select_key` — selecting by key and a condition is a lookup.
-/
import LeadsNebula.Table

/-- `LEFT JOIN rows ON …`. -/
def leftJoin {α β : Type*} (l : List α) (rows : List β) (on : α → β → Bool) :
    List (α × Option β) :=
  l.flatMap fun a =>
    match rows.filter (on a) with
    | [] => [(a, none)]
    | found => found.map fun b => (a, some b)

namespace Table

variable {κ ρ : Type*} {key : ρ → κ} [DecidableEq κ] (t : Table key)

theorem select_key (k : κ) (p : ρ → Bool) :
    (t.select fun r => decide (key r = k) && p r) = (t.find k).filter p := by
  refine Option.ext fun r => ?_
  rw [Option.filter_eq_some_iff, find_eq_some_iff]
  constructor
  · intro h
    have hr := List.find?_some h
    rw [Bool.and_eq_true, decide_eq_true_iff] at hr
    exact ⟨⟨List.mem_of_find?_eq_some h, hr.1⟩, hr.2⟩
  · rintro ⟨⟨hmem, hk⟩, hp⟩
    obtain ⟨r', hr'⟩ : ∃ r', (t.select fun r => decide (key r = k) && p r) = some r' := by
      refine Option.isSome_iff_exists.mp (List.find?_isSome.mpr ⟨r, hmem, ?_⟩)
      rw [Bool.and_eq_true, decide_eq_true_iff]
      exact ⟨hk, hp⟩
    have hkey := List.find?_some hr'
    rw [Bool.and_eq_true, decide_eq_true_iff] at hkey
    have heq : r' = r := List.inj_on_of_nodup_map t.nodup (List.mem_of_find?_eq_some hr') hmem
      (hkey.1.trans hk.symm)
    rw [hr', heq]

/-- The rows with a key: one or none. -/
theorem filter_key (k : κ) (p : ρ → Bool) :
    (t.rows.filter fun r => decide (key r = k) && p r) = ((t.find k).filter p).toList := by
  have hnodup : ((t.rows.filter fun r => decide (key r = k) && p r).map key).Nodup :=
    t.nodup.sublist (List.filter_sublist.map key)
  rw [← select_key, select, ← List.head?_filter]
  have hkeys : ∀ r ∈ t.rows.filter fun r => decide (key r = k) && p r, key r = k := by
    intro r hr
    have hp := (List.mem_filter.mp hr).2
    rw [Bool.and_eq_true, decide_eq_true_iff] at hp
    exact hp.1
  generalize t.rows.filter (fun r => decide (key r = k) && p r) = rows at hnodup hkeys
  cases rows with
  | nil => rfl
  | cons r rows =>
    cases rows with
    | nil => rfl
    | cons r' rows =>
      -- two rows would have the same key
      rw [List.map_cons, List.nodup_cons] at hnodup
      have hr : key r = key r' := (hkeys r List.mem_cons_self).trans
        (hkeys r' (List.mem_cons_of_mem _ List.mem_cons_self)).symm
      exact absurd (hr ▸ List.mem_cons_self) hnodup.1

/-- A left join on the primary key pairs each element with the row of its key. -/
theorem leftJoin_find {α : Type*} (l : List α) (k : α → Option κ) (p : ρ → Bool) :
    leftJoin l t.rows (fun a r => decide (k a = some (key r)) && p r) =
      l.map fun a => (a, (k a).bind fun x => (t.find x).filter p) := by
  rw [leftJoin, List.map_eq_flatMap]
  congr 1
  funext a
  cases hk : k a with
  | none =>
    have hnil : t.rows.filter (fun r => decide (none = some (key r)) && p r) = [] := by
      rw [List.filter_eq_nil_iff]
      intro r _
      simp
    rw [hnil]
    rfl
  | some x =>
    have hfilter : t.rows.filter (fun r => decide (some x = some (key r)) && p r) =
        ((t.find x).filter p).toList := by
      rw [← filter_key]
      congr 1
      funext r
      simp only [Option.some_inj, eq_comm]
    rw [hfilter, Option.bind_some]
    cases (t.find x).filter p <;> rfl

end Table
