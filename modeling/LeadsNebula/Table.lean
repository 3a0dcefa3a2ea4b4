/-
Tables with a primary key.

A `Table key` is a list of rows whose keys are pairwise different, the way a
relational table with a primary key is.  The operations are those of SQL:

* `find` — the row with a given key;
* `select` — the first row that meets a condition;
* `update p f` — `UPDATE … SET f WHERE p`: every row that meets `p` is replaced,
  keys are kept;
* `insert` — adds a row, and does nothing when its key is taken;
* `filter` — the rows that meet a condition.

`find_update` and `find_insert` say what an operation does to the row of one
key; every argument about a single row goes through them.  `filter_update`,
`filter_insert` and `rows_filter_filter` say how the operations act on a part of
the rows.
-/
import Mathlib.Data.List.Nodup

variable {κ ρ : Type*}

/-- Rows with pairwise different keys. -/
structure Table (key : ρ → κ) where
  rows : List ρ
  nodup : (rows.map key).Nodup

namespace Table

variable {key : ρ → κ}

@[ext] theorem ext {t t' : Table key} (h : t.rows = t'.rows) : t = t' := by
  obtain ⟨rows, nodup⟩ := t
  obtain ⟨rows', nodup'⟩ := t'
  subst h
  rfl

/-- The table without rows. -/
def empty : Table key := ⟨[], List.nodup_nil⟩

instance : Inhabited (Table key) := ⟨empty⟩

/-- The first row that meets `p`. -/
def select (t : Table key) (p : ρ → Bool) : Option ρ := t.rows.find? p

/-- `UPDATE … SET f WHERE p`. -/
def update (t : Table key) (p : ρ → Bool) (f : ρ → ρ) (hf : ∀ r, key (f r) = key r) :
    Table key where
  rows := t.rows.map fun r => if p r then f r else r
  nodup := by
    have h : (key ∘ fun r => if p r then f r else r) = key := by
      funext r
      simp only [Function.comp_apply]
      split
      · exact hf r
      · rfl
    rw [List.map_map, h]
    exact t.nodup

/-- The rows that meet `p`. -/
def filter (t : Table key) (p : ρ → Bool) : Table key where
  rows := t.rows.filter p
  nodup := t.nodup.sublist (List.filter_sublist.map key)

variable [DecidableEq κ]

/-- The row with key `k`. -/
def find (t : Table key) (k : κ) : Option ρ := t.rows.find? fun r => key r = k

theorem find_key {t : Table key} {k : κ} {r : ρ} (h : t.find k = some r) : key r = k := by
  simpa using List.find?_some h

/-- Adds a row; a row whose key is taken is not added. -/
def insert (t : Table key) (r : ρ) : Table key :=
  if h : key r ∈ t.rows.map key then t
  else ⟨t.rows ++ [r], by
    rw [List.map_append, List.map_singleton]
    exact List.nodup_append.mpr ⟨t.nodup, List.nodup_singleton _, by
      rintro k hk k' hk' rfl
      rw [List.mem_singleton] at hk'
      exact h (hk' ▸ hk)⟩⟩

@[simp] theorem find_empty (k : κ) : (empty : Table key).find k = none := rfl

theorem find_update (t : Table key) (p : ρ → Bool) (f : ρ → ρ) (hf : ∀ r, key (f r) = key r)
    (k : κ) : (t.update p f hf).find k = (t.find k).map fun r => if p r then f r else r := by
  have h : ∀ r, key (if p r then f r else r) = key r := by
    intro r
    split
    · exact hf r
    · rfl
  simp only [find, update, List.find?_map, Function.comp_def, h]

theorem find_update_of_some {t : Table key} {k : κ} {r : ρ} (h : t.find k = some r) (p : ρ → Bool)
    (f : ρ → ρ) (hf : ∀ r, key (f r) = key r) :
    (t.update p f hf).find k = some (if p r then f r else r) := by
  rw [find_update, h, Option.map_some]

/-- A row after an update, which was about it or not. -/
theorem find_update_cases {t : Table key} {k : κ} {r : ρ} (h : t.find k = some r) (p : ρ → Bool)
    (f : ρ → ρ) (hf : ∀ r, key (f r) = key r) :
    ∃ r', (t.update p f hf).find k = some r' ∧ (r' = r ∨ p r = true ∧ r' = f r) := by
  refine ⟨_, find_update_of_some h p f hf, ?_⟩
  split
  · next hp => exact Or.inr ⟨hp, rfl⟩
  · exact Or.inl rfl

theorem find_insert (t : Table key) (r : ρ) (k : κ) :
    (t.insert r).find k = (t.find k).or (if key r = k then some r else none) := by
  rw [insert]
  split
  · next h =>
    -- the key is taken: the row of that key was there before
    by_cases hk : key r = k
    · obtain ⟨r', hr', hkey⟩ := List.mem_map.mp h
      have hsome : (t.find k).isSome := by
        rw [find, List.find?_isSome]
        exact ⟨r', hr', by simp [hkey, hk]⟩
      obtain ⟨r₀, hr₀⟩ := Option.isSome_iff_exists.mp hsome
      rw [hr₀, Option.some_or]
    · rw [if_neg hk, Option.or_none]
  · simp only [find, List.find?_append, List.find?_singleton]
    simp

/-- A row is in the table exactly when it is the row of its key. -/
theorem find_eq_some_iff {t : Table key} {k : κ} {r : ρ} :
    t.find k = some r ↔ r ∈ t.rows ∧ key r = k := by
  constructor
  · intro h
    exact ⟨List.mem_of_find?_eq_some h, find_key h⟩
  · rintro ⟨hmem, rfl⟩
    obtain ⟨r', hr'⟩ : ∃ r', t.find (key r) = some r' := by
      refine Option.isSome_iff_exists.mp (List.find?_isSome.mpr ⟨r, hmem, ?_⟩)
      simp
    have heq : r' = r :=
      List.inj_on_of_nodup_map t.nodup (List.mem_of_find?_eq_some hr') hmem (find_key hr')
    rw [hr', heq]

theorem find_filter (t : Table key) (p : ρ → Bool) (k : κ) :
    (t.filter p).find k = (t.find k).filter p := by
  refine Option.ext fun r => ?_
  rw [find_eq_some_iff, Option.filter_eq_some_iff, find_eq_some_iff]
  show r ∈ t.rows.filter p ∧ _ ↔ _
  rw [List.mem_filter]
  constructor
  · rintro ⟨⟨hr, hp⟩, hk⟩
    exact ⟨⟨hr, hk⟩, hp⟩
  · rintro ⟨⟨hr, hk⟩, hp⟩
    exact ⟨⟨hr, hp⟩, hk⟩

theorem find_insert_of_some {t : Table key} {k : κ} {r : ρ} (h : t.find k = some r) (r₀ : ρ) :
    (t.insert r₀).find k = some r := by
  rw [find_insert, h, Option.some_or]

omit [DecidableEq κ] in
theorem mem_update {t : Table key} {p : ρ → Bool} {f : ρ → ρ} (hf : ∀ r, key (f r) = key r) {r : ρ}
    (h : r ∈ (t.update p f hf).rows) :
    (r ∈ t.rows ∧ p r = false) ∨ ∃ r₀ ∈ t.rows, p r₀ = true ∧ r = f r₀ := by
  obtain ⟨r₀, hr₀, heq⟩ := List.mem_map.mp h
  by_cases hp : p r₀ = true
  · rw [if_pos hp] at heq
    exact Or.inr ⟨r₀, hr₀, hp, heq.symm⟩
  · rw [if_neg hp] at heq
    subst heq
    exact Or.inl ⟨hr₀, Bool.not_eq_true _ ▸ hp⟩

theorem rows_insert (t : Table key) (r : ρ) :
    (t.insert r).rows = t.rows ∨ (t.insert r).rows = t.rows ++ [r] := by
  rw [insert]
  split
  · exact Or.inl rfl
  · exact Or.inr rfl

theorem mem_insert {t : Table key} {r₀ r : ρ} (h : r ∈ (t.insert r₀).rows) :
    r ∈ t.rows ∨ r = r₀ := by
  rw [insert] at h
  split at h
  · exact Or.inl h
  · rw [List.mem_append, List.mem_singleton] at h
    exact h

/-! ### Parts of a table -/

omit [DecidableEq κ] in
/-- A condition that no row of the other part meets selects the same rows of a part. -/
theorem rows_filter_filter {t : Table key} {g p : ρ → Bool}
    (h : ∀ r ∈ t.rows, g r = false → p r = false) :
    (t.filter g).rows.filter p = t.rows.filter p := by
  rw [filter, List.filter_filter]
  refine List.filter_congr fun r hr => ?_
  cases hg : g r with
  | true => rw [Bool.and_true]
  | false => rw [Bool.and_false, h r hr hg]

omit [DecidableEq κ] in
/-- An update that moves no row into or out of a part updates the part. -/
theorem filter_update {t : Table key} {g p : ρ → Bool} {f : ρ → ρ} (hf : ∀ r, key (f r) = key r)
    (h : ∀ r ∈ t.rows, p r = true → g (f r) = g r) :
    (t.update p f hf).filter g = (t.filter g).update p f hf := by
  ext1
  simp only [filter, update, List.filter_map]
  congr 1
  refine List.filter_congr fun r hr => ?_
  rw [Function.comp_apply]
  split
  · next hp => exact h r hr hp
  · rfl

omit [DecidableEq κ] in
/-- An update of no row. -/
theorem update_eq_self {t : Table key} {p : ρ → Bool} {f : ρ → ρ} (hf : ∀ r, key (f r) = key r)
    (h : ∀ r ∈ t.rows, p r = false) : t.update p f hf = t := by
  ext1
  refine (List.map_congr_left fun r hr => ?_).trans (List.map_id _)
  rw [h r hr]
  rfl

/-- A new row of a part, unless its key is taken by another row. -/
theorem filter_insert {t : Table key} {g : ρ → Bool} {r : ρ} (hr : g r = true)
    (h : ∀ r' ∈ t.rows, g r' = false → key r' ≠ key r) :
    (t.insert r).filter g = (t.filter g).insert r := by
  have hmem : key r ∈ (t.filter g).rows.map key ↔ key r ∈ t.rows.map key := by
    simp only [filter, List.mem_map, List.mem_filter]
    constructor
    · rintro ⟨r', ⟨hmem, -⟩, hkey⟩
      exact ⟨r', hmem, hkey⟩
    · rintro ⟨r', hmem, hkey⟩
      refine ⟨r', ⟨hmem, ?_⟩, hkey⟩
      by_contra hg
      exact h r' hmem (Bool.not_eq_true _ ▸ hg) hkey
  ext1
  by_cases hk : key r ∈ t.rows.map key
  · rw [insert, dif_pos hk, insert, dif_pos (hmem.mpr hk)]
  · rw [insert, dif_neg hk, insert, dif_neg (mt hmem.mp hk)]
    simp only [filter, List.filter_append, List.filter_cons, hr, if_true, List.filter_nil]

/-- A new row outside of a part. -/
theorem filter_insert_of_not {t : Table key} {g : ρ → Bool} {r : ρ} (hr : g r = false) :
    (t.insert r).filter g = t.filter g := by
  ext1
  rw [insert]
  split
  · rfl
  · simp [filter, List.filter_append, hr]

omit [DecidableEq κ] in
theorem select_mem {t : Table key} {p : ρ → Bool} {r : ρ} (h : t.select p = some r) :
    r ∈ t.rows ∧ p r = true :=
  ⟨List.mem_of_find?_eq_some h, List.find?_some h⟩

/-- A selected row is the row of its key. -/
theorem find_of_select {t : Table key} {p : ρ → Bool} {r : ρ} (h : t.select p = some r) :
    t.find (key r) = some r :=
  find_eq_some_iff.mpr ⟨(select_mem h).1, rfl⟩

end Table
