/-
A cache whose entries expire.

An entry can be read for `ttl` units of time after it was stored, unless it is
evicted before.  `All` says that whatever can still be read meets a predicate;
storing a value that meets it, evicting and the passing of time keep it.
-/
import Mathlib.Data.Nat.Notation
import Mathlib.Logic.Function.Basic

variable {κ ν : Type*}

structure CacheEntry (ν : Type*) where
  value : ν
  storedAt : ℕ

/-- The entries of a cache, by key. -/
structure TtlCache (κ ν : Type*) where
  entries : κ → Option (CacheEntry ν)

namespace TtlCache

variable (ttl now : ℕ) (c : TtlCache κ ν)

def empty : TtlCache κ ν := ⟨fun _ => none⟩

/-- The value of a key, if it has not expired. -/
def get (k : κ) : Option ν :=
  (c.entries k).bind fun e => if now < e.storedAt + ttl then some e.value else none

variable [DecidableEq κ]

def insert (k : κ) (v : ν) : TtlCache κ ν := ⟨Function.update c.entries k (some ⟨v, now⟩)⟩

def evict (k : κ) : TtlCache κ ν := ⟨Function.update c.entries k none⟩

omit [DecidableEq κ] in
/-- Whatever can be read at time `now` meets `Q`. -/
def All (Q : κ → ν → Prop) : Prop := ∀ k v, c.get ttl now k = some v → Q k v

variable {ttl now c}

omit [DecidableEq κ] in
theorem get_eq_some {k : κ} {v : ν} :
    c.get ttl now k = some v ↔ ∃ t, c.entries k = some ⟨v, t⟩ ∧ now < t + ttl := by
  rw [get, Option.bind_eq_some_iff]
  constructor
  · rintro ⟨⟨v', t⟩, he, h⟩
    split at h
    · next hlive => exact ⟨t, Option.some_inj.mp h ▸ he, hlive⟩
    · cases h
  · rintro ⟨t, he, hlive⟩
    exact ⟨⟨v, t⟩, he, if_pos hlive⟩

theorem get_insert_of_ne {k k' : κ} (hk : k' ≠ k) (v : ν) (t : ℕ) :
    (c.insert t k v).get ttl now k' = c.get ttl now k' := by
  simp only [get, insert, Function.update_of_ne hk]

theorem get_insert_self (httl : 0 < ttl) (k : κ) (v : ν) :
    (c.insert now k v).get ttl now k = some v := by
  simp only [get, insert, Function.update_self, Option.bind_some]
  exact if_pos (by omega)

theorem get_evict_self (k : κ) : (c.evict k).get ttl now k = none := by
  simp only [get, evict, Function.update_self, Option.bind_none]

theorem get_evict_of_ne {k k' : κ} (hk : k' ≠ k) :
    (c.evict k).get ttl now k' = c.get ttl now k' := by
  simp only [get, evict, Function.update_of_ne hk]

theorem get_evict_eq_none {k k' : κ} (h : c.get ttl now k = none) :
    (c.evict k').get ttl now k = none := by
  by_cases hk : k = k'
  · rw [hk, get_evict_self]
  · rw [get_evict_of_ne hk, h]

omit [DecidableEq κ] in
/-- What cannot be read now cannot be read later. -/
theorem get_eq_none_later {k : κ} (h : c.get ttl now k = none) (d : ℕ) :
    c.get ttl (now + d) k = none := by
  by_contra hne
  obtain ⟨v, hv⟩ := Option.ne_none_iff_exists'.mp hne
  obtain ⟨t, he, hlive⟩ := get_eq_some.mp hv
  have hnow : c.get ttl now k = some v := get_eq_some.mpr ⟨t, he, by omega⟩
  rw [h] at hnow
  cases hnow

omit [DecidableEq κ] in
theorem All.empty (Q : κ → ν → Prop) : (TtlCache.empty : TtlCache κ ν).All ttl now Q := nofun

theorem All.insert {Q : κ → ν → Prop} (h : c.All ttl now Q) {k : κ} {v : ν} (hv : Q k v) :
    (c.insert now k v).All ttl now Q := by
  intro k' v' hget
  obtain ⟨t, he, hlive⟩ := get_eq_some.mp hget
  by_cases hk : k' = k
  · subst hk
    simp only [TtlCache.insert, Function.update_self] at he
    cases he
    exact hv
  · simp only [TtlCache.insert, Function.update_of_ne hk] at he
    exact h k' v' (get_eq_some.mpr ⟨t, he, hlive⟩)

/-- A value that has expired is not asked to meet `Q`. -/
theorem All.insert_expired {Q : κ → ν → Prop} (h : c.All ttl now Q) {t : ℕ} (hexp : t + ttl ≤ now)
    (k : κ) (v : ν) : (c.insert t k v).All ttl now Q := by
  intro k' v' hget
  by_cases hk : k' = k
  · obtain ⟨t', he, hlive⟩ := get_eq_some.mp hget
    simp only [hk, TtlCache.insert, Function.update_self, Option.some_inj,
      CacheEntry.mk.injEq] at he
    omega
  · rw [get_insert_of_ne hk] at hget
    exact h k' v' hget

theorem All.evict {Q : κ → ν → Prop} (h : c.All ttl now Q) (k : κ) : (c.evict k).All ttl now Q := by
  intro k' v' hget
  obtain ⟨t, he, hlive⟩ := get_eq_some.mp hget
  by_cases hk : k' = k
  · simp only [hk, TtlCache.evict, Function.update_self] at he
    cases he
  · simp only [TtlCache.evict, Function.update_of_ne hk] at he
    exact h k' v' (get_eq_some.mpr ⟨t, he, hlive⟩)

omit [DecidableEq κ] in
/-- What can be read later can be read now. -/
theorem All.later {Q : κ → ν → Prop} (h : c.All ttl now Q) (d : ℕ) : c.All ttl (now + d) Q := by
  intro k v hget
  obtain ⟨t, he, hlive⟩ := get_eq_some.mp hget
  exact h k v (get_eq_some.mpr ⟨t, he, by omega⟩)

end TtlCache
