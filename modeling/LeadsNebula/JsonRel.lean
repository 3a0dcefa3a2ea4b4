/-
JSON values related piece by piece.

`ObjRel R` relates two objects with the same fields in the same order whose
values are related by `R` at their field, and `ArrRel R` two arrays with related
elements.  Readers of JSON respect these relations: a field, a search and a test
over related values find related values.

* `ObjRel.get`, `ArrRel.elements` — fields and elements of related values;
* `forall₂_find?`, `forall₂_any` — searches through related lists;
* `ObjRel.mapField` — an object is related to itself with one field changed.
-/
import LeadsNebula.Json
import Mathlib.Data.List.Forall2

section Lists

variable {α β : Type} {R : α → β → Prop} {p : α → Bool} {q : β → Bool}

/-- Searches that agree on related elements find related elements. -/
theorem forall₂_find? (hpq : ∀ a b, R a b → p a = q b) {l : List α} {l' : List β}
    (h : List.Forall₂ R l l') : Option.Rel R (l.find? p) (l'.find? q) := by
  induction h with
  | nil => exact Option.Rel.none
  | @cons a b l l' hab _ ih =>
    rw [List.find?_cons, List.find?_cons, hpq a b hab]
    cases q b with
    | true => exact Option.Rel.some hab
    | false => exact ih

/-- Tests that agree on related elements agree on related lists. -/
theorem forall₂_any (hpq : ∀ a b, R a b → p a = q b) {l : List α} {l' : List β}
    (h : List.Forall₂ R l l') : l.any p = l'.any q := by
  induction h with
  | nil => rfl
  | @cons a b l l' hab _ ih => rw [List.any_cons, List.any_cons, hpq a b hab, ih]

theorem optionRel_refl {R : α → α → Prop} (hR : ∀ a, R a a) (o : Option α) :
    Option.Rel R o o := by
  cases o with
  | none => exact Option.Rel.none
  | some a => exact Option.Rel.some (hR a)

/-- Tests that agree on related values agree on related options. -/
theorem optionRel_any (hpq : ∀ a b, R a b → p a = q b) {o : Option α} {o' : Option β}
    (h : Option.Rel R o o') : o.any p = o'.any q := by
  cases h with
  | none => rfl
  | some hab => exact hpq _ _ hab

end Lists

/-- Tests of the image of an option agree where the images do. -/
theorem any_of_map_eq {α β : Type} {f : α → β} {o o' : Option α} (h : o.map f = o'.map f)
    {p p' : β → Bool} (hp : ∀ b, p b = p' b) :
    (o.any fun a => p (f a)) = o'.any fun a => p' (f a) := by
  rw [funext hp, ← Option.any_map, h, Option.any_map]

namespace Json

/-- Two objects with the same fields in the same order, whose values are related field by
field. -/
inductive ObjRel (R : String → Json → Json → Prop) : Json → Json → Prop
  | same (j : Json) : ObjRel R j j
  | fields {m m' : List (String × Json)}
      (h : List.Forall₂ (fun f f' => f.1 = f'.1 ∧ R f.1 f.2 f'.2) m m') :
      ObjRel R (.obj m) (.obj m')

/-- Two arrays whose elements are related one by one. -/
inductive ArrRel (R : Json → Json → Prop) : Json → Json → Prop
  | same (j : Json) : ArrRel R j j
  | elems {l l' : List Json} (h : List.Forall₂ R l l') : ArrRel R (.arr l) (.arr l')

theorem lookup_forall₂ {R : String → Json → Json → Prop} {m m' : List (String × Json)}
    (h : List.Forall₂ (fun f f' => f.1 = f'.1 ∧ R f.1 f.2 f'.2) m m') (k : String) :
    Option.Rel (R k) (m.lookup k) (m'.lookup k) := by
  induction h with
  | nil => exact Option.Rel.none
  | @cons f f' m m' hff _ ih =>
    obtain ⟨k₁, v₁⟩ := f
    obtain ⟨k₂, v₂⟩ := f'
    obtain ⟨rfl, hv⟩ : k₁ = k₂ ∧ R k₁ v₁ v₂ := hff
    rw [lookup_cons_ite, lookup_cons_ite]
    by_cases hk : k = k₁
    · subst hk
      rw [if_pos rfl, if_pos rfl]
      exact Option.Rel.some hv
    · rw [if_neg hk, if_neg hk]
      exact ih

/-- A field of related objects. -/
theorem ObjRel.get {R : String → Json → Json → Prop} {j j' : Json} (h : ObjRel R j j')
    (hR : ∀ k v, R k v v) (k : String) : Option.Rel (R k) (j.get k) (j'.get k) := by
  cases h with
  | same => exact optionRel_refl (hR k) _
  | fields h => exact lookup_forall₂ h k

/-- The elements of related arrays. -/
theorem ArrRel.elements {R : Json → Json → Prop} {o o' : Option Json}
    (h : Option.Rel (ArrRel R) o o') (hR : ∀ v, R v v) :
    List.Forall₂ R ((o.bind asArray).getD []) ((o'.bind asArray).getD []) := by
  cases h with
  | none => exact List.Forall₂.nil
  | some h =>
    cases h with
    | same => exact List.forall₂_same.mpr fun v _ => hR v
    | elems h => exact h

/-- The value with every value of the field `k` changed. -/
def mapField (k : String) (f : Json → Json) : Json → Json
  | obj m => obj (m.map fun p => (p.1, if p.1 = k then f p.2 else p.2))
  | j => j

theorem lookup_map_field (k : String) (f : Json → Json) (k' : String)
    (m : List (String × Json)) :
    (m.map fun p => (p.1, if p.1 = k then f p.2 else p.2)).lookup k' =
      if k' = k then (m.lookup k').map f else m.lookup k' := by
  induction m with
  | nil => rw [List.map_nil, List.lookup_nil, Option.map_none, ite_self]
  | cons p m ih =>
    obtain ⟨k₀, v₀⟩ := p
    rw [List.map_cons, lookup_cons_ite, lookup_cons_ite, ih]
    by_cases h : k' = k₀
    · subst h
      rw [if_pos rfl, if_pos rfl]
      by_cases hk : k' = k
      · rw [if_pos hk, if_pos hk, Option.map_some]
      · rw [if_neg hk, if_neg hk]
    · rw [if_neg h, if_neg h]

/-- A field of a value in which one field is changed. -/
theorem get_mapField (k : String) (f : Json → Json) (j : Json) (k' : String) :
    (j.mapField k f).get k' = if k' = k then (j.get k').map f else j.get k' := by
  cases j with
  | obj m => exact lookup_map_field k f k' m
  | null => exact (ite_self none).symm
  | bool b => exact (ite_self none).symm
  | num q => exact (ite_self none).symm
  | str s => exact (ite_self none).symm
  | arr l => exact (ite_self none).symm

/-- A value is related to itself with one field changed, if the change is a related one. -/
theorem ObjRel.mapField {R : String → Json → Json → Prop} (hR : ∀ k v, R k v v) {k : String}
    {f : Json → Json} (hf : ∀ v, R k v (f v)) (j : Json) : ObjRel R j (j.mapField k f) := by
  cases j with
  | obj m =>
    refine ObjRel.fields ?_
    rw [List.forall₂_map_right_iff]
    refine List.forall₂_same.mpr fun p _ => ⟨rfl, ?_⟩
    by_cases hk : p.1 = k
    · rw [if_pos hk, hk]
      exact hf p.2
    · rw [if_neg hk]
      exact hR p.1 p.2
  | null => exact ObjRel.same _
  | bool b => exact ObjRel.same _
  | num q => exact ObjRel.same _
  | str s => exact ObjRel.same _
  | arr l => exact ObjRel.same _

end Json
