/-
JSON values and 64-bit floats, as the program handles them.

A `Json` object is a list of fields read by `lookup`; `insertField` replaces a
field or appends it, so a lookup after an insertion is `lookup_insertField`.
`concat` is PostgreSQL's `jsonb || jsonb`.

An `F64` is a float with its special values; a finite float is a rational, and
`F64.nearest` rounds a rational to one that a float has.  Comparison is the IEEE
one: nothing compares with `nan`.  JSON numbers are finite, so writing a float that
is not finite gives `null`.

* `lookup_insertField`, `lookup_mergeFields` — what an insertion and a merge do
  to a field;
* `concat_obj` — concatenating two objects merges their fields;
* `lookup_insertAll` — what setting many fields does to one of them.
-/
import LeadsNebula.BinaryRound
import Mathlib.Data.List.Basic
import Mathlib.Algebra.Group.Nat.Defs
import Mathlib.Data.Rat.Defs
import Mathlib.Algebra.Order.Ring.Unbundled.Rat

/-- A float: the special values, or a finite value. -/
inductive F64 where
  | nan
  | negInf
  | posInf
  | fin (q : ℚ)
  deriving DecidableEq

namespace F64

/-- `partial_cmp`. -/
def partialCmp : F64 → F64 → Option Ordering
  | nan, _ => none
  | _, nan => none
  | negInf, negInf => some .eq
  | negInf, _ => some .lt
  | _, negInf => some .gt
  | posInf, posInf => some .eq
  | posInf, _ => some .gt
  | _, posInf => some .lt
  | fin a, fin b => some (if a < b then .lt else if a = b then .eq else .gt)

/-- `x > 0.0`. -/
def isPos : F64 → Bool
  | nan => false
  | negInf => false
  | posInf => true
  | fin q => 0 < q

/-- `x - y`. -/
def sub : F64 → F64 → F64
  | nan, _ => nan
  | _, nan => nan
  | negInf, negInf => nan
  | posInf, posInf => nan
  | negInf, _ => negInf
  | posInf, _ => posInf
  | fin _, negInf => posInf
  | fin _, posInf => negInf
  | fin a, fin b => fin (a - b)

/-- `x.abs()`. -/
def abs : F64 → F64
  | nan => nan
  | negInf => posInf
  | posInf => posInf
  | fin q => fin (if q < 0 then -q else q)

/-- The finite values changed by a function. -/
def map (f : ℚ → ℚ) : F64 → F64
  | fin q => fin (f q)
  | nan => nan
  | negInf => negInf
  | posInf => posInf

/-- The binary64 number that is next to a rational, without regard to the greatest of them. -/
def nearest (q : ℚ) : ℚ := BinaryRound.roundFrom (-1074) 53 q

/-- `x < y`. -/
def lt (x y : F64) : Bool := x.partialCmp y = some .lt

/-- The number a list of decimal digits stands for. -/
def ofDigits (ds : List Char) : ℕ := ds.foldl (fun n c => 10 * n + (c.toNat - '0'.toNat)) 0

/-- The exponent part of a number: nothing, or `e` with an optional sign and digits. -/
def parseExp : List Char → Option ℤ
  | [] => some 0
  | c :: cs =>
    if c.toLower = 'e' then
      let (neg, ds) := match cs with
        | '-' :: ds => (true, ds)
        | '+' :: ds => (false, ds)
        | ds => (false, ds)
      if ds.isEmpty || !ds.all Char.isDigit then none
      else some (if neg then -(ofDigits ds : ℤ) else ofDigits ds)
    else none

/-- An unsigned decimal number: digits, an optional fraction and an optional exponent. -/
def parseNumber (cs : List Char) : Option ℚ :=
  let (int, rest) := cs.span Char.isDigit
  let (frac, rest) := match rest with
    | '.' :: rest => rest.span Char.isDigit
    | rest => ([], rest)
  if int.isEmpty && frac.isEmpty then none
  else (parseExp rest).map fun e =>
    let d : ℤ := e - frac.length
    ofDigits (int ++ frac) * (if 0 ≤ d then (10 ^ d.toNat : ℕ) else 1 / (10 ^ (-d).toNat : ℕ))

/-- A rational as a float: the nearest one, which from half a unit above the greatest finite
float on is infinite. -/
def ofRat (q : ℚ) : F64 :=
  if ((2 ^ 1024 - 2 ^ 970 : ℕ) : ℚ) ≤ q then posInf
  else if q ≤ -((2 ^ 1024 - 2 ^ 970 : ℕ) : ℚ) then negInf
  else fin (nearest q)

/-- `str::parse::<f64>`. -/
def parse (s : String) : Option F64 :=
  let (neg, cs) := match s.toList with
    | '-' :: cs => (true, cs)
    | '+' :: cs => (false, cs)
    | cs => (false, cs)
  let word := String.ofList (cs.map Char.toLower)
  if word = "inf" ∨ word = "infinity" then some (if neg then negInf else posInf)
  else if word = "nan" then some nan
  else (parseNumber cs).map fun q => ofRat (if neg then -q else q)

example : parse "-12.5e1" = some (fin (-125)) := by decide +kernel

example : parse "9007199254740993" = some (fin 9007199254740992) := by decide +kernel

@[simp] theorem isPos_fin (q : ℚ) : (fin q).isPos = decide (0 < q) := rfl

theorem nearest_neg (q : ℚ) : nearest (-q) = -nearest q := BinaryRound.roundFrom_neg _ _ q

theorem nearest_mono : Monotone nearest := BinaryRound.roundFrom_mono (by decide)

theorem nearest_nearest (q : ℚ) : nearest (nearest q) = nearest q :=
  BinaryRound.roundFrom_roundFrom (by decide) q

/-- What is parsed is a float. -/
theorem nearest_of_parse {s : String} {q : ℚ} (h : parse s = some (fin q)) : nearest q = q := by
  have hofRat : ∀ {r : ℚ}, ofRat r = fin q → nearest q = q := by
    intro r h
    rw [ofRat] at h
    split at h
    · cases h
    · split at h
      · cases h
      · rw [← F64.fin.inj h, nearest_nearest]
  have hsigned : ∀ (neg : Bool) (cs : List Char) (word : String),
      (if word = "inf" ∨ word = "infinity" then some (if neg then negInf else posInf)
        else if word = "nan" then some nan
        else (parseNumber cs).map fun q => ofRat (if neg then -q else q)) = some (fin q) →
      nearest q = q := by
    intro neg cs word h
    split at h
    · cases neg <;> cases h
    · split at h
      · cases h
      · obtain ⟨r, -, hr⟩ := Option.map_eq_some_iff.mp h
        exact hofRat hr
  exact hsigned _ _ _ h

end F64

/-- A JSON value. -/
inductive Json where
  | null
  | bool (b : Bool)
  | num (q : ℚ)
  | str (s : String)
  | arr (elems : List Json)
  | obj (fields : List (String × Json))
  deriving Inhabited

namespace Json

/-- Sets a field of an object: the field is replaced, or appended if it is new. -/
def insertField (k : String) (v : Json) : List (String × Json) → List (String × Json)
  | [] => [(k, v)]
  | (k', v') :: m => if k' = k then (k, v) :: m else (k', v') :: insertField k v m

/-- The fields of two objects together; the second one decides about a common field. -/
def mergeFields (m₁ m₂ : List (String × Json)) : List (String × Json) :=
  m₂.foldl (fun m p => insertField p.1 p.2 m) m₁

/-- The field of an object; other values have no fields. -/
def get : Json → String → Option Json
  | obj m, k => m.lookup k
  | _, _ => none

def asBool : Json → Option Bool
  | bool b => some b
  | _ => none

def asStr : Json → Option String
  | str s => some s
  | _ => none

def asF64 : Json → Option F64
  | num q => some (.fin q)
  | _ => none

def asArray : Json → Option (List Json)
  | arr l => some l
  | _ => none

def asObject : Json → Option (List (String × Json))
  | obj m => some m
  | _ => none

/-- A float as JSON: only finite numbers can be written. -/
def ofF64 : F64 → Json
  | .fin q => num q
  | _ => null

/-- An optional value as JSON. -/
def ofOption {α : Type} (f : α → Json) : Option α → Json
  | some a => f a
  | none => null

/-- A natural number as JSON. -/
def ofNat (n : ℕ) : Json := num n

/-- The array a value is taken for by `concat`. -/
def elements : Json → List Json
  | arr l => l
  | j => [j]

/-- PostgreSQL's `jsonb || jsonb`: two objects are merged, anything else is concatenated
as arrays. -/
def concat : Json → Json → Json
  | obj m₁, obj m₂ => obj (mergeFields m₁ m₂)
  | a, b => arr (a.elements ++ b.elements)

/-- Reading a field of an object, field by field. -/
theorem lookup_cons_ite (k k₀ : String) (v₀ : Json) (m : List (String × Json)) :
    List.lookup k ((k₀, v₀) :: m) = if k = k₀ then some v₀ else m.lookup k := by
  rw [List.lookup_cons]
  by_cases h : k = k₀
  · rw [if_pos h, show (k == k₀) = true from beq_iff_eq.mpr h]
  · rw [if_neg h, show (k == k₀) = false from beq_eq_false_iff_ne.mpr h]

theorem lookup_insertField (k k' : String) (v : Json) (m : List (String × Json)) :
    (insertField k v m).lookup k' = if k' = k then some v else m.lookup k' := by
  induction m with
  | nil => rw [insertField, lookup_cons_ite]
  | cons p m ih =>
    obtain ⟨k₀, v₀⟩ := p
    rw [insertField]
    by_cases h₀ : k₀ = k
    · subst h₀
      rw [if_pos rfl, lookup_cons_ite, lookup_cons_ite]
      by_cases h : k' = k₀ <;> simp only [h, if_true, if_false]
    · rw [if_neg h₀, lookup_cons_ite, lookup_cons_ite, ih]
      by_cases h : k' = k
      · subst h
        rw [if_neg (Ne.symm h₀), if_pos rfl, if_pos rfl]
      · rw [if_neg h, if_neg h]

@[simp] theorem mergeFields_nil (m : List (String × Json)) : mergeFields m [] = m := rfl

@[simp] theorem mergeFields_cons (m m' : List (String × Json)) (k : String) (v : Json) :
    mergeFields m ((k, v) :: m') = mergeFields (insertField k v m) m' := rfl

theorem mem_insertField {p : String × Json} {k : String} {v : Json} {m : List (String × Json)}
    (h : p ∈ insertField k v m) : p = (k, v) ∨ p ∈ m := by
  induction m with
  | nil => exact Or.inl (List.mem_singleton.mp h)
  | cons q m ih =>
    obtain ⟨k', v'⟩ := q
    rw [insertField] at h
    split at h
    · exact (List.mem_cons.mp h).imp_right (List.mem_cons_of_mem _)
    · rcases List.mem_cons.mp h with rfl | h
      · exact Or.inr List.mem_cons_self
      · exact (ih h).imp_right (List.mem_cons_of_mem _)

/-- A field of a merge is one of the fields of the two objects. -/
theorem mem_mergeFields {p : String × Json} {m₁ m₂ : List (String × Json)}
    (h : p ∈ mergeFields m₁ m₂) : p ∈ m₁ ∨ p ∈ m₂ := by
  induction m₂ generalizing m₁ with
  | nil => exact Or.inl h
  | cons q m₂ ih =>
    rw [mergeFields_cons] at h
    rcases ih h with h | h
    · rcases mem_insertField h with rfl | h
      · exact Or.inr List.mem_cons_self
      · exact Or.inl h
    · exact Or.inr (List.mem_cons_of_mem _ h)

/-- A merge keeps the fields that the second object does not have. -/
theorem lookup_mergeFields_of_not_mem {k : String} {m₂ : List (String × Json)}
    (h : k ∉ m₂.map Prod.fst) (m₁ : List (String × Json)) :
    (mergeFields m₁ m₂).lookup k = m₁.lookup k := by
  induction m₂ generalizing m₁ with
  | nil => rfl
  | cons p m₂ ih =>
    obtain ⟨k₀, v₀⟩ := p
    rw [List.map_cons, List.mem_cons, not_or] at h
    rw [mergeFields_cons, ih h.2, lookup_insertField, if_neg h.1]

/-- A merge has the fields of both objects. -/
theorem isSome_lookup_mergeFields (k : String) (m₁ m₂ : List (String × Json)) :
    ((mergeFields m₁ m₂).lookup k).isSome = true ↔
      (m₁.lookup k).isSome = true ∨ (m₂.lookup k).isSome = true := by
  induction m₂ generalizing m₁ with
  | nil => simp
  | cons p m₂ ih =>
    obtain ⟨k₀, v₀⟩ := p
    rw [mergeFields_cons, ih, lookup_insertField, lookup_cons_ite]
    by_cases h : k = k₀
    · simp [h]
    · rw [if_neg h, if_neg h]

@[simp] theorem get_obj (m : List (String × Json)) (k : String) : (obj m).get k = m.lookup k := rfl

@[simp] theorem concat_obj (m₁ m₂ : List (String × Json)) :
    (obj m₁).concat (obj m₂) = obj (mergeFields m₁ m₂) := rfl

@[simp] theorem asF64_ofF64_fin (q : ℚ) : (ofF64 (.fin q)).asF64 = some (.fin q) := rfl

/-- Sets a field if there is a value for it. -/
def insertSome (k : String) (v : Option Json) (m : List (String × Json)) : List (String × Json) :=
  match v with
  | some v => insertField k v m
  | none => m

/-- Sets fields one after the other, those that there is a value for. -/
def insertAll (fs : List (String × Option Json)) (m : List (String × Json)) :
    List (String × Json) :=
  fs.foldl (fun m f => insertSome f.1 f.2 m) m

theorem lookup_insertSome (k k' : String) (v : Option Json) (m : List (String × Json)) :
    (insertSome k v m).lookup k' = if k' = k then v.or (m.lookup k') else m.lookup k' := by
  cases v with
  | none => rw [insertSome, Option.none_or, ite_self]
  | some v => rw [insertSome, lookup_insertField, Option.some_or]

theorem lookup_insertAll_of_not_mem {k : String} {fs : List (String × Option Json)}
    (h : k ∉ fs.map Prod.fst) (m : List (String × Json)) :
    (insertAll fs m).lookup k = m.lookup k := by
  induction fs generalizing m with
  | nil => rfl
  | cons f fs ih =>
    rw [List.map_cons, List.mem_cons, not_or] at h
    rw [insertAll, List.foldl_cons]
    refine (ih h.2 _).trans ?_
    rw [lookup_insertSome, if_neg h.1]

/-- A field that is set once has the value given for it. -/
theorem lookup_insertAll {k : String} {v : Option Json} {fs : List (String × Option Json)}
    (hnd : (fs.map Prod.fst).Nodup) (h : (k, v) ∈ fs) (m : List (String × Json)) :
    (insertAll fs m).lookup k = v.or (m.lookup k) := by
  induction fs generalizing m with
  | nil => cases h
  | cons f fs ih =>
    rw [List.map_cons, List.nodup_cons] at hnd
    rw [insertAll, List.foldl_cons]
    rcases List.mem_cons.mp h with rfl | hmem
    · -- the fields that follow have other names
      refine (lookup_insertAll_of_not_mem hnd.1 _).trans ?_
      rw [lookup_insertSome, if_pos rfl]
    · have hne : k ≠ f.1 := by
        rintro rfl
        exact hnd.1 (List.mem_map.mpr ⟨_, hmem, rfl⟩)
      refine (ih hnd.2 hmem _).trans ?_
      rw [lookup_insertSome, if_neg hne]

/-- The value is neither an array nor an object. -/
def Scalar : Json → Prop
  | .arr _ | .obj _ => False
  | _ => True

/-- A merge with fields of different names. -/
theorem lookup_mergeFields_of_nodup {m : List (String × Json)} (h : (m.map Prod.fst).Nodup)
    (m₁ : List (String × Json)) (k : String) :
    (mergeFields m₁ m).lookup k = (m.lookup k).or (m₁.lookup k) := by
  induction m generalizing m₁ with
  | nil => rfl
  | cons p m ih =>
    obtain ⟨k₀, v⟩ := p
    obtain ⟨hk₀, h⟩ := List.nodup_cons.mp h
    by_cases hk : k = k₀
    · subst hk
      rw [mergeFields_cons, lookup_mergeFields_of_not_mem hk₀, lookup_insertField, if_pos rfl,
        List.lookup_cons_self, Option.some_or]
    · rw [mergeFields_cons, ih h, lookup_insertField, if_neg hk, lookup_cons_ite, if_neg hk]

end Json
