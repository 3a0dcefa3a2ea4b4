/-
Computations that return a value or an error, or panic.

A panic is an outcome of its own: `Fallible ε α` is what a function gives whose type
says `Result<α, ε>` and which may panic besides.  The operations on slices and indices
panic when they are out of range.

* `bind_eq_ok_iff`, `bind_eq_panic_iff` — a sequence succeeds if its parts do, and
  panics at the first part that does;
* `takeFirst_eq`, `dropFirst_eq`, `index_eq`, `div_eq` — in range, the operations succeed.
-/
import Mathlib.Data.List.Basic

/-- The outcome of a computation. -/
inductive Fallible (ε α : Type*) where
  | ok (a : α)
  | err (e : ε)
  | panic
  deriving DecidableEq

namespace Fallible

universe u

variable {ε α β : Type*}

/-- The second computation runs if the first one succeeds. -/
def bind (x : Fallible ε α) (f : α → Fallible ε β) : Fallible ε β :=
  match x with
  | ok a => f a
  | err e => err e
  | panic => panic

/-- An error in place of a value that is not there. -/
def ofOption (e : ε) : Option α → Fallible ε α
  | some a => ok a
  | none => err e

instance : Monad (Fallible ε) where
  pure := ok
  bind := bind

@[simp] theorem pure_eq (a : α) : (pure a : Fallible ε α) = ok a := rfl

@[simp] theorem monadBind_eq {γ : Type u} {δ : Type u} (x : Fallible ε γ) (f : γ → Fallible ε δ) :
    x >>= f = x.bind f := rfl

@[simp] theorem bind_ok (a : α) (f : α → Fallible ε β) : (ok a).bind f = f a := rfl

@[simp] theorem bind_err (e : ε) (f : α → Fallible ε β) : (err e).bind f = err e := rfl

@[simp] theorem ofOption_some (e : ε) (a : α) : ofOption e (some a) = ok a := rfl

@[simp] theorem ofOption_ne_panic (e : ε) (o : Option α) : ofOption e o ≠ panic := by
  cases o <;> simp [ofOption]

@[simp] theorem ofOption_eq_ok_iff {e : ε} {o : Option α} {a : α} :
    ofOption e o = ok a ↔ o = some a := by
  cases o <;> simp [ofOption]

theorem bind_eq_ok_iff {x : Fallible ε α} {f : α → Fallible ε β} {b : β} :
    x.bind f = ok b ↔ ∃ a, x = ok a ∧ f a = ok b := by
  cases x <;> simp [bind]

theorem bind_eq_panic_iff {x : Fallible ε α} {f : α → Fallible ε β} :
    x.bind f = panic ↔ x = panic ∨ ∃ a, x = ok a ∧ f a = panic := by
  cases x <;> simp [bind]

/-- After an option, only the rest can panic. -/
theorem ofOption_bind_eq_panic_iff {e : ε} {o : Option α} {f : α → Fallible ε β} :
    (ofOption e o).bind f = panic ↔ ∃ a, o = some a ∧ f a = panic := by
  simp [bind_eq_panic_iff]

/-! ### Operations that panic -/

/-- A value under an assertion. -/
def assert (p : Prop) [Decidable p] (a : α) : Fallible ε α := if p then ok a else panic

/-- `&l[..n]`. -/
def takeFirst (l : List α) (n : ℕ) : Fallible ε (List α) := assert (n ≤ l.length) (l.take n)

/-- `&l[n..]`. -/
def dropFirst (l : List α) (n : ℕ) : Fallible ε (List α) := assert (n ≤ l.length) (l.drop n)

/-- `l[i]`. -/
def index (l : List α) (i : ℕ) : Fallible ε α :=
  match l[i]? with
  | some a => ok a
  | none => panic

/-- `a / b`. -/
def div (a b : ℕ) : Fallible ε ℕ := assert (b ≠ 0) (a / b)

theorem assert_eq {p : Prop} [Decidable p] (h : p) (a : α) : (assert p a : Fallible ε α) = ok a :=
  if_pos h

theorem assert_eq_panic_iff {p : Prop} [Decidable p] {a : α} :
    (assert p a : Fallible ε α) = panic ↔ ¬p := by
  by_cases h : p <;> simp [assert, h]

theorem takeFirst_eq {l : List α} {n : ℕ} (h : n ≤ l.length) :
    (takeFirst l n : Fallible ε (List α)) = ok (l.take n) := assert_eq h _

theorem dropFirst_eq {l : List α} {n : ℕ} (h : n ≤ l.length) :
    (dropFirst l n : Fallible ε (List α)) = ok (l.drop n) := assert_eq h _

theorem index_eq {l : List α} {i : ℕ} (h : i < l.length) :
    (index l i : Fallible ε α) = ok l[i] := by
  rw [index, List.getElem?_eq_getElem h]

theorem index_eq_panic_iff {l : List α} {i : ℕ} :
    (index l i : Fallible ε α) = panic ↔ l.length ≤ i := by
  rw [← List.getElem?_eq_none_iff, index]
  cases l[i]? <;> simp

theorem div_eq {a b : ℕ} (h : b ≠ 0) : (div a b : Fallible ε ℕ) = ok (a / b) := assert_eq h _

end Fallible
