/-
Glob patterns, as Redis matches keys against them.

`*` matches any bytes, `?` any one byte, `[…]` one byte of a class, with ranges
`a-b` and, after `^`, one byte outside of it; a backslash takes the next byte as it
is.

* `globMatch_append_star` — a plain text followed by `*` matches what the text begins.
-/
import Mathlib.Data.List.Infix

/-- A pattern matches byte by byte. -/
inductive GlobToken where
  | star
  | any
  | lit (byte : UInt8)
  | byteClass (negated : Bool) (ranges : List (UInt8 × UInt8))

namespace GlobToken

/-- The byte is in a range; the ends of a range may stand in either order. -/
def inRanges (ranges : List (UInt8 × UInt8)) (byte : UInt8) : Bool :=
  ranges.any fun r => min r.1 r.2 ≤ byte ∧ byte ≤ max r.1 r.2

/-- Whether a token that stands for one byte matches it. -/
def accepts : GlobToken → UInt8 → Bool
  | star, _ => false
  | any, _ => true
  | lit b, byte => b = byte
  | byteClass negated ranges, byte => inRanges ranges byte ≠ negated

end GlobToken

/-- The tokens of a pattern; `open?` is the class that has been opened and not closed.  A class
that is never closed ends with the pattern. -/
def globTokens : Option (Bool × List (UInt8 × UInt8)) → List UInt8 → List GlobToken
  | none, [] => []
  | none, 42 :: bs => .star :: globTokens none bs
  | none, 63 :: bs => .any :: globTokens none bs
  | none, 91 :: 94 :: bs => globTokens (some (true, [])) bs
  | none, 91 :: bs => globTokens (some (false, [])) bs
  | none, 92 :: b :: bs => .lit b :: globTokens none bs
  | none, b :: bs => .lit b :: globTokens none bs
  | some (negated, ranges), [] => [.byteClass negated ranges]
  | some (negated, ranges), 92 :: b :: bs => globTokens (some (negated, ranges ++ [(b, b)])) bs
  | some (negated, ranges), 93 :: bs => .byteClass negated ranges :: globTokens none bs
  | some (negated, ranges), b :: 45 :: e :: bs => globTokens (some (negated, ranges ++ [(b, e)])) bs
  | some (negated, ranges), b :: bs => globTokens (some (negated, ranges ++ [(b, b)])) bs

/-- The tokens match all of the bytes. -/
def globMatches : List GlobToken → List UInt8 → Bool
  | [], bytes => bytes.isEmpty
  | .star :: ts, bytes => bytes.tails.any (globMatches ts)
  | _ :: _, [] => false
  | t :: ts, b :: bytes => t.accepts b && globMatches ts bytes

/-- The bytes of a text. -/
def utf8Bytes (s : String) : List UInt8 := s.toByteArray.data.toList

/-- The pattern matches the key. -/
def globMatch (pattern key : String) : Bool :=
  globMatches (globTokens none (utf8Bytes pattern)) (utf8Bytes key)

/-- The byte stands for itself: it is none of `*`, `?`, `[` and the backslash. -/
def PlainByte (b : UInt8) : Prop := b ≠ 42 ∧ b ≠ 63 ∧ b ≠ 91 ∧ b ≠ 92

instance (b : UInt8) : Decidable (PlainByte b) := inferInstanceAs (Decidable (_ ∧ _))

theorem utf8Bytes_append (s t : String) : utf8Bytes (s ++ t) = utf8Bytes s ++ utf8Bytes t := by
  simp [utf8Bytes]

theorem globTokens_plain {b : UInt8} (hb : PlainByte b) (bs : List UInt8) :
    globTokens none (b :: bs) = .lit b :: globTokens none bs := by
  obtain ⟨hstar, hany, hclass, hescape⟩ := hb
  rw [globTokens]
  · exact fun h => hstar h
  · exact fun h => hany h
  · exact fun _ h => absurd h hclass
  · exact fun h => hclass h
  · exact fun _ _ h => absurd h hescape

theorem globTokens_append {q : List UInt8} (hq : ∀ b ∈ q, PlainByte b) (bs : List UInt8) :
    globTokens none (q ++ bs) = q.map .lit ++ globTokens none bs := by
  induction q with
  | nil => rfl
  | cons b q ih =>
    rw [List.cons_append, globTokens_plain (hq b List.mem_cons_self),
      ih fun b hb => hq b (List.mem_cons_of_mem _ hb)]
    rfl

/-- Literal bytes match themselves. -/
theorem globMatches_lit_append (q : List UInt8) (ts : List GlobToken) (bytes : List UInt8) :
    globMatches (q.map .lit ++ ts) (q ++ bytes) = globMatches ts bytes := by
  induction q with
  | nil => rfl
  | cons b q ih =>
    show (decide (b = b) && globMatches (q.map .lit ++ ts) (q ++ bytes)) = _
    rw [decide_eq_true rfl, Bool.true_and, ih]

theorem globMatches_star (bytes : List UInt8) : globMatches [.star] bytes = true := by
  rw [globMatches, List.any_eq_true]
  exact ⟨[], (List.mem_tails _ _).mpr List.nil_suffix, rfl⟩

theorem globMatch_append_star {q : String} (hq : ∀ b ∈ utf8Bytes q, PlainByte b) (r : String) :
    globMatch (q ++ "*") (q ++ r) = true := by
  rw [globMatch, utf8Bytes_append, utf8Bytes_append, globTokens_append hq, globMatches_lit_append]
  exact globMatches_star _
