/-
`LIKE` patterns, as PostgreSQL matches texts against them.

`%` stands for any characters, `_` for any one character, and a backslash takes the
next character as it is.

* `likeMatches_percent_iff` — around a text without these characters `%` asks that
  the text is contained;
* `like_shortest` — a text with such a character also matches one that does not
  contain it.
-/
import Mathlib.Data.List.Infix

inductive LikeToken where
  | star
  | any
  | lit (c : Char)

/-- The tokens of a pattern.  PostgreSQL refuses a pattern that ends with a backslash; it stands
for itself here. -/
def likeTokens : List Char → List LikeToken
  | [] => []
  | '%' :: cs => .star :: likeTokens cs
  | '_' :: cs => .any :: likeTokens cs
  | '\\' :: c :: cs => .lit c :: likeTokens cs
  | c :: cs => .lit c :: likeTokens cs

/-- The tokens match all of the characters. -/
def likeMatches : List LikeToken → List Char → Bool
  | [], cs => cs.isEmpty
  | .star :: ts, cs => cs.tails.any (likeMatches ts)
  | _ :: _, [] => false
  | .any :: ts, _ :: cs => likeMatches ts cs
  | .lit d :: ts, c :: cs => decide (c = d) && likeMatches ts cs

/-- `text LIKE pattern`. -/
def like (text pattern : List Char) : Bool := likeMatches (likeTokens pattern) text

namespace Like

/-- The character stands for itself. -/
def Plain (c : Char) : Prop := c ≠ '%' ∧ c ≠ '_' ∧ c ≠ '\\'

instance (c : Char) : Decidable (Plain c) := inferInstanceAs (Decidable (_ ∧ _))

/-! ### Plain texts -/

theorem likeTokens_plain {c : Char} (hc : Plain c) (cs : List Char) :
    likeTokens (c :: cs) = .lit c :: likeTokens cs := by
  obtain ⟨hstar, hany, hescape⟩ := hc
  rw [likeTokens]
  · exact fun h => hstar h
  · exact fun h => hany h
  · exact fun _ _ h => absurd h hescape

theorem likeTokens_append {t : List Char} (ht : ∀ c ∈ t, Plain c) (cs : List Char) :
    likeTokens (t ++ cs) = t.map .lit ++ likeTokens cs := by
  induction t with
  | nil => rfl
  | cons c t ih =>
    rw [List.cons_append, likeTokens_plain (ht c List.mem_cons_self),
      ih fun c hc => ht c (List.mem_cons_of_mem _ hc)]
    rfl

theorem likeMatches_star {ts : List LikeToken} {cs : List Char} :
    likeMatches (.star :: ts) cs = true ↔ ∃ r, r <:+ cs ∧ likeMatches ts r = true := by
  rw [likeMatches, List.any_eq_true]
  simp only [List.mem_tails]

/-- A text and `%` match what begins with the text. -/
theorem likeMatches_prefix_iff (t cs : List Char) :
    likeMatches (t.map .lit ++ [.star]) cs = true ↔ t <+: cs := by
  induction t generalizing cs with
  | nil =>
    refine iff_of_true (likeMatches_star.mpr ⟨[], List.nil_suffix, rfl⟩) List.nil_prefix
  | cons d t ih =>
    cases cs with
    | nil => simp [likeMatches]
    | cons c cs =>
      rw [List.map_cons, List.cons_append, likeMatches, Bool.and_eq_true, ih, decide_eq_true_iff,
        List.cons_prefix_cons, eq_comm]

theorem likeMatches_percent_iff {t : List Char} (ht : ∀ c ∈ t, Plain c) (text : List Char) :
    like text ('%' :: (t ++ ['%'])) = true ↔ t <:+: text := by
  have htokens : likeTokens ('%' :: (t ++ ['%'])) = .star :: (t.map .lit ++ [.star]) := by
    rw [likeTokens, likeTokens_append ht]
    rfl
  rw [like, htokens, likeMatches_star, List.infix_iff_prefix_suffix]
  constructor
  · rintro ⟨r, hr, hmatch⟩
    exact ⟨r, (likeMatches_prefix_iff t r).mp hmatch, hr⟩
  · rintro ⟨r, hprefix, hr⟩
    exact ⟨r, hr, (likeMatches_prefix_iff t r).mpr hprefix⟩

/-! ### Other texts -/

/-- The shortest text that tokens match, with `x` for any character. -/
def shortest : List LikeToken → List Char
  | [] => []
  | .star :: ts => shortest ts
  | .any :: ts => 'x' :: shortest ts
  | .lit c :: ts => c :: shortest ts

theorem likeMatches_shortest (ts : List LikeToken) : likeMatches ts (shortest ts) = true := by
  induction ts with
  | nil => rfl
  | cons t ts ih =>
    cases t with
    | star => exact likeMatches_star.mpr ⟨shortest ts, List.suffix_rfl, ih⟩
    | any => exact ih
    | lit c =>
      show (decide (c = c) && likeMatches ts (shortest ts)) = true
      rw [ih, decide_eq_true rfl, Bool.and_self]

/-- The shortest text that `t` and `%` match is no longer than `t`, and is `t` only if that is
plain. -/
def ShortensTo (t : List Char) : Prop :=
  (shortest (likeTokens (t ++ ['%']))).length ≤ t.length ∧
    (shortest (likeTokens (t ++ ['%'])) = t → ∀ c ∈ t, Plain c)

theorem ShortensTo.plain {c : Char} {t : List Char} (hc : Plain c) (h : ShortensTo t) :
    ShortensTo (c :: t) := by
  unfold ShortensTo
  rw [List.cons_append, likeTokens_plain hc, shortest, List.length_cons, List.length_cons]
  refine ⟨Nat.succ_le_succ h.1, fun heq d hd => ?_⟩
  obtain rfl | hd := List.mem_cons.mp hd
  · exact hc
  · exact h.2 (List.cons.inj heq).2 d hd

theorem ShortensTo.percent {t : List Char} (h : ShortensTo t) : ShortensTo ('%' :: t) := by
  unfold ShortensTo
  rw [List.cons_append, likeTokens, shortest, List.length_cons]
  refine ⟨Nat.le_succ_of_le h.1, fun heq => ?_⟩
  have hlength := congrArg List.length heq
  have := h.1
  rw [List.length_cons] at hlength
  omega

theorem ShortensTo.underscore {t : List Char} (h : ShortensTo t) : ShortensTo ('_' :: t) := by
  unfold ShortensTo
  rw [List.cons_append, likeTokens, shortest, List.length_cons, List.length_cons]
  refine ⟨Nat.succ_le_succ h.1, fun heq => ?_⟩
  exact absurd (List.cons.inj heq).1 (by decide)

theorem ShortensTo.escape {d : Char} {t : List Char} (h : ShortensTo t) :
    ShortensTo ('\\' :: d :: t) := by
  unfold ShortensTo
  rw [List.cons_append, List.cons_append, likeTokens, shortest, List.length_cons, List.length_cons,
    List.length_cons]
  refine ⟨Nat.le_succ_of_le (Nat.succ_le_succ h.1), fun heq => ?_⟩
  have hlength := congrArg List.length heq
  have := h.1
  rw [List.length_cons, List.length_cons, List.length_cons] at hlength
  omega

theorem shortensTo : ∀ t : List Char, ShortensTo t
  | [] => ⟨le_rfl, fun _ c hc => absurd hc List.not_mem_nil⟩
  | c :: t => by
    by_cases hstar : c = '%'
    · exact hstar ▸ (shortensTo t).percent
    by_cases hany : c = '_'
    · exact hany ▸ (shortensTo t).underscore
    by_cases hescape : c = '\\'
    · subst hescape
      match t with
      | [] => exact ⟨le_rfl, fun heq => absurd (List.cons.inj heq).1 (by decide)⟩
      | d :: t => exact (shortensTo t).escape
    · exact (shortensTo t).plain ⟨hstar, hany, hescape⟩

/-- A text that is not plain matches one that it is no part of. -/
theorem like_shortest {t : List Char} (ht : ¬∀ c ∈ t, Plain c) :
    like (shortest (likeTokens (t ++ ['%']))) ('%' :: (t ++ ['%'])) = true ∧
      ¬t <:+: shortest (likeTokens (t ++ ['%'])) := by
  constructor
  · rw [like, likeTokens]
    exact likeMatches_shortest (.star :: likeTokens (t ++ ['%']))
  · intro hpart
    obtain ⟨hle, hplain⟩ := shortensTo t
    exact ht (hplain (hpart.eq_of_length (le_antisymm hpart.length_le hle)).symm)

theorem mem_shortest {c : Char} {cs : List Char} (h : c ∈ shortest (likeTokens cs)) :
    c = 'x' ∨ c ∈ cs := by
  induction cs using likeTokens.induct with
  | case1 => exact absurd h List.not_mem_nil
  | case2 cs ih =>
    rw [likeTokens, shortest] at h
    exact (ih h).imp_right (List.mem_cons_of_mem _)
  | case3 cs ih =>
    rw [likeTokens, shortest, List.mem_cons] at h
    exact h.elim Or.inl fun h => (ih h).imp_right (List.mem_cons_of_mem _)
  | case4 d cs ih =>
    rw [likeTokens, shortest, List.mem_cons] at h
    obtain rfl | h := h
    · simp
    · exact (ih h).imp_right fun h => List.mem_cons_of_mem _ (List.mem_cons_of_mem _ h)
  | case5 d cs hstar hany hescape ih =>
    rw [likeTokens, shortest, List.mem_cons] at h
    · obtain rfl | h := h
      · simp
      · exact (ih h).imp_right (List.mem_cons_of_mem _)
    · exact hstar
    · exact hany
    · exact hescape

end Like
