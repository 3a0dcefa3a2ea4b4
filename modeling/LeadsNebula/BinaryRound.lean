/-
Rounding to binary floating point numbers of a given precision, to nearest and, of
two that are equally near, to even.  Exponents are not bounded from above; `round` does
not bound them from below either, and `roundFrom` does.

* `abs_round_sub_le` — the relative error;
* `round_le_int`, `round_natCast` — nothing is rounded past an integer;
* `ceil_round_div` — a rounded quotient has the ceiling of the quotient, if the
  dividend is an integer of the precision;
* `roundFrom_neg`, `roundFrom_mono` — rounding keeps signs and the order;
* `roundFrom_roundFrom` — a rounded number is not rounded again.
-/
import Mathlib.Algebra.Order.Archimedean.Basic
import Mathlib.Algebra.Order.Round
import Mathlib.Data.Int.Log
import Mathlib.Data.Rat.Floor
import Mathlib.Tactic.FieldSimp
import Mathlib.Tactic.Linarith
import Mathlib.Tactic.Positivity
import Mathlib.Tactic.Ring

namespace BinaryRound

/-- The nearest integer, the even one of two. -/
def halfEven (x : ℚ) : ℤ :=
  if 2 * Int.fract x < 1 ∨ 2 * Int.fract x = 1 ∧ Even ⌊x⌋ then ⌊x⌋ else ⌊x⌋ + 1

theorem abs_halfEven_sub_le (x : ℚ) : |(halfEven x : ℚ) - x| ≤ 1 / 2 := by
  have hfract : Int.fract x = x - ⌊x⌋ := rfl
  have hnonneg := Int.fract_nonneg x
  have hlt := Int.fract_lt_one x
  unfold halfEven
  split
  · next h =>
    have hhalf : 2 * Int.fract x ≤ 1 := h.elim le_of_lt fun h => h.1.le
    rw [abs_le]
    constructor <;> linarith
  · next h =>
    have hhalf : 1 ≤ 2 * Int.fract x := not_lt.mp fun hlt => h (Or.inl hlt)
    rw [abs_le]
    push_cast
    constructor <;> linarith

theorem halfEven_le {x : ℚ} {n : ℤ} (h : x ≤ n) : halfEven x ≤ n := by
  by_contra hlt
  have hsucc : ((n + 1 : ℤ) : ℚ) ≤ halfEven x := by exact_mod_cast not_le.mp hlt
  have herror := (abs_le.mp (abs_halfEven_sub_le x)).2
  push_cast at hsucc
  linarith

theorem halfEven_intCast (n : ℤ) : halfEven (n : ℚ) = n := by
  unfold halfEven
  rw [if_pos (Or.inl (by rw [Int.fract_intCast]; norm_num)), Int.floor_intCast]

/-- The exponent of the last of `p` digits. -/
def exponent (p : ℕ) (q : ℚ) : ℤ := Int.log 2 |q| + 1 - p

/-- The number of `p` binary digits that is next to `q`. -/
def round (p : ℕ) (q : ℚ) : ℚ := halfEven (q / 2 ^ exponent p q) * 2 ^ exponent p q

theorem round_zero (p : ℕ) : round p 0 = 0 := by
  have h : halfEven 0 = 0 := halfEven_intCast 0
  rw [round, zero_div, h, Int.cast_zero, zero_mul]

variable {p : ℕ} {q : ℚ}

theorem zpow_exponent_le (p : ℕ) (hq : 0 < q) : (2 : ℚ) ^ exponent p q ≤ 2 * (q / 2 ^ p) := by
  have hlog : (2 : ℚ) ^ Int.log 2 q ≤ q := by
    exact_mod_cast Int.zpow_log_le_self (R := ℚ) (b := 2) (by norm_num) hq
  rw [exponent, abs_of_pos hq, zpow_sub₀ (by norm_num), zpow_add₀ (by norm_num), zpow_one,
    zpow_natCast]
  rw [mul_comm, mul_div_assoc]
  gcongr

/-- The relative error. -/
theorem abs_round_sub_le (p : ℕ) (hq : 0 < q) : |round p q - q| ≤ q / 2 ^ p := by
  have hpos : (0 : ℚ) < 2 ^ exponent p q := zpow_pos (by norm_num) _
  have herror := abs_halfEven_sub_le (q / 2 ^ exponent p q)
  have heq : round p q - q =
      (halfEven (q / 2 ^ exponent p q) - q / 2 ^ exponent p q) * 2 ^ exponent p q := by
    rw [round]
    field_simp
  rw [heq, abs_mul, abs_of_pos hpos]
  have hle := zpow_exponent_le p hq
  calc |(halfEven (q / 2 ^ exponent p q) : ℚ) - q / 2 ^ exponent p q| * 2 ^ exponent p q
      ≤ 1 / 2 * 2 ^ exponent p q := by gcongr
    _ ≤ q / 2 ^ p := by linarith

/-- A number with at most `p` digits before the point is rounded to a place after it. -/
theorem exists_round_eq (hq : 0 < q) (hp : q < 2 ^ p) :
    ∃ k : ℕ, round p q = halfEven (q * 2 ^ k) / 2 ^ k := by
  obtain ⟨k, hk⟩ : ∃ k : ℕ, exponent p q = -k := by
    have hlog : Int.log 2 q < p := by
      rw [← Int.lt_zpow_iff_log_lt (by norm_num) hq]
      exact_mod_cast hp
    refine ⟨(-exponent p q).toNat, ?_⟩
    unfold exponent
    rw [abs_of_pos hq]
    omega
  refine ⟨k, ?_⟩
  rw [round, hk, zpow_neg, zpow_natCast, div_inv_eq_mul, ← div_eq_mul_inv]

/-- Such a number is not rounded past an integer. -/
theorem round_le_int (hq : 0 < q) (hp : q < 2 ^ p) {n : ℤ} (h : q ≤ n) : round p q ≤ n := by
  obtain ⟨k, hk⟩ := exists_round_eq hq hp
  have hpos : (0 : ℚ) < 2 ^ k := by positivity
  have hround : halfEven (q * 2 ^ k) ≤ n * 2 ^ k := by
    refine halfEven_le ?_
    push_cast
    gcongr
  rw [hk, div_le_iff₀ hpos]
  exact_mod_cast hround

/-- An integer with at most `p` digits is not rounded. -/
theorem round_natCast {n : ℕ} (hn : n < 2 ^ p) : round p n = n := by
  rcases Nat.eq_zero_or_pos n with rfl | hpos
  · rw [Nat.cast_zero, round_zero]
  · obtain ⟨k, hk⟩ := exists_round_eq (p := p) (q := n)
      (by exact_mod_cast hpos) (by exact_mod_cast hn)
    have hint : halfEven ((n : ℚ) * 2 ^ k) = n * 2 ^ k := by
      have h := halfEven_intCast (n * 2 ^ k)
      push_cast at h
      exact h
    rw [hk, hint]
    push_cast
    field_simp

/-- The ceiling of a rounded quotient. -/
theorem ceil_round_div {c d : ℕ} (hc : c < 2 ^ p) (hd : 0 < d) :
    ⌈round p (c / d)⌉ = ⌈(c / d : ℚ)⌉ := by
  rcases Nat.eq_zero_or_pos c with rfl | hpos
  · rw [Nat.cast_zero, zero_div, round_zero]
  have hd' : (0 : ℚ) < d := by exact_mod_cast hd
  have hc' : (0 : ℚ) < c := by exact_mod_cast hpos
  have hq : (0 : ℚ) < c / d := by positivity
  have hlt : (c : ℚ) < 2 ^ p := by exact_mod_cast hc
  have hqc : (c / d : ℚ) ≤ c := div_le_self hc'.le (by exact_mod_cast hd)
  have hupper : round p (c / d) ≤ ⌈(c / d : ℚ)⌉ :=
    round_le_int hq (hqc.trans_lt hlt) (Int.le_ceil _)
  rw [Int.ceil_eq_iff]
  refine ⟨?_, hupper⟩
  -- the quotient is above the integer below it by a part of `d`, and the error is less
  have hgap : (⌈(c / d : ℚ)⌉ : ℚ) - 1 + 1 / d ≤ c / d := by
    have hbelow : (⌈(c / d : ℚ)⌉ : ℚ) - 1 < c / d := by
      have := Int.ceil_lt_add_one (c / d : ℚ)
      linarith
    rw [lt_div_iff₀ hd'] at hbelow
    have hint : (⌈(c / d : ℚ)⌉ - 1) * d + 1 ≤ (c : ℤ) := by
      have : ((⌈(c / d : ℚ)⌉ - 1) * d : ℤ) < c := by exact_mod_cast hbelow
      omega
    have hcast : ((⌈(c / d : ℚ)⌉ : ℚ) - 1) * d + 1 ≤ c := by exact_mod_cast hint
    rw [le_div_iff₀ hd']
    field_simp
    linarith
  have herror : (c / d : ℚ) / 2 ^ p < 1 / d := by
    rw [div_div, div_lt_div_iff₀ (by positivity) hd']
    nlinarith
  have hround := (abs_le.mp (abs_round_sub_le p hq)).1
  linarith

/-! ### The nearest integer -/

theorem floor_le_halfEven (x : ℚ) : ⌊x⌋ ≤ halfEven x := by
  unfold halfEven
  split <;> omega

theorem halfEven_le_floor_add_one (x : ℚ) : halfEven x ≤ ⌊x⌋ + 1 := by
  unfold halfEven
  split <;> omega

theorem halfEven_mono {x y : ℚ} (hxy : x ≤ y) : halfEven x ≤ halfEven y := by
  rcases lt_or_eq_of_le (Int.floor_mono hxy) with hfloor | hfloor
  · exact (halfEven_le_floor_add_one x).trans
      ((Int.add_one_le_of_lt hfloor).trans (floor_le_halfEven y))
  · -- between the same integers, what is rounded down stays so below it
    have hfract : Int.fract x ≤ Int.fract y := by
      rw [Int.fract, Int.fract, hfloor]
      exact sub_le_sub_right hxy _
    unfold halfEven
    rw [hfloor]
    split
    · split <;> omega
    · next hup =>
      rw [if_neg]
      rintro (hlt | ⟨heq, heven⟩)
      · exact hup (Or.inl (by linarith))
      · rcases lt_or_eq_of_le hfract with hlt | hsame
        · exact hup (Or.inl (by linarith))
        · exact hup (Or.inr ⟨hsame ▸ heq, heven⟩)

theorem le_halfEven {x : ℚ} {n : ℤ} (h : n ≤ x) : n ≤ halfEven x := by
  have hmono := halfEven_mono h
  rwa [halfEven_intCast] at hmono

theorem halfEven_neg (x : ℚ) : halfEven (-x) = -halfEven x := by
  by_cases hint : Int.fract x = 0
  · obtain ⟨n, rfl⟩ : ∃ n : ℤ, x = n := ⟨⌊x⌋, by
      have h := Int.floor_add_fract x
      rw [hint, add_zero] at h
      exact h.symm⟩
    rw [← Int.cast_neg, halfEven_intCast, halfEven_intCast]
  · -- the two integers around `-x` are those around `x`, and one of them is even
    have hfract : Int.fract (-x) = 1 - Int.fract x := Int.fract_neg hint
    have hfloor : ⌊-x⌋ = -⌊x⌋ - 1 := by
      have h := Int.floor_add_fract (-x)
      have h' := Int.floor_add_fract x
      rw [hfract] at h
      have hsum : ((⌊-x⌋ + ⌊x⌋ + 1 : ℤ) : ℚ) = 0 := by
        push_cast
        linarith
      have hsum : ⌊-x⌋ + ⌊x⌋ + 1 = 0 := by exact_mod_cast hsum
      omega
    have heven : Even (-⌊x⌋ - 1) ↔ ¬Even ⌊x⌋ := by
      rw [Int.even_sub_one, even_neg]
    unfold halfEven
    simp only [hfract, hfloor, heven]
    rcases lt_trichotomy (2 * Int.fract x) 1 with h | h | h
    · rw [if_neg (by rintro (h' | ⟨h', -⟩) <;> linarith), if_pos (Or.inl h)]
      omega
    · by_cases hodd : Even ⌊x⌋
      · rw [if_neg (by rintro (h' | ⟨-, h'⟩); exacts [by linarith, h' hodd]),
          if_pos (Or.inr ⟨h, hodd⟩)]
        omega
      · rw [if_pos (Or.inr ⟨by linarith, hodd⟩),
          if_neg (by rintro (h' | ⟨-, h'⟩); exacts [by linarith, hodd h'])]
        omega
    · rw [if_pos (Or.inl (by linarith)), if_neg (by rintro (h' | ⟨h', -⟩) <;> linarith)]
      omega

/-! ### Least exponents -/

/-- The exponent of the last digit, which is not below `least`. -/
def exponentFrom (least : ℤ) (p : ℕ) (q : ℚ) : ℤ := max (exponent p q) least

/-- The number of `p` binary digits, none of them below the place `least`, that is next to `q`. -/
def roundFrom (least : ℤ) (p : ℕ) (q : ℚ) : ℚ :=
  halfEven (q / 2 ^ exponentFrom least p q) * 2 ^ exponentFrom least p q

section RoundFrom

variable {least : ℤ} {x y : ℚ}

theorem exponentFrom_neg (least : ℤ) (p : ℕ) (q : ℚ) :
    exponentFrom least p (-q) = exponentFrom least p q := by
  rw [exponentFrom, exponentFrom, exponent, exponent, abs_neg]

theorem roundFrom_neg (least : ℤ) (p : ℕ) (q : ℚ) :
    roundFrom least p (-q) = -roundFrom least p q := by
  rw [roundFrom, roundFrom, exponentFrom_neg, neg_div, halfEven_neg, Int.cast_neg, neg_mul]

theorem roundFrom_zero (least : ℤ) (p : ℕ) : roundFrom least p 0 = 0 := by
  have h := roundFrom_neg least p 0
  rw [neg_zero] at h
  linarith

theorem exists_zpow_eq {e n : ℤ} (h : e ≤ n) : ∃ k : ℕ,
    (2 : ℚ) ^ n = ((2 ^ k : ℤ) : ℚ) * 2 ^ e := by
  obtain ⟨k, hk⟩ := Int.eq_ofNat_of_zero_le (sub_nonneg.mpr h)
  refine ⟨k, ?_⟩
  rw [← sub_add_cancel n e, hk, zpow_add₀ (by norm_num), zpow_natCast]
  push_cast
  rfl

/-- A number whose digits all have a place is not rounded. -/
theorem roundFrom_eq {n m : ℤ} (hq : q = m * 2 ^ n) (hn : exponentFrom least p q ≤ n) :
    roundFrom least p q = q := by
  rw [roundFrom]
  generalize exponentFrom least p q = e at hn
  obtain ⟨k, hk⟩ := exists_zpow_eq hn
  have hpos : (2 : ℚ) ^ e ≠ 0 := zpow_ne_zero _ (by norm_num)
  have hint : q / 2 ^ e = ((m * 2 ^ k : ℤ) : ℚ) := by
    rw [div_eq_iff hpos, hq, hk]
    push_cast
    ring
  rw [hint, halfEven_intCast, ← hint, div_mul_cancel₀ _ hpos]

/-- A power of two with a place for its digit bounds what is rounded below it. -/
theorem roundFrom_le_zpow {n : ℤ} (hx : x ≤ 2 ^ n) (hn : exponentFrom least p x ≤ n) :
    roundFrom least p x ≤ 2 ^ n := by
  rw [roundFrom]
  generalize exponentFrom least p x = e at hn
  obtain ⟨k, hk⟩ := exists_zpow_eq hn
  have hpos : (0 : ℚ) < 2 ^ e := zpow_pos (by norm_num) _
  rw [hk] at hx ⊢
  have hle : halfEven (x / 2 ^ e) ≤ 2 ^ k := halfEven_le ((div_le_iff₀ hpos).mpr hx)
  have hle : (halfEven (x / 2 ^ e) : ℚ) ≤ ((2 ^ k : ℤ) : ℚ) := by exact_mod_cast hle
  exact mul_le_mul_of_nonneg_right hle hpos.le

theorem zpow_le_roundFrom {n : ℤ} (hx : 2 ^ n ≤ x) (hn : exponentFrom least p x ≤ n) :
    2 ^ n ≤ roundFrom least p x := by
  rw [roundFrom]
  generalize exponentFrom least p x = e at hn
  obtain ⟨k, hk⟩ := exists_zpow_eq hn
  have hpos : (0 : ℚ) < 2 ^ e := zpow_pos (by norm_num) _
  rw [hk] at hx ⊢
  have hle : 2 ^ k ≤ halfEven (x / 2 ^ e) := le_halfEven ((le_div_iff₀ hpos).mpr hx)
  have hle : ((2 ^ k : ℤ) : ℚ) ≤ halfEven (x / 2 ^ e) := by exact_mod_cast hle
  exact mul_le_mul_of_nonneg_right hle hpos.le

theorem roundFrom_mono_pos (least : ℤ) (hp : 0 < p) (hx : 0 < x) (hxy : x ≤ y) :
    roundFrom least p x ≤ roundFrom least p y := by
  have hlog : Int.log 2 x ≤ Int.log 2 y := Int.log_mono_right hx hxy
  have hx' : exponent p x = Int.log 2 x + 1 - p := by rw [exponent, abs_of_pos hx]
  have hy' : exponent p y = Int.log 2 y + 1 - p := by rw [exponent, abs_of_pos (hx.trans_le hxy)]
  have hexp : exponentFrom least p x ≤ exponentFrom least p y := by
    rw [exponentFrom, exponentFrom, hx', hy']
    omega
  rcases lt_or_eq_of_le hexp with hlt | heq
  · -- a power of two lies between the two numbers, and keeps them apart
    rw [exponentFrom, exponentFrom, hx', hy'] at hlt
    have hpow : (2 : ℚ) ^ Int.log 2 y ≤ y := by
      exact_mod_cast Int.zpow_log_le_self (R := ℚ) (b := 2) (by norm_num) (hx.trans_le hxy)
    have hlt_pow : x < 2 ^ Int.log 2 y := by
      have h := (Int.lt_zpow_iff_log_lt (R := ℚ) (b := 2) (by norm_num) hx).mpr
        (show Int.log 2 x < Int.log 2 y by omega)
      exact_mod_cast h
    refine (roundFrom_le_zpow hlt_pow.le ?_).trans (zpow_le_roundFrom hpow ?_)
    · rw [exponentFrom, hx']
      omega
    · rw [exponentFrom, hy']
      omega
  · rw [roundFrom, roundFrom, heq]
    have hpos : (0 : ℚ) < 2 ^ exponentFrom least p y := zpow_pos (by norm_num) _
    have hle : halfEven (x / 2 ^ exponentFrom least p y) ≤
        halfEven (y / 2 ^ exponentFrom least p y) :=
      halfEven_mono (div_le_div_of_nonneg_right hxy hpos.le)
    have hle : (halfEven (x / 2 ^ exponentFrom least p y) : ℚ) ≤
        halfEven (y / 2 ^ exponentFrom least p y) := by exact_mod_cast hle
    exact mul_le_mul_of_nonneg_right hle hpos.le

theorem roundFrom_nonneg (least : ℤ) (p : ℕ) (hq : 0 ≤ q) : 0 ≤ roundFrom least p q := by
  have hpos : (0 : ℚ) < 2 ^ exponentFrom least p q := zpow_pos (by norm_num) _
  have hle : 0 ≤ halfEven (q / 2 ^ exponentFrom least p q) :=
    le_halfEven (by rw [Int.cast_zero]; exact div_nonneg hq hpos.le)
  have hle : (0 : ℚ) ≤ halfEven (q / 2 ^ exponentFrom least p q) := by exact_mod_cast hle
  exact mul_nonneg hle hpos.le

/-- Rounding keeps the order. -/
theorem roundFrom_mono (hp : 0 < p) : Monotone (roundFrom least p) := by
  have hnonpos : ∀ {q : ℚ}, q ≤ 0 → roundFrom least p q ≤ 0 := by
    intro q hq
    have h := roundFrom_nonneg least p (neg_nonneg.mpr hq)
    rw [roundFrom_neg] at h
    linarith
  intro x y hxy
  rcases lt_or_ge 0 x with hx | hx
  · exact roundFrom_mono_pos least hp hx hxy
  · rcases le_or_gt 0 y with hy | hy
    · exact (hnonpos hx).trans (roundFrom_nonneg least p hy)
    · -- both are negative
      have h := roundFrom_mono_pos least hp (neg_pos.mpr hy) (neg_le_neg hxy)
      rw [roundFrom_neg, roundFrom_neg] at h
      exact neg_le_neg_iff.mp h

/-- A rounded number has `p` digits, or is a power of two. -/
theorem abs_halfEven_le (least : ℤ) (p : ℕ) (q : ℚ) :
    |halfEven (q / 2 ^ exponentFrom least p q)| ≤ 2 ^ p := by
  have hpos : (0 : ℚ) < 2 ^ exponentFrom least p q := zpow_pos (by norm_num) _
  have hq : |q| ≤ 2 ^ (p + exponentFrom least p q) := by
    have hlog : |q| ≤ 2 ^ (Int.log 2 |q| + 1) := by
      exact_mod_cast (Int.lt_zpow_succ_log_self (b := 2) (by norm_num) |q|).le
    refine hlog.trans (zpow_le_zpow_right₀ (by norm_num) ?_)
    rw [exponentFrom, exponent]
    omega
  rw [zpow_add₀ (by norm_num), zpow_natCast] at hq
  obtain ⟨hlower, hupper⟩ := abs_le.mp hq
  rw [abs_le]
  constructor
  · refine le_halfEven ((le_div_iff₀ hpos).mpr ?_)
    push_cast
    linarith
  · refine halfEven_le ((div_le_iff₀ hpos).mpr ?_)
    push_cast
    exact hupper

/-- A rounded number is not rounded again. -/
theorem roundFrom_roundFrom (hp : 0 < p) (q : ℚ) :
    roundFrom least p (roundFrom least p q) = roundFrom least p q := by
  have hdigits := abs_halfEven_le least p q
  have hleast : least ≤ exponentFrom least p q := le_max_right _ _
  have hround : roundFrom least p q =
      halfEven (q / 2 ^ exponentFrom least p q) * 2 ^ exponentFrom least p q := rfl
  generalize halfEven (q / 2 ^ exponentFrom least p q) = m at hdigits hround
  generalize exponentFrom least p q = e at hleast hround
  rw [hround]
  have habs : |(m : ℚ) * 2 ^ e| = (|m| : ℤ) * 2 ^ e := by
    rw [abs_mul, abs_of_pos (zpow_pos (by norm_num : (0 : ℚ) < 2) e), Int.cast_abs]
  rcases eq_or_ne m 0 with rfl | hm
  · rw [Int.cast_zero, zero_mul, roundFrom_zero]
  have habs_pos : (0 : ℚ) < (|m| : ℤ) * 2 ^ e := by
    have h : (0 : ℚ) < (|m| : ℤ) := by exact_mod_cast abs_pos.mpr hm
    exact mul_pos h (zpow_pos (by norm_num) e)
  rcases lt_or_eq_of_le hdigits with hlt | heq
  · refine roundFrom_eq rfl ?_
    have hlog : Int.log 2 ((|m| : ℤ) * 2 ^ e : ℚ) < p + e := by
      rw [← Int.lt_zpow_iff_log_lt (by norm_num) habs_pos]
      push_cast
      rw [zpow_add₀ (by norm_num), zpow_natCast]
      have hlt : (|m| : ℚ) < 2 ^ p := by exact_mod_cast hlt
      exact mul_lt_mul_of_pos_right hlt (zpow_pos (by norm_num) e)
    rw [exponentFrom, exponent, habs]
    omega
  · -- the last digit of a power of two is zero
    obtain ⟨p, rfl⟩ := Nat.exists_eq_succ_of_ne_zero hp.ne'
    have hlog : Int.log 2 ((|m| : ℤ) * 2 ^ e : ℚ) = p.succ + e := by
      rw [heq]
      push_cast
      rw [← zpow_natCast, ← zpow_add₀ (by norm_num)]
      exact_mod_cast Int.log_zpow (R := ℚ) (b := 2) (by norm_num) _
    obtain ⟨k, hk⟩ : ∃ k : ℤ, m = k * 2 := by
      rcases (abs_eq (by positivity)).mp heq with h | h
      · exact ⟨2 ^ p, by rw [h, pow_succ]⟩
      · exact ⟨-2 ^ p, by rw [h, pow_succ, neg_mul]⟩
    refine roundFrom_eq (m := k) (n := e + 1) ?_ ?_
    · rw [zpow_add₀ (by norm_num), zpow_one, hk]
      push_cast
      ring
    · rw [exponentFrom, exponent, habs, hlog]
      push_cast
      omega

end RoundFrom

end BinaryRound
