/-
Hexadecimal, Base64 and Base32 text.

`hexUpper` writes bytes as upper-case hexadecimal, `base64` writes bytes in the
standard alphabet with padding, `base64Decode` reads what `base64` writes, `base32`
writes bytes without padding, `urlEncode` writes what a URL may hold.

* `base64Bytes_base64Chars`, `base64Chars_of_base64Bytes` — bytes and their texts;
* `base64Decode_eq_some_iff` — a text is read as a string exactly if it is the
  string's text.
-/
import Mathlib.Data.List.Basic

namespace Encoding

/-- The upper-case hexadecimal digit of a number below 16. -/
def hexDigit (n : ℕ) : Char := (Nat.digitChar n).toUpper

/-- Two digits a byte. -/
def hexUpper (bytes : List UInt8) : String :=
  String.ofList (bytes.flatMap fun b => [hexDigit (b.toNat / 16), hexDigit (b.toNat % 16)])

/-- The character of a six-bit group in the standard alphabet. -/
def base64Char (n : ℕ) : Char :=
  if n < 26 then Char.ofNat ('A'.toNat + n)
  else if n < 52 then Char.ofNat ('a'.toNat + (n - 26))
  else if n < 62 then Char.ofNat ('0'.toNat + (n - 52))
  else if n = 62 then '+'
  else '/'

/-- Three bytes give four characters; a shorter end is padded. -/
def base64Chars : List UInt8 → List Char
  | [] => []
  | [a] =>
    let n := a.toNat * 16
    [base64Char (n / 64 % 64), base64Char (n % 64), '=', '=']
  | [a, b] =>
    let n := (a.toNat * 256 + b.toNat) * 4
    [base64Char (n / 4096 % 64), base64Char (n / 64 % 64), base64Char (n % 64), '=']
  | a :: b :: c :: rest =>
    let n := (a.toNat * 256 + b.toNat) * 256 + c.toNat
    base64Char (n / 262144 % 64) :: base64Char (n / 4096 % 64) :: base64Char (n / 64 % 64) ::
      base64Char (n % 64) :: base64Chars rest

/-- The Base64 text of a string's UTF-8 bytes. -/
def base64 (s : String) : String := String.ofList (base64Chars s.toUTF8.toList)

example : base64 "lead|sold" = "bGVhZHxzb2xk" := by decide +kernel

/-! ### Decoding -/

/-- The six-bit group of a character. -/
def base64Value (c : Char) : Option ℕ := (List.range 64).find? fun n => base64Char n = c

/-- The bytes of a text in the standard alphabet, with its padding and without stray bits. -/
def base64Bytes : List Char → Option (List UInt8)
  | [] => some []
  | a :: b :: c :: d :: rest =>
    if rest = [] ∧ d = '=' then
      if c = '=' then
        (base64Value a).bind fun a => (base64Value b).bind fun b =>
          let n := a * 64 + b
          if n % 16 = 0 then some [UInt8.ofNat (n / 16)] else none
      else
        (base64Value a).bind fun a => (base64Value b).bind fun b => (base64Value c).bind fun c =>
          let n := (a * 64 + b) * 64 + c
          if n % 4 = 0 then some [UInt8.ofNat (n / 1024), UInt8.ofNat (n / 4)] else none
    else
      (base64Value a).bind fun a => (base64Value b).bind fun b => (base64Value c).bind fun c =>
        (base64Value d).bind fun d =>
          let n := ((a * 64 + b) * 64 + c) * 64 + d
          (base64Bytes rest).map fun bytes =>
            UInt8.ofNat (n / 65536) :: UInt8.ofNat (n / 256) :: UInt8.ofNat n :: bytes
  | _ => none

/-- The string whose UTF-8 bytes a Base64 text stands for. -/
def base64Decode (t : String) : Option String :=
  (base64Bytes t.toList).bind fun bytes => String.fromUTF8? ⟨bytes.toArray⟩

theorem base64Value_base64Char : ∀ n : Fin 64, base64Value (base64Char n) = some n.val := by
  decide

theorem base64Value_eq_some_iff {c : Char} {n : ℕ} :
    base64Value c = some n ↔ n < 64 ∧ base64Char n = c := by
  constructor
  · intro h
    unfold base64Value at h
    have hmem := List.mem_of_find?_eq_some h
    have hchar := List.find?_some h
    exact ⟨List.mem_range.mp hmem, of_decide_eq_true hchar⟩
  · rintro ⟨hn, rfl⟩
    exact base64Value_base64Char ⟨n, hn⟩

theorem base64Value_pad : base64Value '=' = none := by decide

theorem byte_eq {n : ℕ} {a : UInt8} (h : n % 256 = a.toNat) : UInt8.ofNat n = a := by
  rw [← UInt8.toNat_inj, UInt8.toNat_ofNat', h]

theorem base64Bytes_base64Chars (bytes : List UInt8) :
    base64Bytes (base64Chars bytes) = some bytes := by
  have hvalue : ∀ {n}, n < 64 → base64Value (base64Char n) = some n :=
    fun hn => base64Value_eq_some_iff.mpr ⟨hn, rfl⟩
  have hpad : ∀ {n}, n < 64 → base64Char n ≠ '=' := by
    intro n hn h
    have := hvalue hn
    rw [h, base64Value_pad] at this
    cases this
  have hmod : ∀ n, n % 64 < 64 := fun n => Nat.mod_lt n (by decide)
  -- the induction is on groups of three bytes, with the two shorter ends as base cases
  induction bytes using base64Chars.induct with
  | case1 => rfl
  | case2 a =>
    -- one byte fills one character and two bits of the next
    have ha := a.toNat_lt
    simp only [base64Chars, base64Bytes, if_true, and_self, hvalue (hmod _), Option.bind_some]
    have hn : a.toNat * 16 / 64 % 64 * 64 + a.toNat * 16 % 64 = a.toNat * 16 := by omega
    rw [hn, if_pos (by omega), Nat.mul_div_cancel _ (by decide), UInt8.ofNat_toNat]
  | case3 a b =>
    have ha := a.toNat_lt
    have hb := b.toNat_lt
    -- two bytes leave two bits of the third character
    have hc := hpad (hmod ((a.toNat * 256 + b.toNat) * 4))
    simp only [base64Chars, base64Bytes, if_true, and_self, if_neg hc, hvalue (hmod _),
      Option.bind_some]
    have hn : ((a.toNat * 256 + b.toNat) * 4 / 4096 % 64 * 64 +
        (a.toNat * 256 + b.toNat) * 4 / 64 % 64) * 64 + (a.toNat * 256 + b.toNat) * 4 % 64 =
          (a.toNat * 256 + b.toNat) * 4 := by omega
    rw [hn, if_pos (by omega), byte_eq (a := a) (by omega), byte_eq (a := b) (by omega)]
  | case4 a b c rest ih =>
    have ha := a.toNat_lt
    have hb := b.toNat_lt
    have hc := c.toNat_lt
    have hd := hpad (hmod ((a.toNat * 256 + b.toNat) * 256 + c.toNat))
    simp only [base64Chars, base64Bytes, hd, and_false, if_false, hvalue (hmod _),
      Option.bind_some, ih, Option.map_some]
    have hn : (((((a.toNat * 256 + b.toNat) * 256 + c.toNat) / 262144 % 64 * 64 +
        ((a.toNat * 256 + b.toNat) * 256 + c.toNat) / 4096 % 64) * 64 +
          ((a.toNat * 256 + b.toNat) * 256 + c.toNat) / 64 % 64) * 64 +
            ((a.toNat * 256 + b.toNat) * 256 + c.toNat) % 64) =
              (a.toNat * 256 + b.toNat) * 256 + c.toNat := by omega
    rw [hn, byte_eq (a := a) (by omega), byte_eq (a := b) (by omega), byte_eq (a := c) (by omega)]

theorem base64Chars_of_base64Bytes : ∀ {cs : List Char} {bytes : List UInt8},
    base64Bytes cs = some bytes → base64Chars bytes = cs
  | [], bytes, h => by
    cases h
    rfl
  | [_], _, h | [_, _], _, h | [_, _, _], _, h => nomatch h
  | a :: b :: c :: d :: rest, bytes, h => by
    unfold base64Bytes at h
    by_cases hlast : rest = [] ∧ d = '='
    · -- two characters and `==` stand for one byte
      rw [if_pos hlast] at h
      obtain ⟨rfl, rfl⟩ := hlast
      by_cases hc : c = '='
      · -- two characters and two pads stand for one byte
        rw [if_pos hc] at h
        simp only [Option.bind_eq_some_iff, Option.ite_none_right_eq_some, Option.some.injEq] at h
        obtain ⟨x, hx, y, hy, hstray, rfl⟩ := h
        obtain ⟨hx, rfl⟩ := base64Value_eq_some_iff.mp hx
        obtain ⟨hy, rfl⟩ := base64Value_eq_some_iff.mp hy
        have hn : (UInt8.ofNat ((x * 64 + y) / 16)).toNat * 16 = x * 64 + y := by
          rw [UInt8.toNat_ofNat']
          omega
        have hx' : (x * 64 + y) / 64 % 64 = x := by omega
        have hy' : (x * 64 + y) % 64 = y := by omega
        simp only [base64Chars, hn, hx', hy', hc]
      · -- three characters and a pad stand for two bytes
        rw [if_neg hc] at h
        simp only [Option.bind_eq_some_iff, Option.ite_none_right_eq_some, Option.some.injEq] at h
        obtain ⟨x, hx, y, hy, z, hz, hstray, rfl⟩ := h
        obtain ⟨hx, rfl⟩ := base64Value_eq_some_iff.mp hx
        obtain ⟨hy, rfl⟩ := base64Value_eq_some_iff.mp hy
        obtain ⟨hz, rfl⟩ := base64Value_eq_some_iff.mp hz
        have hn : ((UInt8.ofNat (((x * 64 + y) * 64 + z) / 1024)).toNat * 256 +
            (UInt8.ofNat (((x * 64 + y) * 64 + z) / 4)).toNat) * 4 = (x * 64 + y) * 64 + z := by
          rw [UInt8.toNat_ofNat', UInt8.toNat_ofNat']
          omega
        have hx' : ((x * 64 + y) * 64 + z) / 4096 % 64 = x := by omega
        have hy' : ((x * 64 + y) * 64 + z) / 64 % 64 = y := by omega
        have hz' : ((x * 64 + y) * 64 + z) % 64 = z := by omega
        simp only [base64Chars, hn, hx', hy', hz']
    · -- four characters stand for three bytes
      rw [if_neg hlast] at h
      simp only [Option.bind_eq_some_iff, Option.map_eq_some_iff] at h
      obtain ⟨x, hx, y, hy, z, hz, w, hw, bytes, hbytes, rfl⟩ := h
      obtain ⟨hx, rfl⟩ := base64Value_eq_some_iff.mp hx
      obtain ⟨hy, rfl⟩ := base64Value_eq_some_iff.mp hy
      obtain ⟨hz, rfl⟩ := base64Value_eq_some_iff.mp hz
      obtain ⟨hw, rfl⟩ := base64Value_eq_some_iff.mp hw
      have hn : ((UInt8.ofNat ((((x * 64 + y) * 64 + z) * 64 + w) / 65536)).toNat * 256 +
          (UInt8.ofNat ((((x * 64 + y) * 64 + z) * 64 + w) / 256)).toNat) * 256 +
            (UInt8.ofNat (((x * 64 + y) * 64 + z) * 64 + w)).toNat =
              ((x * 64 + y) * 64 + z) * 64 + w := by
        rw [UInt8.toNat_ofNat', UInt8.toNat_ofNat', UInt8.toNat_ofNat']
        omega
      have hx' : (((x * 64 + y) * 64 + z) * 64 + w) / 262144 % 64 = x := by omega
      have hy' : (((x * 64 + y) * 64 + z) * 64 + w) / 4096 % 64 = y := by omega
      have hz' : (((x * 64 + y) * 64 + z) * 64 + w) / 64 % 64 = z := by omega
      have hw' : (((x * 64 + y) * 64 + z) * 64 + w) % 64 = w := by omega
      simp only [base64Chars, hn, hx', hy', hz', hw', base64Chars_of_base64Bytes hbytes]

/-! ### Bytes of a string -/

theorem toList_loop_eq (bs : ByteArray) (i : ℕ) (r : List UInt8) :
    ByteArray.toList.loop bs i r = r.reverse ++ bs.data.toList.drop i := by
  fun_induction ByteArray.toList.loop bs i r with
  | case1 i r h ih =>
    have hi : i < bs.data.toList.length := h
    rw [ih, List.reverse_cons, List.append_assoc, List.drop_eq_getElem_cons hi]
    have hget : bs.get! i = bs.data.toList[i] := getElem!_pos bs.data i h
    rw [hget]
    rfl
  | case2 i r h =>
    rw [List.drop_of_length_le (Nat.le_of_not_lt h), List.append_nil]

theorem byteArray_toList (bs : ByteArray) : bs.toList = bs.data.toList := by
  rw [ByteArray.toList, toList_loop_eq]
  rfl

theorem base64Decode_eq_some_iff {t s : String} : base64Decode t = some s ↔ base64 s = t := by
  constructor
  · intro h
    obtain ⟨bytes, hbytes, h⟩ := Option.bind_eq_some_iff.mp h
    unfold String.fromUTF8? at h
    split at h
    · cases h
      rw [base64, byteArray_toList, ← String.ofList_toList (s := t)]
      exact congrArg String.ofList (base64Chars_of_base64Bytes hbytes)
    · cases h
  · rintro rfl
    unfold base64Decode base64
    rw [String.toList_ofList, base64Bytes_base64Chars, Option.bind_some, byteArray_toList]
    exact dif_pos s.isValidUTF8

theorem base64_inj {s s' : String} (h : base64 s = base64 s') : s = s' := by
  have hread := base64Decode_eq_some_iff.mpr h
  rw [base64Decode_eq_some_iff.mpr rfl] at hread
  exact (Option.some.inj hread).symm

theorem not_mem_base64Chars {x : Char} (hx : ∀ n : Fin 64, base64Char n ≠ x) (hpad : '=' ≠ x)
    (bytes : List UInt8) : x ∉ base64Chars bytes := by
  have hchar : ∀ n, x ≠ base64Char (n % 64) :=
    fun n => (hx ⟨n % 64, Nat.mod_lt n (by decide)⟩).symm
  induction bytes using base64Chars.induct with
  | case1 => exact List.not_mem_nil
  | case2 a => simp [base64Chars, hchar, hpad.symm]
  | case3 a b => simp [base64Chars, hchar, hpad.symm]
  | case4 a b c rest ih => simp [base64Chars, hchar, ih]

/-- Three bytes take at least four characters. -/
theorem four_mul_length_le : ∀ bytes : List UInt8,
    4 * bytes.length ≤ 3 * (base64Chars bytes).length
  | [] => Nat.le_refl _
  | [_] => Nat.le_of_ble_eq_true rfl
  | [_, _] => Nat.le_of_ble_eq_true rfl
  | a :: b :: c :: rest => by
    have ih := four_mul_length_le rest
    simp only [base64Chars, List.length_cons]
    omega

theorem length_le_size_utf8Encode (cs : List Char) : cs.length ≤ cs.utf8Encode.size := by
  induction cs with
  | nil => exact Nat.zero_le _
  | cons c cs ih =>
    have hc := List.length_pos_of_ne_nil (String.utf8EncodeChar_ne_nil (c := c))
    rw [List.utf8Encode_cons, ByteArray.size_append, List.utf8Encode_singleton,
      List.size_toByteArray, List.length_cons]
    omega

/-- A short text stands for a short string. -/
theorem length_le_base64 (s : String) : 4 * s.toList.length ≤ 3 * (base64 s).toList.length := by
  have hsize := length_le_size_utf8Encode s.toList
  have hlength := four_mul_length_le s.toUTF8.toList
  have hbytes : s.toUTF8.toList.length = s.toList.utf8Encode.size := by
    rw [byteArray_toList, ← String.toByteArray_ofList, String.ofList_toList]
    rfl
  rw [base64, String.toList_ofList]
  omega

/-! ### Base32 and percent-encoding -/

/-- The characters of RFC 4648. -/
def base32Char (n : ℕ) : Char := if n < 26 then Char.ofNat (65 + n) else Char.ofNat (24 + n)

/-- Five bits as a character; a last group is filled up with zeros. -/
def base32Group (bits : List Bool) : Char :=
  base32Char ((bits ++ List.replicate (5 - bits.length) false).foldl (fun n b => 2 * n + b.toNat) 0)

/-- `base32::encode`, without padding. -/
def base32 (bytes : List UInt8) : String :=
  let bits := bytes.flatMap fun b => (List.range 8).map fun i => b.toNat.testBit (7 - i)
  String.ofList ((bits.toChunks 5).map base32Group)

/-- `urlencoding::encode`. -/
def urlEncode (s : String) : String :=
  String.join (s.toUTF8.toList.map fun b =>
    let c := Char.ofNat b.toNat
    if b < 128 ∧ (c.isAlphanum ∨ c = '-' ∨ c = '.' ∨ c = '_' ∨ c = '~') then c.toString
    else "%" ++ hexUpper [b])

end Encoding
