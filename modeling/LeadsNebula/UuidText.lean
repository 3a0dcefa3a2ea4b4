/-
Reading a `Uuid` from its text (`Uuid::parse_str`).

* `parseStr_toString` — the hyphenated form is read back.
-/
import LeadsNebula.Models

namespace LeadsNebula

namespace Uuid

/-- The value of a hexadecimal digit. -/
def hexValue (c : Char) : Option ℕ :=
  if '0' ≤ c ∧ c ≤ '9' then some (c.toNat - '0'.toNat)
  else if 'a' ≤ c ∧ c ≤ 'f' then some (c.toNat - 'a'.toNat + 10)
  else if 'A' ≤ c ∧ c ≤ 'F' then some (c.toNat - 'A'.toNat + 10)
  else none

/-- The number of a list of hexadecimal digits. -/
def ofHex (cs : List Char) : Option Uuid :=
  (cs.mapM hexValue).map fun ds => ⟨BitVec.ofNat 128 (ds.foldl (fun n d => 16 * n + d) 0)⟩

/-- The hyphenated form, without its hyphens. -/
def parseHyphenated (cs : List Char) : Option Uuid :=
  if [8, 13, 18, 23].all fun i => cs[i]? = some '-' then
    ofHex (cs.take 8 ++ (cs.drop 9).take 4 ++ (cs.drop 14).take 4 ++ (cs.drop 19).take 4 ++
      cs.drop 24)
  else none

/-- `Uuid::parse_str`. -/
def parseStr (s : String) : Option Uuid :=
  let cs := s.toList
  if cs.length = 32 then ofHex cs
  else if cs.length = 36 then parseHyphenated cs
  else if cs.length = 38 ∧ cs.head? = some '{' ∧ cs.getLast? = some '}' then
    parseHyphenated cs.tail.dropLast
  else if cs.length = 45 ∧ cs.take 9 = "urn:uuid:".toList then parseHyphenated (cs.drop 9)
  else none

theorem hexValue_digitChar {d : ℕ} (h : d < 16) : hexValue (Nat.digitChar d) = some d := by
  revert d
  decide

/-- The digits up to place `k` give the number without its lower places. -/
theorem foldl_hexDigits (n k : ℕ) (hk : k ≤ 32) (hn : n < 16 ^ 32) :
    ((List.range k).map fun i => n / 16 ^ (31 - i) % 16).foldl (fun n d => 16 * n + d) 0 =
      n / 16 ^ (32 - k) := by
  induction k with
  | zero => exact (Nat.div_eq_of_lt hn).symm
  | succ k ih =>
    rw [List.range_succ, List.map_append, List.foldl_append, ih (by omega)]
    have hdiv : n / 16 ^ (32 - k) = n / 16 ^ (31 - k) / 16 := by
      rw [Nat.div_div_eq_div_mul, ← Nat.pow_succ]
      congr 2
      omega
    simp only [List.map_cons, List.map_nil, List.foldl_cons, List.foldl_nil]
    rw [hdiv, Nat.div_add_mod, show 32 - (k + 1) = 31 - k by omega]

theorem mapM_map_eq_some {α β γ : Type} {f : β → Option γ} {g : α → β} {h : α → γ} {l : List α}
    (hfg : ∀ a ∈ l, f (g a) = some (h a)) : (l.map g).mapM f = some (l.map h) := by
  induction l with
  | nil => rfl
  | cons a l ih =>
    rw [List.forall_mem_cons] at hfg
    rw [List.map_cons, List.mapM_cons, hfg.1, ih hfg.2]
    rfl

theorem ofHex_hexDigits (u : Uuid) : ofHex (u.hexDigits 0 32) = some u := by
  have hdigits : (u.hexDigits 0 32).mapM hexValue =
      some ((List.range 32).map fun i => u.bits.toNat / 16 ^ (31 - i) % 16) := by
    rw [hexDigits]
    refine mapM_map_eq_some fun i _ => ?_
    rw [Nat.zero_add]
    exact hexValue_digitChar (Nat.mod_lt _ (by decide))
  rw [ofHex, hdigits, Option.map_some, foldl_hexDigits _ 32 le_rfl u.bits.isLt]
  simp

theorem toList_toString (u : Uuid) :
    u.toString.toList = u.hexDigits 0 8 ++ '-' :: u.hexDigits 8 4 ++
    '-' :: u.hexDigits 12 4 ++ '-' :: u.hexDigits 16 4 ++ '-' :: u.hexDigits 20 12 := by
  rw [toString, String.toList_ofList]

theorem length_toString (u : Uuid) : u.toString.toList.length = 36 := by
  rw [toList_toString]
  simp [hexDigits]

theorem parseStr_toString (u : Uuid) : parseStr u.toString = some u := by
  have hlen := length_toString u
  rw [parseStr, if_neg (by rw [hlen]; decide), if_pos hlen, toList_toString]
  exact ofHex_hexDigits u

theorem toString_inj {u v : Uuid} (h : u.toString = v.toString) : u = v := by
  have hparse := parseStr_toString u
  rw [h, parseStr_toString v, Option.some_inj] at hparse
  exact hparse.symm

end Uuid

end LeadsNebula
