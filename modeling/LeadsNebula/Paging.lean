/-
Pages of a listing that is sorted by a key.

Each page is cut by `LIMIT` and `OFFSET` from a query of its own, and a query may
give rows with the same key in any order.

* `lt_countP_iff` — the rows whose key is in an upper set come first;
* `take_perm` — where no key stands on both sides of a position, all orders have the
  same rows before it;
* `pages_perm_iff` — the pages together have every row once, whatever the orders,
  exactly if no key stands on both sides of a page boundary.
-/
import Mathlib.Data.List.Nodup
import Mathlib.Data.List.Perm.Basic
import Mathlib.Order.Defs.LinearOrder
import Mathlib.Tactic.Linarith

namespace Paging

variable {α κ : Type*} [LinearOrder κ] {f : α → κ}

/-- `ORDER BY f DESC` allows the rows of `l` to come in the order `o`. -/
structure Allowed (f : α → κ) (l o : List α) : Prop where
  perm : o.Perm l
  sorted : o.Pairwise fun a b => f b ≤ f a

/-- `LIMIT limit OFFSET offset`. -/
def page (o : List α) (limit offset : ℕ) : List α := (o.drop offset).take limit

/-- Rows with the key `t` stand on both sides of position `m`. -/
def Straddles (f : α → κ) (l : List α) (m : ℕ) (t : κ) : Prop :=
  l.countP (fun a => t < f a) < m ∧ m < l.countP fun a => t ≤ f a

instance (l : List α) (m : ℕ) (t : κ) : Decidable (Straddles f l m t) :=
  inferInstanceAs (Decidable (_ ∧ _))

/-- A key that only one row has is on one side. -/
theorem not_straddles_of_nodup {l : List α} (hl : (l.map f).Nodup) (m : ℕ) (t : κ) :
    ¬Straddles f l m t := by
  have hsplit : ∀ l : List α, l.countP (fun a => t ≤ f a) =
      l.countP (fun a => t < f a) + (l.map f).count t := by
    intro l
    induction l with
    | nil => rfl
    | cons a l ih =>
      rw [List.countP_cons, List.countP_cons, List.map_cons, List.count_cons, ih]
      rcases lt_trichotomy t (f a) with h | rfl | h
      · simp [h, h.le, h.ne']
        omega
      · simp
        omega
      · simp [h.not_ge, h.not_gt, h.ne]
  have hone := List.nodup_iff_count_le_one.mp hl t
  rintro ⟨habove, hupto⟩
  rw [hsplit] at hupto
  omega

/-! ### Sorted lists -/

/-- In a sorted list the rows whose key is in an upper set come first. -/
theorem lt_countP_iff {q : α → Bool}
    (hq : ∀ {a b}, f a ≤ f b → q a = true → q b = true) {o : List α}
    (ho : o.Pairwise fun a b => f b ≤ f a) {i : ℕ} (hi : i < o.length) :
    i < o.countP q ↔ q o[i] = true := by
  induction o generalizing i with
  | nil => exact absurd hi (Nat.not_lt_zero i)
  | cons a o ih =>
    obtain ⟨ha, ho⟩ := List.pairwise_cons.mp ho
    by_cases hqa : q a = true
    · rw [List.countP_cons_of_pos hqa]
      cases i with
      | zero => simp [hqa]
      | succ i =>
        rw [List.getElem_cons_succ, ← ih ho (Nat.lt_of_succ_lt_succ hi)]
        omega
    · -- no later key is in the set
      have hnone : ∀ b ∈ o, ¬q b = true := fun b hb hqb => hqa (hq (ha b hb) hqb)
      rw [List.countP_cons_of_neg hqa, List.countP_eq_zero.mpr hnone]
      refine iff_of_false (Nat.not_lt_zero i) ?_
      cases i with
      | zero => exact hqa
      | succ i => exact hnone _ (List.getElem_mem _)

theorem filter_eq_take {q : α → Bool} (hq : ∀ {a b}, f a ≤ f b → q a = true → q b = true)
    {o : List α} (ho : o.Pairwise fun a b => f b ≤ f a) : o.filter q = o.take (o.countP q) := by
  induction o with
  | nil => rfl
  | cons a o ih =>
    obtain ⟨ha, ho⟩ := List.pairwise_cons.mp ho
    by_cases hqa : q a = true
    · rw [List.filter_cons_of_pos hqa, List.countP_cons_of_pos hqa, ih ho, List.take_succ_cons]
    · have hnone : ∀ b ∈ o, ¬q b = true := fun b hb hqb => hqa (hq (ha b hb) hqb)
      rw [List.filter_cons_of_neg hqa, List.countP_cons_of_neg hqa, List.countP_eq_zero.mpr hnone,
        List.take_zero, List.filter_eq_nil_iff.mpr hnone]

theorem le_upper {t : κ} {a b : α} (hab : f a ≤ f b) (h : decide (t ≤ f a) = true) :
    decide (t ≤ f b) = true :=
  decide_eq_true ((of_decide_eq_true h).trans hab)

theorem lt_upper {t : κ} {a b : α} (hab : f a ≤ f b) (h : decide (t < f a) = true) :
    decide (t < f b) = true :=
  decide_eq_true ((of_decide_eq_true h).trans_le hab)

section Orders

variable {l o o' : List α} {m : ℕ} {t : κ}

/-- The key at a position of an allowed order. -/
theorem Allowed.lt_count_lt_iff (ho : Allowed f l o) (hm : m < o.length) :
    m < l.countP (fun a => t < f a) ↔ t < f o[m] := by
  rw [← ho.perm.countP_eq, lt_countP_iff lt_upper ho.sorted hm,
    decide_eq_true_iff]

theorem Allowed.lt_count_le_iff (ho : Allowed f l o) (hm : m < o.length) :
    m < l.countP (fun a => t ≤ f a) ↔ t ≤ f o[m] := by
  rw [← ho.perm.countP_eq, lt_countP_iff le_upper ho.sorted hm,
    decide_eq_true_iff]

/-- All orders have the same rows before a position that no key stands on both sides of. -/
theorem take_perm (ho : Allowed f l o) (ho' : Allowed f l o') (hm : ∀ t, ¬Straddles f l m t) :
    (o.take m).Perm (o'.take m) := by
  have hlength : o'.length = o.length := ho'.perm.length_eq.trans ho.perm.length_eq.symm
  rcases Nat.lt_or_ge (m - 1) o.length with hlt | hge
  · cases m with
    | zero => simp
    | succ i =>
      have hi : i < o.length := hlt
      -- the rows up to the key at the position are those before it
      have habove : ¬i < l.countP fun a => f o[i] < f a := by
        rw [ho.lt_count_lt_iff hi]
        exact lt_irrefl _
      have hupto : i < l.countP fun a => f o[i] ≤ f a := (ho.lt_count_le_iff hi).mpr le_rfl
      have hcount : l.countP (fun a => f o[i] ≤ f a) = i + 1 := by
        have := hm (f o[i])
        unfold Straddles at this
        omega
      have htake : ∀ {r : List α}, Allowed f l r →
        r.take (i + 1) = r.filter fun a => f o[i] ≤ f a := by
        intro r hr
        rw [← hcount, ← hr.perm.countP_eq]
        exact (filter_eq_take le_upper hr.sorted).symm
      rw [htake ho, htake ho']
      exact (ho.perm.trans ho'.perm.symm).filter _
  · rw [List.take_of_length_le (by omega), List.take_of_length_le (by omega)]
    exact ho.perm.trans ho'.perm.symm

/-! ### All pages -/

/-- The first pages have the rows that any order has at the front. -/
theorem pages_perm_take {p : ℕ} {o : ℕ → List α} (ho : ∀ k, Allowed f l (o k))
    (hno : ∀ k t, ¬Straddles f l (k * p) t) (n : ℕ) :
    ((List.range n).flatMap fun k => page (o k) p (k * p)).Perm ((o 0).take (n * p)) := by
  induction n with
  | zero => simp
  | succ n ih =>
    rw [List.range_succ, List.flatMap_append, List.flatMap_singleton]
    have hpage : (o n).take (n * p) ++ page (o n) p (n * p) = (o n).take ((n + 1) * p) := by
      rw [page, Nat.add_mul, Nat.one_mul, List.take_add]
    refine (ih.append_right _).trans ?_
    refine ((take_perm (ho 0) (ho n) (hno n)).append_right _).trans ?_
    rw [hpage]
    exact take_perm (ho n) (ho 0) (hno (n + 1))

theorem exists_allowed (f : α → κ) (l : List α) : ∃ o, Allowed f l o := by
  refine ⟨l.mergeSort fun a b => f b ≤ f a, List.mergeSort_perm .., ?_⟩
  have htrans : ∀ a b c : α, decide (f b ≤ f a) = true → decide (f c ≤ f b) = true →
      decide (f c ≤ f a) = true :=
    fun a b c hab hbc => decide_eq_true ((of_decide_eq_true hbc).trans (of_decide_eq_true hab))
  have htotal : ∀ a b : α, (decide (f b ≤ f a) || decide (f a ≤ f b)) = true := by
    intro a b
    simpa using le_total (f b) (f a)
  exact (List.pairwise_mergeSort htrans htotal l).imp of_decide_eq_true

/-- Rows with one key on both sides of a position can change places. -/
theorem exists_swap (h : Straddles f l m t) :
    ∃ (o o' : List α) (a : α), Allowed f l o ∧ Allowed f l o' ∧ o[m - 1]? = some a ∧
      o'[m]? = some a := by
  obtain ⟨habove, hupto⟩ := h
  obtain ⟨o, ho⟩ := exists_allowed f l
  have hlength : m < o.length := by
    rw [ho.perm.length_eq]
    exact hupto.trans_le List.countP_le_length
  obtain ⟨i, rfl⟩ : ∃ i, m = i + 1 := ⟨m - 1, by omega⟩
  have hlt : i < o.length := Nat.lt_of_succ_lt hlength
  -- both rows have the key
  have hkey : ∀ {j : ℕ} (hj : j < o.length), j = i ∨ j = i + 1 → f o[j] = t := by
    intro j hj hij
    refine le_antisymm (not_lt.mp ?_) ((ho.lt_count_le_iff hj).mp (by omega))
    rw [← ho.lt_count_lt_iff hj]
    omega
  have hmap : ((o.set i o[i + 1]).set (i + 1) o[i]).map f = o.map f := by
    have hswap : f o[i] = f o[i + 1] :=
      (hkey hlt (Or.inl rfl)).trans (hkey hlength (Or.inr rfl)).symm
    rw [List.map_set, List.map_set, ← hswap]
    refine List.ext_getElem (by simp) fun j hj _ => ?_
    rw [List.getElem_set, List.getElem_set, List.getElem_map]
    split
    · next hij => subst hij; exact hswap
    · split
      · next hij => subst hij; rfl
      · rfl
  refine ⟨o, (o.set i o[i + 1]).set (i + 1) o[i], o[i], ho,
    ⟨(List.set_set_perm hlt hlength).trans ho.perm, ?_⟩, List.getElem?_eq_getElem hlt, ?_⟩
  · have hsorted := ho.sorted
    rw [← List.pairwise_map (R := fun x y => y ≤ x)] at hsorted ⊢
    rw [hmap]
    exact hsorted
  · rw [List.getElem?_set_self (by simpa using hlength)]

/-- The pages together have every row once, whatever the orders, exactly if no key stands on both
sides of a page boundary. -/
theorem pages_perm_iff {p n : ℕ} (hl : l.Nodup) (hp : 0 < p) (hn : l.length ≤ n * p) :
    (∀ o : ℕ → List α, (∀ k, Allowed f l (o k)) →
      ((List.range n).flatMap fun k => page (o k) p (k * p)).Perm l) ↔
      ∀ k t, ¬Straddles f l (k * p) t := by
  constructor
  · intro h k t hstraddles
    have hm : 0 < k * p := Nat.zero_lt_of_lt hstraddles.1
    have hk : 0 < k := Nat.pos_of_mul_pos_right hm
    have hkn : k < n := by
      have hlt : k * p < n * p := hstraddles.2.trans_le (List.countP_le_length.trans hn)
      exact Nat.lt_of_mul_lt_mul_right hlt
    obtain ⟨o, o', a, ho, ho', hlast, hfirst⟩ := exists_swap hstraddles
    -- page `k` shows again what page `k - 1` has shown
    have hperm := h (fun j => if j = k then o' else o) fun j => by
      split
      · exact ho'
      · exact ho
    have hdisjoint := (List.nodup_flatMap.mp (hperm.nodup_iff.mpr hl)).2
    have hpages := List.pairwise_iff_getElem.mp hdisjoint (k - 1) k (by simp; omega) (by simpa)
      (by omega)
    simp only [Function.onFun, List.getElem_range, if_pos,
      if_neg (show ¬k - 1 = k by omega)] at hpages
    have hlastRow : (k - 1) * p + (p - 1) = k * p - 1 := by
      obtain ⟨j, rfl⟩ : ∃ j, k = j + 1 := ⟨k - 1, by omega⟩
      rw [Nat.add_sub_cancel, Nat.add_mul, Nat.one_mul]
      omega
    refine hpages (a := a) ?_ ?_
    · refine List.mem_of_getElem? (i := p - 1) ?_
      rw [page, List.getElem?_take_of_lt (by omega), List.getElem?_drop, hlastRow, hlast]
    · refine List.mem_of_getElem? (i := 0) ?_
      rw [page, List.getElem?_take_of_lt hp, List.getElem?_drop, Nat.add_zero, hfirst]
  · intro hno o ho
    refine (pages_perm_take ho hno n).trans ?_
    rw [List.take_of_length_le ((ho 0).perm.length_eq.trans_le hn)]
    exact (ho 0).perm

end Orders

end Paging
