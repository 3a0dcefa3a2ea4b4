/-
Choosing from a ranked list.

Elements have a value and, some of them, a priority; a high value and a low
priority number are good.  `rank` is the stable sort by value and then priority,
and `select` chooses: of the elements whose value is closer than `ε` to the best
one it takes the first with the least priority, or, if none of them has a
priority, the one at a position that is drawn.  Differences of values are measured
by an odd monotone function, the identity or a rounding.

* `firstMin_eq_some_iff` — the first element with the least key;
* `takeWhile_eq_filter` — a prefix of a ranked list that is closed upwards;
* `select_leads` — the choice is near the best value, and no other element that is
  near has a better priority, or the same one with a higher value (`Leads`);
* `select_cons_of_leads` — every element that leads is chosen for some draw, if the
  list starts with it;
* `leads_unique` — without ties only one element leads.
-/
import Mathlib.Algebra.Order.Group.Abs
import Mathlib.Data.List.Basic
import Mathlib.Data.List.TakeWhile

namespace Ranking

variable {α β γ : Type*}

/-! ### The first minimum -/

section FirstMin

variable [LinearOrder γ] {key : α → γ} {l : List α} {w : α}

/-- The first element with the least key. -/
def firstMin (key : α → γ) : List α → Option α
  | [] => none
  | a :: l =>
    match firstMin key l with
    | none => some a
    | some b => if key a ≤ key b then some a else some b

theorem firstMin_eq_none_iff : firstMin key l = none ↔ l = [] := by
  cases l with
  | nil => exact iff_of_true rfl rfl
  | cons a l =>
    refine iff_of_false ?_ (List.cons_ne_nil a l)
    rw [firstMin]
    split
    · exact Option.some_ne_none _
    · split <;> exact Option.some_ne_none _

theorem split_of_firstMin (h : firstMin key l = some w) :
    ∃ l₁ l₂, l = l₁ ++ w :: l₂ ∧ (∀ y ∈ l₁, key w < key y) ∧ ∀ y ∈ l₂, key w ≤ key y := by
  induction l generalizing w with
  | nil => cases h
  | cons a l ih =>
    rw [firstMin] at h
    split at h
    · next hnone =>
      obtain rfl := Option.some_inj.mp h
      rw [firstMin_eq_none_iff.mp hnone]
      exact ⟨[], [], rfl, by simp, by simp⟩
    · next b hb =>
      obtain ⟨l₁, l₂, rfl, hbefore, hafter⟩ := ih hb
      split at h
      · next hle =>
        -- the head is at least as good as the minimum of the tail
        obtain rfl := Option.some_inj.mp h
        refine ⟨[], l₁ ++ b :: l₂, rfl, by simp, ?_⟩
        intro y hy
        rcases List.mem_append.mp hy with hy | hy
        · exact hle.trans (hbefore y hy).le
        · rcases List.mem_cons.mp hy with rfl | hy
          · exact hle
          · exact hle.trans (hafter y hy)
      · next hlt =>
        obtain rfl := Option.some_inj.mp h
        refine ⟨a :: l₁, l₂, rfl, ?_, hafter⟩
        intro y hy
        rcases List.mem_cons.mp hy with rfl | hy
        · exact not_le.mp hlt
        · exact hbefore y hy

theorem firstMin_of_split {l₁ l₂ : List α} (hbefore : ∀ y ∈ l₁, key w < key y)
    (hafter : ∀ y ∈ l₂, key w ≤ key y) : firstMin key (l₁ ++ w :: l₂) = some w := by
  induction l₁ with
  | nil =>
    rw [List.nil_append, firstMin]
    split
    · rfl
    · next b hb =>
      obtain ⟨l₁, l₂, rfl, -, -⟩ := split_of_firstMin hb
      rw [if_pos (hafter b (by simp))]
  | cons a l₁ ih =>
    have hw := ih fun y hy => hbefore y (List.mem_cons_of_mem _ hy)
    rw [List.cons_append, firstMin, hw]
    show (if key a ≤ key w then _ else _) = _
    rw [if_neg (not_le.mpr (hbefore a List.mem_cons_self))]

/-- What comes before the first minimum has a greater key, what comes after it has no smaller
one. -/
theorem firstMin_eq_some_iff :
    firstMin key l = some w ↔ ∃ l₁ l₂, l = l₁ ++ w :: l₂ ∧ (∀ y ∈ l₁, key w < key y) ∧
      ∀ y ∈ l₂, key w ≤ key y := by
  constructor
  · exact split_of_firstMin
  · rintro ⟨l₁, l₂, rfl, hbefore, hafter⟩
    exact firstMin_of_split hbefore hafter

end FirstMin

/-! ### Prefixes of sorted lists -/

/-- A prefix of a sorted list that is closed upwards is a selection from the whole list. -/
theorem takeWhile_eq_filter {r : α → α → Prop} {l : List α} (hl : l.Pairwise r) {p : α → Bool}
    (hp : ∀ a ∈ l, ∀ b ∈ l, r a b → p b = true → p a = true) : l.takeWhile p = l.filter p := by
  induction l with
  | nil => rfl
  | cons a l ih =>
    rw [List.pairwise_cons] at hl
    by_cases ha : p a = true
    · have ih := ih hl.2 fun b hb c hc =>
        hp b (List.mem_cons_of_mem a hb) c (List.mem_cons_of_mem a hc)
      rw [List.takeWhile_cons_of_pos ha, List.filter_cons_of_pos ha, ih]
    · rw [List.takeWhile_cons_of_neg ha, List.filter_cons_of_neg ha, eq_comm,
        List.filter_eq_nil_iff]
      intro b hb hpb
      exact ha (hp a List.mem_cons_self b (List.mem_cons_of_mem a hb) (hl.1 b hb) hpb)

theorem takeWhile_congr {l : List α} {p q : α → Bool} (h : ∀ a ∈ l, p a = q a) :
    l.takeWhile p = l.takeWhile q := by
  induction l with
  | nil => rfl
  | cons a l ih =>
    rw [List.takeWhile_cons, List.takeWhile_cons, h a List.mem_cons_self,
      ih fun b hb => h b (List.mem_cons_of_mem a hb)]

/-! ### Ranking -/

section Rank

variable [LinearOrder β] [LinearOrder γ] (value : α → β) (prio : α → γ)

/-- Highest value first, then lowest priority. -/
def rankLe (a b : α) : Bool := value b < value a || (value a = value b && prio a ≤ prio b)

/-- The stable sort by value and priority. -/
def rank (l : List α) : List α := l.mergeSort (rankLe value prio)

variable {value prio}

theorem rankLe_iff {a b : α} : rankLe value prio a b = true ↔
    value b < value a ∨ value a = value b ∧ prio a ≤ prio b := by
  simp [rankLe]

theorem value_le_of_rankLe {a b : α} (h : rankLe value prio a b = true) : value b ≤ value a := by
  rcases rankLe_iff.mp h with h | ⟨h, -⟩
  · exact h.le
  · exact h.ge

variable (value prio)

theorem rankLe_trans (a b c : α) (hab : rankLe value prio a b = true)
    (hbc : rankLe value prio b c = true) : rankLe value prio a c = true := by
  rw [rankLe_iff] at hab hbc ⊢
  rcases hab with hab | ⟨hab, hpab⟩
  · rcases hbc with hbc | ⟨hbc, -⟩
    · exact Or.inl (hbc.trans hab)
    · exact Or.inl (hbc ▸ hab)
  · rcases hbc with hbc | ⟨hbc, hpbc⟩
    · exact Or.inl (hab ▸ hbc)
    · exact Or.inr ⟨hab.trans hbc, hpab.trans hpbc⟩

theorem rankLe_total (a b : α) : (rankLe value prio a b || rankLe value prio b a) = true := by
  rw [Bool.or_eq_true, rankLe_iff, rankLe_iff]
  rcases lt_trichotomy (value a) (value b) with h | h | h
  · exact Or.inr (Or.inl h)
  · rcases le_total (prio a) (prio b) with hp | hp
    · exact Or.inl (Or.inr ⟨h, hp⟩)
    · exact Or.inr (Or.inr ⟨h.symm, hp⟩)
  · exact Or.inl (Or.inl h)

theorem pairwise_rank (l : List α) :
    (rank value prio l).Pairwise fun a b => rankLe value prio a b = true :=
  List.pairwise_mergeSort (rankLe_trans value prio) (rankLe_total value prio) l

/-- The first of a list keeps its place before the elements that it ties with. -/
theorem rank_cons (a : α) (l : List α) : ∃ l₁ l₂, rank value prio (a :: l) = l₁ ++ a :: l₂ ∧
    ∀ b ∈ l₁, rankLe value prio a b = false := by
  obtain ⟨l₁, l₂, h, -, hstrict⟩ :=
    List.mergeSort_cons (rankLe_trans value prio) (rankLe_total value prio) a l
  refine ⟨l₁, l₂, h, fun b hb => ?_⟩
  have hb := hstrict b hb
  rwa [Bool.not_eq_true'] at hb

variable {value prio}

@[simp] theorem mem_rank {l : List α} {a : α} : a ∈ rank value prio l ↔ a ∈ l :=
  List.mem_mergeSort

/-- The first of a ranked list has the highest value. -/
theorem value_le_of_rank {l rest : List α} {best a : α} (h : rank value prio l = best :: rest)
    (ha : a ∈ l) : value a ≤ value best := by
  have hsorted := pairwise_rank value prio l
  have ha : a ∈ rank value prio l := mem_rank.mpr ha
  rw [h, List.pairwise_cons] at hsorted
  rw [h] at ha
  rcases List.mem_cons.mp ha with rfl | ha
  · exact le_rfl
  · exact value_le_of_rankLe (hsorted.1 a ha)

end Rank

/-! ### Choosing -/

section Select

variable [AddCommGroup β] [LinearOrder β] [IsOrderedAddMonoid β] [LinearOrder γ]
  (d : β → β) (ε : β) (value : α → β) (prio : α → Option γ) (top : γ)

/-- The elements of a ranked list whose value is near that of the first. -/
def band : List α → List α
  | [] => []
  | best :: rest => (best :: rest).takeWhile fun a => |d (value a - value best)| < ε

/-- The choice from a list; `top` stands for a missing priority in the ranking, and `draw` is the
number that decides where no priority does. -/
def select (l : List α) (draw : ℕ) : Option α :=
  match band d ε value (rank value (fun a => (prio a).getD top) l) with
  | [only] => some only
  | candidates =>
    match firstMin (fun a => (prio a).getD top) (candidates.filter fun a => (prio a).isSome) with
    | some winner => some winner
    | none => candidates[draw % candidates.length]?

/-- The value of `a` is near the best one. -/
def Near (l : List α) (a : α) : Prop := a ∈ l ∧ ∀ b ∈ l, d (value b - value a) < ε

/-- `a` is near the best value, and where priorities decide, none is better than its own. -/
structure Leads (l : List α) (a : α) : Prop where
  near : Near d ε value l a
  priority : ∀ b, Near d ε value l b → ∀ p, prio b = some p →
    ∃ q, prio a = some q ∧ (q < p ∨ q = p ∧ value b ≤ value a)

/-- What measures differences: an odd function that keeps the order. -/
structure Measures (d : β → β) : Prop where
  mono : Monotone d
  neg : ∀ x, d (-x) = -d x

variable {d ε value prio top} {l : List α}

theorem Measures.zero (hd : Measures d) : d 0 = 0 := by
  have h := hd.neg 0
  rw [neg_zero] at h
  exact self_eq_neg.mp h

omit [IsOrderedAddMonoid β] [LinearOrder γ] in
theorem near_congr {l' : List α} (h : ∀ a, a ∈ l ↔ a ∈ l') (a : α) :
    Near d ε value l a ↔ Near d ε value l' a := by
  simp only [Near, h]

omit [IsOrderedAddMonoid β] in
theorem leads_congr {l' : List α} (h : ∀ a, a ∈ l ↔ a ∈ l') (a : α) :
    Leads d ε value prio l a ↔ Leads d ε value prio l' a := by
  constructor
  · intro ha
    refine ⟨(near_congr h a).mp ha.near, fun b hb => ha.priority b ((near_congr h b).mpr hb)⟩
  · intro ha
    refine ⟨(near_congr h a).mpr ha.near, fun b hb => ha.priority b ((near_congr h b).mp hb)⟩

/-- The band of a ranked list holds the elements that are near the best value, in their order. -/
theorem band_rank (hd : Measures d) {key : α → γ} :
    band d ε value (rank value key l) =
      (rank value key l).filter fun a => l.all fun b => d (value b - value a) < ε := by
  cases hrank : rank value key l with
  | nil => rfl
  | cons best rest =>
    have hbest : best ∈ l := by
      have hmem : best ∈ rank value key l := hrank ▸ List.mem_cons_self
      exact mem_rank.mp hmem
    have hle : ∀ a ∈ best :: rest, value a ≤ value best := by
      intro a ha
      rw [← hrank] at ha
      exact value_le_of_rank hrank (mem_rank.mp ha)
    -- below the best value the distance is the difference
    have hdist : ∀ a ∈ best :: rest, |d (value a - value best)| = d (value best - value a) := by
      intro a ha
      have hnonneg : 0 ≤ d (value best - value a) := by
        rw [← hd.zero]
        exact hd.mono (sub_nonneg.mpr (hle a ha))
      rw [← neg_sub (value best), hd.neg, abs_neg, abs_of_nonneg hnonneg]
    have hsorted := pairwise_rank value key l
    rw [hrank] at hsorted
    rw [band, takeWhile_eq_filter hsorted]
    · refine List.filter_congr fun a ha => ?_
      rw [hdist a ha, Bool.eq_iff_iff, decide_eq_true_iff, List.all_eq_true]
      constructor
      · intro h b hb
        rw [decide_eq_true_iff]
        exact lt_of_le_of_lt (hd.mono (sub_le_sub_right (value_le_of_rank hrank hb) _)) h
      · intro h
        exact of_decide_eq_true (h best hbest)
    · intro a ha b hb hab hnear
      rw [hdist b hb, decide_eq_true_iff] at hnear
      rw [hdist a ha, decide_eq_true_iff]
      exact lt_of_le_of_lt (hd.mono (sub_le_sub_left (value_le_of_rankLe hab) _)) hnear

theorem mem_band (hd : Measures d) {key : α → γ} {a : α} :
    a ∈ band d ε value (rank value key l) ↔ Near d ε value l a := by
  rw [band_rank hd, List.mem_filter, mem_rank, List.all_eq_true, Near]
  simp only [decide_eq_true_iff]

theorem pairwise_band (hd : Measures d) {key : α → γ} :
    (band d ε value (rank value key l)).Pairwise fun a b => rankLe value key a b = true := by
  rw [band_rank hd]
  exact (pairwise_rank value key l).filter _

/-- The first of a ranked list is in its band. -/
theorem band_rank_ne_nil (hd : Measures d) {key : α → γ} (hε : 0 < ε) (hl : l ≠ []) :
    band d ε value (rank value key l) ≠ [] := by
  obtain ⟨a, ha⟩ := List.exists_mem_of_ne_nil l hl
  have ha : a ∈ rank value key l := mem_rank.mpr ha
  cases hrank : rank value key l with
  | nil =>
    rw [hrank] at ha
    cases ha
  | cons best rest =>
    have hbest : best ∈ band d ε value (best :: rest) := by
      rw [← hrank, mem_band hd]
      have hmem : best ∈ rank value key l := hrank ▸ List.mem_cons_self
      refine ⟨mem_rank.mp hmem, fun b hb => ?_⟩
      have hle := hd.mono (sub_nonpos.mpr (value_le_of_rank hrank hb))
      rw [hd.zero] at hle
      exact hle.trans_lt hε
    exact List.ne_nil_of_mem hbest

/-- There is a choice, and it leads. -/
theorem select_leads (hd : Measures d) (hε : 0 < ε) (hl : l ≠ []) (draw : ℕ) :
    ∃ a, select d ε value prio top l draw = some a ∧ Leads d ε value prio l a := by
  have hne : band d ε value (rank value (fun a => (prio a).getD top) l) ≠ [] :=
    band_rank_ne_nil hd hε hl
  have hmem : ∀ {a : α}, a ∈ band d ε value (rank value (fun a => (prio a).getD top) l) ↔
      Near d ε value l a := mem_band hd
  have hsorted : (band d ε value (rank value (fun a => (prio a).getD top) l)).Pairwise
      fun a b => rankLe value (fun a => (prio a).getD top) a b = true := pairwise_band hd
  rw [select]
  generalize band d ε value (rank value (fun a => (prio a).getD top) l) = candidates at *
  split
  · next only =>
    -- nothing else is near the best value
    refine ⟨only, rfl, hmem.mp (List.mem_singleton_self only), fun b hb p hp => ?_⟩
    rw [List.mem_singleton.mp (hmem.mpr hb)] at hp ⊢
    exact ⟨p, hp, Or.inr ⟨rfl, le_rfl⟩⟩
  · split
    · next winner hmin =>
      obtain ⟨l₁, l₂, hsplit, hbefore, hafter⟩ := firstMin_eq_some_iff.mp hmin
      have hwinner : winner ∈ candidates.filter fun a => (prio a).isSome := by
        rw [hsplit]
        exact List.mem_append_right _ List.mem_cons_self
      obtain ⟨hwinner, hsome⟩ := List.mem_filter.mp hwinner
      obtain ⟨q, hq⟩ := Option.isSome_iff_exists.mp hsome
      refine ⟨winner, rfl, hmem.mp hwinner, fun b hb p hp => ⟨q, hq, ?_⟩⟩
      have hb : b ∈ candidates.filter fun a => (prio a).isSome :=
        List.mem_filter.mpr ⟨hmem.mpr hb, by rw [hp]; rfl⟩
      have hsorted := hsorted.filter fun a => (prio a).isSome
      rw [hsplit] at hb hsorted
      rcases List.mem_append.mp hb with hb | hb
      · have hlt := hbefore b hb
        rw [hp, hq] at hlt
        exact Or.inl hlt
      · rcases List.mem_cons.mp hb with rfl | hb
        · exact Or.inr ⟨Option.some_inj.mp (hq.symm.trans hp), le_rfl⟩
        · have hle := hafter b hb
          rw [hp, hq] at hle
          rcases lt_or_eq_of_le hle with hlt | heq
          · exact Or.inl hlt
          · have hrank := (List.pairwise_cons.mp (List.pairwise_append.mp hsorted).2.1).1 b hb
            exact Or.inr ⟨heq, value_le_of_rankLe hrank⟩
    · next hnone =>
      -- nothing near the best value has a priority
      have hlen : 0 < candidates.length := List.length_pos_iff.mpr hne
      have hlt : draw % candidates.length < candidates.length := Nat.mod_lt _ hlen
      refine ⟨candidates[draw % candidates.length], List.getElem?_eq_getElem hlt,
        hmem.mp (List.getElem_mem hlt), fun b hb p hp => ?_⟩
      have hfilter := firstMin_eq_none_iff.mp hnone
      rw [List.filter_eq_nil_iff] at hfilter
      exact absurd (by rw [hp]; rfl) (hfilter b (hmem.mpr hb))

/-- What leads is chosen for some draw, if it comes first. -/
theorem select_cons_of_leads (hd : Measures d) {a : α} (h : Leads d ε value prio (a :: l) a) :
    ∃ draw, select d ε value prio top (a :: l) draw = some a := by
  obtain ⟨l₁, l₂, hrank, hstrict⟩ := rank_cons value (fun a => (prio a).getD top) a l
  have hmem : ∀ {b : α}, b ∈ band d ε value (rank value (fun a => (prio a).getD top) (a :: l)) ↔
      Near d ε value (a :: l) b := mem_band hd
  obtain ⟨m₁, m₂, hband, hm₁⟩ : ∃ m₁ m₂, band d ε value
      (rank value (fun a => (prio a).getD top) (a :: l)) = m₁ ++ a :: m₂ ∧ m₁ ⊆ l₁ := by
    have ha := hmem.mpr h.near
    rw [band_rank hd, List.mem_filter] at ha
    rw [band_rank hd, hrank, List.filter_append, List.filter_cons, if_pos ha.2]
    exact ⟨_, _, rfl, List.filter_subset_self l₁⟩
  rw [hband] at hmem
  have hlt : m₁.length < (m₁ ++ a :: m₂).length := by simp
  refine ⟨m₁.length, ?_⟩
  rw [select, hband]
  split
  · next only honly =>
    have ha : a ∈ [only] := honly ▸ List.mem_append_right _ List.mem_cons_self
    rw [List.mem_singleton.mp ha]
  · cases ha : prio a with
    | none =>
      -- then nothing near the best value has a priority
      have hfilter : ((m₁ ++ a :: m₂).filter fun b => (prio b).isSome) = [] := by
        rw [List.filter_eq_nil_iff]
        intro b hb hsome
        obtain ⟨p, hp⟩ := Option.isSome_iff_exists.mp hsome
        obtain ⟨q, hq, -⟩ := h.priority b (hmem.mp hb) p hp
        rw [ha] at hq
        cases hq
      rw [hfilter, firstMin, Nat.mod_eq_of_lt hlt]
      show (m₁ ++ a :: m₂)[m₁.length]? = some a
      rw [List.getElem?_append_right le_rfl, Nat.sub_self]
      rfl
    | some q =>
      have hmin : firstMin (fun a => (prio a).getD top)
          ((m₁ ++ a :: m₂).filter fun b => (prio b).isSome) = some a := by
        have hsome : (prio a).isSome = true := by rw [ha]; rfl
        rw [firstMin_eq_some_iff, List.filter_append, List.filter_cons, if_pos hsome]
        refine ⟨_, _, rfl, fun b hb => ?_, fun b hb => ?_⟩
        · obtain ⟨hb, hsome⟩ := List.mem_filter.mp hb
          obtain ⟨p, hp⟩ := Option.isSome_iff_exists.mp hsome
          obtain ⟨q', hq', hlead⟩ := h.priority b (hmem.mp (List.mem_append_left _ hb)) p hp
          rw [hp, hq']
          rcases hlead with hlead | ⟨rfl, hvalue⟩
          · exact hlead
          · -- a tie would have kept `a` before `b`
            have hbefore := hstrict b (hm₁ hb)
            rw [Bool.eq_false_iff, Ne, rankLe_iff, hp, hq'] at hbefore
            rcases lt_or_eq_of_le hvalue with hvalue | hvalue
            · exact absurd (Or.inl hvalue) hbefore
            · exact absurd (Or.inr ⟨hvalue.symm, le_rfl⟩) hbefore
        · obtain ⟨hb, hsome⟩ := List.mem_filter.mp hb
          obtain ⟨p, hp⟩ := Option.isSome_iff_exists.mp hsome
          obtain ⟨q', hq', hlead⟩ := h.priority b
            (hmem.mp (List.mem_append_right _ (List.mem_cons_of_mem a hb))) p hp
          rw [hp, hq']
          rcases hlead with hlead | ⟨rfl, -⟩
          · exact hlead.le
          · exact le_rfl
      rw [hmin]

omit [IsOrderedAddMonoid β] in
/-- Without ties only one element leads, where priorities decide. -/
theorem leads_unique {a b : α} (ha : Leads d ε value prio l a) (hb : Leads d ε value prio l b)
    (hprio : ∃ c, Near d ε value l c ∧ (prio c).isSome = true)
    (hties : ∀ c e, Near d ε value l c → Near d ε value l e → value c = value e →
      prio c = prio e → c = e) : a = b := by
  obtain ⟨c, hc, hsome⟩ := hprio
  obtain ⟨p, hp⟩ := Option.isSome_iff_exists.mp hsome
  obtain ⟨q, hq, -⟩ := ha.priority c hc p hp
  obtain ⟨q', hq', hab⟩ := hb.priority a ha.near q hq
  obtain ⟨q'', hq'', hba⟩ := ha.priority b hb.near q' hq'
  obtain rfl : q = q'' := Option.some_inj.mp (hq.symm.trans hq'')
  rcases hab with hlt | ⟨rfl, hab⟩
  · rcases hba with hlt' | ⟨rfl, -⟩
    · exact absurd hlt hlt'.not_gt
    · exact absurd hlt (lt_irrefl _)
  · rcases hba with hlt | ⟨-, hba⟩
    · exact absurd hlt (lt_irrefl _)
    · exact hties a b ha.near hb.near (le_antisymm hab hba) (hq.trans hq'.symm)

end Select

end Ranking
