/-
The winner of a ping auction (`select_winner` of `ping_tree_router.rs`).

On bids that are numbers the auction is the choice from a ranked list of `Ranking`:
the responses with a positive bid are ranked, and of those within a cent of the best
bid the one with the least priority wins.  Bids and their differences are exact
(`selectWinner`), or rounded as floats are (`selectWinnerF64`).

* `selectWinnerIn_eq_select` — the auction is that choice;
* `selectWinner_best` — the winner is within a cent of the highest bid, its priority is
  the least among the candidates, and with no ties the order of the responses and the
  draw do not matter;
* `selectWinnerIn_of_canWin` — what can win does so in some order and for some draw;
* `selectWinnerIn_isSome_iff` — there is a winner, unless a bid is infinite.
-/
import LeadsNebula.Auction
import LeadsNebula.Ranking
import Mathlib.Algebra.Order.Ring.Rat
import Mathlib.Order.WithBot
import Mathlib.Tactic.Linarith
import Mathlib.Tactic.NormNum

namespace LeadsNebula

/-! ### Rounding bids -/

/-- A rounding measures differences, and a cent stays something. -/
structure Rounds (rd : ℚ → ℚ) : Prop extends Ranking.Measures rd where
  cent : 0 < rd (1 / 100)

theorem rounds_id : Rounds id := ⟨⟨monotone_id, fun _ => rfl⟩, by norm_num⟩

theorem rounds_nearest : Rounds F64.nearest :=
  ⟨⟨F64.nearest_mono, F64.nearest_neg⟩, by decide +kernel⟩

/-! ### Ranking bids -/

/-- The place of a bid among the others. -/
def bidKey (rd : ℚ → ℚ) (x : Attributed) : WithTop ℚ :=
  match x.1.bid with
  | some .posInf => ⊤
  | some (.fin q) => rd q
  | _ => 0

/-- The amount of a bid, if it is a number. -/
def bidValue (x : Attributed) : ℚ :=
  match x.1.bid with
  | some (.fin q) => q
  | _ => 0

/-- The priority that a response is ranked by. -/
def rankedPriority (x : Attributed) : ℤ := x.2.2.getD i32Max

/-- The responses that take part. -/
def bidders (l : List Attributed) : List Attributed := l.filter fun x => hasBid x.1

/-- No positive bid is infinite. -/
def FiniteBids (l : List Attributed) : Prop := ∀ x ∈ l, x.1.bid ≠ some .posInf

theorem hasBid_cases {b : BuyerResponse} (h : hasBid b = true) :
    b.bid = some .posInf ∨ ∃ q, b.bid = some (.fin q) ∧ 0 < q := by
  rw [hasBid] at h
  cases hbid : b.bid with
  | none =>
    rw [hbid] at h
    cases h
  | some x =>
    rw [hbid] at h
    cases x with
    | nan => cases h
    | negInf => cases h
    | posInf => exact Or.inl rfl
    | fin q => exact Or.inr ⟨q, rfl, of_decide_eq_true h⟩

theorem bidValue_of_fin {x : Attributed} {q : ℚ} (h : x.1.bid = some (.fin q)) :
    bidValue x = q := by
  rw [bidValue, h]

section Rounding

variable {rd : ℚ → ℚ}

theorem bidIn_of_fin {b : BuyerResponse} {q : ℚ} (h : b.bid = some (.fin q)) :
    bidIn rd b = some (.fin (rd q)) := by
  rw [bidIn, h]
  rfl

theorem bidIn_of_posInf {b : BuyerResponse} (h : b.bid = some .posInf) :
    bidIn rd b = some .posInf := by
  rw [bidIn, h]
  rfl

theorem bidKey_of_fin {x : Attributed} {q : ℚ} (h : x.1.bid = some (.fin q)) :
    bidKey rd x = rd q := by
  rw [bidKey, h]

theorem bidKey_of_posInf {x : Attributed} (h : x.1.bid = some .posInf) : bidKey rd x = ⊤ := by
  rw [bidKey, h]

/-- The comparison takes the bids in reverse, and equal ones by their priorities. -/
theorem compareOffers_of_fin {a b : Attributed} {q q' : ℚ} (ha : bidIn rd a.1 = some (.fin q))
    (hb : bidIn rd b.1 = some (.fin q')) :
    compareOffers (bidIn rd) a b =
      if q' < q then .lt
      else if q' = q then compare (rankedPriority a) (rankedPriority b) else .gt := by
  simp only [compareOffers, ha, hb, Option.getD_some, F64.partialCmp]
  rcases lt_trichotomy q' q with h | rfl | h
  · rw [if_pos h, if_pos h]
  · rw [if_neg (lt_irrefl q'), if_neg (lt_irrefl q'), if_pos rfl, if_pos rfl]
    rfl
  · rw [if_neg h.not_gt, if_neg h.not_gt, if_neg h.ne', if_neg h.ne']

/-- Among positive bids the comparison of the sort is the one of the ranking. -/
theorem compareOffers_bid (rd : ℚ → ℚ) {a b : Attributed} (ha : hasBid a.1 = true)
    (hb : hasBid b.1 = true) :
    (compareOffers (bidIn rd) a b != .gt) =
      Ranking.rankLe (bidKey rd) rankedPriority a b := by
  have hprio : (compare (rankedPriority a) (rankedPriority b) != .gt) = true ↔
      rankedPriority a ≤ rankedPriority b := by
    rw [bne_iff_ne, ne_eq, compare_gt_iff_gt, not_lt]
  rw [Bool.eq_iff_iff, Ranking.rankLe_iff]
  -- a bid is infinite or finite, and only two finite ones are compared as numbers
  rcases hasBid_cases ha with ha | ⟨q, ha, -⟩ <;> rcases hasBid_cases hb with hb | ⟨q', hb, -⟩
  · rw [bidKey_of_posInf ha, bidKey_of_posInf hb, compareOffers, bidIn_of_posInf ha,
      bidIn_of_posInf hb]
    refine (show _ ↔ _ from hprio).trans ⟨fun h => Or.inr ⟨rfl, h⟩, ?_⟩
    rintro (h | ⟨-, h⟩)
    · exact absurd h (lt_irrefl _)
    · exact h
  · rw [bidKey_of_posInf ha, bidKey_of_fin hb, compareOffers, bidIn_of_posInf ha, bidIn_of_fin hb]
    exact iff_of_true rfl (Or.inl (WithTop.coe_lt_top (rd q')))
  · rw [bidKey_of_fin ha, bidKey_of_posInf hb, compareOffers, bidIn_of_fin ha, bidIn_of_posInf hb]
    refine iff_of_false Bool.false_ne_true ?_
    rintro (h | ⟨h, -⟩)
    · exact not_top_lt h
    · exact WithTop.coe_ne_top h
  · rw [bidKey_of_fin ha, bidKey_of_fin hb,
      compareOffers_of_fin (bidIn_of_fin ha) (bidIn_of_fin hb),
      WithTop.coe_lt_coe, WithTop.coe_inj]
    generalize rd q = x
    generalize rd q' = y
    rcases lt_trichotomy y x with h | rfl | h
    · rw [if_pos h]
      exact iff_of_true rfl (Or.inl h)
    · rw [if_neg (lt_irrefl y), if_pos rfl]
      refine hprio.trans ⟨fun h => Or.inr ⟨rfl, h⟩, ?_⟩
      rintro (h | ⟨-, h⟩)
      · exact absurd h (lt_irrefl y)
      · exact h
    · rw [if_neg h.not_gt, if_neg h.ne']
      refine iff_of_false Bool.false_ne_true ?_
      rintro (h' | ⟨rfl, -⟩)
      · exact h.not_gt h'
      · exact lt_irrefl _ h

theorem sortOffers_eq_rank (rd : ℚ → ℚ) {l : List Attributed} (h : ∀ x ∈ l, hasBid x.1 = true) :
    sortOffers (bidIn rd) l = Ranking.rank (bidKey rd) rankedPriority l := by
  have hmap := List.map_mergeSort (f := id)
    fun a ha b hb => compareOffers_bid rd (h a ha) (h b hb)
  rwa [List.map_id, List.map_id] at hmap

theorem minByPriority_eq_firstMin (l : List Attributed) :
    minByPriority l = Ranking.firstMin rankedPriority l := by
  induction l with
  | nil => rfl
  | cons a l ih =>
    rw [minByPriority, Ranking.firstMin, ih]
    cases Ranking.firstMin rankedPriority l with
    | none => rfl
    | some b => exact if_congr Iff.rfl rfl rfl

/-- With numbers for bids, the ranking is by their amounts. -/
theorem rank_bidKey {l : List Attributed} (h : ∀ x ∈ l, ∃ q, x.1.bid = some (.fin q)) :
    Ranking.rank (bidKey rd) rankedPriority l =
      Ranking.rank (fun x => rd (bidValue x)) rankedPriority l := by
  have hle : ∀ a ∈ l, ∀ b ∈ l, Ranking.rankLe (bidKey rd) rankedPriority a b =
      Ranking.rankLe (fun x => rd (bidValue x)) rankedPriority (id a) (id b) := by
    intro a ha b hb
    obtain ⟨q, ha⟩ := h a ha
    obtain ⟨q', hb⟩ := h b hb
    rw [Bool.eq_iff_iff, Ranking.rankLe_iff, Ranking.rankLe_iff, bidKey_of_fin ha,
      bidKey_of_fin hb, id, id, bidValue_of_fin ha, bidValue_of_fin hb, WithTop.coe_lt_coe,
      WithTop.coe_inj]
  have hmap := List.map_mergeSort hle
  rwa [List.map_id, List.map_id] at hmap

theorem bid_of_mem_bidders {l : List Attributed} (hfin : FiniteBids l) {x : Attributed}
    (hx : x ∈ bidders l) : ∃ q, x.1.bid = some (.fin q) ∧ 0 < q := by
  obtain ⟨hmem, hbid⟩ := List.mem_filter.mp hx
  rcases hasBid_cases hbid with h | h
  · exact absurd h (hfin x hmem)
  · exact h

/-- Where the highest bid is a number, the distance of a bid to it is the one of the source. -/
theorem near_highest_iff {x best : Attributed} {q q' : ℚ} (hx : x.1.bid = some (.fin q))
    (hbest : best.1.bid = some (.fin q')) :
    ((((bidIn rd x.1).getD (.fin 0)).sub ((bidIn rd best.1).getD (.fin 0))).map rd).abs.lt
        (priceEpsilon.map rd) =
      decide (|rd (rd (bidValue x) - rd (bidValue best))| < rd (1 / 100)) := by
  rw [bidIn_of_fin hx, bidIn_of_fin hbest, bidValue_of_fin hx, bidValue_of_fin hbest]
  show decide (some (if (if rd (rd q - rd q') < 0 then -rd (rd q - rd q') else rd (rd q - rd q'))
      < rd (1 / 100) then Ordering.lt
    else if (if rd (rd q - rd q') < 0 then -rd (rd q - rd q') else rd (rd q - rd q')) =
      rd (1 / 100) then .eq else .gt) = some .lt) = _
  generalize rd (rd q - rd q') = y
  have habs : (if y < 0 then -y else y) = |y| := by
    split
    · next h => exact (abs_of_neg h).symm
    · next h => exact (abs_of_nonneg (not_lt.mp h)).symm
  rw [habs, decide_eq_decide, Option.some_inj]
  by_cases h : |y| < rd (1 / 100)
  · rw [if_pos h]
    exact iff_of_true rfl h
  · rw [if_neg h]
    refine iff_of_false ?_ h
    split <;> exact nofun

/-- The bids that the auction keeps are the band of the best one. -/
theorem takeWhile_near_eq_band (rd : ℚ → ℚ) {best : Attributed} {rest : List Attributed}
    (hbids : ∀ x ∈ best :: rest, ∃ q, x.1.bid = some (.fin q)) :
    ((best :: rest).takeWhile fun x =>
        ((((bidIn rd x.1).getD (.fin 0)).sub ((bidIn rd best.1).getD (.fin 0))).map rd).abs.lt
          (priceEpsilon.map rd)) =
      Ranking.band rd (rd (1 / 100)) (fun x => rd (bidValue x)) (best :: rest) := by
  obtain ⟨q', hbest⟩ := hbids best List.mem_cons_self
  rw [Ranking.band]
  refine Ranking.takeWhile_congr fun x hx => ?_
  obtain ⟨q, hx⟩ := hbids x hx
  exact near_highest_iff hx hbest

/-- The auction is the choice from the ranked bids. -/
theorem selectWinnerIn_eq_select {l : List Attributed} (hfin : FiniteBids l)
    (hpos : bidders l ≠ []) (tieBreak : ℕ) :
    selectWinnerIn rd l tieBreak =
      Ranking.select rd (rd (1 / 100)) (fun x => rd (bidValue x)) (fun x => x.2.2) i32Max
        (bidders l) tieBreak := by
  have hbids : ∀ x ∈ bidders l, ∃ q, x.1.bid = some (.fin q) := by
    intro x hx
    obtain ⟨q, hq, -⟩ := bid_of_mem_bidders hfin hx
    exact ⟨q, hq⟩
  -- the code sorts twice, which is one sort by both keys
  have hsort : sortOffers (bidIn rd) (l.filter fun x => hasBid x.1) =
      Ranking.rank (fun x => rd (bidValue x)) (fun x => x.2.2.getD i32Max) (bidders l) :=
    (sortOffers_eq_rank rd fun x hx => (List.mem_filter.mp hx).2).trans (rank_bidKey hbids)
  have hmem : ∀ x ∈ Ranking.rank (fun x => rd (bidValue x)) (fun x => x.2.2.getD i32Max)
      (bidders l), x ∈ bidders l := fun x hx => Ranking.mem_rank.mp hx
  rw [selectWinnerIn, Ranking.select, hsort]
  cases hrank : Ranking.rank (fun x => rd (bidValue x)) (fun x => x.2.2.getD i32Max)
      (bidders l) with
  | nil =>
    obtain ⟨x, hx⟩ := List.exists_mem_of_ne_nil _ hpos
    have hx : x ∈ Ranking.rank (fun x => rd (bidValue x)) (fun x => x.2.2.getD i32Max)
        (bidders l) := Ranking.mem_rank.mpr hx
    rw [hrank] at hx
    cases hx
  | cons best rest =>
    rw [hrank] at hmem
    -- the band is what is near the best bid
    have hband := takeWhile_near_eq_band rd fun x hx => hbids x (hmem x hx)
    have hprio : (fun x : Attributed => x.2.2.getD i32Max) = rankedPriority := rfl
    simp only [hband, minByPriority_eq_firstMin, hprio]
    -- nobody, one, or several in the band
    rcases Ranking.band rd (rd (1 / 100)) (fun x => rd (bidValue x)) (best :: rest) with
      _ | ⟨only, _ | ⟨b, l⟩⟩
    · rfl
    · rfl
    · simp only
      split
      · next winner hmin => simp only [hmin]
      · next hmin => simp only [hmin]

/-- The responses that can win: near the highest bid, and none of those has a better priority. -/
abbrev CanWinIn (rd : ℚ → ℚ) (l : List Attributed) (x : Attributed) : Prop :=
  Ranking.Leads rd (rd (1 / 100)) (fun x => rd (bidValue x)) (fun x => x.2.2) (bidders l) x

/-- The responses that can win where bids are floats. -/
abbrev CanWin : List Attributed → Attributed → Prop := CanWinIn F64.nearest

-- as floats, two bids that are a cent apart may be near each other
example : F64.nearest (F64.nearest (113 / 100) - F64.nearest (112 / 100)) <
    F64.nearest (1 / 100) := by
  decide +kernel

theorem canWinIn_congr {l l' : List Attributed} (h : ∀ x, x ∈ l ↔ x ∈ l') (x : Attributed) :
    CanWinIn rd l x ↔ CanWinIn rd l' x := by
  refine Ranking.leads_congr (fun y => ?_) x
  rw [bidders, bidders, List.mem_filter, List.mem_filter, h]

section

variable (hrd : Rounds rd)

include hrd

theorem selectWinnerIn_canWin {l : List Attributed} (hfin : FiniteBids l)
    (hpos : bidders l ≠ []) (tieBreak : ℕ) :
    ∃ w, selectWinnerIn rd l tieBreak = some w ∧ CanWinIn rd l w := by
  rw [selectWinnerIn_eq_select hfin hpos]
  exact Ranking.select_leads hrd.toMeasures hrd.cent hpos tieBreak

/-- A response that can win does so for some draw, if it comes first. -/
theorem selectWinnerIn_of_canWin {l : List Attributed} {x : Attributed}
    (hfin : FiniteBids (x :: l)) (h : CanWinIn rd (x :: l) x) :
    ∃ tieBreak, selectWinnerIn rd (x :: l) tieBreak = some x := by
  have hx : hasBid x.1 = true := (List.mem_filter.mp h.near.1).2
  have hcons : bidders (x :: l) = x :: bidders l := List.filter_cons_of_pos hx
  have hlead := h
  rw [CanWinIn, hcons] at hlead
  simp only [selectWinnerIn_eq_select hfin (List.ne_nil_of_mem h.near.1), hcons]
  exact Ranking.select_cons_of_leads hrd.toMeasures hlead

/-! ### Infinite bids -/

/-- An auction among positive bids has a winner, unless one of them is infinite. -/
theorem selectWinnerIn_isSome_iff {l : List Attributed} (hl : l ≠ [])
    (hbids : ∀ x ∈ l, hasBid x.1 = true) (tieBreak : ℕ) :
    (selectWinnerIn rd l tieBreak).isSome = true ↔ FiniteBids l := by
  have hbidders : bidders l = l := List.filter_eq_self.mpr hbids
  constructor
  · intro hsome x hx hinf
    have hsort := sortOffers_eq_rank rd hbids
    rw [selectWinnerIn, show (l.filter fun x => hasBid x.1) = l from hbidders, hsort] at hsome
    cases hrank : Ranking.rank (bidKey rd) rankedPriority l with
    | nil =>
      have hx : x ∈ Ranking.rank (bidKey rd) rankedPriority l := Ranking.mem_rank.mpr hx
      rw [hrank] at hx
      cases hx
    | cons best rest =>
      -- the highest bid is infinite, and the distance to it is no number
      have hle := Ranking.value_le_of_rank hrank hx
      rw [bidKey_of_posInf hinf, top_le_iff] at hle
      have hbest : best ∈ Ranking.rank (bidKey rd) rankedPriority l := hrank ▸ List.mem_cons_self
      have hbest : best.1.bid = some .posInf := by
        rcases hasBid_cases (hbids best (Ranking.mem_rank.mp hbest)) with h | ⟨q, h, -⟩
        · exact h
        · rw [bidKey_of_fin h] at hle
          exact absurd hle (WithTop.coe_ne_top)
      have hnone : ((best :: rest).takeWhile fun r =>
          ((((bidIn rd r.1).getD (.fin 0)).sub ((bidIn rd best.1).getD (.fin 0))).map rd).abs.lt
            (priceEpsilon.map rd)) = [] := by
        rw [List.takeWhile_cons, bidIn_of_posInf hbest]
        rfl
      simp only [hrank, hnone] at hsome
      cases hsome
  · intro hfin
    obtain ⟨w, hw, -⟩ := selectWinnerIn_canWin hrd hfin (hbidders.symm ▸ hl) tieBreak
    rw [hw]
    rfl

end

end Rounding

/-! ### The winner -/

/-- A positive bid within a cent of the highest one. -/
def Candidate (l : List Attributed) (x : Attributed) : Prop :=
  x ∈ l ∧ hasBid x.1 = true ∧
    ∀ y ∈ l, ∀ q, y.1.bid = some (.fin q) → q - 1 / 100 < bidValue x

theorem candidate_iff_near {l : List Attributed} (hfin : FiniteBids l) {x : Attributed} :
    Candidate l x ↔ Ranking.Near id (1 / 100) bidValue (bidders l) x := by
  constructor
  · rintro ⟨hmem, hbid, hle⟩
    refine ⟨List.mem_filter.mpr ⟨hmem, hbid⟩, fun y hy => ?_⟩
    obtain ⟨q, hq, -⟩ := bid_of_mem_bidders hfin hy
    have hlt := hle y (List.mem_of_mem_filter hy) q hq
    rw [id, bidValue_of_fin hq]
    linarith
  · rintro ⟨hx, hle⟩
    obtain ⟨hmem, hbid⟩ := List.mem_filter.mp hx
    refine ⟨hmem, hbid, fun y hy q hq => ?_⟩
    by_cases hpos : hasBid y.1 = true
    · have hlt := hle y (List.mem_filter.mpr ⟨hy, hpos⟩)
      rw [id, bidValue_of_fin hq] at hlt
      linarith
    · -- a bid that is not positive is below every one that is
      rw [hasBid, hq] at hpos
      have hq0 : ¬ 0 < q := fun h => hpos (decide_eq_true h)
      obtain ⟨q', hq', hpos'⟩ := bid_of_mem_bidders hfin hx
      rw [bidValue_of_fin hq']
      linarith

/-- The winner has a positive bid within a cent of the highest; among the candidates with a
priority its own is the least, and with it the bid the highest; and where some candidate has a
priority and no two tie, neither the order of the responses nor the draw decides. -/
theorem selectWinner_best {l : List Attributed}
    (hbids : ∀ x ∈ l, ∀ b, x.1.bid = some b → ∃ q, b = .fin q)
    (hpos : ∃ x ∈ l, ∃ q, x.1.bid = some (.fin q) ∧ 0 < q) (tieBreak : ℕ) :
    ∃ w, selectWinner l tieBreak = some w ∧ w ∈ l ∧ 0 < bidValue w ∧
      w.1.bid = some (.fin (bidValue w)) ∧
      (∀ x ∈ l, ∀ q, x.1.bid = some (.fin q) → q - 1 / 100 < bidValue w) ∧
      (∀ x, Candidate l x → ∀ p, x.2.2 = some p →
        ∃ p', w.2.2 = some p' ∧ (p' < p ∨ p' = p ∧ bidValue x ≤ bidValue w)) ∧
      ((∃ x, Candidate l x ∧ x.2.2.isSome = true) →
        (∀ x y, Candidate l x → Candidate l y → bidValue x = bidValue y → x.2.2 = y.2.2 → x = y) →
        ∀ l', l'.Perm l → ∀ tieBreak', selectWinner l' tieBreak' = some w) := by
  have hfin : ∀ {l' : List Attributed}, l'.Perm l → FiniteBids l' := by
    intro l' hperm x hx hinf
    obtain ⟨q, hq⟩ := hbids x (hperm.mem_iff.mp hx) _ hinf
    cases hq
  have hne : ∀ {l' : List Attributed}, l'.Perm l → bidders l' ≠ [] := by
    intro l' hperm
    obtain ⟨x, hx, q, hq, hq0⟩ := hpos
    refine List.ne_nil_of_mem (List.mem_filter.mpr ⟨hperm.mem_iff.mpr hx, ?_⟩)
    rw [hasBid, hq]
    exact decide_eq_true hq0
  -- being near the best bid, as the ranking says it
  have hcandidate : ∀ {x}, Candidate l x ↔ Ranking.Near id (1 / 100) bidValue (bidders l) x :=
    candidate_iff_near (hfin (.refl l))
  obtain ⟨w, hw, hwins⟩ := selectWinnerIn_canWin rounds_id (hfin (.refl l)) (hne (.refl l)) tieBreak
  obtain ⟨hmem, hbid, hnear⟩ := hcandidate.mpr hwins.near
  obtain ⟨q, hq, hq0⟩ := bid_of_mem_bidders (hfin (.refl l)) hwins.near.1
  refine ⟨w, hw, hmem, (bidValue_of_fin hq).symm ▸ hq0, (bidValue_of_fin hq).symm ▸ hq, hnear,
    fun x hx => hwins.priority x (hcandidate.mp hx), ?_⟩
  rintro ⟨x, hx, hprio⟩ hties l' hperm tieBreak'
  obtain ⟨w', hw', hwins'⟩ := selectWinnerIn_canWin rounds_id (hfin hperm) (hne hperm) tieBreak'
  -- the same responses in another order have the same candidates
  have hwins' : CanWinIn id l w' := (canWinIn_congr (fun x => hperm.mem_iff) w').mp hwins'
  rw [selectWinner, hw', Ranking.leads_unique hwins' hwins ⟨x, hcandidate.mp hx, hprio⟩
    fun x y hx hy => hties x y (hcandidate.mpr hx) (hcandidate.mpr hy)]

namespace Sample

/-- An answer with a bid. -/
def bidOf (bid : ℚ) (campaign : Uuid) (priority : Option ℤ) : Attributed :=
  (⟨true, "accepted", none, none, some "promise", some "ping", none, none, some (.fin bid)⟩,
    campaign, priority)

end Sample

open Sample

/-- Of two bids that are half a cent apart the one with a priority wins. -/
theorem selectWinner_best_half_cent : ∃ w,
    selectWinner [bidOf (1 / 200) 10 none, bidOf (1 / 100) 11 (some 1)] 0 = some w ∧
      w.2.1 = 11 := by
  obtain ⟨w, hw, hmem, -, -, -, hprio, -⟩ := selectWinner_best
    (l := [bidOf (1 / 200) 10 none, bidOf (1 / 100) 11 (some 1)])
    (by
      intro x hx b hb
      simp only [List.mem_cons, List.not_mem_nil, or_false] at hx
      rcases hx with rfl | rfl
      · exact ⟨1 / 200, (Option.some_inj.mp hb).symm⟩
      · exact ⟨1 / 100, (Option.some_inj.mp hb).symm⟩)
    ⟨bidOf (1 / 100) 11 (some 1), by simp, 1 / 100, rfl, by norm_num⟩ 0
  refine ⟨w, hw, ?_⟩
  -- the second response is near the best bid and has a priority
  have hcandidate : Candidate [bidOf (1 / 200) 10 none, bidOf (1 / 100) 11 (some 1)]
      (bidOf (1 / 100) 11 (some 1)) := by
    refine ⟨by simp, by decide +kernel, fun y hy q hq => ?_⟩
    simp only [List.mem_cons, List.not_mem_nil, or_false] at hy
    rcases hy with rfl | rfl
    · rw [← F64.fin.inj (Option.some_inj.mp hq)]
      decide +kernel
    · rw [← F64.fin.inj (Option.some_inj.mp hq)]
      decide +kernel
  obtain ⟨p, hp, -⟩ := hprio _ hcandidate 1 rfl
  simp only [List.mem_cons, List.not_mem_nil, or_false] at hmem
  rcases hmem with rfl | rfl
  · cases hp
  · rfl

/-- A response without a positive bid does not take part: its bid of zero is within a cent of the
highest one and has a priority, yet the response without a priority wins. -/
theorem selectWinner_zero_bid_with_priority :
    ¬ ∀ (l : List Attributed) (tieBreak : ℕ), (l.map fun x => x.2.1).Nodup →
      (∀ x ∈ l, ∀ b, x.1.bid = some b → ∃ q, b = .fin q) →
      (∃ x ∈ l, ∃ q, x.1.bid = some (.fin q) ∧ 0 < q) →
      (∃ x ∈ l, x.2.2.isSome = true ∧ ∃ q, x.1.bid = some (.fin q) ∧
        ∀ y ∈ l, ∀ q', y.1.bid = some (.fin q') → q' - 1 / 100 < q) →
      ∀ w, selectWinner l tieBreak = some w → w.2.2.isSome = true := by
  intro h
  have hbidders : bidders [bidOf (1 / 200) 10 none, bidOf 0 11 (some 1)] =
      [bidOf (1 / 200) 10 none] := by
    decide +kernel
  have hbids : ∀ x ∈ [bidOf (1 / 200) 10 none, bidOf 0 11 (some 1)],
      x.1.bid = some (.fin (1 / 200)) ∨ x.1.bid = some (.fin 0) := by
    decide +kernel
  have hfin : FiniteBids [bidOf (1 / 200) 10 none, bidOf 0 11 (some 1)] := by
    intro x hx hinf
    rcases hbids x hx with hq | hq <;> exact absurd (hinf.symm.trans hq) (by decide)
  -- only the positive bid is ranked, so it wins
  obtain ⟨w, hw, hwins⟩ := selectWinnerIn_canWin rounds_id hfin
    (by rw [hbidders]; exact List.cons_ne_nil _ _) 0
  have hwinner := hwins.near.1
  rw [hbidders, List.mem_singleton] at hwinner
  subst hwinner
  -- the other response has a priority and a bid within a cent of the best
  have hsome := h _ 0 (by decide) ?_ ⟨bidOf (1 / 200) 10 none, by simp, 1 / 200, rfl, by norm_num⟩
    ⟨bidOf 0 11 (some 1), by simp, rfl, 0, rfl, ?_⟩ _ hw
  · cases hsome
  · intro x hx b hb
    rcases hbids x hx with hq | hq
    · exact ⟨1 / 200, Option.some_inj.mp (hb.symm.trans hq)⟩
    · exact ⟨0, Option.some_inj.mp (hb.symm.trans hq)⟩
  · intro y hy q' hq'
    rcases hbids y hy with hq | hq
    · rw [F64.fin.inj (Option.some_inj.mp (hq'.symm.trans hq))]
      norm_num
    · rw [F64.fin.inj (Option.some_inj.mp (hq'.symm.trans hq))]
      norm_num

end LeadsNebula
