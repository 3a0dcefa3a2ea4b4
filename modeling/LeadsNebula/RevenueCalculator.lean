/-
The revenue of a sold lead (`services/revenue_calculator.rs`).

`calculate_revenue` takes a fixed fee off the price and splits the rest between
the publisher and the admin; `create_lead_revenue` records the split, with a
check for an earlier record in a statement of its own.

* `platformFee_add_eq` — the parts always add up to the price;
* `conserves_iff` — none of them is negative exactly for a price that covers the
  fee, and a share of both kinds is refused only for a price that is not positive;
* `oneRecord_iff` — a lead has at most one record, which every successful call
  returns, exactly as long as no call inserts after another one has.
-/
import LeadsNebula.DashboardPingTrees
import LeadsNebula.Transition
import Mathlib.Tactic.Linarith
import Mathlib.Tactic.NormNum
import Mathlib.Tactic.Positivity
import Mathlib.Tactic.Ring

namespace LeadsNebula

namespace Revenue

inductive SqlxError where
  | rowNotFound
  | database
deriving DecidableEq, Repr

/-! ### The split -/

/-- `PLATFORM_FEE`. -/
def platformFee : ℚ := 15 / 10000

structure RevenueCalculation where
  grossSalePrice : ℚ
  platformFee : ℚ
  publisherPayment : ℚ
  adminFeeAmount : ℚ
deriving DecidableEq, Repr

/-- What the publisher gets of the price without the fee. -/
def publisherPayment (afterPlatformFee : ℚ) (percentage flatAmount : Option ℚ) : ℚ :=
  match percentage, flatAmount with
  | some p, _ => afterPlatformFee * (p / 100)
  | none, some flat => max (afterPlatformFee - flat) 0
  | none, none => afterPlatformFee * (8 / 10)

def calculateRevenue (leadValue : ℚ) (percentage flatAmount : Option ℚ) :
    Except SqlxError RevenueCalculation :=
  if leadValue ≤ 0 then .error .rowNotFound
  else
    let afterPlatformFee := leadValue - platformFee
    let payment := publisherPayment afterPlatformFee percentage flatAmount
    .ok ⟨leadValue, platformFee, payment, afterPlatformFee - payment⟩

section Split

variable {v : ℚ} {percentage flatAmount : Option ℚ}

theorem calculateRevenue_of_pos (hv : 0 < v) :
    calculateRevenue v percentage flatAmount =
      .ok ⟨v, platformFee, publisherPayment (v - platformFee) percentage flatAmount,
        v - platformFee - publisherPayment (v - platformFee) percentage flatAmount⟩ :=
  if_neg (not_le.mpr hv)

theorem calculateRevenue_eq_ok_iff {r : RevenueCalculation} :
    calculateRevenue v percentage flatAmount = .ok r ↔
      0 < v ∧ r = ⟨v, platformFee, publisherPayment (v - platformFee) percentage flatAmount,
        v - platformFee - publisherPayment (v - platformFee) percentage flatAmount⟩ := by
  rcases le_or_gt v 0 with hv | hv
  · rw [calculateRevenue, if_pos hv]
    simp [not_lt.mpr hv]
  · rw [calculateRevenue_of_pos hv, Except.ok.injEq]
    exact ⟨fun h => ⟨hv, h.symm⟩, fun h => h.2.symm⟩

/-- Nothing is lost in the split. -/
theorem platformFee_add_eq {r : RevenueCalculation}
    (h : calculateRevenue v percentage flatAmount = .ok r) :
    r.platformFee + r.publisherPayment + r.adminFeeAmount = r.grossSalePrice := by
  obtain ⟨-, rfl⟩ := calculateRevenue_eq_ok_iff.mp h
  ring

theorem platformFee_nonneg : 0 ≤ platformFee := by norm_num [platformFee]

/-! ### Shares that `validate_revshare` admits -/

/-- A percentage or a flat amount, as `validate_revshare` admits it. -/
def Admitted (percentage flatAmount : Option ℚ) : Prop :=
  percentage.isSome ≠ flatAmount.isSome ∧ (Dashboard.Revshare.mk percentage flatAmount).valid = true

instance : Decidable (Admitted percentage flatAmount) :=
  inferInstanceAs (Decidable (_ ∧ _))

theorem admitted_iff :
    Admitted percentage flatAmount ↔
      (∃ p, percentage = some p ∧ flatAmount = none ∧ 0 ≤ p ∧ p ≤ 100) ∨
      ∃ flat, percentage = none ∧ flatAmount = some flat ∧ 0 ≤ flat := by
  cases percentage <;> cases flatAmount <;> simp [Admitted, Dashboard.Revshare.valid]

/-- Of a price that covers the fee, each side gets a part that is not negative. -/
theorem publisherPayment_mem {after : ℚ} (h : Admitted percentage flatAmount) (hafter : 0 ≤ after) :
    0 ≤ publisherPayment after percentage flatAmount ∧
      publisherPayment after percentage flatAmount ≤ after := by
  obtain ⟨p, rfl, rfl, hp, hp'⟩ | ⟨flat, rfl, rfl, hflat⟩ := admitted_iff.mp h
  · have hle : p / 100 ≤ 1 := by linarith
    exact ⟨mul_nonneg hafter (by positivity), mul_le_of_le_one_right hafter hle⟩
  · exact ⟨le_max_right _ _, max_le (by linarith) hafter⟩

/-- A price below the fee leaves one side with a negative part. -/
theorem publisherPayment_of_neg {after : ℚ} (hafter : after < 0) :
    publisherPayment after percentage flatAmount < 0 ∨
      after - publisherPayment after percentage flatAmount < 0 := by
  rcases lt_or_ge (publisherPayment after percentage flatAmount) 0 with h | h
  · exact Or.inl h
  · exact Or.inr (by linarith)

end Split

/-- The split conserves money: the parts of a positive price under an admitted share add up to it,
and none is negative; a share of both kinds is an error. -/
def Conserves (v : ℚ) (percentage flatAmount : Option ℚ) : Prop :=
  (0 < v → Admitted percentage flatAmount →
    ∃ r, calculateRevenue v percentage flatAmount = .ok r ∧ r.grossSalePrice = v ∧
      r.platformFee + r.publisherPayment + r.adminFeeAmount = r.grossSalePrice ∧
      0 ≤ r.platformFee ∧ 0 ≤ r.publisherPayment ∧ 0 ≤ r.adminFeeAmount) ∧
  (percentage.isSome = true → flatAmount.isSome = true →
    ∃ e, calculateRevenue v percentage flatAmount = .error e)

theorem conserves_iff (v : ℚ) (percentage flatAmount : Option ℚ) :
    Conserves v percentage flatAmount ↔
      (0 < v → (Admitted percentage flatAmount → platformFee ≤ v) ∧
        ¬(percentage.isSome = true ∧ flatAmount.isSome = true)) := by
  constructor
  · rintro ⟨hsplit, hboth⟩ hv
    constructor
    · intro hadm
      obtain ⟨r, hr, -, -, -, hpay, hadmin⟩ := hsplit hv hadm
      obtain ⟨-, rfl⟩ := calculateRevenue_eq_ok_iff.mp hr
      -- below the fee the rest is negative, and one of the two is paid too little
      by_contra hlt
      obtain h | h := publisherPayment_of_neg
        (sub_neg.mpr (not_le.mp hlt))
      · exact absurd hpay (not_le.mpr h)
      · exact absurd hadmin (not_le.mpr h)
    · rintro ⟨hp, hf⟩
      -- both kinds of share: the percentage is taken, and no error says so
      obtain ⟨e, he⟩ := hboth hp hf
      rw [calculateRevenue_of_pos hv] at he
      cases he
  · intro h
    constructor
    · intro hv hadm
      -- from the fee on there is something to divide
      have hafter : 0 ≤ v - platformFee := sub_nonneg.mpr ((h hv).1 hadm)
      obtain ⟨hpay, hle⟩ := publisherPayment_mem hadm hafter
      refine ⟨_, calculateRevenue_of_pos hv, rfl, platformFee_add_eq (calculateRevenue_of_pos hv),
        platformFee_nonneg, hpay, sub_nonneg.mpr hle⟩
    · intro hp hf
      refine ⟨.rowNotFound, if_pos (not_lt.mp fun hv => (h hv).2 ⟨hp, hf⟩)⟩

namespace Sample

theorem small_price :
    calculateRevenue (1 / 1000) (some 80) none =
      .ok ⟨1 / 1000, 15 / 10000, -4 / 10000, -1 / 10000⟩ := by
  decide +kernel

theorem both_shares :
    calculateRevenue 10 (some 80)
      (some 2) = .ok ⟨10, 15 / 10000, 79988 / 10000, 19997 / 10000⟩ := by
  decide +kernel

/-- A price below the fee leaves both sides with a negative part, and of two shares the percentage
is taken. -/
theorem not_conserves :
    ¬Conserves (1 / 1000) (some 80) none ∧ ¬Conserves 10 (some 80) (some 2) := by
  constructor
  · rintro ⟨hsplit, -⟩
    obtain ⟨r, hr, -, -, -, hpay, -⟩ := hsplit (by decide +kernel) (by decide +kernel)
    rw [small_price, Except.ok.injEq] at hr
    subst hr
    exact absurd hpay (by decide +kernel)
  · rintro ⟨-, hboth⟩
    obtain ⟨e, he⟩ := hboth rfl rfl
    rw [both_shares] at he
    cases he

end Sample

/-! ### The record -/

/-- A row of `lead_revenues`. -/
structure LeadRevenue where
  id : Uuid
  leadId : Uuid
  leadSaleId : Option Uuid
  grossSalePrice : ℚ
  buyerPayment : ℚ
  platformFee : ℚ
  adminFeePercentage : Option ℚ
  adminFeeAmount : ℚ
  publisherPayment : ℚ
  publisherId : Uuid
  buyerId : Uuid
  campaignId : Uuid
  adminId : Option Uuid
  paymentStatus : String
  createdAt : ℕ
  updatedAt : ℕ
deriving DecidableEq

/-- The arguments of `create_lead_revenue`. -/
structure RevenueCall where
  leadId : Uuid
  leadSaleId : Option Uuid
  calculation : RevenueCalculation
  publisherId : Uuid
  buyerId : Uuid
  campaignId : Uuid
deriving DecidableEq

/-- The row that the call inserts. -/
def RevenueCall.row (c : RevenueCall) (revenueId : Uuid) (now : ℕ) : LeadRevenue where
  id := revenueId
  leadId := c.leadId
  leadSaleId := c.leadSaleId
  grossSalePrice := c.calculation.grossSalePrice
  buyerPayment := c.calculation.grossSalePrice
  platformFee := c.calculation.platformFee
  adminFeePercentage :=
    if 0 < c.calculation.grossSalePrice then
      some (c.calculation.adminFeeAmount / c.calculation.grossSalePrice * 100)
    else none
  adminFeeAmount := c.calculation.adminFeeAmount
  publisherPayment := c.calculation.publisherPayment
  publisherId := c.publisherId
  buyerId := c.buyerId
  campaignId := c.campaignId
  adminId := none
  paymentStatus := "pending"
  createdAt := now
  updatedAt := now

/-- Where a call is: before the `SELECT`, before the `INSERT`, or at its end. -/
inductive RevenueStage where
  | check
  | insert
  | done (result : Except SqlxError Uuid)
deriving DecidableEq

/-- The table, and the calls with their stages. -/
structure RevenueSys where
  revenues : List LeadRevenue
  calls : List (RevenueCall × RevenueStage)

/-- A call comes in, or call `i` runs its next statement.  The statement may fail, the database
picks one of several rows, and the call draws the id of its record. -/
inductive RevenueAction where
  | call (c : RevenueCall)
  | stmt (i : ℕ) (ok : Bool) (pick : ℕ) (fresh : Uuid) (now : ℕ)
deriving DecidableEq

namespace RevenueSys

/-- The records of a lead. -/
def recordsOf (s : RevenueSys) (l : Uuid) : List LeadRevenue :=
  s.revenues.filter fun r => r.leadId = l

/-- What the `SELECT` of a call leads to: one of the records of the lead, or the `INSERT`. -/
def check (s : RevenueSys) (c : RevenueCall) (ok : Bool) (pick : ℕ) : RevenueStage :=
  if ok then
    match s.recordsOf c.leadId with
    | [] => .insert
    | r :: rs => .done (.ok ((r :: rs).getD pick r).id)
  else .done (.error .database)

/-- The `INSERT` goes through: the id is not in the table. -/
def goesThrough (s : RevenueSys) (ok : Bool) (fresh : Uuid) : Bool :=
  ok && s.revenues.all fun r => r.id ≠ fresh

def step (s : RevenueSys) : RevenueAction → Option RevenueSys
  | .call c => some { s with calls := s.calls ++ [(c, .check)] }
  | .stmt i ok pick fresh now =>
    match s.calls[i]? with
    | some (c, .check) => some { s with calls := s.calls.set i (c, s.check c ok pick) }
    | some (c, .insert) =>
      if s.goesThrough ok fresh then
        some ⟨s.revenues ++ [c.row fresh now], s.calls.set i (c, .done (.ok fresh))⟩
      else some { s with calls := s.calls.set i (c, .done (.error .database)) }
    | _ => none

/-- Lead `l` has at most one record, and every call for it that has returned `Ok` has returned
the id of that record. -/
def OneRecord (s : RevenueSys) (l : Uuid) : Prop :=
  (s.recordsOf l).length ≤ 1 ∧
    ∀ c id, (c, .done (.ok id)) ∈ s.calls → c.leadId = l → ∃ r ∈ s.recordsOf l, r.id = id

/-- If the action is an `INSERT` for lead `l` that goes through, the lead still has no record: no
other call has inserted since this one found none. -/
def StillNone (l : Uuid) (s : RevenueSys) : RevenueAction → Prop
  | .call _ => True
  | .stmt i ok _ fresh _ => ∀ c, s.calls[i]? = some (c, .insert) → c.leadId = l →
      s.goesThrough ok fresh = true → s.recordsOf l = []

section Step

variable {s s' : RevenueSys} {a : RevenueAction} {l : Uuid}

theorem recordsOf_congr (h : s'.revenues = s.revenues) (l : Uuid) :
    s'.recordsOf l = s.recordsOf l := by
  rw [recordsOf, h, recordsOf]

/-- An id that the check returns is that of a record of the lead. -/
theorem check_eq_ok {c : RevenueCall} {ok : Bool} {pick : ℕ} {id : Uuid}
    (h : s.check c ok pick = .done (.ok id)) : ∃ r ∈ s.recordsOf c.leadId, r.id = id := by
  unfold check at h
  split at h
  · cases hrecords : s.recordsOf c.leadId with
    | nil => simp [hrecords] at h
    | cons r rs =>
      simp only [hrecords, RevenueStage.done.injEq, Except.ok.injEq] at h
      refine ⟨_, ?_, h⟩
      rw [List.getD_eq_getElem?_getD]
      cases hpick : (r :: rs)[pick]? with
      | none => exact List.mem_cons_self
      | some r' => exact List.mem_of_getElem? hpick
  · simp at h

/-- All that a step can do: it keeps the records, and an `Ok` that is new in it is the id of a
record of the lead; or a call inserts its row. -/
theorem step_cases (h : s.step a = some s') :
    (s'.revenues = s.revenues ∧
      (∀ c id, (c, .done (.ok id)) ∈ s'.calls →
        (c, .done (.ok id)) ∈ s.calls ∨ ∃ r ∈ s.recordsOf c.leadId, r.id = id) ∧
      ∀ l, StillNone l s a) ∨
    ∃ i ok pick fresh now c, a = .stmt i ok pick fresh now ∧ s.calls[i]? = some (c, .insert) ∧
      s.goesThrough ok fresh = true ∧
      s' = ⟨s.revenues ++ [c.row fresh now], s.calls.set i (c, .done (.ok fresh))⟩ := by
  cases a with
  | call c₀ =>
    -- a new call has no answer yet
    simp only [step, Option.some.injEq] at h
    subst h
    refine Or.inl ⟨rfl, fun c id hmem => ?_, fun l => trivial⟩
    obtain hmem | hmem := List.mem_append.mp hmem
    · exact Or.inl hmem
    · simp at hmem
  | stmt i ok pick fresh now =>
    rw [step] at h
    split at h
    · next c₀ hi =>
      rw [Option.some.injEq] at h
      subst h
      -- the check answers with a record that is there, or lets the INSERT follow
      refine Or.inl ⟨rfl, fun c id hmem => ?_, fun l c hc => ?_⟩
      · obtain hmem | heq := List.mem_or_eq_of_mem_set hmem
        · exact Or.inl hmem
        · obtain ⟨rfl, hdone⟩ := Prod.mk.inj heq
          exact Or.inr (check_eq_ok hdone.symm)
      · rw [hi] at hc
        cases hc
    · next c₀ hi =>
      split at h
      · -- the INSERT goes through
        next hgo =>
        rw [Option.some.injEq] at h
        exact Or.inr ⟨i, ok, pick, fresh, now, c₀, rfl, hi, hgo, h.symm⟩
      · next hgo =>
        -- the INSERT fails, and the call with it
        rw [Option.some.injEq] at h
        subst h
        refine Or.inl ⟨rfl, fun c id hmem => ?_, fun l c _ _ hgo' => absurd hgo' hgo⟩
        obtain hmem | heq := List.mem_or_eq_of_mem_set hmem
        · exact Or.inl hmem
        · cases heq
    · cases h

/-- An insert for lead `l` adds one record of it, and none of another lead. -/
theorem recordsOf_insert (c : RevenueCall) (fresh : Uuid) (now : ℕ)
    (calls : List (RevenueCall × RevenueStage)) (l : Uuid) :
    recordsOf ⟨s.revenues ++ [c.row fresh now], calls⟩ l =
      s.recordsOf l ++ if c.leadId = l then [c.row fresh now] else [] := by
  rw [recordsOf, List.filter_append, List.filter_singleton]
  simp only [recordsOf, RevenueCall.row]
  by_cases hl : c.leadId = l <;> simp [hl]

/-- A step that meets the condition keeps the one record. -/
theorem oneRecord_step (hs : s.OneRecord l) (hstill : StillNone l s a) (h : s.step a = some s') :
    s'.OneRecord l := by
  obtain ⟨hrevenues, hcalls, -⟩ | ⟨i, ok, pick, fresh, now, c₀, rfl, hi, hgo, rfl⟩ := step_cases h
  · rw [OneRecord, recordsOf_congr hrevenues]
    refine ⟨hs.1, fun c id hmem hl => ?_⟩
    obtain hmem | hrecord := hcalls c id hmem
    · exact hs.2 c id hmem hl
    · exact hl ▸ hrecord
  · rw [OneRecord, recordsOf_insert]
    by_cases hl : c₀.leadId = l
    · have hnone : s.recordsOf l = [] := hstill c₀ hi hl hgo
      rw [if_pos hl, hnone, List.nil_append]
      refine ⟨le_rfl, fun c id hmem hcl => ⟨_, List.mem_singleton_self _, ?_⟩⟩
      obtain hmem | heq := List.mem_or_eq_of_mem_set hmem
      · -- an earlier `Ok` would have its record
        obtain ⟨r, hr, -⟩ := hs.2 c id hmem hcl
        rw [hnone] at hr
        cases hr
      · cases heq
        rfl
    · rw [if_neg hl, List.append_nil]
      refine ⟨hs.1, fun c id hmem hcl => ?_⟩
      obtain hmem | heq := List.mem_or_eq_of_mem_set hmem
      · exact hs.2 c id hmem hcl
      · cases heq
        exact absurd hcl hl

/-- A step that does not meet it adds a second record. -/
theorem two_records_step (hstill : ¬StillNone l s a) (h : s.step a = some s') :
    2 ≤ (s'.recordsOf l).length := by
  obtain ⟨-, -, hall⟩ | ⟨i, ok, pick, fresh, now, c₀, rfl, hi, hgo, rfl⟩ := step_cases h
  · exact absurd (hall l) hstill
  · simp only [StillNone, not_forall] at hstill
    obtain ⟨c, hc, hl, -, hne⟩ := hstill
    obtain rfl : c₀ = c := by
      rw [hi, Option.some.injEq, Prod.mk.injEq] at hc
      exact hc.1
    rw [recordsOf_insert, if_pos hl, List.length_append, List.length_singleton]
    have := List.length_pos_iff.mpr hne
    omega

/-- Records are never removed. -/
theorem recordsOf_length_le (h : s.step a = some s') :
    (s.recordsOf l).length ≤ (s'.recordsOf l).length := by
  obtain ⟨hrevenues, -, -⟩ | ⟨i, ok, pick, fresh, now, c, rfl, hi, hgo, rfl⟩ := step_cases h
  · rw [recordsOf_congr hrevenues]
  · rw [recordsOf_insert, List.length_append]
    exact Nat.le_add_right _ _

end Step

/-- Every run keeps the one record of a lead exactly if no call for it inserts once another one
has. -/
theorem oneRecord_iff {s s' : RevenueSys} {as : List RevenueAction} (l : Uuid)
    (hs : s.OneRecord l) (hrun : Transition.run step s as = some s') :
    s'.OneRecord l ↔ Transition.Along step (StillNone l) s as :=
  Transition.inv_iff_along (fun s => 2 ≤ (s.recordsOf l).length)
    (fun hs hP h => oneRecord_step hs hP h) (fun _ hP h => two_records_step hP h)
    (fun hbad h => le_trans hbad (recordsOf_length_le h))
    (fun hbad h => absurd h.1 (not_le.mpr hbad)) hs hrun

namespace Sample

/-- A call for lead 7 by a publisher. -/
def call (publisher : Uuid) : RevenueCall :=
  ⟨7, none, ⟨10, platformFee, 8, 19985 / 10000⟩, publisher, 3, 4⟩

/-- The second call looks for a record once the first has inserted its own. -/
def inTurn : List RevenueAction :=
  [.call (call 1), .call (call 1), .stmt 0 true 0 20 5, .stmt 0 true 0 20 5, .stmt 1 true 0 21 6]

/-- Both calls look for a record before either inserts one. -/
def overlapping : List RevenueAction :=
  [.call (call 1), .call (call 1), .stmt 0 true 0 20 5, .stmt 1 true 0 21 5,
    .stmt 0 true 0 20 6, .stmt 1 true 0 21 6]

theorem oneRecord_empty : OneRecord ⟨[], []⟩ 7 := ⟨Nat.zero_le _, by simp⟩

theorem oneRecord_inTurn :
    ∃ s, Transition.run step ⟨[], []⟩ inTurn = some s ∧
      s.calls.map Prod.snd = [.done (.ok 20), .done (.ok 20)] ∧
      (s.OneRecord 7 ↔ Transition.Along step (StillNone 7) ⟨[], []⟩ inTurn) := by
  refine ⟨_, rfl, by decide, ?_⟩
  exact oneRecord_iff 7 oneRecord_empty rfl

/-- Two calls that overlap leave two records, and each returns its own. -/
theorem not_oneRecord_overlapping :
    ∃ s, Transition.run step ⟨[], []⟩ overlapping = some s ∧
      s.calls.map Prod.snd = [.done (.ok 20), .done (.ok 21)] ∧
      (s.recordsOf 7).map LeadRevenue.id = [20, 21] ∧ ¬s.OneRecord 7 := by
  refine ⟨_, rfl, by decide, by decide, fun h => ?_⟩
  exact absurd h.1 (by decide)

end Sample

end RevenueSys

end Revenue

end LeadsNebula
