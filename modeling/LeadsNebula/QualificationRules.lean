/-
The order of the qualification rules, and what a price multiplier comes to.

A rule is evaluated on the lead and the config alone: neither the request type
nor the rules before it matter to its answer.  So a config that is enabled and
active accepts a lead unless one of the rules that apply to the request type
rejects it, and the first that does gives the reason:

* `evaluateRules_eq_find` — the loop over the rules is a search for the first
  that rejects;
* `evaluate_accepted_iff` — what acceptance says of the rules;
* `evaluate_ping_of_accepted` — a lead accepted for any request type is
  accepted for a ping;
* `evaluate_first_rejection` — acceptance depends on the set of rules only, and
  a rejection is that of the first rule that rejects; a config that is disabled
  or inactive accepts whatever its rules say;
* `evaluate_priceMultiplier` — no result carries a price multiplier, so that of
  the `credit_rating` rule is lost (`price_multiplier_lost`).
-/
import LeadsNebula.Qualification

namespace LeadsNebula

namespace QualificationEngine

open QualificationResult

section Rules

variable [StdText]

/-- The rule, on its own, rejects the lead. -/
def rejects (e : QualificationEngine) (config : Json) (rule : String) : Bool :=
  !(e.evaluateRule rule config).accepted

/-- The loop over the rules stops at the first that rejects. -/
theorem evaluateRules_eq_find (e : QualificationEngine) (config : Json) (rules : List String) :
    e.evaluateRules config rules =
      match rules.find? (e.rejects config) with
      | none => accept "All qualification rules passed"
      | some rule => e.evaluateRule rule config := by
  induction rules with
  | nil => rfl
  | cons rule rules ih =>
    rw [evaluateRules]
    by_cases h : (e.evaluateRule rule config).accepted = true
    · have hrej : e.rejects config rule = false := by
        rw [rejects, h]
        rfl
      rw [List.find?_cons_of_neg (by rw [hrej]; exact Bool.false_ne_true)]
      simp only [h, if_true]
      exact ih
    · have hrej : e.rejects config rule = true := by
        rw [rejects, Bool.eq_false_iff.mpr h]
        rfl
      rw [List.find?_cons_of_pos hrej]
      simp only [h]
      rfl

theorem evaluateRules_accepted_iff (e : QualificationEngine) (config : Json)
    (rules : List String) :
    (e.evaluateRules config rules).accepted = true ↔
      ∀ rule ∈ rules, e.rejects config rule = false := by
  rw [evaluateRules_eq_find]
  cases hfind : rules.find? (e.rejects config) with
  | none =>
    refine ⟨fun _ rule hrule => ?_, fun _ => rfl⟩
    exact Bool.eq_false_iff.mpr (List.find?_eq_none.mp hfind rule hrule)
  | some rule =>
    have hrej : e.rejects config rule = true := List.find?_some hfind
    constructor
    · intro hacc
      rw [rejects, hacc] at hrej
      cases hrej
    · intro hall
      rw [hall rule (List.mem_of_find?_eq_some hfind)] at hrej
      cases hrej

/-- A config that runs accepts exactly the leads that none of the filtered rules rejects. -/
theorem evaluate_accepted_iff (lead : Lead) (t : RequestType) (c : BuyerQualificationConfig) :
    (evaluate ⟨lead, t, some c⟩).accepted = true ↔
      (c.enabled = true → c.isActive = true →
        ∀ rule ∈ filterRulesByRequestType ⟨lead, t, some c⟩ c.rulesOrder,
          rejects ⟨lead, t, some c⟩ c.config rule = false) := by
  rw [evaluate]
  by_cases hc : (!c.enabled || !c.isActive) = true
  · simp only [hc, if_true, accept_accepted, true_iff]
    intro hen hact
    rw [hen, hact] at hc
    cases hc
  · obtain ⟨hen, hact⟩ : c.enabled = true ∧ c.isActive = true := by
      revert hc
      cases c.enabled <;> cases c.isActive <;> decide
    simp only [hc]
    show (evaluateRules _ _ _).accepted = true ↔ _
    rw [evaluateRules_accepted_iff]
    exact ⟨fun h _ _ => h, fun h => h hen hact⟩

omit [StdText] in
theorem mem_filterRules {e : QualificationEngine} {rules : List String} {rule : String} :
    rule ∈ e.filterRulesByRequestType rules ↔
      rule ∈ rules ∧ (e.requestType = .ping → rule ∈ pingRules) := by
  rw [filterRulesByRequestType]
  split
  · next hping => simp [hping]
  · next hping => simp [hping]

/-- A lead that is accepted for any request type is accepted for a ping. -/
theorem evaluate_ping_of_accepted {lead : Lead} {t : RequestType}
    {config : Option BuyerQualificationConfig}
    (h : (evaluate ⟨lead, t, config⟩).accepted = true) :
    (evaluate ⟨lead, .ping, config⟩).accepted = true := by
  cases config with
  | none => rfl
  | some c =>
    rw [evaluate_accepted_iff] at h ⊢
    intro hen hact rule hrule
    obtain ⟨hmem, hping⟩ := mem_filterRules.mp hrule
    -- a rule that a ping runs is run for every other request type
    exact h hen hact rule (mem_filterRules.mpr ⟨hmem, fun _ => hping rfl⟩)

/-- Acceptance depends on the names in the order alone. -/
theorem evaluate_accepted_congr {lead : Lead} {t : RequestType} {c : BuyerQualificationConfig}
    {order : List String} (h : ∀ rule, rule ∈ order ↔ rule ∈ c.rulesOrder) :
    (evaluate ⟨lead, t, some { c with rulesOrder := order }⟩).accepted =
      (evaluate ⟨lead, t, some c⟩).accepted := by
  rw [Bool.eq_iff_iff, evaluate_accepted_iff, evaluate_accepted_iff]
  constructor
  · intro hall hen hact rule hrule
    obtain ⟨hmem, hping⟩ := mem_filterRules.mp hrule
    exact hall hen hact rule (mem_filterRules.mpr ⟨(h rule).mpr hmem, hping⟩)
  · intro hall hen hact rule hrule
    obtain ⟨hmem, hping⟩ := mem_filterRules.mp hrule
    exact hall hen hact rule (mem_filterRules.mpr ⟨(h rule).mp hmem, hping⟩)

/-- A config that runs gives the answer of its first rejecting rule. -/
theorem evaluate_of_runs {lead : Lead} {t : RequestType} {c : BuyerQualificationConfig}
    (hen : c.enabled = true) (hact : c.isActive = true) :
    evaluate ⟨lead, t, some c⟩ =
      evaluateRules ⟨lead, t, some c⟩ c.config
        (filterRulesByRequestType ⟨lead, t, some c⟩ c.rulesOrder) := by
  rw [evaluate]
  simp only [hen, hact]
  rfl

/-- It is that of the rule that rejects after rules that accept. -/
theorem evaluate_of_first {lead : Lead} {t : RequestType} {c : BuyerQualificationConfig}
    (hen : c.enabled = true) (hact : c.isActive = true) {before after : List String}
    {rule : String}
    (hsplit : filterRulesByRequestType ⟨lead, t, some c⟩ c.rulesOrder = before ++ rule :: after)
    (hbefore : ∀ r ∈ before, rejects ⟨lead, t, some c⟩ c.config r = false)
    (hrule : rejects ⟨lead, t, some c⟩ c.config rule = true) :
    evaluate ⟨lead, t, some c⟩ = evaluateRule ⟨lead, t, some c⟩ rule c.config := by
  have hnone : before.find? (rejects ⟨lead, t, some c⟩ c.config) = none := by
    rw [List.find?_eq_none]
    intro r hr
    rw [hbefore r hr]
    exact Bool.false_ne_true
  rw [evaluate_of_runs hen hact, evaluateRules_eq_find, hsplit, List.find?_append, hnone,
    List.find?_cons_of_pos hrule]
  rfl

/-- For every lead and config: permuting or repeating rule names changes no acceptance; what is
accepted for a post or fullpost is accepted for a ping; a config that is enabled and active
rejects exactly when a filtered rule does, with the reason of the first that does; any other
config accepts. -/
theorem evaluate_first_rejection (lead : Lead) (c : BuyerQualificationConfig) :
    (∀ (t : RequestType) (order : List String), (∀ rule, rule ∈ order ↔ rule ∈ c.rulesOrder) →
      (evaluate ⟨lead, t, some { c with rulesOrder := order }⟩).accepted =
        (evaluate ⟨lead, t, some c⟩).accepted) ∧
    (∀ t : RequestType, t = .post ∨ t = .fullpost →
      (evaluate ⟨lead, t, some c⟩).accepted = true →
        (evaluate ⟨lead, .ping, some c⟩).accepted = true) ∧
    (∀ t : RequestType, c.enabled = true ∧ c.isActive = true →
      ((evaluate ⟨lead, t, some c⟩).accepted = false ↔
        ∃ rule ∈ filterRulesByRequestType ⟨lead, t, some c⟩ c.rulesOrder,
          rejects ⟨lead, t, some c⟩ c.config rule = true) ∧
      ∀ before rule after,
        filterRulesByRequestType ⟨lead, t, some c⟩ c.rulesOrder = before ++ rule :: after →
        (∀ r ∈ before, rejects ⟨lead, t, some c⟩ c.config r = false) →
        rejects ⟨lead, t, some c⟩ c.config rule = true →
          (evaluate ⟨lead, t, some c⟩).reason =
            (evaluateRule ⟨lead, t, some c⟩ rule c.config).reason) ∧
    (∀ t : RequestType, ¬(c.enabled = true ∧ c.isActive = true) →
      (evaluate ⟨lead, t, some c⟩).accepted = true) := by
  -- neither the order nor the kind of request adds a rejection
  refine ⟨fun t order h => evaluate_accepted_congr h, fun t _ h => evaluate_ping_of_accepted h,
    ?_, ?_⟩
  · rintro t ⟨hen, hact⟩
    refine ⟨?_, ?_⟩
    · rw [← Bool.not_eq_true, evaluate_accepted_iff]
      simp only [hen, hact, forall_const, not_forall, Bool.not_eq_false, exists_prop]
    · intro before rule after hsplit hbefore hrule
      rw [evaluate_of_first hen hact hsplit hbefore hrule]
  · intro t hoff
    rw [evaluate_accepted_iff]
    exact fun hen hact => absurd ⟨hen, hact⟩ hoff

/-! ### The price multiplier -/

theorem evaluateOwnHome_priceMultiplier (e : QualificationEngine)
    (c : Option (List (String × Json))) : (e.evaluateOwnHome c).priceMultiplier = none := by
  rw [evaluateOwnHome]
  split
  · rfl
  · split
    · rfl
    · dsimp only
      split
      · rfl
      · split <;> rfl

theorem evaluateRoofShade_priceMultiplier (e : QualificationEngine)
    (c : Option (List (String × Json))) : (e.evaluateRoofShade c).priceMultiplier = none := by
  unfold evaluateRoofShade
  split
  · rfl
  · rfl
  · split
    · rfl
    · split
      · rfl
      · split <;> rfl

/-- The `credit_rating` rule names a multiplier only where it accepts. -/
theorem evaluateCreditRating_priceMultiplier {e : QualificationEngine}
    {c : Option (List (String × Json))} (h : (e.evaluateCreditRating c).accepted = false) :
    (e.evaluateCreditRating c).priceMultiplier = none := by
  revert h
  rw [evaluateCreditRating]
  split
  · exact fun _ => rfl
  · split
    · exact fun _ => rfl
    · dsimp only
      split
      · exact fun _ => rfl
      · split
        · exact fun _ => rfl
        · intro h
          cases h

theorem evaluateRejectedList_priceMultiplier (e : QualificationEngine) (field label : String)
    (rejected : List String) :
    (e.evaluateRejectedList field label rejected).priceMultiplier = none := by
  rw [evaluateRejectedList]
  split
  · rfl
  · split
    · rfl
    · dsimp only
      split <;> rfl

/-- A rule that rejects names no multiplier. -/
theorem evaluateRule_priceMultiplier {e : QualificationEngine} {rule : String} {config : Json}
    (h : e.rejects config rule = true) : (e.evaluateRule rule config).priceMultiplier = none := by
  have hrej : (e.evaluateRule rule config).accepted = false := by
    rw [rejects, Bool.not_eq_true'] at h
    exact h
  revert hrej
  unfold evaluateRule
  split
  · intro _; rw [evaluateZipBlacklist]; split <;> rfl
  · intro _; rw [evaluateZipWhitelist]; split <;> rfl
  · intro _; exact evaluateOwnHome_priceMultiplier _ _
  · intro _; exact evaluateRoofShade_priceMultiplier _ _
  · exact evaluateCreditRating_priceMultiplier
  · intro _; rfl
  · intro _; rfl
  · intro _; exact evaluateRejectedList_priceMultiplier _ _ _ _
  · intro _; exact evaluateRejectedList_priceMultiplier _ _ _ _
  · intro _; rfl
  · intro _; rfl

/-- No result of the engine carries a price multiplier. -/
theorem evaluate_priceMultiplier (e : QualificationEngine) : e.evaluate.priceMultiplier = none := by
  rw [evaluate]
  split
  · rfl
  · split
    · rfl
    · rw [evaluateRules_eq_find]
      split
      · rfl
      · next hfind => exact evaluateRule_priceMultiplier (List.find?_some hfind)

/-- The entry of `credit_rating_rules` that the lead's rating meets. -/
def creditRatingEntry (e : QualificationEngine) (config : Json) : Option Json :=
  (e.getStringValue "credit_rating").bind fun s =>
    (rulesOf ((config.get "credit_rating_rules").bind Json.asObject)).find? fun rule =>
      (ruleValue rule).any fun v => toLowercase v = toLowercase s

/-- The `credit_rating` rule answers with the multiplier of the entry it meets. -/
theorem evaluateRule_creditRating {e : QualificationEngine} {config entry : Json}
    (hacc : e.rejects config "credit_rating" = false)
    (hentry : e.creditRatingEntry config = some entry) :
    (e.evaluateRule "credit_rating" config).priceMultiplier =
      (entry.get "price_multiplier").bind Json.asF64 := by
  obtain ⟨s, hs, hfind⟩ := Option.bind_eq_some_iff.mp hentry
  have hne : ¬(rulesOf ((config.get "credit_rating_rules").bind Json.asObject)).isEmpty = true := by
    rw [List.isEmpty_iff]
    exact List.ne_nil_of_mem (List.mem_of_find?_eq_some hfind)
  rw [rejects, Bool.not_eq_false'] at hacc
  have hrule : e.evaluateRule "credit_rating" config =
      e.evaluateCreditRating ((config.get "credit_rating_rules").bind Json.asObject) := rfl
  rw [hrule] at hacc ⊢
  rw [evaluateCreditRating, if_neg hne] at hacc ⊢
  simp only [hs, hfind] at hacc ⊢
  by_cases haction : toLowercase (ruleAction entry) = "reject"
  · rw [if_pos haction] at hacc
    cases hacc
  · rw [if_neg haction]

/-- Where all the filtered rules of a config accept and the `credit_rating` rule names a
multiplier, the engine accepts the lead without it. -/
theorem price_multiplier_lost {lead : Lead} {t : RequestType} {c : BuyerQualificationConfig}
    (_hen : c.enabled = true) (_hact : c.isActive = true)
    (hall : ∀ rule ∈ filterRulesByRequestType ⟨lead, t, some c⟩ c.rulesOrder,
      rejects ⟨lead, t, some c⟩ c.config rule = false)
    (hmem : "credit_rating" ∈ filterRulesByRequestType ⟨lead, t, some c⟩ c.rulesOrder)
    {entry : Json} (hentry : creditRatingEntry ⟨lead, t, some c⟩ c.config = some entry) {m : F64}
    (hm : (entry.get "price_multiplier").bind Json.asF64 = some m) :
    (evaluateRule ⟨lead, t, some c⟩ "credit_rating" c.config).priceMultiplier = some m ∧
    (evaluate ⟨lead, t, some c⟩).accepted = true ∧
    (evaluate ⟨lead, t, some c⟩).priceMultiplier ≠ some m := by
  refine ⟨?_, ?_, ?_⟩
  · rw [evaluateRule_creditRating (hall _ hmem) hentry, hm]
  · exact (evaluate_accepted_iff lead t c).mpr fun _ _ => hall
  · rw [evaluate_priceMultiplier]
    exact nofun

end Rules

/-! ### A rejecting rule that is off, and a multiplier that is lost -/

open Sample

/-- The sample lead does not own its home, and its credit rating is `fair`. -/
def fairCredit : Lead :=
  { (ping true).submittedLead new 0 with
    verticalData := .obj [("own_home", .bool false), ("credit_rating", .str "Fair")] }

/-- A disabled config has a rule that rejects the lead, and the engine accepts it. -/
theorem disabled_config_accepts :
    ¬ ∀ (lead : Lead) (t : RequestType) (c : BuyerQualificationConfig),
      (evaluate ⟨lead, t, some c⟩).accepted = false ↔
        ∃ rule ∈ filterRulesByRequestType ⟨lead, t, some c⟩ c.rulesOrder,
          rejects ⟨lead, t, some c⟩ c.config rule = true := by
  intro h
  have hrejected := (h fairCredit .ping { homeOwnersOnly with enabled := false }).mpr
    ⟨"own_home", by decide, by decide⟩
  exact absurd hrejected (by decide)

/-- A fair rating is taken at four fifths of the price. -/
def fairEntry : Json :=
  .obj [("value", .str "fair"), ("action", .str "accept"), ("price_multiplier", .num (4 / 5))]

def fairAtDiscount : BuyerQualificationConfig where
  buyerId := 20
  config := .obj [("credit_rating_rules", .obj [("rules", .arr [fairEntry])])]
  rulesOrder := ["zip_blacklist", "credit_rating", "monthly_bill"]
  enabled := true
  isActive := true

theorem price_multiplier_lost_fair :
    (evaluateRule ⟨fairCredit, .ping, some fairAtDiscount⟩ "credit_rating"
      fairAtDiscount.config).priceMultiplier = some (.fin (4 / 5)) ∧
    (evaluate ⟨fairCredit, .ping, some fairAtDiscount⟩).accepted = true ∧
    (evaluate ⟨fairCredit, .ping, some fairAtDiscount⟩).priceMultiplier ≠
      some (.fin (4 / 5)) := by
  have hentry : creditRatingEntry ⟨fairCredit, .ping, some fairAtDiscount⟩
      fairAtDiscount.config = some fairEntry := rfl
  exact price_multiplier_lost (by decide) (by decide) (by decide) (by decide)
    hentry rfl

/-- The lead with a fair rating is accepted, and its result has no multiplier. -/
theorem discount_not_in_result :
    ¬ ∀ (lead : Lead) (t : RequestType) (c : BuyerQualificationConfig) (entry : Json) (m : F64),
      c.enabled = true → c.isActive = true →
      (∀ rule ∈ filterRulesByRequestType ⟨lead, t, some c⟩ c.rulesOrder,
        rejects ⟨lead, t, some c⟩ c.config rule = false) →
      "credit_rating" ∈ filterRulesByRequestType ⟨lead, t, some c⟩ c.rulesOrder →
      creditRatingEntry ⟨lead, t, some c⟩ c.config = some entry →
      (entry.get "price_multiplier").bind Json.asF64 = some m →
      (evaluate ⟨lead, t, some c⟩).accepted = true ∧
        (evaluate ⟨lead, t, some c⟩).priceMultiplier = some m := by
  intro h
  have hresult := h fairCredit .ping fairAtDiscount fairEntry (.fin (4 / 5)) (by decide)
    (by decide) (by decide) (by decide) rfl rfl
  rw [evaluate_priceMultiplier] at hresult
  cases hresult.2

end QualificationEngine

end LeadsNebula
