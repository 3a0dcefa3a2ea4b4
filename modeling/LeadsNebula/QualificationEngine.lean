/-
The qualification engine (`services/qualification_engine.rs`).

A buyer's config names rules in an order; the engine runs the rules that apply
to the request type until one rejects.  A field is read from the lead's
`vertical_data` (`getValue`), and every rule accepts a lead that does not carry
its field:

* `evaluateRule_accepted_of_no_fields`, `evaluate_accepted_of_no_fields` — a
  lead whose `vertical_data` has no field is accepted under every config.
-/
import LeadsNebula.Models

namespace LeadsNebula

structure QualificationResult where
  accepted : Bool
  reason : String
  priceMultiplier : Option F64
  deriving DecidableEq

namespace QualificationResult

def accept (reason : String) : QualificationResult := ⟨true, reason, none⟩

def reject (reason : String) : QualificationResult := ⟨false, reason, none⟩

@[simp] theorem accept_accepted (reason : String) : (accept reason).accepted = true := rfl

@[simp] theorem reject_accepted (reason : String) : (reject reason).accepted = false := rfl

end QualificationResult

structure QualificationEngine where
  lead : Lead
  requestType : RequestType
  qualificationConfig : Option BuyerQualificationConfig

namespace QualificationEngine

open QualificationResult

variable [StdText]

/-- A value of the lead's `vertical_data`. -/
def getValue (e : QualificationEngine) (field : String) : Option Json :=
  e.lead.verticalData.get field

/-- A value of the lead's `vertical_data` as text. -/
def getStringValue (e : QualificationEngine) (field : String) : Option String :=
  (e.getValue field).bind fun v =>
    match v with
    | .str s => some s
    | .bool b => some (if b then "true" else "false")
    | .num q => some (f64ToString (.fin q))
    | _ => none

/-- The rules whose fields a ping carries. -/
def pingRules : List String :=
  ["zip_blacklist", "zip_whitelist", "monthly_bill", "own_home", "purchase_timeframe",
    "credit_rating", "roof_shade", "utility_provider"]

def filterRulesByRequestType (e : QualificationEngine) (rulesOrder : List String) : List String :=
  if e.requestType = .ping then rulesOrder.filter fun rule => rule ∈ pingRules
  else rulesOrder

def evaluateZipBlacklist (e : QualificationEngine) : QualificationResult :=
  if (e.getStringValue "zip").isNone then accept "Zip code not provided"
  else accept "Zip blacklist check passed (not implemented)"

def evaluateZipWhitelist (e : QualificationEngine) : QualificationResult :=
  if (e.getStringValue "zip").isNone then accept "Zip code not provided"
  else accept "Zip whitelist check passed (not implemented)"

/-- The `rules` array of a rule config. -/
def rulesOf (ruleConfig : Option (List (String × Json))) : List Json :=
  ((ruleConfig.bind fun c => c.lookup "rules").bind Json.asArray).getD []

/-- The `value` of a rule. -/
def ruleValue (rule : Json) : Option String := (rule.get "value").bind Json.asStr

/-- The `action` of a rule, `accept` when it names none. -/
def ruleAction (rule : Json) : String := ((rule.get "action").bind Json.asStr).getD "accept"

/-- The submitted `own_home` value as a rule writes it. -/
def ownHomeStr : Json → String
  | .bool b => if b then "yes" else "no"
  | v => toLowercase (v.asStr.getD "")

/-- The value of an `own_home` rule as `ownHomeStr` writes it. -/
def normalizeRuleValue (s : String) : String :=
  if s = "yes" ∨ s = "true" then "yes"
  else if s = "no" ∨ s = "false" then "no"
  else s

def evaluateOwnHome (e : QualificationEngine) (ruleConfig : Option (List (String × Json))) :
    QualificationResult :=
  let rules := rulesOf ruleConfig
  if rules.isEmpty then accept "No own_home rules configured - accepting by default"
  else
    match e.getValue "own_home" with
    | none => accept "Own home field missing - accepting by default"
    | some v =>
      let ownHome := ownHomeStr v
      match rules.find? fun rule => (ruleValue rule).any fun s =>
          normalizeRuleValue (toLowercase s) = ownHome with
      | none => accept ("No rule configured for own_home value: " ++ ownHome)
      | some rule =>
        if toLowercase (ruleAction rule) = "reject" then
          reject ("Lead does not meet own_home requirement (value: " ++ ownHome ++ ")")
        else accept "Own home requirement met"

def evaluateRoofShade (e : QualificationEngine) (ruleConfig : Option (List (String × Json))) :
    QualificationResult :=
  match ruleConfig with
  | none | some [] => accept "No roof_shade rules configured - accepting by default"
  | some c =>
    match e.getStringValue "roof_shade" with
    | none => accept "Roof shade field missing - accepting by default"
    | some roofShade =>
      match c.lookup roofShade with
      | none => accept ("No rule configured for roof shade: " ++ roofShade)
      | some rule =>
        -- the action is compared as it is written, not lower-cased
        if ruleAction rule = "reject" then
          reject ("Roof shade " ++ roofShade ++ " is not acceptable")
        else accept ("Roof shade " ++ roofShade ++ " is acceptable")

def evaluateCreditRating (e : QualificationEngine) (ruleConfig : Option (List (String × Json))) :
    QualificationResult :=
  let rules := rulesOf ruleConfig
  if rules.isEmpty then accept "No credit_rating rules configured - accepting by default"
  else
    match e.getStringValue "credit_rating" with
    | none => accept "Credit rating field missing - accepting by default"
    | some s =>
      let creditRating := toLowercase s
      match rules.find? fun rule => (ruleValue rule).any fun v =>
          toLowercase v = creditRating with
      | none => accept ("No rule configured for credit rating value: " ++ creditRating)
      | some rule =>
        if toLowercase (ruleAction rule) = "reject" then
          reject ("Credit rating " ++ creditRating ++ " is not acceptable")
        else
          { accepted := true
            reason := "Credit rating " ++ creditRating ++ " is acceptable"
            priceMultiplier := (rule.get "price_multiplier").bind Json.asF64 }

/-- The strings of a list of rejected values. -/
def rejectedOf (config : Json) (field : String) : List String :=
  (((config.get field).bind Json.asArray).getD []).filterMap Json.asStr

/-- A rule that rejects the values of a list (`evaluate_property_type`, `evaluate_roof_type`). -/
def evaluateRejectedList (e : QualificationEngine) (field label : String)
    (rejected : List String) : QualificationResult :=
  if rejected.isEmpty then
    accept ("No " ++ field ++ " rejection rules configured - accepting by default")
  else
    match e.getStringValue field with
    | none => accept (label ++ " field missing - accepting by default")
    | some s =>
      let v := toLowercase s
      if rejected.any fun r => toLowercase r = v then reject (label ++ " " ++ v ++ " is rejected")
      else accept (label ++ " " ++ v ++ " is acceptable")

def evaluatePropertyType (e : QualificationEngine) (rejected : List String) :
    QualificationResult :=
  e.evaluateRejectedList "property_type" "Property type" rejected

def evaluateRoofType (e : QualificationEngine) (rejected : List String) : QualificationResult :=
  e.evaluateRejectedList "roof_type" "Roof type" rejected

def evaluateRule (e : QualificationEngine) (ruleName : String) (config : Json) :
    QualificationResult :=
  let ruleConfig (field : String) := (config.get field).bind Json.asObject
  match ruleName with
  | "zip_blacklist" => e.evaluateZipBlacklist
  | "zip_whitelist" => e.evaluateZipWhitelist
  | "own_home" => e.evaluateOwnHome (ruleConfig "own_home_rule")
  | "roof_shade" => e.evaluateRoofShade (ruleConfig "roof_shade_rules")
  | "credit_rating" => e.evaluateCreditRating (ruleConfig "credit_rating_rules")
  | "monthly_bill" => accept "Monthly bill check passed (not implemented)"
  | "utility_provider" => accept "Utility provider check passed (not implemented)"
  | "property_type" => e.evaluatePropertyType (rejectedOf config "property_type_rejected")
  | "roof_type" => e.evaluateRoofType (rejectedOf config "roof_type_rejected")
  | "purchase_timeframe" => accept "Purchase timeframe check passed (not implemented)"
  | other => accept ("Unknown rule: " ++ other)

/-- The rules in order, up to the first that rejects. -/
def evaluateRules (e : QualificationEngine) (config : Json) : List String → QualificationResult
  | [] => accept "All qualification rules passed"
  | rule :: rules =>
    let result := e.evaluateRule rule config
    if result.accepted then e.evaluateRules config rules else result

def evaluate (e : QualificationEngine) : QualificationResult :=
  match e.qualificationConfig with
  | none => accept "No qualification config found - defaulting to accept"
  | some c =>
    if !c.enabled || !c.isActive then
      accept "Qualification config is disabled - defaulting to accept"
    else e.evaluateRules c.config (e.filterRulesByRequestType c.rulesOrder)

/-! ### A lead without fields -/

section NoFields

variable {e : QualificationEngine} (h : e.lead.verticalData = .obj [])

include h

omit [StdText] in
theorem getValue_of_no_fields (field : String) : e.getValue field = none := by
  rw [getValue, h]
  rfl

theorem getStringValue_of_no_fields (field : String) : e.getStringValue field = none := by
  rw [getStringValue, getValue_of_no_fields h]
  rfl

theorem evaluateOwnHome_accepted_of_no_fields (c : Option (List (String × Json))) :
    (e.evaluateOwnHome c).accepted = true := by
  simp only [evaluateOwnHome, getValue_of_no_fields h]
  split <;> rfl

theorem evaluateRoofShade_accepted_of_no_fields (c : Option (List (String × Json))) :
    (e.evaluateRoofShade c).accepted = true := by
  simp only [evaluateRoofShade, getStringValue_of_no_fields h]
  split <;> rfl

theorem evaluateCreditRating_accepted_of_no_fields (c : Option (List (String × Json))) :
    (e.evaluateCreditRating c).accepted = true := by
  simp only [evaluateCreditRating, getStringValue_of_no_fields h]
  split <;> rfl

theorem evaluateRejectedList_accepted_of_no_fields (field label : String) (l : List String) :
    (e.evaluateRejectedList field label l).accepted = true := by
  simp only [evaluateRejectedList, getStringValue_of_no_fields h]
  split <;> rfl

theorem evaluateRule_accepted_of_no_fields (rule : String) (config : Json) :
    (e.evaluateRule rule config).accepted = true := by
  unfold evaluateRule
  split
  · rw [evaluateZipBlacklist]; split <;> rfl
  · rw [evaluateZipWhitelist]; split <;> rfl
  · exact evaluateOwnHome_accepted_of_no_fields h _
  · exact evaluateRoofShade_accepted_of_no_fields h _
  · exact evaluateCreditRating_accepted_of_no_fields h _
  · rfl
  · rfl
  · exact evaluateRejectedList_accepted_of_no_fields h _ _ _
  · exact evaluateRejectedList_accepted_of_no_fields h _ _ _
  · rfl
  · rfl

theorem evaluateRules_accepted_of_no_fields (config : Json) (rules : List String) :
    (e.evaluateRules config rules).accepted = true := by
  induction rules with
  | nil => rfl
  | cons rule rules ih =>
    simp only [evaluateRules, evaluateRule_accepted_of_no_fields h, if_true]
    exact ih

/-- Every config accepts a lead that carries no field. -/
theorem evaluate_accepted_of_no_fields : e.evaluate.accepted = true := by
  rw [evaluate]
  split
  · rfl
  · split
    · rfl
    · exact evaluateRules_accepted_of_no_fields h _ _

end NoFields

end QualificationEngine

end LeadsNebula
