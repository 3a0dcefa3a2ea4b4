/-
Qualification rules and the spelling of the values they compare.

A lead and a config are respelled (`LeadRecased`, `ConfigRecased`) by changing
the letter case of the texts the rules compare and of their actions, and by
giving `own_home` as a boolean, as true/false or as yes/no.  Of the rules that
can reject a lead, two look at the spelling: `own_home` normalises the value of
a rule to yes or no but not that of the lead, so a lead that says "true" or
"false" meets no rule; `roof_shade` compares the key and the action as they are
written.

* `rejects_ownHome`, `rejects_roofShade`, `rejects_creditRating`,
  `rejects_propertyType`, `rejects_roofType` — when each rule rejects;
* `mayReject_congr`, `mustReject_congr` — the rules that reject under some
  spelling, and those that reject under every one, do not depend on it;
* `spelling_independent_iff` — acceptance is independent of the spelling exactly
  where some rule rejects under every spelling or none does under any.
-/
import LeadsNebula.AssocList
import LeadsNebula.JsonRel
import LeadsNebula.QualificationRules

namespace LeadsNebula

namespace QualificationEngine

open QualificationResult

section Spelling

variable [StdText]

/-! ### Respelled leads and configs -/

/-- A value, its text perhaps in another letter case. -/
inductive Recased : Json → Json → Prop
  | same (v : Json) : Recased v v
  | str {s s' : String} (h : toLowercase s = toLowercase s') : Recased (.str s) (.str s')

/-- What an `own_home` value says: a boolean, true/false or yes/no. -/
def homeAnswer : Json → Option Bool
  | .bool b => some b
  | .str s =>
    if toLowercase s = "yes" ∨ toLowercase s = "true" then some true
    else if toLowercase s = "no" ∨ toLowercase s = "false" then some false
    else none
  | _ => none

/-- An `own_home` value, perhaps spelled differently. -/
inductive HomeRecased : Json → Json → Prop
  | recased {v v' : Json} (h : Recased v v') : HomeRecased v v'
  | answer {v v' : Json} {b : Bool} (h : homeAnswer v = some b) (h' : homeAnswer v' = some b) :
      HomeRecased v v'

/-- How a field of the lead may be respelled. -/
def DataField (field : String) : Json → Json → Prop :=
  match field with
  | "own_home" => HomeRecased
  | "roof_shade" | "credit_rating" | "property_type" | "roof_type" => Recased
  | _ => Eq

/-- How a field of a rule may be respelled. -/
def RuleField (field : String) : Json → Json → Prop :=
  match field with
  | "value" | "action" => Recased
  | _ => Eq

/-- A rule with its value and action perhaps in another letter case. -/
def RuleRecased : Json → Json → Prop := Json.ObjRel RuleField

/-- How a field of the rule config of `own_home` or `credit_rating` may be respelled. -/
def RulesField (field : String) : Json → Json → Prop :=
  match field with
  | "rules" => Json.ArrRel RuleRecased
  | _ => Eq

/-- The rule config of `own_home` or `credit_rating`, its rules perhaps respelled. -/
def RulesRecased : Json → Json → Prop := Json.ObjRel RulesField

/-- The rules of `roof_shade`, whose keys are the values they are for. -/
inductive ShadesRecased : Json → Json → Prop
  | same (v : Json) : ShadesRecased v v
  | entries {m m' : List (String × Json)}
      (h : List.Forall₂ (fun p p' => toLowercase p.1 = toLowercase p'.1 ∧ RuleRecased p.2 p'.2)
        m m')
      (hkeys : (m.map Prod.fst).Nodup → (m'.map Prod.fst).Nodup) :
      ShadesRecased (.obj m) (.obj m')

/-- How a field of the config may be respelled. -/
def ConfigField (field : String) : Json → Json → Prop :=
  match field with
  | "own_home_rule" | "credit_rating_rules" => RulesRecased
  | "roof_shade_rules" => ShadesRecased
  | "property_type_rejected" | "roof_type_rejected" => Json.ArrRel Recased
  | _ => Eq

/-- The lead with its qualification fields perhaps respelled. -/
def LeadRecased (lead lead' : Lead) : Prop :=
  ∃ data, Json.ObjRel DataField lead.verticalData data ∧ lead' = { lead with verticalData := data }

/-- The config with the values and actions of its rules perhaps respelled. -/
def ConfigRecased : Option BuyerQualificationConfig → Option BuyerQualificationConfig → Prop :=
  Option.Rel fun c c' => ∃ config, Json.ObjRel ConfigField c.config config ∧
    c' = { c with config := config }

/-- The lead is accepted or rejected under the config however the two are spelled. -/
def SpellingIndependent (lead : Lead) (t : RequestType)
    (config : Option BuyerQualificationConfig) : Prop :=
  ∀ lead' config', LeadRecased lead lead' → ConfigRecased config config' →
    (evaluate ⟨lead', t, config'⟩).accepted = (evaluate ⟨lead, t, config⟩).accepted

theorem dataField_refl (field : String) (v : Json) : DataField field v v := by
  unfold DataField
  split
  · exact .recased (.same v)
  · exact .same v
  · exact .same v
  · exact .same v
  · exact .same v
  · rfl

theorem ruleField_refl (field : String) (v : Json) : RuleField field v v := by
  unfold RuleField
  split
  · exact .same v
  · exact .same v
  · rfl

theorem ruleRecased_refl (v : Json) : RuleRecased v v := .same v

theorem configField_refl (field : String) (v : Json) : ConfigField field v v := by
  unfold ConfigField
  split
  · exact .same v
  · exact .same v
  · exact .same v
  · exact .same v
  · exact .same v
  · rfl

theorem leadRecased_refl (lead : Lead) : LeadRecased lead lead :=
  ⟨lead.verticalData, .same _, rfl⟩

theorem configRecased_refl (config : Option BuyerQualificationConfig) :
    ConfigRecased config config :=
  optionRel_refl (fun c => ⟨c.config, .same _, rfl⟩) config

/-! ### When a rule rejects -/

/-- The action of the rule rejects, in whatever letter case it is written. -/
def saysReject (rule : Json) : Bool := toLowercase (ruleAction rule) = "reject"

/-- The first `own_home` rule for a value. -/
def homeRule (config : Json) (home : String) : Option Json :=
  (rulesOf ((config.get "own_home_rule").bind Json.asObject)).find? fun rule =>
    (ruleValue rule).any fun s => normalizeRuleValue (toLowercase s) = home

/-- The rules of `roof_shade`. -/
def shades (config : Json) : List (String × Json) :=
  ((config.get "roof_shade_rules").bind Json.asObject).getD []

/-- A field of the lead is in a list of rejected values. -/
def listed (e : QualificationEngine) (config : Json) (field list : String) : Bool :=
  (e.getStringValue field).any fun s =>
    (rejectedOf config list).any fun r => toLowercase r = toLowercase s

omit [StdText] in
/-- A rule that ends in a choice between a rejection and an acceptance. -/
theorem not_accepted_ite {c : Prop} [Decidable c] {rejected accepted : QualificationResult}
    (hr : rejected.accepted = false) (ha : accepted.accepted = true) :
    (!(if c then rejected else accepted).accepted) = decide c := by
  by_cases h : c
  · rw [if_pos h, hr, decide_eq_true h]
    rfl
  · rw [if_neg h, ha, decide_eq_false h]
    rfl

theorem rejects_ownHome (e : QualificationEngine) (config : Json) :
    e.rejects config "own_home" =
      (e.getValue "own_home").any fun v => (homeRule config (ownHomeStr v)).any saysReject := by
  have hrule : e.evaluateRule "own_home" config =
      e.evaluateOwnHome ((config.get "own_home_rule").bind Json.asObject) := rfl
  rw [rejects, hrule, evaluateOwnHome]
  by_cases hempty : (rulesOf ((config.get "own_home_rule").bind Json.asObject)).isEmpty = true
  · -- no rule is found among none
    have hnone : ∀ home, homeRule config home = none := by
      intro home
      rw [homeRule, List.isEmpty_iff.mp hempty]
      rfl
    simp only [if_pos hempty, hnone]
    cases e.getValue "own_home" <;> rfl
  · rw [if_neg hempty]
    cases e.getValue "own_home" with
    | none => rfl
    | some v =>
      rw [Option.any_some, homeRule]
      dsimp only
      cases (rulesOf ((config.get "own_home_rule").bind Json.asObject)).find? fun rule =>
        (ruleValue rule).any fun s => normalizeRuleValue (toLowercase s) = ownHomeStr v with
      | none => rfl
      | some rule => exact not_accepted_ite rfl rfl

theorem rejects_roofShade (e : QualificationEngine) (config : Json) :
    e.rejects config "roof_shade" =
      (e.getStringValue "roof_shade").any fun s =>
        ((shades config).lookup s).any fun rule => ruleAction rule = "reject" := by
  have hrule : e.evaluateRule "roof_shade" config =
      e.evaluateRoofShade ((config.get "roof_shade_rules").bind Json.asObject) := rfl
  rw [rejects, hrule, shades]
  unfold evaluateRoofShade
  rcases hc : (config.get "roof_shade_rules").bind Json.asObject with _ | _ | ⟨p, m⟩
  · cases e.getStringValue "roof_shade" <;> rfl
  · cases e.getStringValue "roof_shade" <;> rfl
  · cases e.getStringValue "roof_shade" with
    | none => rfl
    | some s =>
      rw [Option.any_some, Option.getD_some]
      dsimp only
      cases (p :: m).lookup s with
      | none => rfl
      | some rule => exact not_accepted_ite rfl rfl

theorem rejects_creditRating (e : QualificationEngine) (config : Json) :
    e.rejects config "credit_rating" = (e.creditRatingEntry config).any saysReject := by
  have hrule : e.evaluateRule "credit_rating" config =
      e.evaluateCreditRating ((config.get "credit_rating_rules").bind Json.asObject) := rfl
  rw [rejects, hrule, evaluateCreditRating, creditRatingEntry]
  by_cases hempty : (rulesOf ((config.get "credit_rating_rules").bind Json.asObject)).isEmpty = true
  · rw [if_pos hempty, List.isEmpty_iff.mp hempty]
    cases e.getStringValue "credit_rating" <;> rfl
  · rw [if_neg hempty]
    cases e.getStringValue "credit_rating" with
    | none => rfl
    | some s =>
      rw [Option.bind_some]
      dsimp only
      cases (rulesOf ((config.get "credit_rating_rules").bind Json.asObject)).find? fun rule =>
        (ruleValue rule).any fun v => toLowercase v = toLowercase s with
      | none => rfl
      | some rule => exact not_accepted_ite rfl rfl

theorem rejects_rejectedList (e : QualificationEngine) (config : Json) (field label list : String) :
    (!(e.evaluateRejectedList field label (rejectedOf config list)).accepted) =
      e.listed config field list := by
  rw [evaluateRejectedList, listed]
  by_cases hempty : (rejectedOf config list).isEmpty = true
  · rw [if_pos hempty, List.isEmpty_iff.mp hempty]
    cases e.getStringValue field <;> rfl
  · rw [if_neg hempty]
    cases e.getStringValue field with
    | none => rfl
    | some s =>
      rw [Option.any_some]
      dsimp only
      cases (rejectedOf config list).any fun r => toLowercase r = toLowercase s <;> rfl

theorem rejects_propertyType (e : QualificationEngine) (config : Json) :
    e.rejects config "property_type" =
      e.listed config "property_type" "property_type_rejected" :=
  rejects_rejectedList e config _ _ _

theorem rejects_roofType (e : QualificationEngine) (config : Json) :
    e.rejects config "roof_type" = e.listed config "roof_type" "roof_type_rejected" :=
  rejects_rejectedList e config _ _ _

/-- The rule rejects the lead under some spelling. -/
def mayReject (e : QualificationEngine) (config : Json) (rule : String) : Bool :=
  match rule with
  | "own_home" =>
    (e.getValue "own_home").any fun v =>
      (homeRule config (normalizeRuleValue (ownHomeStr v))).any saysReject
  | "roof_shade" =>
    (e.getStringValue "roof_shade").any fun s =>
      (shades config).any fun p => decide (toLowercase p.1 = toLowercase s) && saysReject p.2
  | "credit_rating" => (e.creditRatingEntry config).any saysReject
  | "property_type" => e.listed config "property_type" "property_type_rejected"
  | "roof_type" => e.listed config "roof_type" "roof_type_rejected"
  | _ => false

/-- The rule rejects the lead under every spelling. -/
def mustReject (e : QualificationEngine) (config : Json) (rule : String) : Bool :=
  match rule with
  | "own_home" =>
    (e.getValue "own_home").any fun v =>
      (homeAnswer v).isNone && (homeRule config (ownHomeStr v)).any saysReject
  | "roof_shade" => false
  | rule => e.mayReject config rule

/-! ### What does not depend on the spelling -/

/-- Respelled texts are equal when lower-cased. -/
theorem Recased.asStr {o o' : Option Json} (h : Option.Rel Recased o o') :
    (o.bind Json.asStr).map toLowercase = (o'.bind Json.asStr).map toLowercase := by
  cases h with
  | none => rfl
  | some h =>
    cases h with
    | same => rfl
    | str h => exact congrArg some h

theorem Recased.ownHomeStr {v v' : Json} (h : Recased v v') : ownHomeStr v = ownHomeStr v' := by
  cases h with
  | same => rfl
  | str h => exact h

theorem Recased.homeAnswer {v v' : Json} (h : Recased v v') : homeAnswer v = homeAnswer v' := by
  cases h with
  | same => rfl
  | str h => rw [QualificationEngine.homeAnswer, QualificationEngine.homeAnswer, h]

theorem HomeRecased.homeAnswer {v v' : Json} (h : HomeRecased v v') :
    homeAnswer v = homeAnswer v' := by
  cases h with
  | recased h => exact h.homeAnswer
  | answer h h' => rw [h, h']

/-- A rule value for yes or no is the answer it is for. -/
theorem normalize_of_homeAnswer {v : Json} {b : Bool} (h : homeAnswer v = some b) :
    normalizeRuleValue (ownHomeStr v) = if b then "yes" else "no" := by
  cases v with
  | bool b' =>
    -- the two texts that `bool` becomes are read alike
    obtain rfl : b' = b := Option.some_inj.mp h
    cases b' <;> rfl
  | str s =>
    rw [homeAnswer] at h
    show normalizeRuleValue (toLowercase s) = _
    rw [normalizeRuleValue]
    split at h
    · next hyes =>
      obtain rfl : true = b := Option.some_inj.mp h
      rw [if_pos hyes]
      rfl
    · next hyes =>
      split at h
      · next hno =>
        obtain rfl : false = b := Option.some_inj.mp h
        rw [if_neg hyes, if_pos hno]
        rfl
      · cases h
  | null => cases h
  | num q => cases h
  | arr l => cases h
  | obj m => cases h

theorem HomeRecased.normalize {v v' : Json} (h : HomeRecased v v') :
    normalizeRuleValue (ownHomeStr v) = normalizeRuleValue (ownHomeStr v') := by
  cases h with
  | recased h => rw [h.ownHomeStr]
  | answer h h' => rw [normalize_of_homeAnswer h, normalize_of_homeAnswer h']

/-- A value that is neither yes nor no keeps its text but for the letter case. -/
theorem HomeRecased.ownHomeStr {v v' : Json} (h : HomeRecased v v')
    (hv : QualificationEngine.homeAnswer v = none) : ownHomeStr v = ownHomeStr v' := by
  cases h with
  | recased h => exact h.ownHomeStr
  | answer h _ =>
    rw [hv] at h
    cases h

theorem RuleRecased.value {rule rule' : Json} (h : RuleRecased rule rule') :
    (ruleValue rule).map toLowercase = (ruleValue rule').map toLowercase :=
  Recased.asStr (Json.ObjRel.get h ruleField_refl "value")

theorem RuleRecased.action {rule rule' : Json} (h : RuleRecased rule rule') :
    saysReject rule = saysReject rule' := by
  have haction := Recased.asStr (Json.ObjRel.get h ruleField_refl "action")
  -- an action that is not written is `accept` in both
  rw [saysReject, saysReject, ruleAction, ruleAction, ← Option.getD_map toLowercase, haction,
    Option.getD_map]

/-- A test of a rule's value that sees it lower-cased. -/
theorem RuleRecased.any_value {rule rule' : Json} (h : RuleRecased rule rule')
    (p : String → Bool) :
    ((ruleValue rule).any fun s => p (toLowercase s)) =
      (ruleValue rule').any fun s => p (toLowercase s) :=
  any_of_map_eq h.value fun _ => rfl

/-- The rules of respelled rule configs. -/
theorem rulesOf_recased {o o' : Option Json} (h : Option.Rel RulesRecased o o') :
    List.Forall₂ RuleRecased (rulesOf (o.bind Json.asObject))
      (rulesOf (o'.bind Json.asObject)) := by
  cases h with
  | none => exact List.Forall₂.nil
  | some h =>
    cases h with
    | same => exact List.forall₂_same.mpr fun v _ => ruleRecased_refl v
    | fields h =>
      have hrules := Json.lookup_forall₂ h "rules"
      exact Json.ArrRel.elements hrules ruleRecased_refl

section Congr

variable {e e' : QualificationEngine} {config config' : Json}

/-- The text of a respelled field, lower-cased. -/
theorem getStringValue_recased {field : String}
    (h : Option.Rel Recased (e.getValue field) (e'.getValue field)) :
    (e.getStringValue field).map toLowercase = (e'.getStringValue field).map toLowercase := by
  rw [getStringValue, getStringValue]
  generalize e.getValue field = o at h
  generalize e'.getValue field = o' at h
  cases h with
  | none => rfl
  | some h =>
    cases h with
    | same => rfl
    | str h => exact congrArg some h

/-- A test of a field that sees its text lower-cased. -/
theorem any_getStringValue {field : String}
    (h : Option.Rel Recased (e.getValue field) (e'.getValue field)) (p p' : String → Bool)
    (hp : ∀ s, p s = p' s) :
    ((e.getStringValue field).any fun s => p (toLowercase s)) =
      (e'.getStringValue field).any fun s => p' (toLowercase s) :=
  any_of_map_eq (getStringValue_recased h) hp

variable (hconfig : Json.ObjRel ConfigField config config')

include hconfig

theorem homeRule_recased (home : String) :
    (homeRule config home).any saysReject = (homeRule config' home).any saysReject := by
  refine optionRel_any (fun _ _ h => h.action) (forall₂_find? (fun rule rule' h => ?_)
    (rulesOf_recased (hconfig.get configField_refl "own_home_rule")))
  exact h.any_value fun s => normalizeRuleValue s = home

theorem rejectedOf_recased {list : String} (hlist : ConfigField list = Json.ArrRel Recased)
    (s : String) :
    ((rejectedOf config list).any fun r => toLowercase r = s) =
      (rejectedOf config' list).any fun r => toLowercase r = s := by
  have harr := hconfig.get configField_refl list
  rw [hlist] at harr
  rw [rejectedOf, rejectedOf, List.any_filterMap, List.any_filterMap]
  refine forall₂_any (fun v v' h => ?_) (Json.ArrRel.elements harr Recased.same)
  cases h with
  | same => rfl
  | str h => simp only [Json.asStr, h]

theorem shades_recased :
    List.Forall₂ (fun p p' => toLowercase p.1 = toLowercase p'.1 ∧ RuleRecased p.2 p'.2)
      (shades config) (shades config') := by
  have hshades : Option.Rel ShadesRecased _ _ := hconfig.get configField_refl "roof_shade_rules"
  rw [shades, shades]
  generalize config.get "roof_shade_rules" = o at hshades
  generalize config'.get "roof_shade_rules" = o' at hshades
  cases hshades with
  | none => exact List.Forall₂.nil
  | some h =>
    cases h with
    | same => exact List.forall₂_same.mpr fun p _ => ⟨rfl, ruleRecased_refl p.2⟩
    | entries h _ => exact h

variable (hdata : Json.ObjRel DataField e.lead.verticalData e'.lead.verticalData)

include hdata

theorem listed_recased {field list : String} (hfield : DataField field = Recased)
    (hlist : ConfigField list = Json.ArrRel Recased) :
    e.listed config field list = e'.listed config' field list := by
  have hval : Option.Rel Recased (e.getValue field) (e'.getValue field) := by
    rw [← hfield]
    exact hdata.get dataField_refl field
  exact any_getStringValue hval
    (fun s => (rejectedOf config list).any fun r => toLowercase r = s)
    (fun s => (rejectedOf config' list).any fun r => toLowercase r = s)
    fun s => rejectedOf_recased hconfig hlist s

theorem creditRatingEntry_recased :
    (e.creditRatingEntry config).any saysReject =
      (e'.creditRatingEntry config').any saysReject := by
  have hval : Option.Rel Recased (e.getValue "credit_rating") (e'.getValue "credit_rating") :=
    hdata.get dataField_refl "credit_rating"
  have hrules := rulesOf_recased (hconfig.get configField_refl "credit_rating_rules")
  -- the first entry for a rating, which is looked up lower-cased
  let entry (config : Json) (rating : String) : Option Json :=
    (rulesOf ((config.get "credit_rating_rules").bind Json.asObject)).find? fun rule =>
      (ruleValue rule).any fun v => toLowercase v = rating
  have hentry : ∀ rating, (entry config rating).any saysReject =
      (entry config' rating).any saysReject := by
    intro rating
    refine optionRel_any (fun _ _ h => h.action) (forall₂_find? (fun rule rule' h => ?_) hrules)
    exact h.any_value fun v => v = rating
  rw [creditRatingEntry, creditRatingEntry, Option.any_bind, Option.any_bind]
  exact any_getStringValue hval _ _ hentry

/-- Whether a rule rejects under some spelling does not depend on the spelling. -/
theorem mayReject_congr (rule : String) :
    e.mayReject config rule = e'.mayReject config' rule := by
  unfold mayReject
  split
  · have hval : Option.Rel HomeRecased _ _ := hdata.get dataField_refl "own_home"
    refine optionRel_any (fun v v' h => ?_) hval
    rw [h.normalize]
    exact homeRule_recased hconfig _
  · have hval : Option.Rel Recased (e.getValue "roof_shade") (e'.getValue "roof_shade") :=
      hdata.get dataField_refl "roof_shade"
    refine any_getStringValue hval
      (fun s => (shades config).any fun p => decide (toLowercase p.1 = s) && saysReject p.2)
      (fun s => (shades config').any fun p => decide (toLowercase p.1 = s) && saysReject p.2)
      fun s => ?_
    refine forall₂_any (fun p p' h => ?_) (shades_recased hconfig)
    rw [h.1, h.2.action]
  · exact creditRatingEntry_recased hconfig hdata
  · exact listed_recased hconfig hdata rfl rfl
  · exact listed_recased hconfig hdata rfl rfl
  · rfl

/-- Whether a rule rejects under every spelling does not depend on the spelling. -/
theorem mustReject_congr (rule : String) :
    e.mustReject config rule = e'.mustReject config' rule := by
  unfold mustReject
  split
  · have hval : Option.Rel HomeRecased _ _ := hdata.get dataField_refl "own_home"
    refine optionRel_any (fun v v' h => ?_) hval
    rw [h.homeAnswer]
    cases hv : homeAnswer v' with
    | some b => rfl
    | none =>
      rw [h.ownHomeStr (h.homeAnswer.trans hv)]
      exact congrArg _ (homeRule_recased hconfig _)
  · rfl
  · exact mayReject_congr hconfig hdata rule

end Congr

/-! ### The rules that may and the rules that must reject -/

/-- On ASCII texts `to_lowercase` lower-cases each letter. -/
def LowercasesAscii : Prop :=
  ∀ s : String, (∀ c ∈ s.toList, c.toNat < 128) →
    toLowercase s = String.ofList (s.toList.map Char.toLower)

section Law

variable (law : LowercasesAscii)

include law

theorem toLowercase_ascii {s : String} (h : s.toList.all (fun c => c.toNat < 128) = true) :
    toLowercase s = String.ofList (s.toList.map Char.toLower) :=
  law s fun c hc => of_decide_eq_true (List.all_eq_true.mp h c hc)

theorem toLowercase_reject : toLowercase "reject" = "reject" := by
  rw [toLowercase_ascii law (by decide)]
  decide

theorem toLowercase_REJECT : toLowercase "REJECT" = "reject" := by
  rw [toLowercase_ascii law (by decide)]
  decide

theorem toLowercase_accept : toLowercase "accept" = "accept" := by
  rw [toLowercase_ascii law (by decide)]
  decide

theorem toLowercase_true : toLowercase "true" = "true" := by
  rw [toLowercase_ascii law (by decide)]
  decide

theorem toLowercase_false : toLowercase "false" = "false" := by
  rw [toLowercase_ascii law (by decide)]
  decide

theorem toLowercase_empty : toLowercase "" = "" := by
  rw [toLowercase_ascii law (by decide)]
  decide

end Law

omit [StdText] in
theorem normalizeRuleValue_idem (s : String) :
    normalizeRuleValue (normalizeRuleValue s) = normalizeRuleValue s := by
  by_cases hyes : s = "yes" ∨ s = "true"
  · rw [show normalizeRuleValue s = "yes" from if_pos hyes]
    rfl
  · by_cases hno : s = "no" ∨ s = "false"
    · rw [show normalizeRuleValue s = "no" from (if_neg hyes).trans (if_pos hno)]
      rfl
    · rw [show normalizeRuleValue s = s from (if_neg hyes).trans (if_neg hno)]
      exact (if_neg hyes).trans (if_neg hno)

/-- A value that an `own_home` rule is found for is one that rule values are normalised to. -/
theorem normalize_of_homeRule {config : Json} {home : String}
    (h : (homeRule config home).isSome = true) : normalizeRuleValue home = home := by
  obtain ⟨rule, hrule⟩ := Option.isSome_iff_exists.mp h
  have hmatch := List.find?_some hrule
  obtain ⟨s, -, hs⟩ := (Option.any_eq_true _ _).mp hmatch
  rw [← of_decide_eq_true hs, normalizeRuleValue_idem]

/-- A value that is neither yes nor no is compared as it is. -/
theorem normalize_of_homeAnswer_none (law : LowercasesAscii) {v : Json}
    (h : homeAnswer v = none) : normalizeRuleValue (ownHomeStr v) = ownHomeStr v := by
  have hother : normalizeRuleValue (toLowercase "") = toLowercase "" := by
    rw [toLowercase_empty law]
    rfl
  cases v with
  | bool b => cases h
  | str s =>
    rw [homeAnswer] at h
    split at h
    · cases h
    · next hyes =>
      split at h
      · cases h
      · next hno => exact (if_neg hyes).trans (if_neg hno)
  | null => exact hother
  | num q => exact hother
  | arr l => exact hother
  | obj m => exact hother

/-- The rules that do not look at the spelling. -/
theorem mayReject_eq_rejects {e : QualificationEngine} {config : Json} {rule : String}
    (hhome : rule ≠ "own_home") (hshade : rule ≠ "roof_shade") :
    e.mayReject config rule = e.rejects config rule := by
  unfold mayReject
  split
  · exact absurd rfl hhome
  · exact absurd rfl hshade
  · exact (rejects_creditRating e config).symm
  · exact (rejects_propertyType e config).symm
  · exact (rejects_roofType e config).symm
  · next hcredit hproperty hroof =>
    -- the other rules accept every lead
    rw [rejects]
    unfold evaluateRule
    split
    · rw [evaluateZipBlacklist]; split <;> rfl
    · rw [evaluateZipWhitelist]; split <;> rfl
    · exact absurd rfl hhome
    · exact absurd rfl hshade
    · exact absurd rfl hcredit
    · rfl
    · rfl
    · exact absurd rfl hproperty
    · exact absurd rfl hroof
    · rfl
    · rfl

theorem mustReject_eq_rejects {e : QualificationEngine} {config : Json} {rule : String}
    (hhome : rule ≠ "own_home") (hshade : rule ≠ "roof_shade") :
    e.mustReject config rule = e.rejects config rule := by
  unfold mustReject
  split
  · exact absurd rfl hhome
  · exact absurd rfl hshade
  · exact mayReject_eq_rejects hhome hshade

/-- A rule that rejects under every spelling rejects. -/
theorem rejects_of_mustReject {e : QualificationEngine} {config : Json} {rule : String}
    (h : e.mustReject config rule = true) : e.rejects config rule = true := by
  by_cases hhome : rule = "own_home"
  · subst hhome
    rw [rejects_ownHome]
    obtain ⟨v, hv, hrule⟩ := (Option.any_eq_true _ _).mp h
    exact (Option.any_eq_true _ _).mpr ⟨v, hv, (Bool.and_eq_true _ _ ▸ hrule).2⟩
  · by_cases hshade : rule = "roof_shade"
    · subst hshade
      cases h
    · rw [← mustReject_eq_rejects hhome hshade]
      exact h

/-- A rule that rejects rejects under some spelling. -/
theorem mayReject_of_rejects (law : LowercasesAscii) {e : QualificationEngine} {config : Json}
    {rule : String} (h : e.rejects config rule = true) : e.mayReject config rule = true := by
  by_cases hhome : rule = "own_home"
  · subst hhome
    rw [rejects_ownHome] at h
    obtain ⟨v, hv, hreject⟩ := (Option.any_eq_true _ _).mp h
    obtain ⟨r, hr, -⟩ := (Option.any_eq_true _ _).mp hreject
    have hnorm : normalizeRuleValue (ownHomeStr v) = ownHomeStr v :=
      normalize_of_homeRule (Option.isSome_iff_exists.mpr ⟨r, hr⟩)
    refine (Option.any_eq_true _ _).mpr ⟨v, hv, ?_⟩
    rw [hnorm]
    exact hreject
  · by_cases hshade : rule = "roof_shade"
    · subst hshade
      rw [rejects_roofShade] at h
      obtain ⟨s, hs, hreject⟩ := (Option.any_eq_true _ _).mp h
      obtain ⟨r, hr, haction⟩ := (Option.any_eq_true _ _).mp hreject
      refine (Option.any_eq_true _ _).mpr ⟨s, hs, List.any_eq_true.mpr ⟨(s, r), ?_, ?_⟩⟩
      · exact AssocList.mem_of_lookup hr
      · simp only [saysReject, of_decide_eq_true haction, toLowercase_reject law, decide_true,
          Bool.and_self]
    · rw [mayReject_eq_rejects hhome hshade]
      exact h

/-! ### Spellings that accept and spellings that reject -/

/-- An answer to `own_home` spelled true or false. -/
def spellTrueFalse (v : Json) : Json :=
  match homeAnswer v with
  | some b => .str (if b then "true" else "false")
  | none => v

/-- An answer to `own_home` spelled as a boolean. -/
def spellBool (v : Json) : Json :=
  match homeAnswer v with
  | some b => .bool b
  | none => v

/-- A rule that rejects, with its action written as given. -/
def setReject (action : String) : Json → Json :=
  Json.mapField "action" fun v =>
    if v.asStr.any fun s => toLowercase s = "reject" then .str action else v

/-- The rules of `roof_shade` with other keys, and the rejecting action written as given. -/
def respellShades (key : String → String) (action : String) : Json → Json
  | .obj m => .obj (m.map fun p => (key p.1, setReject action p.2))
  | v => v

theorem homeRecased_spellTrueFalse (law : LowercasesAscii) (v : Json) :
    HomeRecased v (spellTrueFalse v) := by
  rw [spellTrueFalse]
  cases h : homeAnswer v with
  | none => exact .recased (.same v)
  | some b =>
    refine .answer h ?_
    cases b with
    | true =>
      show homeAnswer (.str "true") = _
      rw [homeAnswer, toLowercase_true law]
      rfl
    | false =>
      show homeAnswer (.str "false") = _
      rw [homeAnswer, toLowercase_false law]
      rfl

theorem homeRecased_spellBool (v : Json) : HomeRecased v (spellBool v) := by
  rw [spellBool]
  cases h : homeAnswer v with
  | none => exact .recased (.same v)
  | some b => exact .answer h rfl

theorem ruleRecased_setReject {action : String} (h : toLowercase action = "reject") (rule : Json) :
    RuleRecased rule (setReject action rule) := by
  refine Json.ObjRel.mapField ruleField_refl (fun v => ?_) rule
  show Recased v _
  split
  · next hv =>
    obtain ⟨s, hs, hlow⟩ := (Option.any_eq_true _ _).mp hv
    cases v with
    | str s' =>
      obtain rfl : s' = s := Option.some_inj.mp hs
      exact .str ((of_decide_eq_true hlow).trans h.symm)
    | null => cases hs
    | bool b => cases hs
    | num q => cases hs
    | arr l => cases hs
    | obj m => cases hs
  · exact .same v

omit [StdText] in
/-- Renamed keys are distinct where the keys are. -/
theorem nodup_keys {key : String → String} (hinj : Function.Injective key) {f : Json → Json}
    {m : List (String × Json)} (h : (m.map Prod.fst).Nodup) :
    ((m.map fun p => (key p.1, f p.2)).map Prod.fst).Nodup := by
  have hkeys : (m.map fun p => (key p.1, f p.2)).map Prod.fst = (m.map Prod.fst).map key := by
    rw [List.map_map, List.map_map]
    rfl
  rw [hkeys]
  exact h.map hinj

theorem shadesRecased_respell {key : String → String} {action : String}
    (hkey : ∀ s, toLowercase s = toLowercase (key s)) (hinj : Function.Injective key)
    (h : toLowercase action = "reject") (v : Json) :
    ShadesRecased v (respellShades key action v) := by
  cases v with
  | obj m =>
    refine .entries ?_ fun hnd => ?_
    · rw [List.forall₂_map_right_iff]
      exact List.forall₂_same.mpr fun p _ => ⟨hkey p.1, ruleRecased_setReject h p.2⟩
    · exact nodup_keys hinj hnd
  | null => exact .same _
  | bool b => exact .same _
  | num q => exact .same _
  | str s => exact .same _
  | arr l => exact .same _

theorem shades_respell (key : String → String) (action : String) (config : Json) :
    shades (config.mapField "roof_shade_rules" (respellShades key action)) =
      (shades config).map fun p => (key p.1, setReject action p.2) := by
  rw [shades, shades, Json.get_mapField, if_pos rfl]
  cases config.get "roof_shade_rules" with
  | none => rfl
  | some v => cases v <;> rfl

/-- What the action of a rule becomes. -/
theorem ruleAction_setReject (law : LowercasesAscii) (action : String) (rule : Json) :
    ruleAction (setReject action rule) = if saysReject rule then action else ruleAction rule := by
  rw [saysReject, ruleAction, ruleAction, setReject, Json.get_mapField, if_pos rfl]
  have hdefault : ¬toLowercase "accept" = "reject" := by
    rw [toLowercase_accept law]
    decide
  rcases rule.get "action" with _ | v
  · simp [hdefault]
  · cases v with
    | str s =>
      by_cases h : toLowercase s = "reject"
      · simp [Json.asStr, h]
      · simp [Json.asStr, h]
    | null => simp [Json.asStr, hdefault]
    | bool b => simp [Json.asStr, hdefault]
    | num q => simp [Json.asStr, hdefault]
    | arr l => simp [Json.asStr, hdefault]
    | obj m => simp [Json.asStr, hdefault]

theorem homeRule_mapField_shades (f : Json → Json) (config : Json) (home : String) :
    homeRule (config.mapField "roof_shade_rules" f) home = homeRule config home := by
  rw [homeRule, homeRule, Json.get_mapField, if_neg (by decide)]

/-- The lead with its `own_home` answer respelled. -/
def respellHome (f : Json → Json) (lead : Lead) : Lead :=
  { lead with verticalData := lead.verticalData.mapField "own_home" f }

theorem dataRecased_home {f : Json → Json} (hf : ∀ v, HomeRecased v (f v)) (data : Json) :
    Json.ObjRel DataField data (data.mapField "own_home" f) := by
  have hfield : ∀ v, DataField "own_home" v (f v) := hf
  exact Json.ObjRel.mapField dataField_refl hfield data

theorem configRecased_shades {key : String → String} {action : String}
    (hkey : ∀ s, toLowercase s = toLowercase (key s)) (hinj : Function.Injective key)
    (h : toLowercase action = "reject") (config : Json) :
    Json.ObjRel ConfigField config
      (config.mapField "roof_shade_rules" (respellShades key action)) := by
  have hfield : ∀ v, ConfigField "roof_shade_rules" v (respellShades key action v) :=
    shadesRecased_respell hkey hinj h
  exact Json.ObjRel.mapField configField_refl hfield config

theorem leadRecased_respellHome {f : Json → Json} (hf : ∀ v, HomeRecased v (f v)) (lead : Lead) :
    LeadRecased lead (respellHome f lead) :=
  ⟨_, dataRecased_home hf lead.verticalData, rfl⟩

omit [StdText] in
theorem getValue_respellHome (f : Json → Json) (lead : Lead) (t : RequestType)
    (c : Option BuyerQualificationConfig) :
    getValue ⟨respellHome f lead, t, c⟩ "own_home" = (lead.verticalData.get "own_home").map f := by
  rw [getValue, respellHome, Json.get_mapField, if_pos rfl]

/-- With `own_home` spelled true or false and the action of `roof_shade` in capitals, only the
rules that must reject do. -/
theorem rejects_of_capitals (law : LowercasesAscii) {lead : Lead} {t : RequestType}
    {c c' : Option BuyerQualificationConfig} {config : Json} {rule : String}
    (h : mustReject ⟨lead, t, c⟩ config rule = false) :
    rejects ⟨respellHome spellTrueFalse lead, t, c'⟩
      (config.mapField "roof_shade_rules" (respellShades id "REJECT")) rule = false := by
  have hdata : Json.ObjRel DataField lead.verticalData
      (lead.verticalData.mapField "own_home" spellTrueFalse) :=
    dataRecased_home (homeRecased_spellTrueFalse law) _
  have hconfig : Json.ObjRel ConfigField config
      (config.mapField "roof_shade_rules" (respellShades id "REJECT")) :=
    configRecased_shades (fun _ => rfl) Function.injective_id (toLowercase_REJECT law) _
  by_cases hhome : rule = "own_home"
  · subst hhome
    rw [rejects_ownHome, getValue_respellHome, Option.any_map]
    simp only [mustReject, getValue] at h
    cases hv : lead.verticalData.get "own_home" with
    | none => rfl
    | some v =>
      rw [hv, Option.any_some] at h
      rw [Option.any_some]
      show (homeRule _ (ownHomeStr (spellTrueFalse v))).any saysReject = false
      rw [homeRule_mapField_shades, spellTrueFalse]
      cases hans : homeAnswer v with
      | none =>
        rw [hans] at h
        exact h
      | some b =>
        -- no rule value is normalised to true or false
        have hnone : homeRule config (if b then "true" else "false") = none := by
          rw [← Option.not_isSome_iff_eq_none]
          intro hsome
          exact absurd (normalize_of_homeRule hsome) (by cases b <;> decide)
        have hstr : ownHomeStr (.str (if b then "true" else "false")) =
            if b then "true" else "false" := by
          cases b with
          | true => exact toLowercase_true law
          | false => exact toLowercase_false law
        simp only [hstr, hnone, Option.any_none]
  · by_cases hshade : rule = "roof_shade"
    · subst hshade
      rw [rejects_roofShade, shades_respell, ← Bool.not_eq_true]
      intro hreject
      obtain ⟨s, -, hlookup⟩ := (Option.any_eq_true _ _).mp hreject
      obtain ⟨r, hr, haction⟩ := (Option.any_eq_true _ _).mp hlookup
      obtain ⟨p, -, hp⟩ := List.mem_map.mp (AssocList.mem_of_lookup hr)
      obtain ⟨-, rfl⟩ := Prod.ext_iff.mp hp
      -- an action that reads reject has been written in capitals
      have hread := of_decide_eq_true haction
      rw [ruleAction_setReject law, saysReject] at hread
      split at hread
      · exact absurd hread (by decide)
      · next hsays =>
        rw [hread, toLowercase_reject law] at hsays
        exact hsays (by decide)
    · rw [← mustReject_eq_rejects hhome hshade, ← h]
      exact (mustReject_congr hconfig hdata rule).symm

/-- A rule that may reject rejects under some spelling. -/
theorem exists_rejects (law : LowercasesAscii) {lead : Lead} {t : RequestType}
    {c : BuyerQualificationConfig} (hkeys : ((shades c.config).map Prod.fst).Nodup) {rule : String}
    (h : mayReject ⟨lead, t, some c⟩ c.config rule = true) :
    ∃ lead' config', LeadRecased lead lead' ∧ Json.ObjRel ConfigField c.config config' ∧
      ∀ c', rejects ⟨lead', t, c'⟩ config' rule = true := by
  by_cases hhome : rule = "own_home"
  · subst hhome
    refine ⟨respellHome spellBool lead, c.config,
      leadRecased_respellHome homeRecased_spellBool lead, .same _, fun c' => ?_⟩
    obtain ⟨v, hv, hrule⟩ := (Option.any_eq_true _ _).mp h
    have hv' : lead.verticalData.get "own_home" = some v := hv
    rw [rejects_ownHome, getValue_respellHome, hv', Option.map_some, Option.any_some, spellBool]
    cases hans : homeAnswer v with
    | none =>
      rw [normalize_of_homeAnswer_none law hans] at hrule
      exact hrule
    | some b =>
      rw [normalize_of_homeAnswer hans] at hrule
      exact hrule
  · by_cases hshade : rule = "roof_shade"
    · subst hshade
      obtain ⟨s, hs, hentry⟩ := (Option.any_eq_true _ _).mp h
      obtain ⟨⟨k, r⟩, hmem, hp⟩ := List.any_eq_true.mp hentry
      obtain ⟨hk, hsays⟩ := (Bool.and_eq_true _ _).mp hp
      have hlow : toLowercase k = toLowercase s := of_decide_eq_true hk
      -- the key of the entry is written as the lead writes its roof shade
      have hswap : ∀ x, toLowercase x = toLowercase (Equiv.swap k s x) :=
        fun x => (Equiv.apply_swap_eq_self hlow x).symm
      refine ⟨lead, c.config.mapField "roof_shade_rules"
        (respellShades (Equiv.swap k s) "reject"), leadRecased_refl lead,
        configRecased_shades hswap (Equiv.swap k s).injective (toLowercase_reject law) _,
        fun c' => ?_⟩
      rw [rejects_roofShade]
      refine (Option.any_eq_true _ _).mpr ⟨s, hs, ?_⟩
      refine (Option.any_eq_true _ _).mpr ⟨setReject "reject" r, ?_, ?_⟩
      · rw [shades_respell]
        refine AssocList.lookup_of_mem ?_ (List.mem_map.mpr ⟨(k, r), hmem, ?_⟩)
        · exact nodup_keys (Equiv.swap k s).injective hkeys
        · rw [Equiv.swap_apply_left]
      · rw [ruleAction_setReject law, if_pos hsays, decide_eq_true rfl]
    · refine ⟨lead, c.config, leadRecased_refl lead, .same _, fun c' => ?_⟩
      rw [mayReject_eq_rejects hhome hshade] at h
      exact h

theorem evaluate_of_mustReject {lead : Lead} {t : RequestType} {c : BuyerQualificationConfig}
    (hen : c.enabled = true) (hact : c.isActive = true)
    (h : ∃ rule ∈ filterRulesByRequestType ⟨lead, t, some c⟩ c.rulesOrder,
      mustReject ⟨lead, t, some c⟩ c.config rule = true) :
    (evaluate ⟨lead, t, some c⟩).accepted = false := by
  obtain ⟨rule, hmem, hmust⟩ := h
  rw [← Bool.not_eq_true, evaluate_accepted_iff]
  intro hall
  have hacc := hall hen hact rule hmem
  rw [rejects_of_mustReject hmust] at hacc
  cases hacc

theorem evaluate_of_not_mayReject (law : LowercasesAscii) {lead : Lead} {t : RequestType}
    {c : BuyerQualificationConfig}
    (h : ∀ rule ∈ filterRulesByRequestType ⟨lead, t, some c⟩ c.rulesOrder,
      mayReject ⟨lead, t, some c⟩ c.config rule = false) :
    (evaluate ⟨lead, t, some c⟩).accepted = true := by
  rw [evaluate_accepted_iff]
  intro _ _ rule hmem
  rw [← Bool.not_eq_true]
  intro hreject
  have hmay := mayReject_of_rejects law hreject
  rw [h rule hmem] at hmay
  cases hmay

/-- A lead is accepted or rejected independently of the spelling exactly where the config is
off, a filtered rule rejects under every spelling, or none does under any.  The keys of
`roof_shade_rules` are distinct, as in every JSON map. -/
theorem spelling_independent_iff (law : LowercasesAscii) (lead : Lead) (t : RequestType)
    (config : Option BuyerQualificationConfig)
    (hkeys : ∀ c, config = some c → ((shades c.config).map Prod.fst).Nodup) :
    SpellingIndependent lead t config ↔
      ∀ c, config = some c → c.enabled = true → c.isActive = true →
        (∃ rule ∈ filterRulesByRequestType ⟨lead, t, config⟩ c.rulesOrder,
          mustReject ⟨lead, t, config⟩ c.config rule = true) ∨
        (∀ rule ∈ filterRulesByRequestType ⟨lead, t, config⟩ c.rulesOrder,
          mayReject ⟨lead, t, config⟩ c.config rule = false) := by
  constructor
  · rintro hind c rfl hen hact
    by_contra hcon
    rw [not_or, not_exists, not_forall] at hcon
    obtain ⟨hmust, rule, hrule⟩ := hcon
    obtain ⟨hmem, hmay⟩ := Classical.not_imp.mp hrule
    obtain ⟨lead', config', hlead', hconfig', hreject⟩ :=
      exists_rejects law (hkeys c rfl) (Bool.not_eq_false _ ▸ hmay)
    have hrejected := hind lead' (some { c with config := config' }) hlead'
      (Option.Rel.some ⟨config', hconfig', rfl⟩)
    have haccepted := hind (respellHome spellTrueFalse lead)
      (some { c with config := c.config.mapField "roof_shade_rules" (respellShades id "REJECT") })
      (leadRecased_respellHome (homeRecased_spellTrueFalse law) lead)
      (Option.Rel.some ⟨_, configRecased_shades (fun _ => rfl) Function.injective_id
        (toLowercase_REJECT law) _, rfl⟩)
    -- the first spelling is rejected and the second accepted
    have hacc := haccepted.symm.trans ((evaluate_accepted_iff _ _ _).mpr fun _ _ r hr =>
      rejects_of_capitals law (Bool.eq_false_iff.mpr fun h => hmust r ⟨hr, h⟩))
    rw [hacc, evaluate_accepted_iff] at hrejected
    have hfalse := hrejected hen hact rule hmem
    rw [hreject] at hfalse
    cases hfalse
  · rintro hcond lead' config' ⟨data, hdata, rfl⟩ hconfig
    cases hconfig with
    | none => rfl
    | @some c c' hc =>
      obtain ⟨cfg, hcfg, rfl⟩ := hc
      by_cases hon : c.enabled = true ∧ c.isActive = true
      · rcases hcond c rfl hon.1 hon.2 with ⟨rule, hmem, hmust⟩ | hnone
        · rw [evaluate_of_mustReject hon.1 hon.2 ⟨rule, hmem, hmust⟩]
          refine evaluate_of_mustReject hon.1 hon.2 ⟨rule, hmem, ?_⟩
          exact (mustReject_congr hcfg hdata rule).symm.trans hmust
        · rw [evaluate_of_not_mayReject law hnone]
          refine evaluate_of_not_mayReject law fun rule hmem => ?_
          exact (mayReject_congr hcfg hdata rule).symm.trans (hnone rule hmem)
      · rw [(evaluate_accepted_iff lead t c).mpr fun hen hact => absurd ⟨hen, hact⟩ hon]
        exact (evaluate_accepted_iff _ t _).mpr fun hen hact => absurd ⟨hen, hact⟩ hon

end Spelling

/-! ### A lead that is rejected in one spelling -/

open Sample

theorem lowercasesAscii_asciiText : LowercasesAscii := fun _ _ => rfl

/-- The lead does not own its home: as `false` it is rejected, as `"false"` it is not. -/
theorem own_home_spelling_matters :
    ¬ SpellingIndependent fairCredit .ping (some homeOwnersOnly) := by
  intro h
  have hspelled := h (respellHome spellTrueFalse fairCredit) (some homeOwnersOnly)
    (leadRecased_respellHome (homeRecased_spellTrueFalse lowercasesAscii_asciiText) fairCredit)
    (configRecased_refl _)
  exact absurd hspelled (by decide)

/-- No spelling of the sample lead is rejected for its credit rating. -/
theorem spelling_independent_fair : SpellingIndependent fairCredit .ping (some fairAtDiscount) := by
  refine (spelling_independent_iff lowercasesAscii_asciiText fairCredit .ping
    (some fairAtDiscount) ?_).mpr ?_
  · rintro c hc
    obtain rfl := Option.some_inj.mp hc
    decide
  · rintro c hc - -
    obtain rfl := Option.some_inj.mp hc
    exact Or.inr (by decide)

end QualificationEngine

end LeadsNebula
