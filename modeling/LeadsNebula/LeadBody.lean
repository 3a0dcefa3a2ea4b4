/-
The body of a lead request, nested or flat (`routes/leads.rs`).

A lead is read from an object with all its fields, or from one that groups them; the
second form is taken when all five groups are there.

* `FlatEncoding`, `NestedEncoding` — what it is for an object to be a lead, in the one
  form or the other; optional fields may be absent or null;
* `flatEncoding_flatFields`, `nestedEncoding_nestedFields` — every lead that JSON can
  hold has encodings of both forms, with any of the missing fields null;
* `deserialize_encodings` — both forms are read as the lead.
-/
import LeadsNebula.AssocList
import LeadsNebula.Models

namespace LeadsNebula

/-! ### Reading a struct -/

/-- The fields of a struct: an object, or an array of all of them in order. -/
def structFields (names : List String) : Json → Option (List (String × Json))
  | .obj m => some m
  | .arr l => if l.length = names.length then some (names.zip l) else none
  | _ => none

/-- A field of type `Option`: it may be absent or null. -/
def optionField {α : Type} (decode : Json → Option α) (m : List (String × Json)) (name : String) :
    Option (Option α) :=
  match m.lookup name with
  | none | some .null => some none
  | some v => (decode v).map some

def textField (m : List (String × Json)) (name : String) : Option (Option String) :=
  optionField Json.asStr m name

def numberField (m : List (String × Json)) (name : String) : Option (Option F64) :=
  optionField Json.asF64 m name

def flagField (m : List (String × Json)) (name : String) : Option (Option Bool) :=
  optionField Json.asBool m name

/-! ### The flat form -/

def leadDataFields : List String :=
  ["publisher_id", "vertical", "request_type", "campaign_token", "promise_id", "lead_id",
    "source", "first_name", "last_name", "email", "cell_phone", "street_address", "city", "state",
    "zip", "monthly_bill", "credit_rating", "own_home", "property_type", "roof_shade",
    "roof_type", "utility_provider", "purchase_timeframe", "ip_address", "tcpa_consent",
    "tcpa_language", "jornaya_lead_id", "trusted_form_url", "is_test", "verbose", "user_agent"]

def LeadData.deserialize (v : Json) : Option LeadData := do
  let m ← structFields leadDataFields v
  let publisherId ← textField m "publisher_id"
  let vertical ← (m.lookup "vertical").bind Json.asStr
  let requestType ← textField m "request_type"
  let campaignToken ← textField m "campaign_token"
  let promiseId ← textField m "promise_id"
  let leadId ← textField m "lead_id"
  let source ← textField m "source"
  let firstName ← textField m "first_name"
  let lastName ← textField m "last_name"
  let email ← textField m "email"
  let cellPhone ← textField m "cell_phone"
  let streetAddress ← textField m "street_address"
  let city ← textField m "city"
  let state ← textField m "state"
  let zip ← textField m "zip"
  let monthlyBill ← numberField m "monthly_bill"
  let creditRating ← textField m "credit_rating"
  let ownHome ← flagField m "own_home"
  let propertyType ← textField m "property_type"
  let roofShade ← textField m "roof_shade"
  let roofType ← textField m "roof_type"
  let utilityProvider ← textField m "utility_provider"
  let purchaseTimeframe ← textField m "purchase_timeframe"
  let ipAddress ← textField m "ip_address"
  let tcpaConsent ← flagField m "tcpa_consent"
  let tcpaLanguage ← textField m "tcpa_language"
  let jornayaLeadId ← textField m "jornaya_lead_id"
  let trustedFormUrl ← textField m "trusted_form_url"
  let isTest ← flagField m "is_test"
  let verbose ← flagField m "verbose"
  let userAgent ← textField m "user_agent"
  pure ⟨publisherId, vertical, requestType, campaignToken, promiseId, leadId, source, firstName,
    lastName, email, cellPhone, streetAddress, city, state, zip, monthlyBill, creditRating, ownHome,
    propertyType, roofShade, roofType, utilityProvider, purchaseTimeframe, ipAddress, tcpaConsent,
    tcpaLanguage, jornayaLeadId, trustedFormUrl, isTest, verbose, userAgent⟩

/-! ### The nested form -/

structure NestedRequestProperties where
  vertical : Option String
  isTest : Option Bool
  requestType : Option String

def NestedRequestProperties.deserialize (v : Json) : Option NestedRequestProperties := do
  let m ← structFields
    ["vertical", "is_test", "request_type"] v
  let vertical ← textField m "vertical"
  let isTest ← flagField m "is_test"
  let requestType ← textField m "request_type"
  pure ⟨vertical, isTest, requestType⟩

structure NestedPublisherData where
  publisherId : Option String
  campaignToken : Option String
  leadId : Option String
  promiseId : Option String
  source : Option String

def NestedPublisherData.deserialize (v : Json) : Option NestedPublisherData := do
  let m ← structFields
    ["publisher_id", "campaign_token", "lead_id", "promise_id", "source"] v
  let publisherId ← textField m "publisher_id"
  let campaignToken ← textField m "campaign_token"
  let leadId ← textField m "lead_id"
  let promiseId ← textField m "promise_id"
  let source ← textField m "source"
  pure ⟨publisherId, campaignToken, leadId, promiseId, source⟩

structure NestedConsumerData where
  firstName : Option String
  lastName : Option String
  email : Option String
  cellPhone : Option String
  streetAddress : Option String
  city : Option String
  state : Option String
  zip : Option String
  creditRating : Option String
  ipAddress : Option String
  userAgent : Option String

def NestedConsumerData.deserialize (v : Json) : Option NestedConsumerData := do
  let m ← structFields
    ["first_name", "last_name", "email", "cell_phone", "street_address", "city", "state", "zip",
      "credit_rating", "ip_address", "user_agent"] v
  let firstName ← textField m "first_name"
  let lastName ← textField m "last_name"
  let email ← textField m "email"
  let cellPhone ← textField m "cell_phone"
  let streetAddress ← textField m "street_address"
  let city ← textField m "city"
  let state ← textField m "state"
  let zip ← textField m "zip"
  let creditRating ← textField m "credit_rating"
  let ipAddress ← textField m "ip_address"
  let userAgent ← textField m "user_agent"
  pure ⟨firstName, lastName, email, cellPhone, streetAddress, city, state, zip, creditRating,
    ipAddress, userAgent⟩

structure NestedPropertyData where
  monthlyBill : Option F64
  ownHome : Option Bool
  propertyType : Option String
  purchaseTimeframe : Option String
  roofShade : Option String
  roofType : Option String
  utilityProvider : Option String

def NestedPropertyData.deserialize (v : Json) : Option NestedPropertyData := do
  let m ← structFields
    ["monthly_bill", "own_home", "property_type", "purchase_timeframe", "roof_shade", "roof_type",
      "utility_provider"] v
  let monthlyBill ← numberField m "monthly_bill"
  let ownHome ← flagField m "own_home"
  let propertyType ← textField m "property_type"
  let purchaseTimeframe ← textField m "purchase_timeframe"
  let roofShade ← textField m "roof_shade"
  let roofType ← textField m "roof_type"
  let utilityProvider ← textField m "utility_provider"
  pure ⟨monthlyBill, ownHome, propertyType, purchaseTimeframe, roofShade, roofType,
    utilityProvider⟩

structure NestedCompliance where
  tcpaConsent : Option Bool
  tcpaLanguage : Option String
  jornayaLeadId : Option String
  trustedFormUrl : Option String

def NestedCompliance.deserialize (v : Json) : Option NestedCompliance := do
  let m ← structFields
    ["tcpa_consent", "tcpa_language", "jornaya_lead_id", "trusted_form_url"] v
  let tcpaConsent ← flagField m "tcpa_consent"
  let tcpaLanguage ← textField m "tcpa_language"
  let jornayaLeadId ← textField m "jornaya_lead_id"
  let trustedFormUrl ← textField m "trusted_form_url"
  pure ⟨tcpaConsent, tcpaLanguage, jornayaLeadId, trustedFormUrl⟩

structure LeadNested where
  requestProperties : Option NestedRequestProperties
  publisherData : Option NestedPublisherData
  consumerData : Option NestedConsumerData
  propertyData : Option NestedPropertyData
  compliance : Option NestedCompliance

def nestedGroups : List String :=
  ["request_properties", "publisher_data", "consumer_data", "property_data", "compliance"]

def LeadNested.deserialize (v : Json) : Option LeadNested := do
  let m ← structFields nestedGroups v
  let requestProperties ← optionField NestedRequestProperties.deserialize m "request_properties"
  let publisherData ← optionField NestedPublisherData.deserialize m "publisher_data"
  let consumerData ← optionField NestedConsumerData.deserialize m "consumer_data"
  let propertyData ← optionField NestedPropertyData.deserialize m "property_data"
  let compliance ← optionField NestedCompliance.deserialize m "compliance"
  pure ⟨requestProperties, publisherData, consumerData, propertyData, compliance⟩

/-- `From<LeadNested>`. -/
def LeadNested.toLeadData (n : LeadNested) : LeadData :=
  let r := n.requestProperties
  let p := n.publisherData
  let c := n.consumerData
  let prop := n.propertyData
  -- each part may be missing, and its fields with it
  let comp := n.compliance
  { publisherId := p.bind (·.publisherId)
    vertical := (r.bind (·.vertical)).getD ""
    requestType := r.bind (·.requestType)
    campaignToken := p.bind (·.campaignToken)
    promiseId := p.bind (·.promiseId)
    leadId := p.bind (·.leadId)
    source := p.bind (·.source)
    firstName := c.bind (·.firstName)
    lastName := c.bind (·.lastName)
    email := c.bind (·.email)
    cellPhone := c.bind (·.cellPhone)
    streetAddress := c.bind (·.streetAddress)
    city := c.bind (·.city)
    state := c.bind (·.state)
    zip := c.bind (·.zip)
    monthlyBill := prop.bind (·.monthlyBill)
    creditRating := c.bind (·.creditRating)
    ownHome := prop.bind (·.ownHome)
    propertyType := prop.bind (·.propertyType)
    roofShade := prop.bind (·.roofShade)
    roofType := prop.bind (·.roofType)
    utilityProvider := prop.bind (·.utilityProvider)
    purchaseTimeframe := prop.bind (·.purchaseTimeframe)
    ipAddress := c.bind (·.ipAddress)
    tcpaConsent := comp.bind (·.tcpaConsent)
    tcpaLanguage := comp.bind (·.tcpaLanguage)
    jornayaLeadId := comp.bind (·.jornayaLeadId)
    trustedFormUrl := comp.bind (·.trustedFormUrl)
    isTest := r.bind (·.isTest)
    -- the nested form has no such field
    verbose := none
    userAgent := c.bind (·.userAgent) }

/-- `deserialize_lead_body`; an error is `none`. -/
def deserializeLeadBody (value : Json) : Option LeadData :=
  if (value.get "request_properties").isSome && (value.get "publisher_data").isSome &&
      (value.get "consumer_data").isSome && (value.get "property_data").isSome &&
      (value.get "compliance").isSome then
    (LeadNested.deserialize value).map LeadNested.toLeadData
  else LeadData.deserialize value

/-! ### Encodings -/

/-- An optional field is there with its value, or absent or null. -/
def FieldIs {α : Type} (encode : α → Json) (m : List (String × Json)) (name : String) :
    Option α → Prop
  | some a => m.lookup name = some (encode a)
  | none => m.lookup name = none ∨ m.lookup name = some .null

def TextField : List (String × Json) → String → Option String → Prop := FieldIs .str

def FlagField : List (String × Json) → String → Option Bool → Prop := FieldIs .bool

/-- JSON has numbers that are finite. -/
def NumberField (m : List (String × Json)) (name : String) (x : Option F64) : Prop :=
  ∃ q, x = q.map F64.fin ∧ FieldIs .num m name q

/-- The object has the fields of the lead, each under its own name. -/
structure FlatEncoding (d : LeadData) (m : List (String × Json)) : Prop where
  publisherId : TextField m "publisher_id" d.publisherId
  vertical : TextField m "vertical" (some d.vertical)
  requestType : TextField m "request_type" d.requestType
  campaignToken : TextField m "campaign_token" d.campaignToken
  promiseId : TextField m "promise_id" d.promiseId
  leadId : TextField m "lead_id" d.leadId
  source : TextField m "source" d.source
  firstName : TextField m "first_name" d.firstName
  lastName : TextField m "last_name" d.lastName
  email : TextField m "email" d.email
  cellPhone : TextField m "cell_phone" d.cellPhone
  streetAddress : TextField m "street_address" d.streetAddress
  city : TextField m "city" d.city
  state : TextField m "state" d.state
  zip : TextField m "zip" d.zip
  monthlyBill : NumberField m "monthly_bill" d.monthlyBill
  creditRating : TextField m "credit_rating" d.creditRating
  ownHome : FlagField m "own_home" d.ownHome
  propertyType : TextField m "property_type" d.propertyType
  roofShade : TextField m "roof_shade" d.roofShade
  roofType : TextField m "roof_type" d.roofType
  utilityProvider : TextField m "utility_provider" d.utilityProvider
  purchaseTimeframe : TextField m "purchase_timeframe" d.purchaseTimeframe
  ipAddress : TextField m "ip_address" d.ipAddress
  tcpaConsent : FlagField m "tcpa_consent" d.tcpaConsent
  tcpaLanguage : TextField m "tcpa_language" d.tcpaLanguage
  jornayaLeadId : TextField m "jornaya_lead_id" d.jornayaLeadId
  trustedFormUrl : TextField m "trusted_form_url" d.trustedFormUrl
  isTest : FlagField m "is_test" d.isTest
  verbose : FlagField m "verbose" d.verbose
  userAgent : TextField m "user_agent" d.userAgent
  noGroups : ∃ group ∈ nestedGroups, m.lookup group = none

structure RequestPropertiesEncoding (d : LeadData) (m : List (String × Json)) : Prop where
  vertical : TextField m "vertical" (some d.vertical)
  isTest : FlagField m "is_test" d.isTest
  requestType : TextField m "request_type" d.requestType

structure PublisherDataEncoding (d : LeadData) (m : List (String × Json)) : Prop where
  publisherId : TextField m "publisher_id" d.publisherId
  campaignToken : TextField m "campaign_token" d.campaignToken
  leadId : TextField m "lead_id" d.leadId
  promiseId : TextField m "promise_id" d.promiseId
  source : TextField m "source" d.source

structure ConsumerDataEncoding (d : LeadData) (m : List (String × Json)) : Prop where
  firstName : TextField m "first_name" d.firstName
  lastName : TextField m "last_name" d.lastName
  email : TextField m "email" d.email
  cellPhone : TextField m "cell_phone" d.cellPhone
  streetAddress : TextField m "street_address" d.streetAddress
  city : TextField m "city" d.city
  state : TextField m "state" d.state
  zip : TextField m "zip" d.zip
  creditRating : TextField m "credit_rating" d.creditRating
  ipAddress : TextField m "ip_address" d.ipAddress
  userAgent : TextField m "user_agent" d.userAgent

structure PropertyDataEncoding (d : LeadData) (m : List (String × Json)) : Prop where
  monthlyBill : NumberField m "monthly_bill" d.monthlyBill
  ownHome : FlagField m "own_home" d.ownHome
  propertyType : TextField m "property_type" d.propertyType
  purchaseTimeframe : TextField m "purchase_timeframe" d.purchaseTimeframe
  roofShade : TextField m "roof_shade" d.roofShade
  roofType : TextField m "roof_type" d.roofType
  utilityProvider : TextField m "utility_provider" d.utilityProvider

structure ComplianceEncoding (d : LeadData) (m : List (String × Json)) : Prop where
  tcpaConsent : FlagField m "tcpa_consent" d.tcpaConsent
  tcpaLanguage : TextField m "tcpa_language" d.tcpaLanguage
  jornayaLeadId : TextField m "jornaya_lead_id" d.jornayaLeadId
  trustedFormUrl : TextField m "trusted_form_url" d.trustedFormUrl

structure NestedEncoding (d : LeadData) (m : List (String × Json)) : Prop where
  requestProperties : ∃ g, m.lookup "request_properties" = some (.obj g) ∧
    RequestPropertiesEncoding d g
  publisherData : ∃ g, m.lookup "publisher_data" = some (.obj g) ∧ PublisherDataEncoding d g
  consumerData : ∃ g, m.lookup "consumer_data" = some (.obj g) ∧ ConsumerDataEncoding d g
  propertyData : ∃ g, m.lookup "property_data" = some (.obj g) ∧ PropertyDataEncoding d g
  compliance : ∃ g, m.lookup "compliance" = some (.obj g) ∧ ComplianceEncoding d g

/-! ### Reading an encoding -/

section

variable {m : List (String × Json)} {name : String}

theorem FieldIs.read {α : Type} {encode : α → Json} {decode : Json → Option α} {x : Option α}
    (h : FieldIs encode m name x) (hdecode : ∀ a, decode (encode a) = some a)
    (hnull : ∀ a, encode a ≠ .null) : optionField decode m name = some x := by
  cases x with
  | none =>
    obtain h | h := h
    · rw [optionField, h]
    · rw [optionField, h]
  | some a =>
    rw [FieldIs] at h
    rw [optionField, h]
    cases hv : encode a with
    | null => exact absurd hv (hnull a)
    | _ =>
      have hread := hdecode a
      rw [hv] at hread
      exact congrArg (Option.map some) hread

theorem TextField.read {x : Option String} (h : TextField m name x) :
    textField m name = some x := by
  have h : FieldIs Json.str m name x := h
  exact h.read (fun _ => rfl) fun _ => Json.noConfusion

theorem FlagField.read {x : Option Bool} (h : FlagField m name x) : flagField m name = some x := by
  have h : FieldIs Json.bool m name x := h
  exact h.read (fun _ => rfl) fun _ => Json.noConfusion

theorem NumberField.read {x : Option F64} (h : NumberField m name x) :
    numberField m name = some x := by
  obtain ⟨q, rfl, h⟩ := h
  cases q with
  | none =>
    obtain h | h := h
    · rw [numberField, optionField, h, Option.map_none]
    · rw [numberField, optionField, h, Option.map_none]
  | some q =>
    rw [numberField, optionField, (h : m.lookup name = some (.num q))]
    rfl

variable {d : LeadData}

/-- One field more has been read. -/
theorem bind_read {α β : Type} {x : Option α} {a : α} {f : α → Option β} (h : x = some a) :
    (x >>= f) = f a := by
  rw [h]
  rfl

theorem LeadData.deserialize_of_encoding (h : FlatEncoding d m) :
    LeadData.deserialize (.obj m) = some d := by
  have hvertical : (m.lookup "vertical").bind Json.asStr = some d.vertical := by
    rw [(h.vertical : m.lookup "vertical" = _)]
    rfl
  -- field by field, in the order of the struct
  show (structFields leadDataFields (.obj m) >>= _) = _
  refine (bind_read rfl).trans ?_
  refine (bind_read h.publisherId.read).trans ?_
  refine (bind_read hvertical).trans ?_
  refine (bind_read h.requestType.read).trans ?_
  refine (bind_read h.campaignToken.read).trans ?_
  refine (bind_read h.promiseId.read).trans ?_
  refine (bind_read h.leadId.read).trans ?_
  refine (bind_read h.source.read).trans ?_
  refine (bind_read h.firstName.read).trans ?_
  refine (bind_read h.lastName.read).trans ?_
  refine (bind_read h.email.read).trans ?_
  refine (bind_read h.cellPhone.read).trans ?_
  refine (bind_read h.streetAddress.read).trans ?_
  refine (bind_read h.city.read).trans ?_
  refine (bind_read h.state.read).trans ?_
  refine (bind_read h.zip.read).trans ?_
  refine (bind_read h.monthlyBill.read).trans ?_
  refine (bind_read h.creditRating.read).trans ?_
  refine (bind_read h.ownHome.read).trans ?_
  refine (bind_read h.propertyType.read).trans ?_
  refine (bind_read h.roofShade.read).trans ?_
  refine (bind_read h.roofType.read).trans ?_
  refine (bind_read h.utilityProvider.read).trans ?_
  refine (bind_read h.purchaseTimeframe.read).trans ?_
  refine (bind_read h.ipAddress.read).trans ?_
  refine (bind_read h.tcpaConsent.read).trans ?_
  refine (bind_read h.tcpaLanguage.read).trans ?_
  refine (bind_read h.jornayaLeadId.read).trans ?_
  refine (bind_read h.trustedFormUrl.read).trans ?_
  refine (bind_read h.isTest.read).trans ?_
  refine (bind_read h.verbose.read).trans ?_
  refine (bind_read h.userAgent.read).trans ?_
  rfl

theorem RequestPropertiesEncoding.read (h : RequestPropertiesEncoding d m) :
    NestedRequestProperties.deserialize (.obj m) =
      some ⟨some d.vertical, d.isTest, d.requestType⟩ := by
  simp only [NestedRequestProperties.deserialize, structFields,
    Option.bind_eq_bind, Option.bind_some,
    h.vertical.read, h.isTest.read, h.requestType.read]
  rfl

theorem PublisherDataEncoding.read (h : PublisherDataEncoding d m) :
    NestedPublisherData.deserialize (.obj m) =
      some ⟨d.publisherId, d.campaignToken, d.leadId, d.promiseId, d.source⟩ := by
  simp only [NestedPublisherData.deserialize, structFields, Option.bind_eq_bind, Option.bind_some,
    h.publisherId.read, h.campaignToken.read, h.leadId.read, h.promiseId.read, h.source.read]
  rfl

theorem ConsumerDataEncoding.read (h : ConsumerDataEncoding d m) :
    NestedConsumerData.deserialize (.obj m) =
      some ⟨d.firstName, d.lastName, d.email, d.cellPhone, d.streetAddress, d.city, d.state, d.zip,
        d.creditRating, d.ipAddress, d.userAgent⟩ := by
  show (structFields _ (.obj m) >>= _) = _
  refine (bind_read rfl).trans ?_
  refine (bind_read h.firstName.read).trans ?_
  refine (bind_read h.lastName.read).trans ?_
  refine (bind_read h.email.read).trans ?_
  refine (bind_read h.cellPhone.read).trans ?_
  refine (bind_read h.streetAddress.read).trans ?_
  refine (bind_read h.city.read).trans ?_
  refine (bind_read h.state.read).trans ?_
  refine (bind_read h.zip.read).trans ?_
  refine (bind_read h.creditRating.read).trans ?_
  refine (bind_read h.ipAddress.read).trans ?_
  refine (bind_read h.userAgent.read).trans ?_
  rfl

theorem PropertyDataEncoding.read (h : PropertyDataEncoding d m) :
    NestedPropertyData.deserialize (.obj m) =
      some ⟨d.monthlyBill, d.ownHome, d.propertyType, d.purchaseTimeframe, d.roofShade, d.roofType,
        d.utilityProvider⟩ := by
  show (structFields _ (.obj m) >>= _) = _
  refine (bind_read rfl).trans ?_
  refine (bind_read h.monthlyBill.read).trans ?_
  refine (bind_read h.ownHome.read).trans ?_
  refine (bind_read h.propertyType.read).trans ?_
  refine (bind_read h.purchaseTimeframe.read).trans ?_
  refine (bind_read h.roofShade.read).trans ?_
  refine (bind_read h.roofType.read).trans ?_
  refine (bind_read h.utilityProvider.read).trans ?_
  rfl

theorem ComplianceEncoding.read (h : ComplianceEncoding d m) :
    NestedCompliance.deserialize (.obj m) =
      some ⟨d.tcpaConsent, d.tcpaLanguage, d.jornayaLeadId, d.trustedFormUrl⟩ := by
  simp only [NestedCompliance.deserialize, structFields, Option.bind_eq_bind, Option.bind_some,
    h.tcpaConsent.read, h.tcpaLanguage.read, h.jornayaLeadId.read, h.trustedFormUrl.read]
  rfl

/-- A group that is an object is read as its struct. -/
theorem optionField_group {α : Type} {decode : Json → Option α} {g : List (String × Json)} {a : α}
    (hg : m.lookup name = some (.obj g)) (ha : decode (.obj g) = some a) :
    optionField decode m name = some (some a) := by
  rw [optionField, hg]
  exact congrArg (Option.map some) ha

/-- The groups are copied to the fields that they were taken from. -/
theorem LeadNested.deserialize_of_encoding (h : NestedEncoding d m) (hverbose : d.verbose = none) :
    (LeadNested.deserialize (.obj m)).map LeadNested.toLeadData = some d := by
  obtain ⟨r, hr, hrequest⟩ := h.requestProperties
  obtain ⟨p, hp, hpublisher⟩ := h.publisherData
  obtain ⟨c, hc, hconsumer⟩ := h.consumerData
  obtain ⟨prop, hprop, hproperty⟩ := h.propertyData
  obtain ⟨comp, hcomp, hcompliance⟩ := h.compliance
  simp only [LeadNested.deserialize, structFields, Option.bind_eq_bind, Option.bind_some,
    optionField_group hr hrequest.read, optionField_group hp hpublisher.read,
    optionField_group hc hconsumer.read, optionField_group hprop hproperty.read,
    optionField_group hcomp hcompliance.read]
  obtain ⟨⟩ := d
  obtain rfl := hverbose
  rfl

end

/-! ### Writing an encoding -/

/-- A field without a value is null or absent. -/
def writtenValue (nulls : String → Bool) (name : String) (v : Option Json) : Option Json :=
  if v.isNone && nulls name then some .null else v

def writeFields (nulls : String → Bool) (fields : List (String × Option Json)) :
    List (String × Json) :=
  fields.filterMap fun p => (writtenValue nulls p.1 p.2).map fun v => (p.1, v)

section

variable {α : Type} {nulls : String → Bool} {fields : List (String × Option Json)} {name : String}

theorem fieldIs_writeFields {encode : α → Json} {x : Option α} (hkeys : (fields.map Prod.fst).Nodup)
    (h : fields.lookup name = some (x.map encode)) :
    FieldIs encode (writeFields nulls fields) name x := by
  have hlookup : (writeFields nulls fields).lookup name = writtenValue nulls
    name (x.map encode) := by
    have hfield := AssocList.lookup_filterMap_field (writtenValue nulls) hkeys name
    rw [h, Option.bind_some] at hfield
    exact hfield
  cases x with
  | none =>
    show (writeFields nulls fields).lookup name = none ∨ (writeFields nulls fields).lookup name = _
    rw [hlookup, writtenValue]
    cases nulls name with
    | false => exact Or.inl rfl
    | true => exact Or.inr rfl
  | some a => exact hlookup

theorem numberField_writeFields {x : Option F64} (hfinite : ∀ b ∈ x, ∃ q, b = .fin q)
    (hkeys : (fields.map Prod.fst).Nodup) (h : fields.lookup name = some (x.map .ofF64)) :
    NumberField (writeFields nulls fields) name x := by
  cases x with
  | none => exact ⟨none, rfl, fieldIs_writeFields hkeys h⟩
  | some b =>
    obtain ⟨q, rfl⟩ := hfinite b rfl
    exact ⟨some q, rfl, fieldIs_writeFields hkeys h⟩

end

namespace LeadData

variable (d : LeadData)

def flatFields : List (String × Option Json) :=
  [("publisher_id", d.publisherId.map .str), ("vertical", some (.str d.vertical)),
    ("request_type", d.requestType.map .str), ("campaign_token", d.campaignToken.map .str),
    ("promise_id", d.promiseId.map .str), ("lead_id", d.leadId.map .str),
    ("source", d.source.map .str), ("first_name", d.firstName.map .str),
    ("last_name", d.lastName.map .str), ("email", d.email.map .str),
    ("cell_phone", d.cellPhone.map .str), ("street_address", d.streetAddress.map .str),
    ("city", d.city.map .str), ("state", d.state.map .str), ("zip", d.zip.map .str),
    ("monthly_bill", d.monthlyBill.map .ofF64), ("credit_rating", d.creditRating.map .str),
    ("own_home", d.ownHome.map .bool), ("property_type", d.propertyType.map .str),
    ("roof_shade", d.roofShade.map .str), ("roof_type", d.roofType.map .str),
    ("utility_provider", d.utilityProvider.map .str),
    ("purchase_timeframe", d.purchaseTimeframe.map .str), ("ip_address", d.ipAddress.map .str),
    ("tcpa_consent", d.tcpaConsent.map .bool), ("tcpa_language", d.tcpaLanguage.map .str),
    ("jornaya_lead_id", d.jornayaLeadId.map .str), ("trusted_form_url", d.trustedFormUrl.map .str),
    ("is_test", d.isTest.map .bool), ("verbose", d.verbose.map .bool),
    ("user_agent", d.userAgent.map .str)]

def requestPropertiesFields : List (String × Option Json) :=
  [("vertical", some (.str d.vertical)), ("is_test", d.isTest.map .bool),
    ("request_type", d.requestType.map .str)]

def publisherDataFields : List (String × Option Json) :=
  [("publisher_id", d.publisherId.map .str), ("campaign_token", d.campaignToken.map .str),
    ("lead_id", d.leadId.map .str), ("promise_id", d.promiseId.map .str),
    ("source", d.source.map .str)]

def consumerDataFields : List (String × Option Json) :=
  [("first_name", d.firstName.map .str), ("last_name", d.lastName.map .str),
    ("email", d.email.map .str), ("cell_phone", d.cellPhone.map .str),
    ("street_address", d.streetAddress.map .str), ("city", d.city.map .str),
    ("state", d.state.map .str), ("zip", d.zip.map .str),
    ("credit_rating", d.creditRating.map .str), ("ip_address", d.ipAddress.map .str),
    ("user_agent", d.userAgent.map .str)]

def propertyDataFields : List (String × Option Json) :=
  [("monthly_bill", d.monthlyBill.map .ofF64), ("own_home", d.ownHome.map .bool),
    ("property_type", d.propertyType.map .str),
    ("purchase_timeframe", d.purchaseTimeframe.map .str), ("roof_shade", d.roofShade.map .str),
    ("roof_type", d.roofType.map .str), ("utility_provider", d.utilityProvider.map .str)]

def complianceFields : List (String × Option Json) :=
  [("tcpa_consent", d.tcpaConsent.map .bool), ("tcpa_language", d.tcpaLanguage.map .str),
    ("jornaya_lead_id", d.jornayaLeadId.map .str), ("trusted_form_url", d.trustedFormUrl.map .str)]

/-- The object of the groups. -/
def nestedFields (nulls : String → Bool) : List (String × Json) :=
  [("request_properties", .obj (writeFields nulls d.requestPropertiesFields)),
    ("publisher_data", .obj (writeFields nulls d.publisherDataFields)),
    ("consumer_data", .obj (writeFields nulls d.consumerDataFields)),
    ("property_data", .obj (writeFields nulls d.propertyDataFields)),
    ("compliance", .obj (writeFields nulls d.complianceFields))]

end LeadData

section

variable {d : LeadData}

/-- The bill is a number that JSON has. -/
def LeadData.FiniteBill (d : LeadData) : Prop := ∀ b ∈ d.monthlyBill, ∃ q, b = .fin q

theorem flatEncoding_flatFields (hbill : d.FiniteBill) (nulls : String → Bool) :
    FlatEncoding d (writeFields nulls d.flatFields) := by
  have hkeys : (d.flatFields.map Prod.fst).Nodup := by
    show leadDataFields.Nodup
    decide
  constructor
  case monthlyBill => exact numberField_writeFields hbill hkeys rfl
  case noGroups =>
    refine ⟨"compliance", by decide, AssocList.lookup_eq_none_of_notMem fun hmem => ?_⟩
    have hfield : "compliance" ∈ leadDataFields :=
      (AssocList.map_fst_filterMap_sublist (writtenValue nulls)).subset hmem
    exact absurd hfield (by decide)
  all_goals exact fieldIs_writeFields hkeys rfl

theorem propertyDataEncoding_writeFields (hbill : d.FiniteBill) (nulls : String → Bool) :
    PropertyDataEncoding d (writeFields nulls d.propertyDataFields) := by
  have hkeys : (d.propertyDataFields.map Prod.fst).Nodup := by
    show ["monthly_bill", "own_home", "property_type", "purchase_timeframe", "roof_shade",
      "roof_type",
      "utility_provider"].Nodup
    decide
  constructor
  case monthlyBill => exact numberField_writeFields hbill hkeys rfl
  all_goals exact fieldIs_writeFields hkeys rfl

theorem nestedEncoding_nestedFields (hbill : d.FiniteBill) (nulls : String → Bool) :
    NestedEncoding d (d.nestedFields nulls) where
  requestProperties := by
    refine ⟨_, rfl, ?_⟩
    have hkeys : (d.requestPropertiesFields.map Prod.fst).Nodup := by
      show ["vertical", "is_test", "request_type"].Nodup
      decide
    constructor
    all_goals exact fieldIs_writeFields hkeys rfl
  publisherData := by
    refine ⟨_, rfl, ?_⟩
    have hkeys : (d.publisherDataFields.map Prod.fst).Nodup := by
      show ["publisher_id", "campaign_token", "lead_id", "promise_id", "source"].Nodup
      decide
    constructor
    all_goals exact fieldIs_writeFields hkeys rfl
  consumerData := by
    refine ⟨_, rfl, ?_⟩
    have hkeys : (d.consumerDataFields.map Prod.fst).Nodup := by
      show ["first_name", "last_name", "email", "cell_phone", "street_address", "city", "state",
        "zip",
        "credit_rating", "ip_address", "user_agent"].Nodup
      decide
    constructor
    all_goals exact fieldIs_writeFields hkeys rfl
  propertyData := ⟨_, rfl, propertyDataEncoding_writeFields hbill nulls⟩
  compliance := by
    refine ⟨_, rfl, ?_⟩
    have hkeys : (d.complianceFields.map Prod.fst).Nodup := by
      show ["tcpa_consent", "tcpa_language", "jornaya_lead_id", "trusted_form_url"].Nodup
      decide
    constructor
    all_goals exact fieldIs_writeFields hkeys rfl

/-- An object without one of the groups is read as flat. -/
theorem deserializeLeadBody_flat {m : List (String × Json)}
    (h : ∃ group ∈ nestedGroups, m.lookup group = none) :
    deserializeLeadBody (.obj m) = LeadData.deserialize (.obj m) := by
  obtain ⟨group, hmem, hnone⟩ := h
  refine if_neg fun hall => ?_
  simp only [Json.get_obj, Bool.and_eq_true] at hall
  simp only [nestedGroups, List.mem_cons, List.not_mem_nil, or_false] at hmem
  obtain rfl | rfl | rfl | rfl | rfl := hmem <;> simp [hnone] at hall

theorem deserializeLeadBody_nested {m : List (String × Json)} (h : NestedEncoding d m) :
    deserializeLeadBody (.obj m) = (LeadNested.deserialize (.obj m)).map LeadNested.toLeadData := by
  obtain ⟨r, hr, -⟩ := h.requestProperties
  obtain ⟨p, hp, -⟩ := h.publisherData
  obtain ⟨c, hc, -⟩ := h.consumerData
  obtain ⟨prop, hprop, -⟩ := h.propertyData
  obtain ⟨comp, hcomp, -⟩ := h.compliance
  refine if_pos ?_
  simp only [Json.get_obj, hr, hp, hc, hprop, hcomp, Option.isSome_some, Bool.and_self]

end

/-- A lead is read from its encodings in both forms, and every lead that JSON can hold has encodings
in both forms, in which any of its missing fields are null and the others absent. -/
theorem deserialize_encodings (d : LeadData) (hverbose : d.verbose = none) :
    (∀ m, FlatEncoding d m → deserializeLeadBody (.obj m) = some d) ∧
      (∀ m, NestedEncoding d m → deserializeLeadBody (.obj m) = some d) ∧
      (d.FiniteBill → ∀ nulls, FlatEncoding d (writeFields nulls d.flatFields) ∧
        NestedEncoding d (d.nestedFields nulls)) := by
  refine ⟨fun m h => ?_, fun m h => ?_, fun hbill nulls =>
    ⟨flatEncoding_flatFields hbill nulls, nestedEncoding_nestedFields hbill nulls⟩⟩
  · rw [deserializeLeadBody_flat h.noGroups]
    exact LeadData.deserialize_of_encoding h
  · rw [deserializeLeadBody_nested h]
    exact LeadNested.deserialize_of_encoding h hverbose

namespace Sample

/-- A lead with a bill, an email and no other optional field. -/
def billedLead : LeadData where
  publisherId := none
  vertical := "solar"
  requestType := none
  campaignToken := none
  promiseId := none
  leadId := none
  source := none
  firstName := none
  lastName := none
  email := some "ada@example.com"
  cellPhone := none
  streetAddress := none
  city := none
  state := none
  zip := none
  monthlyBill := some (.fin 150)
  creditRating := none
  ownHome := none
  propertyType := none
  roofShade := none
  roofType := none
  utilityProvider := none
  purchaseTimeframe := none
  ipAddress := none
  tcpaConsent := some true
  tcpaLanguage := none
  jornayaLeadId := none
  trustedFormUrl := none
  isTest := none
  verbose := none
  userAgent := none

/-- Its cities are null, and the other missing fields absent. -/
theorem deserialize_billedLead :
    deserializeLeadBody (.obj (writeFields (· = "city") billedLead.flatFields)) = some billedLead ∧
      deserializeLeadBody (.obj (billedLead.nestedFields (· = "city"))) = some billedLead := by
  obtain ⟨hflat, hnested, hwritten⟩ := deserialize_encodings billedLead rfl
  have hbill : billedLead.FiniteBill := by
    rintro b hb
    obtain rfl := Option.some.inj hb
    exact ⟨150, rfl⟩
  obtain ⟨h, h'⟩ := hwritten hbill (· = "city")
  exact ⟨hflat _ h, hnested _ h'⟩

end Sample

end LeadsNebula
