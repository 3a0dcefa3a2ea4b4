/-
The ping that an external buyer gets (`build_ping_payload` of `buyer_router.rs`).

`create_lead` checks that a ping carries the fields that a buyer needs, and builds a
lead from it to be routed.  The router builds the payload for the buyer from that
lead: some fields it takes from columns, the others from `vertical_data`.  The lead
that `create_lead` builds has neither.

* `buildPingPayload_field` — what the payload holds for each field;
* `external_ping_fields` — of the fields that a ping has to carry, the payload holds
  `tcpa_consent` and `tcpa_language` and no other.
-/
import LeadsNebula.System

namespace LeadsNebula

/-- A lead with the columns that only the payload builders read. -/
structure RoutedLead extends Lead where
  firstNameEncrypted : Option String
  lastNameEncrypted : Option String
  emailEncrypted : Option String
  cellPhoneEncrypted : Option String
  streetAddressEncrypted : Option String
  cityEncrypted : Option String
  stateEncrypted : Option String
  zipEncrypted : Option String
  ipAddressEncrypted : Option String
  jornayaLeadId : Option String
  trustedFormUrl : Option String

/-- A campaign with the columns that only the payload builders read. -/
structure PayloadCampaign extends Campaign where
  vertical : String
  campaignToken : String

namespace BuyerRouter

/-- The fields of a ping payload, in the order they are set; a field without a value is left
out. -/
def pingFields (lead : RoutedLead) (campaign : PayloadCampaign) (verticalSlug : String) :
    List (String × Option Json) :=
  let getField := lead.verticalData.get
  [("publisher_id", lead.publisherId.map fun id => .str id.toString),
    ("vertical", some (.str verticalSlug)), ("request_type", some (.str "ping")),
    ("campaign_token", some (.str campaign.campaignToken)),
    ("lead_id", lead.leadId.map .str), ("source", lead.websiteUrl.map .str),
    ("zip", lead.zipEncrypted.map .str), ("ip_address", lead.ipAddressEncrypted.map .str),
    ("monthly_bill", getField "monthly_bill"), ("own_home", getField "own_home"),
    ("tcpa_consent", some (.bool lead.tcpaConsent)),
    ("tcpa_language", some (.str lead.tcpaLanguage)),
    ("purchase_timeframe", getField "purchase_timeframe"),
    ("credit_rating", getField "credit_rating"), ("property_type", getField "property_type"),
    ("roof_shade", getField "roof_shade"), ("roof_type", getField "roof_type"),
    ("utility_provider", getField "utility_provider"),
    ("jornaya_lead_id", lead.jornayaLeadId.map .str),
    ("trusted_form_url", lead.trustedFormUrl.map .str), ("user_agent", lead.userAgent.map .str)]

def buildPingPayload (lead : RoutedLead) (campaign : PayloadCampaign) (verticalSlug : String) :
    Json :=
  .obj [("lead", .obj (Json.insertAll (pingFields lead campaign verticalSlug) []))]

/-- A field of the lead that a payload describes. -/
def leadField (payload : Json) (k : String) : Option Json :=
  (payload.get "lead").bind fun lead => lead.get k

/-- No field is set twice. -/
theorem pingFields_nodup (lead : RoutedLead) (campaign : PayloadCampaign)
    (verticalSlug : String) :
    ((pingFields lead campaign verticalSlug).map Prod.fst).Nodup := by
  show (["publisher_id", "vertical", "request_type", "campaign_token", "lead_id", "source", "zip",
    "ip_address", "monthly_bill", "own_home", "tcpa_consent", "tcpa_language",
    "purchase_timeframe", "credit_rating", "property_type", "roof_shade", "roof_type",
    "utility_provider", "jornaya_lead_id", "trusted_form_url", "user_agent"] : List String).Nodup
  decide

theorem buildPingPayload_field {lead : RoutedLead} {campaign : PayloadCampaign}
    {verticalSlug k : String} {v : Option Json}
      (h : (k, v) ∈ pingFields lead campaign verticalSlug) :
    leadField (buildPingPayload lead campaign verticalSlug) k = v := by
  have hlookup := Json.lookup_insertAll (pingFields_nodup lead campaign verticalSlug) h []
  rw [List.lookup_nil, Option.or_none] at hlookup
  exact hlookup

end BuyerRouter

namespace LeadRequest

variable [StdText]

/-- The lead that `create_lead` routes. -/
def routedLead (req : LeadRequest) (new : NewLead) (now : Timestamp) : RoutedLead where
  toLead := req.newLead new now
  firstNameEncrypted := none
  lastNameEncrypted := none
  emailEncrypted := none
  cellPhoneEncrypted := none
  streetAddressEncrypted := none
  cityEncrypted := none
  stateEncrypted := none
  zipEncrypted := none
  ipAddressEncrypted := none
  jornayaLeadId := none
  trustedFormUrl := none

end LeadRequest

/-! ### What arrives -/

/-- The fields that a ping has to carry for the buyer. -/
def requiredPingFields : List String :=
  ["zip", "ip_address", "monthly_bill", "own_home", "roof_shade", "credit_rating",
    "tcpa_consent", "tcpa_language", "trusted_form_url"]

example (d : LeadData) :
    (requiredFields d .ping).map Prod.fst =
      "publisher_id" :: "request_type" :: requiredPingFields := rfl

/-- The payload holds a field as it was submitted. -/
def Carries (payload : Json) (d : LeadData) (k : String) : Prop :=
  BuyerRouter.leadField payload k = d.toJson.get k

/-- The fields of an accepted ping that are required are there. -/
theorem isSome_of_accepted {d : LeadData} {requestType : RequestType}
    (h : missingRequiredLeadField d requestType = none) {f : String × Bool}
    (hf : f ∈ requiredFields d requestType) : f.2 = true := by
  rw [missingRequiredLeadField, Option.map_eq_none_iff] at h
  simpa using List.find?_eq_none.mp h f hf

theorem get_toJson_isSome (d : LeadData) {k : String} (hk : k ∈ requiredPingFields) :
    (d.toJson.get k).isSome = true := by
  simp only [requiredPingFields, List.mem_cons, List.not_mem_nil, or_false] at hk
  rcases hk with rfl | rfl | rfl | rfl | rfl | rfl | rfl | rfl | rfl <;> rfl

section Carried

variable [StdText] {req : LeadRequest} {new : NewLead} {now : Timestamp}
  {campaign : PayloadCampaign}

/-- The payload that the buyer of a campaign gets for a request. -/
abbrev sentPing (req : LeadRequest) (new : NewLead) (now : Timestamp)
    (campaign : PayloadCampaign) : Json :=
  BuyerRouter.buildPingPayload (req.routedLead new now) campaign campaign.vertical

theorem carries_iff {k : String} {v : Option Json}
    (h : (k, v) ∈ BuyerRouter.pingFields (req.routedLead new now) campaign campaign.vertical) :
    Carries (sentPing req new now campaign) req.data k ↔ v = req.data.toJson.get k := by
  rw [Carries, BuyerRouter.buildPingPayload_field h]

/-- The columns of the lead are empty, and so is its `vertical_data`. -/
theorem pingFields_none {k : String} (hk : k ∈ requiredPingFields)
    (hconsent : k ≠ "tcpa_consent") (hlanguage : k ≠ "tcpa_language") :
    (k, none) ∈ BuyerRouter.pingFields (req.routedLead new now) campaign campaign.vertical := by
  simp only [requiredPingFields, List.mem_cons, List.not_mem_nil, or_false] at hk
  -- only the consent and its text are columns that `create_lead` fills
  rcases hk with rfl | rfl | rfl | rfl | rfl | rfl | rfl | rfl | rfl
  case inr.inr.inr.inr.inr.inr.inl => exact absurd rfl hconsent
  case inr.inr.inr.inr.inr.inr.inr.inl => exact absurd rfl hlanguage
  all_goals simp [BuyerRouter.pingFields, LeadRequest.routedLead, LeadRequest.newLead]

theorem carries_tcpaConsent (h : req.data.tcpaConsent.isSome = true) :
    Carries (sentPing req new now campaign) req.data "tcpa_consent" := by
  obtain ⟨b, hb⟩ := Option.isSome_iff_exists.mp h
  have hmem : ("tcpa_consent", some (Json.bool b)) ∈
      BuyerRouter.pingFields (req.routedLead new now) campaign campaign.vertical := by
    simp [BuyerRouter.pingFields, LeadRequest.routedLead, LeadRequest.newLead, hb]
  rw [carries_iff hmem]
  show some (Json.bool b) = some (.ofOption .bool req.data.tcpaConsent)
  rw [hb]
  rfl

theorem carries_tcpaLanguage (h : req.data.tcpaLanguage.isSome = true) :
    Carries (sentPing req new now campaign) req.data "tcpa_language" := by
  obtain ⟨s, hs⟩ := Option.isSome_iff_exists.mp h
  have hmem : ("tcpa_language", some (Json.str s)) ∈
      BuyerRouter.pingFields (req.routedLead new now) campaign campaign.vertical := by
    simp [BuyerRouter.pingFields, LeadRequest.routedLead, LeadRequest.newLead, hs]
  rw [carries_iff hmem]
  show some (Json.str s) = some (.ofOption .str req.data.tcpaLanguage)
  rw [hs]
  rfl

/-- Of the fields that an accepted ping has to carry, the payload for a buyer holds the consent
and its text as they were submitted, and no other. -/
theorem external_ping_fields (hping : req.requestType = .ping)
    (hvalid : missingRequiredLeadField req.data req.requestType = none) :
    (∀ k ∈ requiredPingFields, Carries (sentPing req new now campaign) req.data k ↔
      k = "tcpa_consent" ∨ k = "tcpa_language") ∧
    ¬ ∀ k ∈ requiredPingFields, Carries (sentPing req new now campaign) req.data k := by
  rw [hping] at hvalid
  have hconsent : req.data.tcpaConsent.isSome = true :=
    isSome_of_accepted hvalid (f := ("tcpa_consent", _)) (by simp [requiredFields]; rfl)
  have hlanguage : req.data.tcpaLanguage.isSome = true :=
    isSome_of_accepted hvalid (f := ("tcpa_language", _)) (by simp [requiredFields]; rfl)
  have hiff : ∀ k ∈ requiredPingFields, Carries (sentPing req new now campaign) req.data k ↔
      k = "tcpa_consent" ∨ k = "tcpa_language" := by
    intro k hk
    constructor
    · intro hcarries
      by_contra hother
      rw [not_or] at hother
      -- the payload does not have the field, the request does
      have hsome := get_toJson_isSome req.data hk
      rw [← (carries_iff (pingFields_none hk hother.1 hother.2)).mp hcarries] at hsome
      cases hsome
    · rintro (rfl | rfl)
      · exact carries_tcpaConsent hconsent
      · exact carries_tcpaLanguage hlanguage
  refine ⟨hiff, ?_⟩
  intro hall
  have hzip : "zip" ∈ requiredPingFields := by decide
  exact absurd ((hiff "zip" hzip).mp (hall "zip" hzip)) (by decide)

end Carried

namespace Sample

def buyerCampaign : PayloadCampaign := ⟨campaign, "solar", "token-1"⟩

/-- The zip of an accepted ping does not reach the buyer. -/
theorem external_ping_without_zip :
    (ping false).requestType = .ping ∧
      missingRequiredLeadField (ping false).data (ping false).requestType = none ∧
      (ping false).data.zip = some "62701" ∧
      BuyerRouter.leadField (sentPing (ping false) new 0 buyerCampaign) "zip" = none ∧
      ¬ Carries (sentPing (ping false) new 0 buyerCampaign) (ping false).data "zip" := by
  have hnone : BuyerRouter.leadField (sentPing (ping false) new 0 buyerCampaign) "zip" = none :=
    BuyerRouter.buildPingPayload_field (pingFields_none (by decide) (by decide) (by decide))
  refine ⟨by decide, by decide, rfl, hnone, ?_⟩
  intro hcarries
  rw [Carries, hnone] at hcarries
  cases hcarries

theorem external_ping_fields_sample :
    (∀ k ∈ requiredPingFields, Carries (sentPing (ping false) new 0 buyerCampaign)
        (ping false).data k ↔ k = "tcpa_consent" ∨ k = "tcpa_language") ∧
      ¬ ∀ k ∈ requiredPingFields,
        Carries (sentPing (ping false) new 0 buyerCampaign) (ping false).data k :=
  external_ping_fields (by decide) (by decide)

end Sample

end LeadsNebula
