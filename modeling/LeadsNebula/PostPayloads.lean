/-
The ping and the post that an external buyer gets (`build_ping_payload` and
`build_post_payload` of `buyer_router.rs`).

The post is sent after the buyer has accepted the ping.  It is built by a second
function, which sets the fields of the ping once more, in another order, and the
columns with personal data among them.

* `mem_postFields` — the fields of a post, from those of the ping;
* `post_extends_ping` — the ping does not depend on personal data, and the post is
  the ping as a post, with the promise and the personal data that the lead has.
-/
import LeadsNebula.ExternalPing
import LeadsNebula.PingPayloads

/-- The fields of an object that is built from nothing. -/
theorem Json.lookup_insertAll_nil {k : String} {v : Json} {fs : List (String × Option Json)}
    (hnd : (fs.map Prod.fst).Nodup) :
    (insertAll fs []).lookup k = some v ↔ (k, some v) ∈ fs := by
  constructor
  · intro h
    by_cases hk : k ∈ fs.map Prod.fst
    · obtain ⟨⟨k, v'⟩, hmem, rfl⟩ := List.mem_map.mp hk
      rw [lookup_insertAll hnd hmem, List.lookup_nil, Option.or_none] at h
      rwa [h] at hmem
    · rw [lookup_insertAll_of_not_mem hk, List.lookup_nil] at h
      cases h
  · intro hmem
    rw [lookup_insertAll hnd hmem, Option.some_or]

namespace LeadsNebula

/-- The lead with other personal data. -/
def RoutedLead.withPii (lead : RoutedLead) (p : Pii) : RoutedLead :=
  { lead with
    firstNameEncrypted := p.firstName
    lastNameEncrypted := p.lastName
    emailEncrypted := p.email
    cellPhoneEncrypted := p.cellPhone
    streetAddressEncrypted := p.streetAddress
    cityEncrypted := p.city
    stateEncrypted := p.state }

namespace BuyerRouter

/-- The fields of a post payload that hold personal data. -/
def piiFields (lead : RoutedLead) : List (String × Option Json) :=
  [("first_name", lead.firstNameEncrypted.map .str),
    ("last_name", lead.lastNameEncrypted.map .str), ("email", lead.emailEncrypted.map .str),
    ("mobile_phone", lead.cellPhoneEncrypted.map .str),
    ("street_address", lead.streetAddressEncrypted.map .str),
    ("city", lead.cityEncrypted.map .str), ("state", lead.stateEncrypted.map .str)]

/-- The fields of a post payload, in the order they are set; a field without a value is left
out. -/
def postFields (lead : RoutedLead) (campaign : PayloadCampaign)
    (promiseId verticalSlug : String) : List (String × Option Json) :=
  let getField := lead.verticalData.get
  [("publisher_id", lead.publisherId.map fun id => .str id.toString),
    ("vertical", some (.str verticalSlug)), ("request_type", some (.str "post")),
    ("promise_id", some (.str promiseId)),
    ("campaign_token", some (.str campaign.campaignToken)),
    ("lead_id", lead.leadId.map .str), ("source", lead.websiteUrl.map .str)] ++
  piiFields lead ++
  [("zip", lead.zipEncrypted.map .str), ("ip_address", lead.ipAddressEncrypted.map .str),
    ("monthly_bill", getField "monthly_bill"), ("own_home", getField "own_home"),
    ("purchase_timeframe", getField "purchase_timeframe"),
    ("credit_rating", getField "credit_rating"), ("property_type", getField "property_type"),
    ("roof_shade", getField "roof_shade"), ("roof_type", getField "roof_type"),
    ("utility_provider", getField "utility_provider"),
    ("tcpa_consent", some (.bool lead.tcpaConsent)),
    ("tcpa_language", some (.str lead.tcpaLanguage)),
    ("jornaya_lead_id", lead.jornayaLeadId.map .str),
    ("trusted_form_url", lead.trustedFormUrl.map .str), ("user_agent", lead.userAgent.map .str)]

def buildPostPayload (lead : RoutedLead) (campaign : PayloadCampaign)
    (promiseId verticalSlug : String) : Json :=
  .obj [("lead", .obj (Json.insertAll (postFields lead campaign promiseId verticalSlug) []))]

section Fields

variable {lead : RoutedLead} {campaign : PayloadCampaign} {promiseId verticalSlug : String}

/-- No field of a post is set twice. -/
theorem postFields_nodup (lead : RoutedLead) (campaign : PayloadCampaign)
    (promiseId verticalSlug : String) :
    ((postFields lead campaign promiseId verticalSlug).map Prod.fst).Nodup := by
  show (["publisher_id", "vertical", "request_type", "promise_id", "campaign_token", "lead_id",
    "source", "first_name", "last_name", "email", "mobile_phone", "street_address", "city",
    "state", "zip", "ip_address", "monthly_bill", "own_home", "purchase_timeframe",
    "credit_rating", "property_type", "roof_shade", "roof_type", "utility_provider",
    "tcpa_consent", "tcpa_language", "jornaya_lead_id", "trusted_form_url",
    "user_agent"] : List String).Nodup
  decide

/-- The two builders set the same blocks of fields; the consent and the fields of the vertical
come in another order. -/
theorem fields_blocks (lead : RoutedLead) (campaign : PayloadCampaign)
    (promiseId verticalSlug : String) :
    ∃ head ids bill consent vertical certificates : List (String × Option Json),
      (pingFields lead campaign verticalSlug).filter (fun f => f.1 ≠ "request_type") =
        head ++ (ids ++ (bill ++ (consent ++ (vertical ++ certificates)))) ∧
      postFields lead campaign promiseId verticalSlug =
        head ++ ("request_type", some (.str "post")) :: ("promise_id", some (.str promiseId)) ::
          (ids ++ (piiFields lead ++ (bill ++ (vertical ++ (consent ++ certificates))))) :=
  ⟨[_, _], [_, _, _], [_, _, _, _], [_, _], [_, _, _, _, _, _], [_, _, _], rfl, rfl⟩

/-- The fields of a post are those of the ping but for the type of the request, with the promise
and the personal data. -/
theorem mem_postFields {f : String × Option Json} :
    f ∈ postFields lead campaign promiseId verticalSlug ↔
      (f.1 ≠ "request_type" ∧ f ∈ pingFields lead campaign verticalSlug) ∨
        f = ("request_type", some (.str "post")) ∨ f = ("promise_id", some (.str promiseId)) ∨
        f ∈ piiFields lead := by
  obtain ⟨head, ids, bill, consent, vertical, certificates, hping, hpost⟩ :=
    fields_blocks lead campaign promiseId verticalSlug
  have hfilter : f.1 ≠ "request_type" ∧ f ∈ pingFields lead campaign verticalSlug ↔
      f ∈ (pingFields lead campaign verticalSlug).filter fun f => f.1 ≠ "request_type" := by
    rw [List.mem_filter, decide_eq_true_iff, and_comm]
  rw [hfilter, hping, hpost]
  simp only [List.mem_append, List.mem_cons, or_assoc, or_left_comm, or_comm]

theorem leadField_ping {k : String} {v : Json} :
    leadField (buildPingPayload lead campaign verticalSlug) k = some v ↔
      (k, some v) ∈ pingFields lead campaign verticalSlug :=
  Json.lookup_insertAll_nil (pingFields_nodup lead campaign verticalSlug)

theorem leadField_post {k : String} {v : Json} :
    leadField (buildPostPayload lead campaign promiseId verticalSlug) k = some v ↔
      (k, some v) ∈ postFields lead campaign promiseId verticalSlug :=
  Json.lookup_insertAll_nil (postFields_nodup lead campaign promiseId verticalSlug)

/-- A ping has neither a promise nor personal data. -/
theorem leadField_ping_none {k : String}
    (hk : k ∈ "promise_id" :: (piiFields lead).map Prod.fst) :
    leadField (buildPingPayload lead campaign verticalSlug) k = none := by
  have hdisjoint : ∀ k ∈ ["promise_id", "first_name", "last_name", "email", "mobile_phone",
      "street_address", "city", "state"],
      k ∉ (["publisher_id", "vertical", "request_type", "campaign_token", "lead_id", "source",
        "zip", "ip_address", "monthly_bill", "own_home", "tcpa_consent", "tcpa_language",
        "purchase_timeframe", "credit_rating", "property_type", "roof_shade", "roof_type",
        "utility_provider", "jornaya_lead_id", "trusted_form_url", "user_agent"] :
        List String) := by
    decide
  show (Json.insertAll (pingFields lead campaign verticalSlug) []).lookup k = none
  exact Json.lookup_insertAll_of_not_mem (hdisjoint k hk) []

end Fields

/-- Two leads that differ only in personal data give the same ping.  The post of a lead holds what
its ping holds, as a post, and adds the promise and the personal data that the lead has. -/
theorem post_extends_ping (lead : RoutedLead) (campaign : PayloadCampaign)
    (promiseId verticalSlug : String) :
    (∀ p : Pii, buildPingPayload (lead.withPii p) campaign verticalSlug =
      buildPingPayload lead campaign verticalSlug) ∧
    leadField (buildPingPayload lead campaign verticalSlug) "request_type" = some (.str "ping") ∧
    (∀ k ∈ "promise_id" :: (piiFields lead).map Prod.fst,
      leadField (buildPingPayload lead campaign verticalSlug) k = none) ∧
    ∀ k v, leadField (buildPostPayload lead campaign promiseId verticalSlug) k = some v ↔
      (k ≠ "request_type" ∧
        leadField (buildPingPayload lead campaign verticalSlug) k = some v) ∨
      (k = "request_type" ∧ v = .str "post") ∨ (k = "promise_id" ∧ v = .str promiseId) ∨
      (k, some v) ∈ piiFields lead := by
  refine ⟨fun p => rfl, ?_, fun k hk => leadField_ping_none hk, ?_⟩
  · exact leadField_ping.mpr (List.mem_cons_of_mem _ (List.mem_cons_of_mem _ List.mem_cons_self))
  · intro k v
    rw [leadField_post, leadField_ping, mem_postFields, Prod.mk.injEq, Prod.mk.injEq,
      Option.some_inj, Option.some_inj]

end BuyerRouter

end LeadsNebula
