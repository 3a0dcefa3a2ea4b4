/-
The stored payload of a ping (`batch_create_leads`).

With the row of a new lead goes a record in `ping_payloads`.  For the strategy
`ping_post` its payload is built from a list of fields that are not personal data;
for any other strategy the request is stored as it came.  `create_lead` spells the
strategy of a ping `pingPost`.

* `batchCreateLeads_eq` — the creations of a batch, each with its own request, are
  those of `Db.createLeads`;
* `pingOnlyPayload_withPii` — for the strategy `ping_post` the payload does not
  depend on the personal data;
* `ping_payloads_agree_iff` — the payloads stored for two pings that differ only in
  personal data are the same exactly when the pings are.
-/
import LeadsNebula.Resubmission
import LeadsNebula.System

/-! ### Fields -/

namespace Json

theorem ofOption_str_inj {a b : Option String} (h : ofOption str a = ofOption str b) : a = b := by
  cases a with
  | none =>
    cases b with
    | none => rfl
    | some y => cases h
  | some x =>
    cases b with
    | none => cases h
    | some y => rw [str.inj h]

/-- Copies fields of a value to an object. -/
def copyFields (fields : List String) (source : Json) (m : List (String × Json)) :
    List (String × Json) :=
  insertAll (fields.map fun k => (k, source.get k)) m

/-- Only the fields that are copied matter. -/
theorem copyFields_congr {fields : List String} {source source' : Json}
    (h : ∀ k ∈ fields, source.get k = source'.get k) (m : List (String × Json)) :
    copyFields fields source m = copyFields fields source' m := by
  have hmap : (fields.map fun k => (k, source.get k)) = fields.map fun k => (k, source'.get k) := by
    refine List.map_congr_left ?_
    intro k hk
    rw [h k hk]
  rw [copyFields, copyFields, hmap]

end Json

namespace LeadsNebula

/-! ### Personal data -/

/-- The personal data of a request body. -/
structure Pii where
  firstName : Option String
  lastName : Option String
  email : Option String
  cellPhone : Option String
  streetAddress : Option String
  city : Option String
  state : Option String
  deriving DecidableEq

namespace LeadData

def pii (d : LeadData) : Pii :=
  ⟨d.firstName, d.lastName, d.email, d.cellPhone, d.streetAddress, d.city, d.state⟩

/-- The body with other personal data. -/
def withPii (d : LeadData) (p : Pii) : LeadData :=
  { d with
    firstName := p.firstName
    lastName := p.lastName
    email := p.email
    cellPhone := p.cellPhone
    streetAddress := p.streetAddress
    city := p.city
    state := p.state }

@[simp] theorem withPii_pii (d : LeadData) : d.withPii d.pii = d := rfl

/-- The names of the personal data. -/
def piiFields : List String :=
  ["first_name", "last_name", "email", "cell_phone", "street_address", "city", "state"]

end LeadData

/-- Two bodies that differ only in personal data have the same other fields. -/
theorem LeadData.get_withPii (d : LeadData) (p : Pii) {k : String} (hk : k ∉ piiFields) :
    (d.withPii p).toJson.get k = d.toJson.get k := by
  simp only [piiFields, List.mem_cons, List.not_mem_nil, or_false, not_or] at hk
  obtain ⟨h₁, h₂, h₃, h₄, h₅, h₆, h₇⟩ := hk
  simp only [withPii, toJson, Json.get_obj, Json.lookup_cons_ite, h₁, h₂, h₃, h₄, h₅, h₆, h₇,
    if_false]

/-- The JSON form of a body holds its personal data. -/
theorem LeadData.pii_of_toJson {d d' : LeadData} (h : d.toJson = d'.toJson) : d.pii = d'.pii := by
  -- each field of the object is read back from the form
  have hfield : ∀ k, d.toJson.get k = d'.toJson.get k := fun k => by rw [h]
  have hfirst := Json.ofOption_str_inj (Option.some_inj.mp (hfield "first_name"))
  have hlast := Json.ofOption_str_inj (Option.some_inj.mp (hfield "last_name"))
  have hemail := Json.ofOption_str_inj (Option.some_inj.mp (hfield "email"))
  have hphone := Json.ofOption_str_inj (Option.some_inj.mp (hfield "cell_phone"))
  have hstreet := Json.ofOption_str_inj (Option.some_inj.mp (hfield "street_address"))
  have hcity := Json.ofOption_str_inj (Option.some_inj.mp (hfield "city"))
  have hstate := Json.ofOption_str_inj (Option.some_inj.mp (hfield "state"))
  rw [pii, pii, hfirst, hlast, hemail, hphone, hstreet, hcity, hstate]

/-! ### The payload of a creation -/

/-- The creation of a lead, with the request that it is stored with. -/
structure LeadCreationTask where
  creation : LeadCreation
  requestPayload : Json

namespace LeadCreationTask

/-- The fields that are copied from the request. -/
def requestFields : List String :=
  ["lead_id", "campaign_token", "zip", "ip_address", "monthly_bill", "own_home", "tcpa_consent",
    "tcpa_language", "purchase_timeframe", "credit_rating", "property_type", "roof_shade",
    "roof_type", "utility_provider", "jornaya_lead_id", "trusted_form_url"]

/-- The fields that are copied from `vertical_data`. -/
def verticalFields : List String :=
  ["monthly_bill", "own_home", "purchase_timeframe", "credit_rating", "property_type",
    "roof_shade", "roof_type", "utility_provider"]

def pingOnlyPayload (t : LeadCreationTask) : Json :=
  if t.creation.strategy = "ping_post" then
    let verticalSlug := ((t.requestPayload.get "vertical").bind Json.asStr).getD "solar"
    let pingObj : List (String × Json) :=
      [("publisher_id", .str t.creation.publisherId.toString), ("vertical", .str verticalSlug),
        ("request_type", .str "ping")]
    .obj [("lead", .obj (Json.copyFields verticalFields t.creation.verticalData
      (Json.copyFields requestFields t.requestPayload pingObj)))]
  else t.requestPayload

/-- The fields that are copied are not personal data, so that the payload of the strategy
`ping_post` does not depend on it. -/
theorem pingOnlyPayload_withPii {c : LeadCreation} (hc : c.strategy = "ping_post") (d : LeadData)
    (p : Pii) :
    pingOnlyPayload ⟨c, (d.withPii p).toJson⟩ = pingOnlyPayload ⟨c, d.toJson⟩ := by
  have hfields : ∀ k ∈ requestFields, k ∉ LeadData.piiFields := by decide
  have hvertical : "vertical" ∉ LeadData.piiFields := by decide
  have hcopy := Json.copyFields_congr fun k hk => d.get_withPii p (hfields k hk)
  simp only [pingOnlyPayload, if_pos hc, d.get_withPii p hvertical, hcopy]

end LeadCreationTask

/-! ### `batch_create_leads` -/

namespace Db

/-- One creation of a batch.  The time stamp of the ping is missing if its transaction fails. -/
def createTask (now : Timestamp) (acc : Db × UuidMap) (t : LeadCreationTask × Option String) :
    Db × UuidMap :=
  createLead ⟨now, fun _ => t.2.map fun stamp => (stamp, t.1.pingOnlyPayload)⟩ acc t.1.creation

/-- The creations of a batch, each with its request. -/
def batchCreateLeads (now : Timestamp) (ts : List (LeadCreationTask × Option String))
    (acc : Db × UuidMap) : Db × UuidMap :=
  ts.foldl (createTask now) acc

/-- A batch stores the payload of each creation. -/
theorem batchCreateLeads_eq {env : FlushEnv} {ts : List (LeadCreationTask × Option String)}
    (h : ∀ t ∈ ts, env.ping t.1.creation = t.2.map fun stamp => (stamp, t.1.pingOnlyPayload))
    (acc : Db × UuidMap) :
    batchCreateLeads env.now ts acc = createLeads env (ts.map fun t => t.1.creation) acc := by
  induction ts generalizing acc with
  | nil => rfl
  | cons t ts ih =>
    have hstep : createTask env.now acc t = createLead env acc t.1.creation := by
      rw [createTask, createLead, createLead, h t List.mem_cons_self]
    rw [batchCreateLeads, List.foldl_cons, hstep]
    exact ih (fun t' ht' => h t' (List.mem_cons_of_mem t ht')) _

/-- The payloads of the records that one creation adds to `ping_payloads`. -/
def storedPayloads (now : Timestamp) (acc : Db × UuidMap)
    (t : LeadCreationTask × Option String) : List Json :=
  ((createTask now acc t).1.pingPayloads.drop acc.1.pingPayloads.length).map PingPayload.payload

/-- The lead whose uuid the insertion returns is there. -/
theorem hasLead_of_returningUuid {db : Db} {now : Timestamp} {c : LeadCreation} {l : Uuid}
    (h : db.returningUuid now c = some l) :
    (db.exec now (.insertLead c)).hasLead l = true := by
  rw [returningUuid] at h
  split at h
  · next r hr =>
    -- the row with the `lead_id` stays there
    obtain rfl := Option.some_inj.mp h
    have hmem := List.mem_of_find?_eq_some hr
    exact LeadStatement.exec_isSome (by rw [Table.find_eq_some_iff.mpr ⟨hmem, rfl⟩]; rfl) now _
  · next hsel =>
    split at h
    · cases h
    · -- no row conflicts, so that the row is inserted
      obtain rfl := Option.some_inj.mp h
      have hany : ¬ db.leads.rows.any ((LeadStatement.insertLead c).matchesRow now) = true := by
        rw [List.any_eq_true]
        rintro ⟨r, hr, hm⟩
        exact List.find?_eq_none.mp hsel r hr hm
      show (((LeadStatement.insertLead c).exec now db.leads).find c.uuid).isSome = true
      rw [LeadStatement.exec, if_neg hany, Table.find_insert]
      have hkey : (c.row now).uuid = c.uuid := rfl
      rw [if_pos hkey, Option.isSome_or, Option.isSome_some, Bool.or_true]

/-- A creation that succeeds stores one record, with the payload made for it. -/
theorem storedPayloads_eq (now : Timestamp) (acc : Db × UuidMap)
    (t : LeadCreationTask × Option String) :
    storedPayloads now acc t =
      if (acc.1.returningUuid now t.1.creation).isSome ∧ t.2.isSome then [t.1.pingOnlyPayload]
      else [] := by
  rw [storedPayloads, createTask, createLead]
  cases hret : acc.1.returningUuid now t.1.creation with
  | none => simp
  | some l =>
    have hlead := hasLead_of_returningUuid hret
    cases t.2 with
    | none => simp [Db.exec]
    | some stamp =>
      simp only [Option.map_some, insertPingPayload, hlead, Option.isSome_none, Bool.false_eq_true,
        false_and, not_false_eq_true, and_self, dif_pos, Option.isSome_some, if_true]
      simp [Db.exec]

end Db

/-! ### Two pings -/

namespace LeadRequest

/-- The request with other personal data. -/
def withPii (req : LeadRequest) (p : Pii) : LeadRequest :=
  { req with data := req.data.withPii p }

variable [StdText]

/-- The creation that `create_lead` enqueues. -/
def creationTask (req : LeadRequest) (new : NewLead) : LeadCreationTask :=
  ⟨req.leadCreation new, req.data.toJson⟩

/-- No strategy of `create_lead` is the one that is redacted. -/
theorem strategy_ne (req : LeadRequest) : req.strategy ≠ "ping_post" := by
  rw [strategy.eq_def]
  split <;> decide

theorem pingOnlyPayload_creationTask (req : LeadRequest) (new : NewLead) :
    (req.creationTask new).pingOnlyPayload = req.data.toJson :=
  if_neg req.strategy_ne

/-- What is stored for a request is its body. -/
theorem stored_eq_toJson {req : LeadRequest} {now : Timestamp} {acc : Db × UuidMap}
    {new : NewLead} {stamp : Option String} {x : Json}
    (h : x ∈ Db.storedPayloads now acc (req.creationTask new, stamp)) : x = req.data.toJson := by
  rw [Db.storedPayloads_eq, pingOnlyPayload_creationTask] at h
  split at h
  · exact List.mem_singleton.mp h
  · cases h

/-- The payloads stored for two pings that differ only in personal data are the same exactly when
the pings have the same personal data. -/
theorem ping_payloads_agree_iff {req : LeadRequest} (p : Pii) {now now' : Timestamp}
    {acc acc' : Db × UuidMap} {new new' : NewLead}
    {stamp stamp' : Option String} {x x' : Json}
    (hx : x ∈ Db.storedPayloads now acc (req.creationTask new, stamp))
    (hx' : x' ∈ Db.storedPayloads now' acc' ((req.withPii p).creationTask new', stamp')) :
    x = x' ↔ p = req.data.pii := by
  have hpayload := stored_eq_toJson hx
  have hpayload' := stored_eq_toJson hx'
  rw [hpayload, hpayload']
  constructor
  · intro h
    exact (LeadData.pii_of_toJson h).symm
  · rintro rfl
    rfl

end LeadRequest

namespace Sample

/-- The personal data of another person of the same place. -/
def otherPii : Pii := { (body "ping" none).pii with firstName := some "Grace" }

def stamp : Option String := some "20240101000000"

theorem stored_noLeads (req : LeadRequest) :
    req.data.toJson ∈ Db.storedPayloads 1 (noLeads, []) (req.creationTask new, stamp) := by
  rw [Db.storedPayloads_eq, if_pos ⟨rfl, rfl⟩, LeadRequest.pingOnlyPayload_creationTask]
  exact List.mem_singleton.mpr rfl

/-- The first name is stored with the ping. -/
theorem ping_payload_holds_pii :
    (ping true).requestType = .ping ∧
      ∃ x ∈ Db.storedPayloads 1 (noLeads, []) ((ping true).creationTask new, stamp),
      ∃ x' ∈ Db.storedPayloads 1 (noLeads, [])
          (((ping true).withPii otherPii).creationTask new, stamp),
        x.get "first_name" = some (.str "Ada") ∧ x'.get "first_name" = some (.str "Grace") ∧
          x ≠ x' := by
  refine ⟨by decide, _, stored_noLeads _, _, stored_noLeads _, rfl, rfl, ?_⟩
  intro h
  have hname := LeadData.pii_of_toJson h
  exact absurd hname (by decide)

theorem ping_payloads_agree_iff_otherPii :
    (ping true).data.toJson = ((ping true).withPii otherPii).data.toJson ↔
      otherPii = (ping true).data.pii :=
  LeadRequest.ping_payloads_agree_iff otherPii (stored_noLeads (ping true)) (stored_noLeads _)

end Sample

end LeadsNebula
