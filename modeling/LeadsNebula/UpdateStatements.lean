/-
The UPDATE statements of the dashboard, as their handlers put them together
(`update_publisher`, `update_buyer`, `update_campaign`, `update_ping_tree` and
`update_buyer_rule_set` of `routes/dashboard.rs`).
-/
import LeadsNebula.QueryBuilder
import LeadsNebula.RuleSetAtomicity

namespace LeadsNebula

namespace Dashboard

open QueryBuilder (Fields Expr Condition Update Reads given exprOf setTokens assignmentTokens)

/-- A value that is bound. -/
inductive SqlValue where
  | text (s : String)
  | texts (l : List String)
  | bool (b : Bool)
  | int (i : ℤ)
  | double (x : F64)
  | uuid (u : Uuid)
  | json (j : Json)
  | buyerStatus (s : BuyerStatus)
  | campaignStatus (s : CampaignStatus)
  | time (t : ℕ)

abbrev Query := QueryBuilder SqlValue

/-- A field that is bound if it is there. -/
def bound {α : Type} (f : α → SqlValue) (o : Option α) : Option (Option SqlValue) :=
  o.map fun v => some (f v)

/-- The builder after the fields, in this order. -/
def pushFields (text : String) (fs : List (String × Option (Option SqlValue))) : Fields SqlValue :=
  fs.foldl Fields.field ⟨.new text, false⟩

/-! ### Publishers -/

/-- An optional field of a request: `null` counts as absent, a value of another type is refused. -/
def optionalField {α : Type} (f : Json → Option α) (payload : Json) (k : String) :
    Option (Option α) :=
  match payload.get k with
  | none => some none
  | some .null => some none
  | some j => (f j).map some

/-- The fields of a request by their names; an array has them all, in order. -/
def namedFields (names : List String) : Json → Option Json
  | .obj m => some (.obj m)
  | .arr l => if l.length = names.length then some (.obj (names.zip l)) else none
  | _ => none

/-- The request that the fields make. -/
def publisherRequest (j : Json) : Option UpdatePublisherRequest := do
  let name ← optionalField Json.asStr j "name"
  let email ← optionalField Json.asStr j "email"
  let status ← optionalField Json.asStr j "status"
  let hmacRequired ← optionalField Json.asBool j "hmac_required"
  let representativeFirstName ← optionalField Json.asStr j "representative_first_name"
  let representativeLastName ← optionalField Json.asStr j "representative_last_name"
  let addressStreet ← optionalField Json.asStr j "address_street"
  let addressCity ← optionalField Json.asStr j "address_city"
  let addressState ← optionalField Json.asStr j "address_state"
  let addressZip ← optionalField Json.asStr j "address_zip"
  let timezone ← optionalField Json.asStr j "timezone"
  let einTin ← optionalField Json.asStr j "ein_tin"
  some {
    name, email, status, hmacRequired, representativeFirstName, representativeLastName,
    addressStreet, addressCity, addressState, addressZip, timezone, einTin }

def publisherFields (c : UpdatePublisherRequest) : List (String × Option (Option SqlValue)) :=
  [("name", bound .text c.name), ("email", bound .text c.email), ("status", bound .text c.status),
    ("hmac_required", bound .bool c.hmacRequired),
    ("representative_first_name", bound .text c.representativeFirstName),
    ("representative_last_name", bound .text c.representativeLastName),
    ("address_street", bound .text c.addressStreet), ("address_city", bound .text c.addressCity),
    ("address_state", bound .text c.addressState), ("address_zip", bound .text c.addressZip),
    ("timezone", bound .text c.timezone), ("ein_tin", bound .text c.einTin)]

/-- The query of `update_publisher`, `none` if there is nothing to set. -/
def updatePublisherQuery (id : Uuid) (c : UpdatePublisherRequest) : Option Query :=
  let b := pushFields "UPDATE publishers SET " (publisherFields c)
  if !b.hasUpdates then none
  else some (((b.query.push "updated_at = NOW() WHERE id = ").pushBind (.uuid id)).push
    " AND deleted_at IS NULL")

/-! ### Buyers -/

def buyerFields (c : BuyerChanges) : List (String × Option (Option SqlValue)) :=
  [("name", bound .text c.name), ("email_address", bound .text c.emailAddress),
    ("ein_tin", bound .text c.einTin), ("address_street", bound .text c.addressStreet),
    ("address_city", bound .text c.addressCity), ("address_state", bound .text c.addressState),
    ("address_zip", bound .text c.addressZip),
    ("representative_first_name", bound .text c.representativeFirstName),
    ("representative_last_name", bound .text c.representativeLastName),
    ("buyer_integration_id", c.buyerIntegrationId.map fun id => id.map .uuid),
    ("status", bound .buyerStatus (c.status.bind BuyerStatus.ofLabel))]

/-- The query of `update_buyer`; a status that is no label is refused. -/
def updateBuyerQuery (id : Uuid) (c : BuyerChanges) : Option Query :=
  if c.invalidStatus.isSome then none
  else
    let b := pushFields "UPDATE buyers SET " (buyerFields c)
    if !b.hasUpdates then none
    else some (((b.query.push " updated_at = NOW() WHERE id = ").pushBind (.uuid id)).push
      " AND deleted_at IS NULL")

/-! ### Campaigns -/

def campaignFields (before : Campaign) (c : CampaignChanges) :
    List (String × Option (Option SqlValue)) :=
  [("name", bound .text c.name), ("publisher_id", bound .uuid c.publisherId),
    ("buyer_id", bound .uuid c.buyerId),
    ("status", bound .campaignStatus (c.status.filter (· ≠ before.status)))]

def campaignQuery (id : Uuid) (before : Campaign) (c : CampaignChanges) : Option Query :=
  let b := pushFields "UPDATE campaigns SET " (campaignFields before c)
  if !b.hasUpdates then none
  else some (((b.query.push "updated_at = NOW() WHERE id = ").pushBind (.uuid id)).push
    " AND deleted_at IS NULL")

/-- The query of `update_campaign` for a campaign that is in a ping tree or not; a status that is no
label is refused. -/
def updateCampaignQuery (member : Bool) (id : Uuid) (before : Campaign) (payload : Json) :
    Option Query :=
  let c := CampaignChanges.ofPayload payload
  match (payload.get "status").bind Json.asStr with
  | none => campaignQuery id before c
  | some label => (statusOfLabel member label).bind fun status =>
      campaignQuery id before { c with status := some status }

/-! ### Ping trees -/

def pingTreeFields (c : PingTreeChanges) : List (String × Option (Option SqlValue)) :=
  [("name", bound .text c.name), ("priority", bound .int c.priority)]

/-- The status of a ping tree has its comma before it, and none behind it. -/
def pushStatus (b : Fields SqlValue) (status : Option String) : Fields SqlValue :=
  match status with
  | some status =>
    let q := if b.hasUpdates then b.query.push ", " else b.query
    ⟨(q.push "status = ").pushBind (.text status), true⟩
  | none => b

/-- The query of `update_ping_tree`. -/
def updatePingTreeQuery (id : Uuid) (c : PingTreeChanges) : Option Query :=
  let b := pushStatus (pushFields "UPDATE ping_trees SET " (pingTreeFields c)) c.status
  if !b.hasUpdates then none
  else some (((b.query.push "updated_at = NOW() WHERE id = ").pushBind (.uuid id)).push
    " AND deleted_at IS NULL")

/-! ### Rule sets -/

def ruleSetFields (c : RuleSetChanges) : List (String × Option (Option SqlValue)) :=
  [("rule_set_name", bound .text c.ruleSetName), ("config", bound .json c.config),
    ("rules_order", bound .texts c.rulesOrder), ("enabled", bound .bool c.enabled),
    ("is_active", bound .bool c.isActive), ("timeout_seconds", bound .double c.timeoutSeconds)]

/-- The query of `update_buyer_rule_set`. -/
def updateRuleSetQuery (buyerId id : Uuid) (c : RuleSetChanges) : Option Query :=
  let b := pushFields "UPDATE buyer_qualification_configs SET " (ruleSetFields c)
  if !b.hasUpdates then none
  else some ((((b.query.push " updated_at = NOW() WHERE id = ").pushBind (.uuid id)).push
    " AND buyer_id = ").pushBind (.uuid buyerId))

end Dashboard

end LeadsNebula
