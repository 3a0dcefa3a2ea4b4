/-
The dashboard's handlers of buyers (`routes/dashboard.rs`).

`list_buyers` looks at the instance of the user; the others find a buyer by the id
of the path, and a new buyer is put in the instance of the body.
-/
import LeadsNebula.Dashboard

namespace LeadsNebula

/-- The name of a status in JSON. -/
def BuyerStatus.serdeName : BuyerStatus → String
  | active => "Active"
  | incomplete => "Incomplete"
  | inactive => "Inactive"
  | suspended => "Suspended"

def BuyerStatus.ofLabel : String → Option BuyerStatus
  | "active" => some .active
  | "incomplete" => some .incomplete
  | "inactive" => some .inactive
  | "suspended" => some .suspended
  | _ => none

namespace Dashboard

variable (cfg : DashConfig) (env : DashEnv)

/-- `id = $1 AND deleted_at IS NULL`. -/
def liveBuyer (id : Uuid) (b : Buyer) : Bool := b.id = id ∧ b.deletedAt = none

/-! ### Lists -/

/-- The vertical of a buyer in a list: its id, with name and slug where the vertical is found. -/
def listedVertical (verticals : List Vertical) (b : Buyer) : List (String × Json) :=
  match b.verticalId with
  | none => []
  | some id =>
    [("vertical", ((verticals.find? (·.id = id)).map verticalJson).getD (.obj [("id", idJson id)]))]

def listedBuyer (verticals : List Vertical) (b : Buyer) : Json :=
  .obj ([("id", idJson b.id), ("name", .str b.name), ("status", .str b.status.serdeName),
    ("created_at", timeJson cfg b.createdAt), ("post_type", optStr b.postType),
    ("vertical_id", optId b.verticalId)] ++ listedVertical verticals b)

def listedDeletedBuyer (verticals : List Vertical) (b : Buyer) : Json :=
  .obj ([("id", idJson b.id), ("name", .str b.name), ("status", .str b.status.serdeName),
    ("created_at", timeJson cfg b.createdAt), ("deleted_at", optTime cfg b.deletedAt),
    ("post_type", optStr b.postType), ("vertical_id", optId b.verticalId)] ++
    listedVertical verticals b)

def listBuyers (user : User) : Handler Json := do
  let instanceId ← requireInstance env 0 user
  let active ← fetchAll env 1 .buyers fun b => b.instanceId = instanceId ∧ b.deletedAt = none
  let deleted ← fetchAll env 2 .buyers fun b => b.instanceId = instanceId ∧ b.deletedAt ≠ none
  let verticals ← fetchAllOrNone env 3 .verticals fun _ => true
  pure (successJson [
    ("buyers", .arr ((orderDesc Buyer.createdAt active).map (listedBuyer cfg verticals))),
    ("deleted_buyers", .arr ((orderDesc (fun b => b.deletedAt.getD 0) deleted).map
      (listedDeletedBuyer cfg verticals)))])

/-! ### New buyers -/

structure CreateBuyerRequest where
  name : String
  instanceId : Option Uuid
  postType : Option String
  verticalId : Option Uuid
  buyerType : Option String
  emailAddress : Option String
  einTin : Option String
  addressStreet : Option String
  addressCity : Option String
  addressState : Option String
  addressZip : Option String
  representativeFirstName : Option String
  representativeLastName : Option String

namespace CreateBuyerRequest

variable (req : CreateBuyerRequest)

def effectivePostType : String := req.postType.getD "full_post"

/-- The row of the new buyer. -/
def row (id instanceId : Uuid) (now : ℕ) : Buyer where
  id := id
  name := req.name
  instanceId := instanceId
  verticalId := req.verticalId
  buyerIntegrationId := none
  status := .incomplete
  postType := some req.effectivePostType
  buyerType := req.buyerType
  emailAddress := req.emailAddress
  einTin := req.einTin
  addressStreet := req.addressStreet
  addressCity := req.addressCity
  addressState := req.addressState
  addressZip := req.addressZip
  representativeFirstName := req.representativeFirstName
  representativeLastName := req.representativeLastName
  deletedAt := none
  createdAt := now
  updatedAt := now

/-- The checks of the body. -/
def invalid : Option String :=
  if req.effectivePostType ≠ "full_post" ∧ req.effectivePostType ≠ "ping_post" then
    some ("Invalid post_type: " ++ req.effectivePostType ++
      ". Must be 'full_post' or 'ping_post'")
  else match req.buyerType with
    | some bt =>
      if bt ≠ "internal" ∧ bt ≠ "external" then
        some ("Invalid buyer_type: " ++ bt ++ ". Must be 'internal' or 'external'")
      else none
    | none => none

/-- The vertical whose Pulsar integration an internal buyer gets. -/
def pulsarVertical : Option Uuid :=
  if req.buyerType = some "internal" then req.verticalId else none

def auditJson : Json :=
  .obj [("action", .str "create"),
    ("after", .obj [("name", .str req.name), ("buyer_type", optStr req.buyerType),
      ("vertical_id", optId req.verticalId), ("post_type", .str req.effectivePostType),
      ("email_address", optStr req.emailAddress), ("ein_tin", optStr req.einTin),
      ("address_street", optStr req.addressStreet), ("address_city", optStr req.addressCity),
      ("address_state", optStr req.addressState), ("address_zip", optStr req.addressZip),
      ("representative_first_name", optStr req.representativeFirstName),
      ("representative_last_name", optStr req.representativeLastName)])]

end CreateBuyerRequest

/-- The log of a change to a buyer or one of its rule sets. -/
def buyerLog (instanceId instanceUserId : Option Uuid) (actionType : String) (id : Uuid)
    (details affected : Json) (ipAddress userAgent : Option String) : AuditLog where
  id := env.uuid 1
  instanceId := instanceId
  instanceUserId := instanceUserId
  actionType := actionType
  resourceType := .buyer
  resourceId := id
  details := details
  affectedResources := affected
  ipAddress := ipAddress
  userAgent := userAgent
  createdAt := env.now

/-- Finds or creates the Pulsar integration of a vertical.  The id of a new one is taken even if
its insertion fails. -/
def pulsarIntegration (v : Vertical) : Handler Uuid := do
  let found ← fetchOrNone env 4 .buyerIntegrations fun i =>
    i.verticalId = v.id ∧ i.isInternal ∧ i.status = "available"
  match found with
  | some i => pure i.id
  | none => do
    let slug := "pulsar-" ++ v.slug
    executeIgnored env 5 do
      let taken ← Database.present .buyerIntegrations fun i => i.slug = slug
      Prog.whenever (!taken) do
        let _ ← Database.insert .buyerIntegrations
          ⟨env.uuid 2, v.name, slug, v.id, true, "available"⟩
        pure ()
    pure (env.uuid 2)

/-- Gives an internal buyer the Pulsar integration of its vertical. -/
def selectPulsar (id verticalId : Uuid) : Handler Unit := do
  let vertical ← fetchOrNone env 3 .verticals fun v => v.id = verticalId
  Prog.ifSome vertical fun v => do
    let pulsarId ← pulsarIntegration env v
    executeIgnored env 6 (Database.update .buyers (fun b => b.id = id)
      (fun b => { b with buyerIntegrationId := some pulsarId }) fun _ => rfl)

def createBuyer (user : User) (req : CreateBuyerRequest) : Handler Json := do
  let instanceId ← targetInstance env 0 user req.instanceId
  match req.invalid with
  | some error => pure (errorJson error)
  | none => do
    -- the name is compared within the instance only
    let existing ← fetchOptional env 1 .buyers fun b =>
      b.instanceId = instanceId ∧ b.name = req.name ∧ b.deletedAt = none
    if existing.isSome then
      pure (errorJson ("A buyer with the name '" ++ req.name ++
        "' already exists. Please choose a different name."))
    else do
      let id := env.uuid 0
      let inserted ← execute env 2 (Database.insert .buyers (req.row id instanceId env.now))
      Prog.whenever (!inserted) (Prog.stop 500)
      Prog.ifSome req.pulsarVertical (selectPulsar env id)
      -- read back, since the choice of the integration may have changed the row
      let created ← fetchOrNone env 7 .buyers fun b => b.id = id
      createAuditLog env 8 (buyerLog env (some instanceId) none "buyer_created" id req.auditJson
        (.obj []) none none)
      pure (successJson [
        ("buyer", .obj [("id", idJson id), ("name", .str req.name),
          ("status", .str ((created.map fun b => b.status.asStr).getD "incomplete")),
          ("buyer_type", optStr req.buyerType), ("post_type", .str req.effectivePostType),
          ("vertical_id", optId req.verticalId),
          ("buyer_integration_id", optId (created.bind Buyer.buyerIntegrationId))]),
        ("message", .str "Buyer created successfully")])

/-! ### One buyer -/

def Buyer.canActivate (b : Buyer) : Bool :=
  b.name ≠ "" && b.emailAddress.isSome && b.einTin.isSome && b.addressStreet.isSome &&
    b.addressCity.isSome && b.addressState.isSome && b.addressZip.isSome &&
    b.representativeFirstName.isSome && b.representativeLastName.isSome &&
    b.buyerIntegrationId.isSome

def integrationJson (i : BuyerIntegration) : Json :=
  .obj [("id", idJson i.id), ("name", .str i.name), ("slug", .str i.slug)]

def buyerJson (b : Buyer) (vertical : Option Vertical) (integration : Option BuyerIntegration) :
    Json :=
  .obj [("id", idJson b.id), ("name", .str b.name), ("status", .str b.status.asStr),
    ("created_at", timeJson cfg b.createdAt), ("deleted_at", optTime cfg b.deletedAt),
    ("buyer_type", optStr b.buyerType), ("vertical_id", optId b.verticalId),
    ("vertical", Json.ofOption verticalJson vertical),
    ("buyer_integration_id", optId b.buyerIntegrationId),
    ("integration", Json.ofOption integrationJson integration), ("post_type", optStr b.postType),
    ("email_address", optStr b.emailAddress), ("ein_tin", optStr b.einTin),
    ("address_street", optStr b.addressStreet), ("address_city", optStr b.addressCity),
    ("address_state", optStr b.addressState), ("address_zip", optStr b.addressZip),
    ("representative_first_name", optStr b.representativeFirstName),
    ("representative_last_name", optStr b.representativeLastName),
    ("can_activate", .bool b.canActivate)]

def getBuyer (id : Uuid) : Handler Json := do
  let buyer ← fetchOptional env 0 .buyers fun b => b.id = id
  let b ← Prog.orStop 404 buyer
  let vertical ← fetchOrNone env 1 .verticals fun v => some v.id = b.verticalId
  let integration ← fetchOrNone env 2 .buyerIntegrations fun i => some i.id = b.buyerIntegrationId
  pure (successJson [("buyer", buyerJson cfg b vertical integration)])

/-! ### Updates -/

/-- The fields of the payload that `update_buyer` takes; an integration may be taken away. -/
structure BuyerChanges where
  name : Option String
  emailAddress : Option String
  einTin : Option String
  addressStreet : Option String
  addressCity : Option String
  addressState : Option String
  addressZip : Option String
  representativeFirstName : Option String
  representativeLastName : Option String
  buyerIntegrationId : Option (Option Uuid)
  status : Option String

namespace BuyerChanges

/-- An integration is taken away by `null` or by the empty text; what is no uuid is ignored. -/
def integrationOf : Json → Option (Option Uuid)
  | .null => some none
  | .str "" => some none
  | .str s => (Uuid.parseStr s).map some
  | _ => none

def ofPayload (payload : Json) : BuyerChanges where
  name := (payload.get "name").bind Json.asStr
  emailAddress := (payload.get "email_address").bind Json.asStr
  einTin := (payload.get "ein_tin").bind Json.asStr
  addressStreet := (payload.get "address_street").bind Json.asStr
  addressCity := (payload.get "address_city").bind Json.asStr
  addressState := (payload.get "address_state").bind Json.asStr
  addressZip := (payload.get "address_zip").bind Json.asStr
  representativeFirstName := (payload.get "representative_first_name").bind Json.asStr
  representativeLastName := (payload.get "representative_last_name").bind Json.asStr
  buyerIntegrationId := (payload.get "buyer_integration_id").bind integrationOf
  status := (payload.get "status").bind Json.asStr

variable (c : BuyerChanges)

def hasUpdates : Bool :=
  c.name.isSome || c.emailAddress.isSome || c.einTin.isSome || c.addressStreet.isSome ||
    c.addressCity.isSome || c.addressState.isSome || c.addressZip.isSome ||
    c.representativeFirstName.isSome || c.representativeLastName.isSome ||
    c.buyerIntegrationId.isSome || c.status.isSome

/-- A status that is no label of the enumeration. -/
def invalidStatus : Option String := c.status.filter fun label => (BuyerStatus.ofLabel label).isNone

/-- The row after the update. -/
def apply (now : ℕ) (b : Buyer) : Buyer :=
  { b with
    name := c.name.getD b.name
    emailAddress := c.emailAddress.or b.emailAddress
    einTin := c.einTin.or b.einTin
    addressStreet := c.addressStreet.or b.addressStreet
    addressCity := c.addressCity.or b.addressCity
    addressState := c.addressState.or b.addressState
    addressZip := c.addressZip.or b.addressZip
    representativeFirstName := c.representativeFirstName.or b.representativeFirstName
    representativeLastName := c.representativeLastName.or b.representativeLastName
    buyerIntegrationId := c.buyerIntegrationId.getD b.buyerIntegrationId
    status := (c.status.bind BuyerStatus.ofLabel).getD b.status
    updatedAt := now }

/-- The changes of the texts, each with the text before; a missing text counts as empty. -/
def changes (b : Buyer) : List (String × Json) :=
  [("name", c.name, b.name), ("email_address", c.emailAddress, b.emailAddress.getD ""),
    ("ein_tin", c.einTin, b.einTin.getD ""),
    ("address_street", c.addressStreet, b.addressStreet.getD ""),
    ("address_city", c.addressCity, b.addressCity.getD ""),
    ("address_state", c.addressState, b.addressState.getD ""),
    ("address_zip", c.addressZip, b.addressZip.getD ""),
    ("representative_first_name", c.representativeFirstName, b.representativeFirstName.getD ""),
    ("representative_last_name", c.representativeLastName, b.representativeLastName.getD ""),
    ("status", c.status, b.status.asStr)].filterMap fun f =>
      f.2.1.bind fun after =>
        if f.2.2 ≠ after then some (f.1, changeJson (.str f.2.2) (.str after)) else none

end BuyerChanges

/-- The fields of a buyer that the log of an update shows. -/
def buyerAuditFields (b : Buyer) : List (String × Json) :=
  [("name", .str b.name), ("email_address", optStr b.emailAddress), ("ein_tin", optStr b.einTin),
    ("address_street", optStr b.addressStreet), ("address_city", optStr b.addressCity),
    ("address_state", optStr b.addressState), ("address_zip", optStr b.addressZip),
    ("representative_first_name", optStr b.representativeFirstName),
    ("representative_last_name", optStr b.representativeLastName),
    ("status", .str b.status.serdeName), ("post_type", optStr b.postType),
    ("buyer_type", optStr b.buyerType), ("vertical_id", optId b.verticalId),
    ("buyer_integration_id", optId b.buyerIntegrationId)]

/-- The fields before an update, with the changed ones as they are after it. -/
def buyerAfterFields (b : Buyer) (changes : List (String × Json)) : List (String × Json) :=
  Json.mergeFields (buyerAuditFields b)
    (changes.filterMap fun ch => (ch.2.get "after").map fun after => (ch.1, after))

/-- `buyer_activated` and `buyer_deactivated` for the changes of the status to `active` and
`suspended`. -/
def buyerAction (changes : List (String × Json)) : String :=
  match (changes.lookup "status").bind fun ch => (ch.get "after").bind Json.asStr with
  | some "active" => "buyer_activated"
  | some "suspended" => "buyer_deactivated"
  | _ => "buyer_updated"

def actorJson (user : User) (instanceId : Option Uuid) : Json :=
  let name := trim (user.firstName.getD "" ++ " " ++ user.lastName.getD "")
  .obj [("id", idJson user.id), ("name", .str (if name = "" then user.email else name)),
    ("email", .str user.email), ("role", .str "instance_admin"), ("instance_id", optId instanceId)]

def buyerContext (reason endpoint : String) : List (String × Json) :=
  [("request_id", .str env.requestId), ("session_id", optStr env.sessionId),
    ("ip_address", optStr env.ipAddress), ("user_agent", optStr env.userAgent),
    ("referer", optStr env.referer)] ++ contextJson reason "POST" endpoint

def buyerUpdateLog (user : User) (id : Uuid) (before : Option Buyer)
    (c : BuyerChanges) : AuditLog :=
  let changes := (before.map c.changes).getD []
  let after := before.map fun b => buyerAfterFields b changes
  let name := (after.bind fun fields => (fields.lookup "name").bind Json.asStr).getD ""
  buyerLog env (before.map Buyer.instanceId) (some user.id) (buyerAction changes) id
    (auditDetails cfg env "update" "Buyer" id (.str name)
      (buyerContext env "User updated buyer via dashboard"
        ("/api/v1/dashboard/buyers/" ++ id.toString))
      [("actor", actorJson user (before.map Buyer.instanceId)), ("changes", .obj changes),
        ("before", Json.ofOption (fun b => .obj (buyerAuditFields b)) before),
        ("after", Json.ofOption .obj after)])
    (.obj []) env.ipAddress env.userAgent

/-- A buyer that is not found is updated and logged all the same. -/
def updateBuyer (user : User) (id : Uuid) (payload : Json) : Handler Json := do
  let found ← fetchOptional env 0 .buyers fun b => b.id = id
  Prog.whenever (found.any fun b => b.deletedAt.isSome) (Prog.stop 400)
  let before ← fetchOptional env 1 .buyers (liveBuyer id)
  let c := BuyerChanges.ofPayload payload
  match c.invalidStatus with
  | some label =>
    pure (errorJson ("Invalid status value: " ++ label ++
      ". Must be one of: active, incomplete, inactive, suspended"))
  | none =>
    if !c.hasUpdates then pure (messageJson "Buyer updated successfully")
    else do
      execute env 2 (Database.update .buyers (liveBuyer id) (c.apply env.now) fun _ => rfl)
      createAuditLog env 3 (buyerUpdateLog cfg env user id before c)
      pure (messageJson "Buyer updated successfully")

/-! ### Deletion -/

/-- A campaign in the log of a deletion. -/
def affectedCampaign (c : Campaign) : Json :=
  .obj [("id", idJson c.id), ("name", .str (c.name.getD "")),
    ("campaign_token", .str c.campaignToken)]

def deleteBuyer (id : Uuid) : Handler Json := do
  let buyer ← fetchOptional env 0 .buyers (liveBuyer id)
  let b ← Prog.orStop 404 buyer
  let affected ← fetchAllOrNone env 1 .campaigns fun c => c.buyerId = id
  execute env 2 (Database.update .buyers (fun b => b.id = id)
    (fun b => { b with deletedAt := some env.now }) fun _ => rfl)
  createAuditLog env 3 (buyerLog env (some b.instanceId) none "buyer_deleted" id
    (.obj [("buyer_name", .str b.name), ("buyer_type", optStr b.buyerType),
      ("post_type", optStr b.postType)])
    (.obj [("campaigns", .arr (affected.map affectedCampaign))]) none none)
  pure (messageJson "Buyer deleted successfully")

end Dashboard

end LeadsNebula
