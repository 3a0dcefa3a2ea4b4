/-
The dashboard's handlers of publishers (`routes/dashboard.rs`).

`list_publishers` looks at the instance of the user; the others find a publisher by
the id of the path, and a new publisher is put in the instance of the body.
-/
import LeadsNebula.Dashboard

namespace LeadsNebula

/-- The name of a status in JSON. -/
def PublisherStatus.serdeName : PublisherStatus → String
  | active => "Active"
  | inactive => "Inactive"
  | suspended => "Suspended"

def PublisherStatus.asStr : PublisherStatus → String
  | active => "active"
  | inactive => "inactive"
  | suspended => "suspended"

namespace Dashboard

variable (cfg : DashConfig) (env : DashEnv)

/-- `id = $1 AND deleted_at IS NULL`. -/
def livePublisher (id : Uuid) (r : Publisher) : Bool := r.id = id ∧ r.deletedAt = none

/-- The verticals of a publisher, in the order of their names. -/
def verticalsOf (links : List PublisherVertical) (verticals : List Vertical) (id : Uuid) :
    List Vertical :=
  ((links.filter (·.publisherId = id)).filterMap fun l =>
    verticals.find? (·.id = l.verticalId)).mergeSort fun a b => a.name ≤ b.name

def publisherResponse (r : Publisher) (verticals : List Vertical) : Json :=
  .obj [("id", idJson r.id), ("name", .str r.name), ("email", .str r.email),
    ("status", .str r.status.asStr), ("api_key_prefix", .str r.apiKeyPrefix),
    ("hmac_required", .bool r.hmacRequired), ("created_at", timeJson cfg r.createdAt),
    ("deleted_at", optTime cfg r.deletedAt), ("verticals", .arr (verticals.map verticalJson))]

def listPublishers (user : User) : Handler Json := do
  let instanceId ← requireInstance env 0 user
  let publishers ← fetchAll env 1 .publishers fun r =>
    r.instanceId = instanceId ∧ r.deletedAt = none
  let links ← Prog.attempt (!publishers.isEmpty) [] (fetchAll env 2 .publisherVerticals fun l =>
    l.publisherId ∈ publishers.map Publisher.id)
  let verticals ← Database.rows .verticals fun _ => true
  pure (successJson [("publishers", .arr ((orderDesc Publisher.createdAt publishers).map fun r =>
    publisherResponse cfg r (verticalsOf links verticals r.id)))])

/-! ### Audit logs of publishers -/

def publisherContext (reason method endpoint : String) : List (String × Json) :=
  [("request_id", .str env.requestId), ("ip_address", optStr env.ipAddress),
    ("user_agent", optStr env.userAgent)] ++ contextJson reason method endpoint

/-- The log is put in the instance of the user. -/
def logPublisher (n : ℕ) (user : User) (actionType : String) (id : Uuid) (details : Json) :
    Handler Unit := do
  let r ← fetchOrNone env n .instances (isInstanceOf user)
  createAuditLog env (n + 1) {
    id := env.uuid 1
    instanceId := r.map Instance.id
    instanceUserId := some user.id
    actionType := actionType
    resourceType := .publisher
    resourceId := id
    details := details
    affectedResources := .obj []
    ipAddress := env.ipAddress
    userAgent := env.userAgent
    createdAt := env.now }

/-- The fields of a publisher that the log of an update shows. -/
def publisherAuditFields (r : Publisher) : List (String × Json) :=
  [("name", .str r.name), ("email", .str r.email), ("status", .str r.status.serdeName),
    ("representative_first_name", optStr r.representativeFirstName),
    ("representative_last_name", optStr r.representativeLastName),
    ("address_street", optStr r.addressStreet), ("address_city", optStr r.addressCity),
    ("address_state", optStr r.addressState), ("address_zip", optStr r.addressZip),
    ("timezone", optStr r.timezone), ("ein_tin", optStr r.einTin),
    ("hmac_required", .bool r.hmacRequired)]

/-! ### Handlers -/

def emailTaken (email : String) : Json :=
  errorJson ("A publisher with the email '" ++ email ++
    "' already exists. Please use a different email address.")

/-- Links the new publisher to the verticals of the body; what fails is left out. -/
def insertPublisherVerticals (id : Uuid) (verticalIds : List Uuid) : Handler Unit := do
  let _ ← Prog.collect (fun v : Uuid × ℕ =>
    executeIgnored env (10 + v.2) do
      let found ← Database.present .verticals fun r => r.id = v.1
      Prog.whenever found do
        let _ ← Database.insert .publisherVerticals ⟨id, v.1⟩
        pure ()) verticalIds.zipIdx
  pure ()

def createPublisher (user : User) (req : CreatePublisherRequest) : Handler Json := do
  -- the instance of the request is taken as it is
  let instanceId ← targetInstance env 0 user req.instanceId
  let apiKey := "pk_live_" ++ env.random
  let encrypted ← Prog.orStop 500 env.encrypted
  let taken ← execute env 1
    (Database.present .publishers fun r => r.email = req.email ∧ r.deletedAt = none)
  if taken then pure (emailTaken req.email)
  else do
    let hashTaken ← execute env 2 (Database.present .publishers fun r =>
      r.apiKeyHash = cfg.hash apiKey)
    if hashTaken then
      pure (errorJson
        "An internal error occurred while generating the API key. Please try again.")
    else do
      let id := env.uuid 0
      let inserted ← Database.insert .publishers
        (req.row id instanceId (cfg.hash apiKey) encrypted env.now)
      -- a unique key that the checks have missed
      Prog.whenever (!inserted) (Prog.stop 500)
      insertPublisherVerticals env id (req.verticalIds.getD [])
      logPublisher env 3 user "publisher_created" id
        (auditDetails cfg env "create" "Publisher" id (.str req.name)
          (publisherContext env "User created publisher via dashboard" "POST"
            "/api/v1/dashboard/publishers")
          [("after", .obj [("name", .str req.name), ("email", .str req.email),
            ("status", .str "active")])])
      pure (successJson [
        ("publisher", .obj [("id", idJson id), ("name", .str req.name), ("email", .str req.email),
          ("status", .str "active"), ("api_key_prefix", .str "pk_live_")]),
        ("api_key", .str apiKey),
        ("message", .str
          "Publisher created successfully. Save your API key - it will not be shown again!")])

def publisherJson (r : Publisher) (verticals : List Vertical) : Json :=
  .obj [("id", idJson r.id), ("name", .str r.name), ("email", .str r.email),
    ("status", .str r.status.serdeName), ("api_key_prefix", .str r.apiKeyPrefix),
    ("hmac_required", .bool r.hmacRequired),
    ("hmac_secret_encrypted_prefix", optStr r.hmacSecretPrefix),
    ("hmac_secret_encrypted_generated", .bool r.hmacSecretHash.isSome),
    ("total_requests", .ofNat r.totalRequests), ("last_request_at", optTime cfg r.lastRequestAt),
    ("representative_first_name", optStr r.representativeFirstName),
    ("representative_last_name", optStr r.representativeLastName),
    ("address_street", optStr r.addressStreet), ("address_city", optStr r.addressCity),
    ("address_state", optStr r.addressState), ("address_zip", optStr r.addressZip),
    ("timezone", optStr r.timezone), ("ein_tin", optStr r.einTin),
    ("created_at", timeJson cfg r.createdAt), ("deleted_at", optTime cfg r.deletedAt),
    ("verticals", .arr (verticals.map verticalJson))]

def getPublisher (id : Uuid) : Handler Json := do
  let publisher ← fetchOptional env 0 .publishers fun r => r.id = id
  let r ← Prog.orStop 404 publisher
  let links ← fetchAllOrNone env 1 .publisherVerticals fun l => l.publisherId = id
  let verticals ← Database.rows .verticals fun _ => true
  pure (successJson [("publisher", publisherJson cfg r (verticalsOf links verticals id))])

/-- The text of a path below a publisher. -/
def publisherPath (id : Uuid) (rest : String) : String :=
  "/api/v1/dashboard/publishers/" ++ id.toString ++ rest

def updatePublisher (user : User) (id : Uuid) (payload : UpdatePublisherRequest) :
    Handler Json := do
  let publisher ← fetchOptional env 0 .publishers (livePublisher id)
  let before ← Prog.orStop 404 publisher
  Prog.whenever (!payload.hasUpdates) (Prog.stop 400)
  Prog.stmt (env.ok 1 && payload.statusValid) 500
    (Database.update .publishers (livePublisher id) (payload.apply env.now) fun _ => rfl)
  let after ← fetchOrNone env 2 .publishers (livePublisher id)
  Prog.ifSome after fun after =>
    logPublisher env 3 user "publisher_updated" id
      (auditDetails cfg env "update" "Publisher" id (.str after.name)
        (publisherContext env "User updated publisher via dashboard" "POST" (publisherPath id ""))
        [("actor", .obj [("id", idJson user.id), ("email", .str user.email)]),
          ("changes", .obj (changedFields (publisherAuditFields before)
            (publisherAuditFields after))),
          ("before", .obj (publisherAuditFields before)),
          ("after", .obj (publisherAuditFields after))])
  pure (messageJson "Publisher updated successfully")

def deletePublisher (user : User) (id : Uuid) : Handler Json := do
  let before ← fetchOptional env 0 .publishers (livePublisher id)
  execute env 1 (Database.update .publishers (fun r => r.id = id) (Publisher.delete env.now)
    fun _ => rfl)
  Prog.ifSome before fun r =>
    logPublisher env 2 user "publisher_deleted" id
      (auditDetails cfg env "delete" "Publisher" id (.str r.name)
        (publisherContext env "User deleted publisher via dashboard" "DELETE" (publisherPath id ""))
        [("before", .obj [("name", .str r.name), ("email", .str r.email)])])
  pure (messageJson "Publisher deleted successfully")

def regeneratePublisherApiKey (user : User) (id : Uuid) : Handler Json := do
  let publisher ← fetchOptional env 0 .publishers (livePublisher id)
  let r ← Prog.orStop 404 publisher
  let apiKey := "pk_live_" ++ env.random
  let encrypted ← Prog.orStop 500 env.encrypted
  let hashTaken ← execute env 1 (Database.present .publishers fun r' =>
    r'.id ≠ id ∧ r'.apiKeyHash = cfg.hash apiKey)
  Prog.whenever hashTaken (Prog.stop 500)
  Database.update .publishers (livePublisher id)
    (Publisher.regenerate (cfg.hash apiKey) encrypted env.now) fun _ => rfl
  logPublisher env 2 user "publisher_api_key_rotated" id
    (auditDetails cfg env "api_key_rotated" "Publisher" id (.str r.name)
      (publisherContext env "User regenerated API key via dashboard" "POST"
        (publisherPath id "/regenerate-api-key")) [])
  pure (successJson [("api_key", .str apiKey),
    ("message", .str "API key regenerated successfully")])

/-- The one handler of a single publisher that looks at the user: the publisher must be of an
instance of the user. -/
def getPublisherApiKey (user : User) (id : Uuid) : Handler Json := do
  let publisher ← fetchOptional env 0 .publishers (livePublisher id)
  let r ← Prog.orStop 404 publisher
  let isAdmin ← execute env 1 (Database.present .instances fun i =>
    i.id = r.instanceId ∧ isInstanceOf user i)
  Prog.whenever (!isAdmin) (Prog.stop 403)
  if r.apiKeyEncrypted.getD "" = "" then
    pure (.obj [("success", .bool false),
      ("error", .str ("API key was not encrypted when created. Please regenerate the API key " ++
        "to enable encryption and retrieval.")),
      ("requires_regeneration", .bool true)])
  else do
    let apiKey ← Prog.orStop 500 (cfg.decrypt (r.apiKeyEncrypted.getD ""))
    pure (successJson [("api_key", .str apiKey)])

def generatePublisherHmacSecretEncrypted (user : User) (id : Uuid) : Handler Json := do
  let publisher ← fetchOptional env 0 .publishers (livePublisher id)
  let r ← Prog.orStop 404 publisher
  execute env 1 (Database.update .publishers (livePublisher id)
    (Publisher.setHmacSecret cfg.hash env.random env.now) fun _ => rfl)
  logPublisher env 2 user "publisher_hmac_secret_generated" id
    (auditDetails cfg env "hmac_secret_generated" "Publisher" id (.str r.name)
      (publisherContext env "User generated HMAC secret via dashboard" "POST"
        (publisherPath id "/generate-hmac-secret_encrypted")) [])
  pure (successJson [("hmac_secret_encrypted", .str env.random),
    ("message", .str "HMAC secret_encrypted generated successfully")])

def livePingTree (id : Uuid) (t : PingTree) : Bool := t.id = id ∧ t.deletedAt = none

def getPublisherRevenueShare (id : Uuid) : Handler Json := do
  let publisher ← fetchOptional env 0 .publishers (livePublisher id)
  let _ ← Prog.orStop 404 publisher
  let assignments ← fetchAll env 1 .pingTreePublishers fun a => a.publisherId = id
  let sorted := assignments.mergeSort fun a b =>
    a.vertical < b.vertical ∨ (a.vertical = b.vertical ∧ a.createdAt ≤ b.createdAt)
  let configs ← Prog.collect (fun a : PingTreePublisher × ℕ => do
    let pingTree ← fetchOrNone env (10 + a.2) .pingTrees (livePingTree a.1.pingTreeId)
    pure (Json.obj [("ping_tree_id", idJson a.1.pingTreeId),
      ("ping_tree_name", optStr (pingTree.map PingTree.name)), ("vertical", .str a.1.vertical),
      ("revshare_percentage", optRat a.1.revsharePercentage),
      ("revshare_flat_amount", optRat a.1.revshareFlatAmount),
      ("created_at", timeJson cfg a.1.createdAt)])) sorted.zipIdx
  pure (successJson [("publisher_id", idJson id), ("revenue_share_configs", .arr configs)])

end Dashboard

end LeadsNebula
