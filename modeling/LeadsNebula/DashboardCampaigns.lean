/-
The dashboard's handlers of campaigns (`routes/dashboard.rs`).

`list_campaigns` and `get_campaign` look at the instance of the user; the others
find a campaign by the id of the path, and a new campaign is put in the instance and
in the ping tree of the body.
-/
import LeadsNebula.Dashboard

namespace LeadsNebula

def CampaignStatus.asStr : CampaignStatus → String
  | active => "active"
  | paused => "paused"
  | inactive => "inactive"

namespace Dashboard

variable (cfg : DashConfig) (env : DashEnv)

/-- `id = $1 AND deleted_at IS NULL`. -/
def liveCampaign (id : Uuid) (c : Campaign) : Bool := c.id = id ∧ c.deletedAt = none

def listedCampaign (members : List PingTreeCampaign) (c : Campaign) : Json :=
  .obj [("id", idJson c.id), ("name", optStr c.name), ("vertical", .str c.vertical),
    ("campaign_token", .str c.campaignToken), ("status", .str c.status.asStr),
    ("publisher_id", idJson c.publisherId), ("buyer_id", idJson c.buyerId),
    ("created_at", timeJson cfg c.createdAt), ("deleted_at", optTime cfg c.deletedAt),
    ("in_ping_tree", .bool (members.any (·.campaignId = c.id)))]

/-- The memberships are read from all ping trees, of every instance. -/
def listCampaigns (user : User) : Handler Json := do
  let instanceId ← requireInstance env 0 user
  let campaigns ← fetchAll env 1 .campaigns fun c => c.instanceId = instanceId ∧ c.deletedAt = none
  let members ← Prog.attempt (!campaigns.isEmpty && env.ok 2) []
    (Database.rows .pingTreeCampaigns fun _ => true)
  pure (successJson [("campaigns", .arr ((orderDesc Campaign.createdAt campaigns).map
    (listedCampaign cfg members)))])

/-! ### New campaigns -/

structure CreateCampaignRequest where
  name : Option String
  vertical : String
  publisherId : Uuid
  buyerId : Uuid
  instanceId : Option Uuid
  pingTreeId : Option Uuid

/-- The row of a new campaign. -/
def CreateCampaignRequest.row (req : CreateCampaignRequest) (id instanceId : Uuid)
    (campaignToken : String) (now : ℕ) : Campaign where
  id := id
  buyerId := req.buyerId
  publisherId := req.publisherId
  instanceId := instanceId
  name := req.name
  vertical := req.vertical
  campaignToken := campaignToken
  status := .active
  isDocumentationTest := false
  deletedAt := none
  createdAt := now
  updatedAt := now

/-- `INSERT INTO ping_tree_campaigns`: the ping tree and the campaign must exist, and the row of a
campaign that is in the tree is updated by `f`. -/
def linkCampaign (link : PingTreeCampaign) (f : PingTreeCampaign → PingTreeCampaign)
    (hf : ∀ l, (f l).id = l.id) : Handler Unit := do
  let hasTree ← Database.present .pingTrees fun t => t.id = link.pingTreeId
  Prog.whenever (!hasTree) (Prog.stop 500)
  let hasCampaign ← Database.present .campaigns fun c => c.id = link.campaignId
  Prog.whenever (!hasCampaign) (Prog.stop 500)
  let linked ← Database.present .pingTreeCampaigns fun l =>
    l.pingTreeId = link.pingTreeId ∧ l.campaignId = link.campaignId
  if linked then
    Database.update .pingTreeCampaigns
      (fun l => l.pingTreeId = link.pingTreeId ∧ l.campaignId = link.campaignId) f hf
  else do
    let inserted ← Database.insert .pingTreeCampaigns link
    Prog.whenever (!inserted) (Prog.stop 500)

def createCampaign (user : User) (req : CreateCampaignRequest) : Handler Json := do
  let instanceId ← targetInstance env 0 user req.instanceId
  let campaignToken := env.random
  let id := env.uuid 0
  let taken ← execute env 1 (Database.present .campaigns fun c => c.campaignToken = campaignToken)
  Prog.whenever taken (Prog.stop 500)
  let inserted ← Database.insert .campaigns (req.row id instanceId campaignToken env.now)
  Prog.whenever (!inserted) (Prog.stop 500)
  Prog.ifSome req.pingTreeId fun pingTreeId =>
    execute env 2 (linkCampaign ⟨env.uuid 2, pingTreeId, id, some 1, true, env.now, env.now⟩ (·)
      fun _ => rfl)
  pure (successJson [
    ("campaign", .obj [("id", idJson id), ("name", optStr req.name),
      ("vertical", .str req.vertical),
      ("campaign_token", .str campaignToken), ("status", .str "active"),
      ("publisher_id", idJson req.publisherId), ("buyer_id", idJson req.buyerId)]),
    ("message", .str "Campaign created successfully")])

/-! ### One campaign -/

/-- `SELECT COUNT(*) > 0 FROM ping_tree_campaigns WHERE campaign_id = $1`. -/
def inPingTree (n : ℕ) (id : Uuid) : Handler Bool :=
  Prog.attempt (env.ok n) false (Database.present .pingTreeCampaigns fun l => l.campaignId = id)

def getCampaign (user : User) (id : Uuid) : Handler Json := do
  let instanceId ← requireInstance env 0 user
  let campaign ← fetchOptional env 1 .campaigns fun c =>
    liveCampaign id c && c.instanceId = instanceId
  let c ← Prog.orStop 404 campaign
  let member ← inPingTree env 2 id
  pure (successJson [("campaign", .obj [("id", idJson c.id), ("name", optStr c.name),
    ("vertical", .str c.vertical), ("campaign_token", .str c.campaignToken),
    ("status", .str c.status.asStr), ("publisher_id", idJson c.publisherId),
    ("buyer_id", idJson c.buyerId), ("created_at", timeJson cfg c.createdAt),
    ("in_ping_tree", .bool member)])])

/-! ### Updates -/

/-- What `update_campaign` sets. -/
structure CampaignChanges where
  name : Option String
  publisherId : Option Uuid
  buyerId : Option Uuid
  status : Option CampaignStatus

namespace CampaignChanges

variable (c : CampaignChanges)

/-- The changes that the payload asks for, besides the status; a text that is no uuid is
ignored. -/
def ofPayload (payload : Json) : CampaignChanges where
  name := (payload.get "name").bind Json.asStr
  publisherId := ((payload.get "publisher_id").bind Json.asStr).bind Uuid.parseStr
  buyerId := ((payload.get "buyer_id").bind Json.asStr).bind Uuid.parseStr
  status := none

/-- A status that the campaign has already is not set. -/
def hasUpdates (before : Campaign) : Bool :=
  c.name.isSome || c.publisherId.isSome || c.buyerId.isSome || c.status.any (· ≠ before.status)

/-- The row after the update. -/
def apply (now : ℕ) (r : Campaign) : Campaign :=
  { r with
    name := c.name.or r.name
    publisherId := c.publisherId.getD r.publisherId
    buyerId := c.buyerId.getD r.buyerId
    status := c.status.getD r.status
    updatedAt := now }

def changes (before : Campaign) : List (String × Json) :=
  (c.name.toList.filter fun name => before.name.getD "" ≠ name).map
    (fun name => ("name", changeJson (optStr before.name) (.str name))) ++
  (c.publisherId.toList.filter fun id => before.publisherId ≠ id).map
    (fun id => ("publisher_id", changeJson (idJson before.publisherId) (idJson id))) ++
  (c.buyerId.toList.filter fun id => before.buyerId ≠ id).map
    (fun id => ("buyer_id", changeJson (idJson before.buyerId) (idJson id))) ++
  (c.status.toList.filter fun s => before.status ≠ s).map
    (fun s => ("status", changeJson (.str before.status.asStr) (.str s.asStr)))

end CampaignChanges

def campaignAction (changes : List (String × Json)) : String :=
  match changes.map Prod.fst with
  | ["name"] => "campaign_name_changed"
  | ["publisher_id"] => "campaign_publisher_changed"
  | ["buyer_id"] => "campaign_buyer_changed"
  | _ => "campaign_updated"

/-- The fields of a campaign that the log of an update shows. -/
def campaignAuditFields (c : Campaign) : Json :=
  .obj [("id", idJson c.id), ("name", optStr c.name), ("vertical", .str c.vertical),
    ("campaign_token", .str c.campaignToken), ("status", .str c.status.asStr),
    ("publisher_id", idJson c.publisherId), ("buyer_id", idJson c.buyerId),
    ("instance_id", idJson c.instanceId)]

def campaignUpdateLog (id : Uuid) (before : Campaign) (after : Option Campaign)
    (c : CampaignChanges) : AuditLog where
  id := env.uuid 1
  instanceId := some before.instanceId
  instanceUserId := none
  actionType := campaignAction (c.changes before)
  resourceType := .campaign
  resourceId := id
  details := auditDetails cfg env "update" "Campaign" id
    (.str ((after.bind Campaign.name).getD ""))
    (contextJson "User updated campaign via dashboard" "POST"
      ("/api/v1/dashboard/campaigns/" ++ id.toString))
    [("changes", .obj (c.changes before)), ("before", campaignAuditFields before),
      ("after", Json.ofOption campaignAuditFields after)]
  affectedResources := .obj []
  ipAddress := none
  userAgent := none
  createdAt := env.now

/-- The status that a label stands for: only a campaign in a ping tree becomes active. -/
def statusOfLabel (member : Bool) : String → Option CampaignStatus
  | "active" => some (if member then .active else .inactive)
  | "paused" => some .paused
  | "inactive" => some .inactive
  | _ => none

/-- The update itself, once the status is known. -/
def applyCampaignChanges (id : Uuid) (before : Campaign) (c : CampaignChanges) : Handler Json :=
  if !c.hasUpdates before then pure (messageJson "No changes to update")
  else do
    execute env 2 (Database.update .campaigns (liveCampaign id) (c.apply env.now) fun _ => rfl)
    let after ← fetchOrNone env 3 .campaigns (liveCampaign id)
    createAuditLog env 4 (campaignUpdateLog cfg env id before after c)
    pure (messageJson "Campaign updated successfully")

def updateCampaign (id : Uuid) (payload : Json) : Handler Json := do
  let campaign ← fetchOptional env 0 .campaigns (liveCampaign id)
  let before ← Prog.orStop 404 campaign
  let c := CampaignChanges.ofPayload payload
  match (payload.get "status").bind Json.asStr with
  | none => applyCampaignChanges cfg env id before c
  | some label => do
    let member ← inPingTree env 1 id
    match statusOfLabel member label with
    | none =>
      pure (errorJson ("Invalid status value: " ++ label ++
        ". Must be one of: active, paused, inactive"))
    | some status => applyCampaignChanges cfg env id before { c with status := some status }

def deleteCampaign (id : Uuid) : Handler Json := do
  execute env 0 (Database.update .campaigns (fun c => c.id = id)
    (fun c => { c with deletedAt := some env.now }) fun _ => rfl)
  pure (messageJson "Campaign deleted successfully")

end Dashboard

end LeadsNebula
