/-
The dashboard's handlers of ping trees, their campaigns and their publishers
(`routes/dashboard.rs`, `models/ping_tree_publisher.rs`).

`list_ping_trees` and `get_ping_tree` look at the instance of the user; the others
find a ping tree by the id of the path, and a new ping tree is put in the instance
of the body.
-/
import LeadsNebula.DashboardBuyers
import LeadsNebula.DashboardCampaigns
import LeadsNebula.DashboardPublishers
import Mathlib.Algebra.Order.Round
import Mathlib.Data.Rat.Floor

namespace LeadsNebula

namespace Dashboard

variable (cfg : DashConfig) (env : DashEnv)

/-! ### Reading -/

def listPingTrees (user : User) : Handler Json := do
  let instanceId ← requireInstance env 0 user
  let trees ← fetchAll env 1 .pingTrees fun t => t.instanceId = instanceId ∧ t.deletedAt = none
  let response ← Prog.collect (fun t : PingTree × ℕ => do
    let assigned ← fetchAllOrNone env (10 + t.2) .pingTreePublishers fun a => a.pingTreeId = t.1.id
    pure (Json.obj [("id", idJson t.1.id), ("name", .str t.1.name), ("vertical", .str t.1.vertical),
      ("strategy", .str t.1.strategy), ("status", .str t.1.status),
      ("publisher_count", .ofNat assigned.length), ("priority", optInt t.1.priority),
      ("created_at", timeJson cfg t.1.createdAt), ("deleted_at", optTime cfg t.1.deletedAt)]))
    (orderDesc PingTree.createdAt trees).zipIdx
  pure (successJson [("ping_trees", .arr response)])

def assignmentJson (a : PingTreePublisher) : Json :=
  .obj [("id", idJson a.id), ("publisher_id", idJson a.publisherId),
    ("revshare_percentage", optRat a.revsharePercentage),
    ("revshare_flat_amount", optRat a.revshareFlatAmount)]

/-- `ORDER BY priority ASC NULLS LAST`. -/
def orderByPriority (l : List PingTreeCampaign) : List PingTreeCampaign :=
  l.mergeSort fun a b =>
    match a.priority, b.priority with
    | some p, some q => p ≤ q
    | _, none => true
    | none, some _ => false

def getPingTree (user : User) (id : Uuid) : Handler Json := do
  let instanceId ← requireInstance env 0 user
  let pingTree ← fetchOptional env 1 .pingTrees fun t =>
    livePingTree id t && t.instanceId = instanceId
  let t ← Prog.orStop 404 pingTree
  let campaigns ← fetchAll env 2 .pingTreeCampaigns fun l => l.pingTreeId = id
  let publishers ← fetchAll env 3 .pingTreePublishers fun a => a.pingTreeId = id
  pure (successJson [
    ("ping_tree", .obj [("id", idJson t.id), ("name", .str t.name), ("vertical", .str t.vertical),
      ("strategy", .str t.strategy), ("status", .str t.status), ("priority", optInt t.priority),
      ("created_at", timeJson cfg t.createdAt)]),
    ("publishers", .arr ((orderAsc PingTreePublisher.createdAt publishers).map assignmentJson)),
    ("campaigns", .arr ((orderByPriority campaigns).map fun l =>
      .obj [("id", idJson l.id), ("campaign_id", idJson l.campaignId),
        ("priority", optInt l.priority), ("enabled", .bool l.enabled)]))])

/-! ### New ping trees -/

structure CreatePingTreeRequest where
  name : String
  vertical : String
  strategy : String
  instanceId : Option Uuid
  priority : Option ℤ

/-- The row of a new ping tree. -/
def CreatePingTreeRequest.row (req : CreatePingTreeRequest) (id instanceId : Uuid) (now : ℕ) :
    PingTree where
  id := id
  instanceId := instanceId
  name := req.name
  vertical := req.vertical
  strategy := req.strategy
  status := "active"
  priority := req.priority
  deletedAt := none
  createdAt := now
  updatedAt := now

/-- `UNIQUE (instance_id, vertical, name)`: another row has the name. -/
def pingTreeNameTaken (t : PingTree) : Handler Bool :=
  Database.present .pingTrees fun t' => t'.instanceId = t.instanceId ∧ t'.id ≠ t.id ∧
    t'.vertical = t.vertical ∧ t'.name = t.name

def createPingTree (user : User) (req : CreatePingTreeRequest) : Handler Json := do
  Prog.whenever (req.strategy ≠ "ping_post" ∧ req.strategy ≠ "fullpost") (Prog.stop 400)
  let instanceId ← targetInstance env 0 user req.instanceId
  let row := req.row (env.uuid 0) instanceId env.now
  let hasInstance ← execute env 1 (Database.present .instances fun i => i.id = instanceId)
  let taken ← pingTreeNameTaken row
  Prog.whenever (!hasInstance || taken) (Prog.stop 500)
  let inserted ← Database.insert .pingTrees row
  Prog.whenever (!inserted) (Prog.stop 500)
  pure (successJson [
    ("ping_tree", .obj [("id", idJson row.id), ("name", .str row.name),
      ("vertical", .str row.vertical), ("strategy", .str row.strategy), ("status", .str "active"),
      ("priority", optInt row.priority)]),
    ("message", .str "Ping tree created successfully")])

/-! ### Updates -/

/-- `as_i64`, then `as i32`. -/
def asI32 : Json → Option ℤ
  | .num q =>
    if q.den = 1 ∧ -2 ^ 63 ≤ q.num ∧ q.num < 2 ^ 63 then some (q.num.bmod (2 ^ 32)) else none
  | _ => none

/-- What `update_ping_tree` sets. -/
structure PingTreeChanges where
  name : Option String
  priority : Option ℤ
  status : Option String

namespace PingTreeChanges

variable (c : PingTreeChanges)

def ofPayload (payload : Json) : PingTreeChanges where
  name := (payload.get "name").bind Json.asStr
  priority := (payload.get "priority").bind asI32
  status := (payload.get "status").bind Json.asStr

def hasUpdates : Bool := c.name.isSome || c.priority.isSome || c.status.isSome

/-- The row after the update. -/
def apply (now : ℕ) (t : PingTree) : PingTree :=
  { t with
    name := c.name.getD t.name
    priority := c.priority.or t.priority
    updatedAt := now }

def changes (before : PingTree) : List (String × Json) :=
  (c.name.toList.filter fun name => before.name ≠ name).map
    (fun name => ("name", changeJson (.str before.name) (.str name))) ++
  (c.priority.toList.filter fun p => before.priority ≠ some p).map
    (fun p => ("priority", changeJson (optInt before.priority) (optInt (some p))))

end PingTreeChanges

/-- The log of a change to a ping tree. -/
def pingTreeLog (instanceId : Uuid) (actionType : String) (id : Uuid) (details affected : Json) :
    AuditLog where
  id := env.uuid 1
  instanceId := some instanceId
  instanceUserId := none
  actionType := actionType
  resourceType := .pingTree
  resourceId := id
  details := details
  affectedResources := affected
  ipAddress := none
  userAgent := none
  createdAt := env.now

/-- The fields of a ping tree that the log of an update shows. -/
def pingTreeAuditFields (t : PingTree) : Json :=
  .obj [("id", idJson t.id), ("name", .str t.name), ("vertical", .str t.vertical),
    ("strategy", .str t.strategy), ("status", .str t.status), ("priority", optInt t.priority),
    ("instance_id", idJson t.instanceId)]

/-- The text of a path below a ping tree. -/
def pingTreePath (id : Uuid) (rest : String) : String :=
  "/api/v1/dashboard/ping_trees/" ++ id.toString ++ rest

def updatePingTree (id : Uuid) (payload : Json) : Handler Json := do
  let pingTree ← fetchOptional env 0 .pingTrees (livePingTree id)
  let before ← Prog.orStop 404 pingTree
  let c := PingTreeChanges.ofPayload payload
  if !c.hasUpdates then pure (messageJson "No changes to update")
  else do
    -- the statement lacks a comma after the status, so it never goes through with one
    let taken ← Prog.stmt (env.ok 1 && c.status.isNone) 500
      (pingTreeNameTaken (c.apply env.now before))
    Prog.whenever taken (Prog.stop 500)
    Database.update .pingTrees (livePingTree id) (c.apply env.now) fun _ => rfl
    let after ← fetchOrNone env 2 .pingTrees (livePingTree id)
    createAuditLog env 3 (pingTreeLog env before.instanceId "ping_tree_updated" id
      (auditDetails cfg env "update" "PingTree" id (.str ((after.map PingTree.name).getD ""))
        (contextJson "User updated ping tree via dashboard" "POST" (pingTreePath id ""))
        [("changes", .obj (c.changes before)), ("before", pingTreeAuditFields before),
          ("after", Json.ofOption pingTreeAuditFields after)]) (.obj []))
    pure (messageJson "Ping tree updated successfully")

/-- The campaigns of a ping tree, for the log of its deletion. -/
def campaignsOfPingTree (id : Uuid) : Handler (List Campaign) := do
  let links ← Database.rows .pingTreeCampaigns fun l : PingTreeCampaign => l.pingTreeId = id
  let campaigns ← Database.rows .campaigns fun c : Campaign =>
    c.id ∈ links.map PingTreeCampaign.campaignId
  pure campaigns

def deletePingTree (id : Uuid) : Handler Json := do
  let pingTree ← fetchOptional env 0 .pingTrees (livePingTree id)
  let t ← Prog.orStop 404 pingTree
  let affected ← Prog.attempt (env.ok 1) [] (campaignsOfPingTree id)
  execute env 2 (Database.update .pingTrees (fun t => t.id = id)
    (fun t => { t with deletedAt := some env.now }) fun _ => rfl)
  createAuditLog env 3 (pingTreeLog env t.instanceId "ping_tree_deleted" id
    (.obj [("ping_tree_name", .str t.name), ("ping_tree_vertical", .str t.vertical),
      ("ping_tree_strategy", .str t.strategy)])
    (.obj [("campaigns", .arr (affected.map affectedCampaign))]))
  pure (messageJson "Ping tree deleted successfully")

/-! ### Campaigns of a ping tree -/

/-- The campaign in the log of a change to the campaigns of a ping tree. -/
def affectedJson (campaign : Option Campaign) : Json :=
  .obj [("campaign", Json.ofOption (fun c : Campaign => .obj [("id", idJson c.id),
    ("name", optStr c.name), ("campaign_token", .str c.campaignToken)]) campaign)]

def addCampaignToPingTree (pingTreeId campaignId : Uuid) (priority : Option ℤ) : Handler Json := do
  let pingTree ← fetchOptional env 0 .pingTrees (livePingTree pingTreeId)
  let t ← Prog.orStop 404 pingTree
  let campaign ← fetchOrNone env 1 .campaigns (liveCampaign campaignId)
  execute env 2 (linkCampaign
    ⟨env.uuid 2, pingTreeId, campaignId, priority, true, env.now, env.now⟩
    (fun l => { l with priority := priority, enabled := true, updatedAt := env.now }) fun _ => rfl)
  createAuditLog env 3 (pingTreeLog env t.instanceId "ping_tree_campaign_added" pingTreeId
    (auditDetails cfg env "add_campaign" "PingTree" pingTreeId (.str t.name)
      (contextJson "User added campaign to ping tree via dashboard" "POST"
        (pingTreePath pingTreeId "/campaigns"))
      [("campaign_id", idJson campaignId), ("campaign_name", optStr (campaign.bind Campaign.name)),
        ("priority", optInt priority)]) (affectedJson campaign))
  pure (messageJson "Campaign added to ping tree successfully")

/-- A campaign that is in no other ping tree becomes inactive; an error counts as none. -/
def deactivateRonin (pingTreeId campaignId : Uuid) : Handler Unit := do
  let others ← fetchAllOrNone env 3 .pingTreeCampaigns fun l =>
    l.campaignId = campaignId ∧ l.pingTreeId ≠ pingTreeId
  Prog.whenever others.isEmpty (executeIgnored env 4
    (Database.update .campaigns (liveCampaign campaignId) (fun c => { c with status := .inactive })
      fun _ => rfl))

def removeCampaignFromPingTree (pingTreeId campaignId : Uuid) : Handler Json := do
  let pingTree ← fetchOptional env 0 .pingTrees (livePingTree pingTreeId)
  let t ← Prog.orStop 404 pingTree
  let campaign ← fetchOrNone env 1 .campaigns (liveCampaign campaignId)
  execute env 2 (Database.delete .pingTreeCampaigns fun l =>
    l.pingTreeId = pingTreeId ∧ l.campaignId = campaignId)
  deactivateRonin env pingTreeId campaignId
  createAuditLog env 5 (pingTreeLog env t.instanceId "ping_tree_campaign_removed" pingTreeId
    (auditDetails cfg env "remove_campaign" "PingTree" pingTreeId (.str t.name)
      (contextJson "User removed campaign from ping tree via dashboard" "DELETE"
        (pingTreePath pingTreeId ("/campaigns/" ++ campaignId.toString)))
      [("campaign_id", idJson campaignId), ("campaign_name", optStr (campaign.bind Campaign.name))])
    (affectedJson campaign))
  pure (messageJson "Campaign removed from ping tree successfully")

/-! ### Publishers of a ping tree -/

def listPingTreePublishers (id : Uuid) : Handler Json := do
  let pingTree ← fetchOptional env 0 .pingTrees (livePingTree id)
  let _ ← Prog.orStop 404 pingTree
  let assignments ← fetchAll env 1 .pingTreePublishers fun a => a.pingTreeId = id
  let details ← Prog.collect (fun a : PingTreePublisher × ℕ => do
    let publisher ← fetchOrNone env (10 + a.2) .publishers (livePublisher a.1.publisherId)
    pure (Json.obj [("id", idJson a.1.id), ("publisher_id", idJson a.1.publisherId),
      ("publisher_name", optStr (publisher.map Publisher.name)), ("vertical", .str a.1.vertical),
      ("revshare_percentage", optRat a.1.revsharePercentage),
      ("revshare_flat_amount", optRat a.1.revshareFlatAmount),
      ("created_at", timeJson cfg a.1.createdAt)]))
    (orderAsc PingTreePublisher.createdAt assignments).zipIdx
  pure (successJson [("publishers", .arr details)])

/-- A share of the revenue: a percentage or a flat amount. -/
structure Revshare where
  percentage : Option ℚ
  flatAmount : Option ℚ

/-- A number of the decimal type: a whole number of 96 bits over a power of ten up to the 28th. -/
def fitsDecimal (q : ℚ) : Bool :=
  (List.range 29).any fun k => (q * 10 ^ k).den = 1 ∧ (q * 10 ^ k).num.natAbs < 2 ^ 96

/-- A number rounded to two decimals, a half up (as no stored number is negative). -/
def cents (q : ℚ) : ℚ := (round (q * 100) : ℚ) / 100

/-- A column `DECIMAL(n + 2, 2)`: it is an error if more than `n` digits stand before the point. -/
def decimalColumn (n : ℕ) (q : ℚ) : Option ℚ :=
  if |cents q| < 10 ^ n then some (cents q) else none

namespace Revshare

/-- The decimals of the floats of a request; a number that is no decimal counts as absent. -/
def ofRequest (percentage flatAmount : Option F64) : Revshare :=
  let decimal : F64 → Option ℚ
    | .fin q => cfg.decimal q
    | _ => none
  ⟨percentage.bind decimal, flatAmount.bind decimal⟩

/-- `apply_defaults`. -/
def applyDefaults (s : Revshare) : Revshare :=
  if s.percentage.isNone ∧ s.flatAmount.isNone then ⟨some 80, none⟩ else s

/-- `validate_revshare`. -/
def valid (s : Revshare) : Bool :=
  !(s.percentage.isSome && s.flatAmount.isSome) &&
    s.percentage.all (fun p => 0 ≤ p ∧ p ≤ 100) && s.flatAmount.all (0 ≤ ·)

/-- What the columns `DECIMAL(5,2)` and `DECIMAL(10,2)` hold of it. -/
def stored (s : Revshare) : Option Revshare := do
  let percentage ← s.percentage.mapM (decimalColumn 3)
  let flatAmount ← s.flatAmount.mapM (decimalColumn 8)
  pure ⟨percentage, flatAmount⟩

end Revshare

/-- `UNIQUE (publisher_id, vertical)` and `UNIQUE (ping_tree_id, publisher_id)`. -/
def assignmentTaken (a : PingTreePublisher) : Handler Bool :=
  Database.present .pingTreePublishers fun a' => a'.publisherId = a.publisherId ∧
    (a'.vertical = a.vertical ∨ a'.pingTreeId = a.pingTreeId)

def addPublisherToPingTree (id publisherId : Uuid) (percentage flatAmount : Option F64) :
    Handler Json := do
  let pingTree ← fetchOptional env 0 .pingTrees (livePingTree id)
  let t ← Prog.orStop 404 pingTree
  let publisher ← fetchOptional env 1 .publishers (livePublisher publisherId)
  let _ ← Prog.orStop 400 publisher
  let share := (Revshare.ofRequest cfg percentage flatAmount).applyDefaults
  Prog.whenever (!share.valid) (Prog.stop 500)
  let share ← Prog.orStop 500 share.stored
  let a : PingTreePublisher :=
    ⟨env.uuid 0, id, publisherId, t.vertical, share.percentage, share.flatAmount, env.now, env.now⟩
  let taken ← execute env 2 (assignmentTaken a)
  Prog.whenever taken (Prog.stop 500)
  let inserted ← Database.insert .pingTreePublishers a
  Prog.whenever (!inserted) (Prog.stop 500)
  pure (successJson [("assignment", assignmentJson a),
    ("message", .str "Publisher added to ping tree successfully")])

def removePublisherFromPingTree (id publisherId : Uuid) : Handler Json := do
  let pingTree ← fetchOptional env 0 .pingTrees (livePingTree id)
  let _ ← Prog.orStop 404 pingTree
  execute env 1 (Database.delete .pingTreePublishers fun a =>
    a.pingTreeId = id ∧ a.publisherId = publisherId)
  pure (messageJson "Publisher removed from ping tree successfully")

def updatePingTreePublisherRevshare (id publisherId : Uuid) (percentage flatAmount : Option F64) :
    Handler Json := do
  let assignment ← fetchOptional env 0 .pingTreePublishers fun a =>
    a.pingTreeId = id ∧ a.publisherId = publisherId
  let a ← Prog.orStop 404 assignment
  let share := (Revshare.ofRequest cfg percentage flatAmount).applyDefaults
  Prog.whenever (!share.valid) (Prog.stop 500)
  let share ← Prog.orStop 500 share.stored
  execute env 1 (Database.update .pingTreePublishers (fun a' => a'.id = a.id)
    (fun a' => { a' with
      revsharePercentage := share.percentage
      revshareFlatAmount := share.flatAmount
      updatedAt := env.now }) fun _ => rfl)
  pure (successJson [
    ("assignment", .obj [("id", idJson a.id), ("publisher_id", idJson a.publisherId),
      ("revshare_percentage", optStr (share.percentage.map cfg.decimalText)),
      ("revshare_flat_amount", optStr (share.flatAmount.map cfg.decimalText))]),
    ("message", .str "Revshare updated successfully")])

end Dashboard

end LeadsNebula
