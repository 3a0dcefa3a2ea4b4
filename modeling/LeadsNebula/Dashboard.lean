/-
The database that the dashboard works on, and what its handlers share
(`routes/dashboard.rs`).

A handler is a program over the tables; an error is its status code, and a body is
the JSON value of the response.  Whether a statement goes through (the connection,
a column too short for its value) is an input, as are the clock, the random draws,
and what the handlers read from the headers.
-/
import LeadsNebula.Confinement
import LeadsNebula.Publishers
import LeadsNebula.RuleSets
import LeadsNebula.UuidText

namespace LeadsNebula

namespace Dashboard

/-! ### Rows -/

structure Instance where
  id : Uuid
  instanceUserId : Option Uuid
  deletedAt : Option ℕ

structure Vertical where
  id : Uuid
  name : String
  slug : String

structure BuyerIntegration where
  id : Uuid
  name : String
  slug : String
  verticalId : Uuid
  isInternal : Bool
  status : String

structure PublisherVertical where
  publisherId : Uuid
  verticalId : Uuid

structure Buyer where
  id : Uuid
  name : String
  instanceId : Uuid
  verticalId : Option Uuid
  buyerIntegrationId : Option Uuid
  status : BuyerStatus
  postType : Option String
  buyerType : Option String
  emailAddress : Option String
  einTin : Option String
  addressStreet : Option String
  addressCity : Option String
  addressState : Option String
  addressZip : Option String
  representativeFirstName : Option String
  representativeLastName : Option String
  deletedAt : Option ℕ
  createdAt : ℕ
  updatedAt : ℕ

/-- A row of `buyer_qualification_configs`. -/
structure RuleSet extends LeadsNebula.RuleSet where
  buyerIntegrationId : Option Uuid
  createdAt : ℕ
  updatedAt : ℕ

inductive ListType where
  | blacklist
  | whitelist
  deriving DecidableEq

structure ZipList where
  id : Uuid
  buyerId : Uuid
  name : String
  listType : ListType
  createdAt : ℕ

structure ZipCode where
  buyerZipListId : Uuid
  zip : String

structure Campaign where
  id : Uuid
  buyerId : Uuid
  publisherId : Uuid
  instanceId : Uuid
  name : Option String
  vertical : String
  campaignToken : String
  status : CampaignStatus
  isDocumentationTest : Bool
  deletedAt : Option ℕ
  createdAt : ℕ
  updatedAt : ℕ

structure PingTree where
  id : Uuid
  instanceId : Uuid
  name : String
  vertical : String
  strategy : String
  status : String
  priority : Option ℤ
  deletedAt : Option ℕ
  createdAt : ℕ
  updatedAt : ℕ

structure PingTreeCampaign where
  id : Uuid
  pingTreeId : Uuid
  campaignId : Uuid
  priority : Option ℤ
  enabled : Bool
  createdAt : ℕ
  updatedAt : ℕ

structure PingTreePublisher where
  id : Uuid
  pingTreeId : Uuid
  publisherId : Uuid
  vertical : String
  revsharePercentage : Option ℚ
  revshareFlatAmount : Option ℚ
  createdAt : ℕ
  updatedAt : ℕ

inductive ResourceType where
  | publisher
  | buyer
  | campaign
  | pingTree
  deriving DecidableEq

structure AuditLog where
  id : Uuid
  instanceId : Option Uuid
  instanceUserId : Option Uuid
  actionType : String
  resourceType : ResourceType
  resourceId : Uuid
  details : Json
  affectedResources : Json
  ipAddress : Option String
  userAgent : Option String
  createdAt : ℕ

/-! ### Tables -/

inductive Relation where
  | instances
  | instanceUsers
  | verticals
  | buyerIntegrations
  | publishers
  | publisherVerticals
  | buyers
  | buyerQualificationConfigs
  | buyerZipLists
  | buyerZipCodes
  | campaigns
  | pingTrees
  | pingTreeCampaigns
  | pingTreePublishers
  | auditLogs
  deriving DecidableEq

@[reducible] def Row : Relation → Type
  | .instances => Instance
  | .instanceUsers => User
  | .verticals => Vertical
  | .buyerIntegrations => BuyerIntegration
  | .publishers => Publisher
  | .publisherVerticals => PublisherVertical
  | .buyers => Buyer
  | .buyerQualificationConfigs => RuleSet
  | .buyerZipLists => ZipList
  | .buyerZipCodes => ZipCode
  | .campaigns => Campaign
  | .pingTrees => PingTree
  | .pingTreeCampaigns => PingTreeCampaign
  | .pingTreePublishers => PingTreePublisher
  | .auditLogs => AuditLog

@[reducible] def Key : Relation → Type
  | .publisherVerticals => Uuid × Uuid
  | .buyerZipCodes => Uuid × String
  | _ => Uuid

instance : ∀ t, DecidableEq (Key t)
  | .instances | .instanceUsers | .verticals | .buyerIntegrations | .publishers | .buyers
  | .buyerQualificationConfigs | .buyerZipLists | .campaigns | .pingTrees | .pingTreeCampaigns
  | .pingTreePublishers | .auditLogs => inferInstanceAs (DecidableEq Uuid)
  | .publisherVerticals => inferInstanceAs (DecidableEq (Uuid × Uuid))
  | .buyerZipCodes => inferInstanceAs (DecidableEq (Uuid × String))

/-- The primary key; for the two tables whose `id` is never read, the pair of columns that is
unique. -/
def key : ∀ t, Row t → Key t
  | .instances, r => r.id
  | .instanceUsers, r => r.id
  | .verticals, r => r.id
  | .buyerIntegrations, r => r.id
  | .publishers, r => r.id
  | .publisherVerticals, r => (r.publisherId, r.verticalId)
  | .buyers, r => r.id
  | .buyerQualificationConfigs, r => r.id
  | .buyerZipLists, r => r.id
  | .buyerZipCodes, r => (r.buyerZipListId, r.zip)
  | .campaigns, r => r.id
  | .pingTrees, r => r.id
  | .pingTreeCampaigns, r => r.id
  | .pingTreePublishers, r => r.id
  | .auditLogs, r => r.id

abbrev Db := Database key

/-- A program of a handler; it stops with a status code. -/
abbrev Handler (α : Type) := Prog Db ℕ α

/-! ### Inputs -/

/-- The functions of other packages: SHA-256, the decryption of a stored key, the texts of a time
and of a decimal, and the decimal of a number (`Decimal::from_str` of its text). -/
structure DashConfig where
  hash : String → String
  decrypt : String → Option String
  rfc3339 : ℕ → String
  decimalText : ℚ → String
  decimal : ℚ → Option ℚ

/-- What a request does not say: the time, which statements go through, the random draws, and
the values that are read from the headers. -/
structure DashEnv where
  now : ℕ
  ok : ℕ → Bool
  uuid : ℕ → Uuid
  /-- The random bytes of a key, a secret or a token, as hexadecimal text. -/
  random : String
  /-- The encrypted key. -/
  encrypted : Option String
  ipAddress : Option String
  userAgent : Option String
  requestId : String
  sessionId : Option String
  referer : Option String

variable (cfg : DashConfig) (env : DashEnv)

/-! ### Statements

A statement that fails gives the status 500, or nothing where its error is not looked at. -/

section

variable {α : Type}

/-- `fetch_all(…).map_err(…)?`. -/
abbrev fetchAll (n : ℕ) (t : Relation) (p : Row t → Bool) : Handler (List (Row t)) :=
  Prog.stmt (env.ok n) 500 (Database.rows t p)

/-- `fetch_all(…).unwrap_or_default()`. -/
abbrev fetchAllOrNone (n : ℕ) (t : Relation) (p : Row t → Bool) : Handler (List (Row t)) :=
  Prog.attempt (env.ok n) [] (Database.rows t p)

/-- `fetch_optional(…).map_err(…)?`. -/
abbrev fetchOptional (n : ℕ) (t : Relation) (p : Row t → Bool) : Handler (Option (Row t)) :=
  Prog.stmt (env.ok n) 500 (Database.first t p)

/-- `fetch_optional(…).ok().flatten()`. -/
abbrev fetchOrNone (n : ℕ) (t : Relation) (p : Row t → Bool) : Handler (Option (Row t)) :=
  Prog.attempt (env.ok n) none (Database.first t p)

/-- `execute(…).map_err(…)?`. -/
abbrev execute (n : ℕ) (m : Handler α) : Handler α := Prog.stmt (env.ok n) 500 m

/-- `let _ = execute(…)`. -/
abbrev executeIgnored (n : ℕ) (m : Handler Unit) : Handler Unit := Prog.attempt (env.ok n) () m

end

/-- The rows in the order of `f`, the greatest first. -/
def orderDesc {α : Type} (f : α → ℕ) (l : List α) : List α := l.mergeSort fun a b => f b ≤ f a

/-- The rows in the order of `f`, the least first. -/
def orderAsc {α : Type} (f : α → ℕ) (l : List α) : List α := l.mergeSort fun a b => f a ≤ f b

/-- `get_instance_id_for_user`. -/
def isInstanceOf (user : User) (r : Instance) : Bool :=
  r.instanceUserId = some user.id ∧ r.deletedAt = none

def getInstanceIdForUser (n : ℕ) (user : User) : Handler (Option Uuid) := do
  let r ← fetchOptional env n .instances (isInstanceOf user)
  pure (r.map Instance.id)

/-- The instance of the user, or the status 400. -/
def requireInstance (n : ℕ) (user : User) : Handler Uuid := do
  let instanceId ← getInstanceIdForUser env n user
  Prog.orStop 400 instanceId

/-- The instance that a new row is put in: the one of the body, else the user's. -/
def targetInstance (n : ℕ) (user : User) : Option Uuid → Handler Uuid
  | some id => pure id
  | none => requireInstance env n user

/-! ### JSON -/

def idJson (id : Uuid) : Json := .str id.toString

def optStr (s : Option String) : Json := Json.ofOption .str s

def optId (id : Option Uuid) : Json := Json.ofOption idJson id

def timeJson (time : ℕ) : Json := .str (cfg.rfc3339 time)

def optTime (time : Option ℕ) : Json := Json.ofOption (timeJson cfg) time

def optInt (n : Option ℤ) : Json := Json.ofOption (fun n : ℤ => .num n) n

/-- A decimal that is rendered as a float. -/
def optRat (q : Option ℚ) : Json := Json.ofOption .num q

def successJson (fields : List (String × Json)) : Json := .obj (("success", .bool true) :: fields)

def messageJson (message : String) : Json := successJson [("message", .str message)]

def errorJson (error : String) : Json := .obj [("success", .bool false), ("error", .str error)]

def verticalJson (v : Vertical) : Json :=
  .obj [("id", idJson v.id), ("name", .str v.name), ("slug", .str v.slug)]

/-! ### Audit logs -/

def complianceJson : Json :=
  .obj [("standard", .str "ISO_27001_SOC2_NIST"), ("version", .str "2024")]

/-- The details of a log about a change. -/
def auditDetails (action targetType : String) (targetId : Uuid) (targetName : Json)
    (context : List (String × Json)) (rest : List (String × Json)) : Json :=
  .obj ([("action", .str action), ("target_type", .str targetType), ("target_id", idJson targetId),
    ("target_name", targetName), ("context", .obj context), ("compliance", complianceJson),
    ("outcome", .str "success"), ("timestamp", timeJson cfg env.now)] ++ rest)

def contextJson (reason method endpoint : String) : List (String × Json) :=
  [("reason", .str reason), ("method", .str method), ("endpoint", .str endpoint),
    ("source", .str "dashboard_web_ui")]

/-- `a != b`, for the values that are neither arrays nor objects. -/
def differs : Json → Json → Bool
  | .null, .null => false
  | .bool a, .bool b => a ≠ b
  | .num a, .num b => a ≠ b
  | .str a, .str b => a ≠ b
  | _, _ => true

def changeJson (before after : Json) : Json := .obj [("before", before), ("after", after)]

/-- The fields that differ, with both values. -/
def changedFields (before after : List (String × Json)) : List (String × Json) :=
  before.filterMap fun f =>
    (after.lookup f.1).bind fun a => if differs f.2 a then some (f.1, changeJson f.2 a) else none

/-- `create_audit_log`; its error is not looked at. -/
def createAuditLog (n : ℕ) (log : AuditLog) : Handler Unit :=
  executeIgnored env n do
    let _ ← Database.insert .auditLogs log
    pure ()

/-- The answer of `list_publisher_audit_logs` and its siblings. -/
def auditLogJson (log : AuditLog) (user : Option User) : Json :=
  .obj [("id", idJson log.id), ("action_type", .str log.actionType),
    ("user", .str (match user with
      | some u =>
        match u.firstName, u.lastName with
        | some first, some last =>
          if first ≠ "" ∨ last ≠ "" then trim (first ++ " " ++ last) else u.email
        | _, _ => u.email
      | none => "Unknown")),
    ("details", log.details), ("affected_resources", log.affectedResources),
    ("created_at", timeJson cfg log.createdAt)]

/-- `list_publisher_audit_logs`, `list_buyer_audit_logs`, `list_campaign_audit_logs` and
`list_ping_tree_audit_logs`. -/
def listAuditLogs (resourceType : ResourceType) (resourceId : Uuid) : Handler Json := do
  let logs ← fetchAll env 0 .auditLogs fun log =>
    log.resourceType = resourceType ∧ log.resourceId = resourceId
  let users ← Database.rows .instanceUsers fun _ => true
  pure (successJson [("audit_logs", .arr (((orderDesc AuditLog.createdAt logs).take 100).map
    fun log => auditLogJson cfg log (users.find? fun u => some u.id = log.instanceUserId)))])

end Dashboard

end LeadsNebula
