/-
The dashboard's handlers of rule sets (`routes/dashboard.rs`).

The handlers find a rule set by its id and the id of its buyer, both of the path.
The lists of ZIP codes in a config are kept in tables of their own, one list of each
kind for a buyer, and are put back into a config that is shown.
-/
import LeadsNebula.DashboardBuyers

namespace LeadsNebula

namespace Dashboard

variable (cfg : DashConfig) (env : DashEnv)

/-! ### ZIP codes -/

def ListType.field : ListType → String
  | blacklist => "zip_blacklist"
  | whitelist => "zip_whitelist"

def ListType.listName : ListType → String
  | blacklist => "Default Blacklist"
  | whitelist => "Default Whitelist"

/-- The place of a kind of list among the statements and the draws of a request. -/
def ListType.place : ListType → ℕ
  | blacklist => 0
  | whitelist => 1

/-- `find_or_create_zip_list`, `none` if a statement fails. -/
def findOrCreateZipList (n : ℕ) (buyerId : Uuid) (listType : ListType) : Handler (Option Uuid) := do
  let lists ← Prog.attempt (env.ok n) none do
    let lists ← Database.rows .buyerZipLists fun l : ZipList =>
      l.buyerId = buyerId ∧ l.listType = listType
    pure (some lists)
  match lists with
  | none => pure none
  | some lists =>
    match (orderAsc ZipList.createdAt lists).head? with
    | some l => pure (some l.id)
    | none => do
      let id := env.uuid (2 + listType.place)
      let inserted ← Prog.attempt (env.ok (n + 1)) false
        (Database.insert .buyerZipLists ⟨id, buyerId, listType.listName, listType, env.now⟩)
      pure (if inserted then some id else none)

/-- Five digits. -/
def isZip (s : String) : Bool := s.utf8ByteSize = 5 && s.toList.all fun c => '0' ≤ c ∧ c ≤ '9'

/-- Adds the ZIP codes of an array that are not in the list; what fails is left out. -/
def insertZipCodes (n : ℕ) (listId : Uuid) (existing : List String) (zips : List Json) :
    Handler Unit := do
  let new := (zips.filterMap fun z => z.asStr.map trim).filter fun z => isZip z && z ∉ existing
  let _ ← Prog.collect (fun z : String × ℕ =>
    executeIgnored env (n + z.2) do
      let _ ← Database.insert .buyerZipCodes ⟨listId, z.1⟩
      pure ()) new.zipIdx
  pure ()

/-- Moves the ZIP codes of one kind from the config to the tables.  `none` if a statement fails;
the config then keeps them. -/
def storeZipCodes (buyerId : Uuid) (listType : ListType) (config : Json) : Handler (Option Json) :=
  let n := 10 + 1000 * listType.place
  match config, (config.get listType.field).bind Json.asArray with
  | .obj m, some zips => do
    let listId ← findOrCreateZipList env n buyerId listType
    match listId with
    | none => pure none
    | some listId => do
      let codes ← Prog.attempt (env.ok (n + 2)) none do
        let codes ← Database.rows .buyerZipCodes fun c : ZipCode => c.buyerZipListId = listId
        pure (some codes)
      match codes with
      | none => pure none
      | some codes => do
        insertZipCodes env (n + 3) listId (codes.map ZipCode.zip) zips
        pure (some (.obj (m.filter (·.1 ≠ listType.field))))
  | config, _ => pure (some config)

/-- `extract_and_store_zip_codes`: the config that is left, also after an error. -/
def extractAndStoreZipCodes (buyerId : Uuid) (config : Json) : Handler Json := do
  let cleaned ← storeZipCodes env buyerId .blacklist config
  match cleaned with
  | none => pure config
  | some config => do
    let cleaned ← storeZipCodes env buyerId .whitelist config
    pure (cleaned.getD config)

/-- The ZIP codes of the lists of one kind. -/
def zipsOf (lists : List ZipList) (codes : List ZipCode) (listType : ListType) : List String :=
  ((codes.filter fun c => lists.any fun l => l.id = c.buyerZipListId ∧ l.listType = listType).map
    ZipCode.zip).dedup.mergeSort fun a b => a ≤ b

/-- `load_zip_codes_from_tables`, `none` if a statement fails. -/
def loadZipCodesFromTables (n : ℕ) (buyerId : Uuid) :
    Handler (Option (List String × List String)) :=
  Prog.attempt (env.ok n && env.ok (n + 1)) none do
    let lists ← Database.rows .buyerZipLists fun l : ZipList => l.buyerId = buyerId
    let codes ← Database.rows .buyerZipCodes fun c : ZipCode =>
      c.buyerZipListId ∈ lists.map ZipList.id
    pure (some (zipsOf lists codes .blacklist, zipsOf lists codes .whitelist))

/-- Puts the ZIP codes of one kind into a config. -/
def putZips (field : String) (zips : List String) (m : List (String × Json)) :
    List (String × Json) :=
  if zips.isEmpty then m.filter (·.1 ≠ field)
  else Json.insertField field (.arr (zips.map .str)) m

def mergeZips (zips : List String × List String) : Json → Json
  | .obj m => .obj (putZips "zip_whitelist" zips.2 (putZips "zip_blacklist" zips.1 m))
  | config => config

/-! ### Reading -/

def ruleSetJson (r : RuleSet) (config : Json) : Json :=
  .obj [("id", idJson r.id), ("buyer_id", idJson r.buyerId), ("vertical_id", idJson r.verticalId),
    ("buyer_integration_id", optId r.buyerIntegrationId), ("rule_set_name", .str r.ruleSetName),
    ("config", config), ("rules_order", .arr (r.rulesOrder.map .str)), ("enabled", .bool r.enabled),
    ("is_active", .bool r.isActive), ("timeout_seconds", .ofF64 r.timeoutSeconds),
    ("created_at", timeJson cfg r.createdAt), ("updated_at", timeJson cfg r.updatedAt)]

def listBuyerRuleSets (buyerId : Uuid) : Handler Json := do
  let ruleSets ← fetchAll env 0 .buyerQualificationConfigs fun r => r.buyerId = buyerId
  let zips ← loadZipCodesFromTables env 1 buyerId
  pure (successJson [("rule_sets", .arr ((orderDesc RuleSet.createdAt ruleSets).map fun r =>
    ruleSetJson cfg r (mergeZips (zips.getD ([], [])) r.config)))])

/-- `id = $1 AND buyer_id = $2`. -/
def isRuleSet (buyerId id : Uuid) (r : RuleSet) : Bool := r.id = id ∧ r.buyerId = buyerId

def getBuyerRuleSet (buyerId id : Uuid) : Handler Json := do
  let ruleSet ← fetchOptional env 0 .buyerQualificationConfigs (isRuleSet buyerId id)
  let r ← Prog.orStop 404 ruleSet
  let zips ← loadZipCodesFromTables env 1 buyerId
  pure (successJson [("rule_set", ruleSetJson cfg r
    ((zips.map fun zips => mergeZips zips r.config).getD r.config))])

/-! ### Writing -/

/-- The instance of a buyer, for a log. -/
def instanceOfBuyer (n : ℕ) (buyerId : Uuid) : Handler (Option Uuid) := do
  let buyer ← fetchOrNone env n .buyers fun b => b.id = buyerId
  pure (buyer.map Buyer.instanceId)

/-- `UNIQUE (buyer_id, vertical_id, rule_set_name)`: another row has the name. -/
def ruleSetNameTaken (r : RuleSet) : Handler Bool :=
  Database.present .buyerQualificationConfigs fun r' => r'.buyerId = r.buyerId ∧ r'.id ≠ r.id ∧
    r'.verticalId = r.verticalId ∧ r'.ruleSetName = r.ruleSetName

/-- `UPDATE buyer_qualification_configs SET is_active = false WHERE …`. -/
def deactivateRuleSets (p : RuleSet → Bool) : Handler Unit :=
  Database.update .buyerQualificationConfigs p
    (fun r => { r with toRuleSet := { r.toRuleSet with isActive := false } }) fun _ => rfl

/-- The row of a new rule set. -/
def newRuleSet (new : LeadsNebula.RuleSet) (config : Json) (now : ℕ) : RuleSet where
  toRuleSet := { new with config := config }
  buyerIntegrationId := none
  createdAt := now
  updatedAt := now

def createBuyerRuleSet (buyerId : Uuid) (req : CreateRuleSetRequest) : Handler Json := do
  let buyer ← fetchOptional env 0 .buyers (liveBuyer buyerId)
  let b ← Prog.orStop 404 buyer
  let verticalId ← Prog.orStop 400 b.verticalId
  let id := env.uuid 0
  let new := req.row id buyerId verticalId
  Prog.whenever new.isActive
    (execute env 1 (deactivateRuleSets fun r => r.buyerId = buyerId))
  let config ← extractAndStoreZipCodes env buyerId (req.config.getD (.obj []))
  let row := newRuleSet new config env.now
  let taken ← execute env 2 (ruleSetNameTaken row)
  let hasVertical ← Database.present .verticals fun v => v.id = verticalId
  Prog.whenever (taken || !hasVertical) (Prog.stop 500)
  let inserted ← Database.insert .buyerQualificationConfigs row
  Prog.whenever (!inserted) (Prog.stop 500)
  let instanceId ← instanceOfBuyer env 3 buyerId
  createAuditLog env 4 (buyerLog env instanceId none "buyer_rule_set_created" buyerId
    (.obj [("rule_set_id", idJson id), ("rule_set_name", .str row.ruleSetName),
      ("is_active", .bool row.isActive), ("enabled", .bool row.enabled),
      ("timeout_seconds", .ofF64 row.timeoutSeconds)]) (.obj []) none none)
  pure (successJson [
    ("rule_set", .obj [("id", idJson id), ("rule_set_name", .str row.ruleSetName),
      ("is_active", .bool row.isActive)]),
    ("message", .str "Rule set created successfully")])

/-- The fields of a rule set that the log of an update shows. -/
def ruleSetAuditFields (r : RuleSet) : Json :=
  .obj [("rule_set_name", .str r.ruleSetName), ("is_active", .bool r.isActive),
    ("enabled", .bool r.enabled), ("timeout_seconds", .ofF64 r.timeoutSeconds),
    ("config", r.config)]

/-- The changes that the log of an update shows; the config is always among them. -/
def ruleSetChanges (before after : RuleSet) : List (String × Json) :=
  (if before.ruleSetName ≠ after.ruleSetName then
    [("rule_set_name", changeJson (.str before.ruleSetName) (.str after.ruleSetName))] else []) ++
  [("config", changeJson before.config after.config)] ++
  (if before.isActive ≠ after.isActive then
    [("is_active", changeJson (.bool before.isActive) (.bool after.isActive))] else []) ++
  (if before.enabled ≠ after.enabled then
    [("enabled", changeJson (.bool before.enabled) (.bool after.enabled))] else []) ++
  (if F64.lt (.fin (1 / 1000)) (F64.abs (F64.sub before.timeoutSeconds after.timeoutSeconds)) then
    [("timeout_seconds", changeJson (.ofF64 before.timeoutSeconds) (.ofF64 after.timeoutSeconds))]
    else [])

def ruleSetAction (changes : List (String × Json)) : String :=
  match changes.lookup "is_active" with
  | some ch =>
    if ((ch.get "after").bind Json.asBool).getD false then "buyer_rule_set_activated"
    else "buyer_rule_set_deactivated"
  | none =>
    if changes.map Prod.fst = ["timeout_seconds"] then "buyer_rule_set_timeout_updated"
    else "buyer_rule_set_updated"

def ruleSetUpdateLog (user : User) (buyerId id : Uuid) (instanceId : Option Uuid) (before : RuleSet)
    (after : Option RuleSet) : AuditLog :=
  let changes := (after.map (ruleSetChanges before)).getD []
  buyerLog env instanceId (some user.id) (ruleSetAction changes) buyerId
    (auditDetails cfg env "update" "BuyerRuleSet" id
      (.str ((after.map fun r => r.ruleSetName).getD ""))
      (buyerContext env "User updated rule set via dashboard"
        ("/api/v1/dashboard/buyers/" ++ buyerId.toString ++ "/rule_sets/" ++ id.toString))
      [("actor", actorJson user instanceId), ("changes", .obj changes),
        ("before", ruleSetAuditFields before),
        ("after", Json.ofOption ruleSetAuditFields after)])
    (.obj []) env.ipAddress env.userAgent

/-- The row after the update. -/
def updatedRuleSet (c : RuleSetChanges) (now : ℕ) (r : RuleSet) : RuleSet :=
  { r with toRuleSet := c.apply r.toRuleSet, updatedAt := now }

/-- The config of the payload, without its ZIP codes. -/
def extractConfig (buyerId : Uuid) : Option Json → Handler (Option Json)
  | none => pure none
  | some config => do
    let config ← extractAndStoreZipCodes env buyerId config
    pure (some config)

def updateBuyerRuleSet (user : User) (buyerId id : Uuid) (payload : Json) : Handler Json := do
  let ruleSet ← fetchOptional env 0 .buyerQualificationConfigs (isRuleSet buyerId id)
  let before ← Prog.orStop 404 ruleSet
  let config ← extractConfig env buyerId (payload.get "config")
  let c := { RuleSetChanges.ofPayload payload with config := config }
  Prog.whenever (c.isActive = some true)
    (execute env 1 (deactivateRuleSets fun r => r.buyerId = buyerId ∧ r.id ≠ id))
  if !c.hasUpdates then pure (messageJson "No updates provided")
  else do
    let taken ← execute env 2 (ruleSetNameTaken (updatedRuleSet c env.now before))
    Prog.whenever taken (Prog.stop 500)
    Database.update .buyerQualificationConfigs (isRuleSet buyerId id) (updatedRuleSet c env.now)
      fun _ => rfl
    let instanceId ← instanceOfBuyer env 3 buyerId
    let after ← fetchOrNone env 4 .buyerQualificationConfigs (isRuleSet buyerId id)
    createAuditLog env 5 (ruleSetUpdateLog cfg env user buyerId id instanceId before after)
    pure (messageJson "Rule set updated successfully")

def deleteBuyerRuleSet (buyerId id : Uuid) : Handler Json := do
  let before ← fetchOptional env 0 .buyerQualificationConfigs (isRuleSet buyerId id)
  let deleted ← fetchAll env 1 .buyerQualificationConfigs (isRuleSet buyerId id)
  Database.delete .buyerQualificationConfigs (isRuleSet buyerId id)
  Prog.whenever deleted.isEmpty (Prog.stop 404)
  let instanceId ← instanceOfBuyer env 2 buyerId
  createAuditLog env 3 (buyerLog env instanceId none "buyer_rule_set_deleted" buyerId
    (.obj [("rule_set_id", idJson id),
      ("rule_set_name", .str ((before.map fun r => r.ruleSetName).getD "Unknown")),
      ("was_active", .bool ((before.map fun r => r.isActive).getD false))]) (.obj []) none none)
  pure (messageJson "Rule set deleted successfully")

end Dashboard

end LeadsNebula
