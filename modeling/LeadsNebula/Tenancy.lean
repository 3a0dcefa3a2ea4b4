/-
The dashboard's requests on publishers, buyers, campaigns, ping trees and rule sets,
and the rows that belong to an instance.

A row with an `instance_id` belongs to that instance; a row without one belongs to
the instance of the publisher, buyer or ping tree that it hangs on.  Users, verticals
and integrations belong to no instance.

* `Request`, `handle` — the requests and their handlers;
* `Foreign`, `mine`, `others` — the rows of other instances, and a database without
  and with nothing but them;
* `Separate` — no row refers from one instance to another;
* `Permitted` — a request names no row of another instance.
-/
import LeadsNebula.DashboardPingTrees
import LeadsNebula.DashboardRuleSets

namespace LeadsNebula

namespace Dashboard

inductive Request where
  | listPublishers
  | createPublisher (req : CreatePublisherRequest)
  | getPublisher (id : Uuid)
  | updatePublisher (id : Uuid) (payload : UpdatePublisherRequest)
  | deletePublisher (id : Uuid)
  | regeneratePublisherApiKey (id : Uuid)
  | getPublisherApiKey (id : Uuid)
  | generatePublisherHmacSecretEncrypted (id : Uuid)
  | getPublisherRevenueShare (id : Uuid)
  | listBuyers
  | createBuyer (req : CreateBuyerRequest)
  | getBuyer (id : Uuid)
  | updateBuyer (id : Uuid) (payload : Json)
  | deleteBuyer (id : Uuid)
  | listCampaigns
  | createCampaign (req : CreateCampaignRequest)
  | getCampaign (id : Uuid)
  | updateCampaign (id : Uuid) (payload : Json)
  | deleteCampaign (id : Uuid)
  | listPingTrees
  | createPingTree (req : CreatePingTreeRequest)
  | getPingTree (id : Uuid)
  | updatePingTree (id : Uuid) (payload : Json)
  | deletePingTree (id : Uuid)
  | addCampaignToPingTree (pingTreeId campaignId : Uuid) (priority : Option ℤ)
  | removeCampaignFromPingTree (pingTreeId campaignId : Uuid)
  | listPingTreePublishers (id : Uuid)
  | addPublisherToPingTree (id publisherId : Uuid) (percentage flatAmount : Option F64)
  | removePublisherFromPingTree (id publisherId : Uuid)
  | updatePingTreePublisherRevshare (id publisherId : Uuid) (percentage flatAmount : Option F64)
  | listBuyerRuleSets (buyerId : Uuid)
  | createBuyerRuleSet (buyerId : Uuid) (req : CreateRuleSetRequest)
  | getBuyerRuleSet (buyerId id : Uuid)
  | updateBuyerRuleSet (buyerId id : Uuid) (payload : Json)
  | deleteBuyerRuleSet (buyerId id : Uuid)
  | listAuditLogs (resourceType : ResourceType) (resourceId : Uuid)

def handle (cfg : DashConfig) (user : User) (env : DashEnv) : Request → Handler Json
  | .listPublishers => listPublishers cfg env user
  | .createPublisher req => createPublisher cfg env user req
  | .getPublisher id => getPublisher cfg env id
  | .updatePublisher id payload => updatePublisher cfg env user id payload
  | .deletePublisher id => deletePublisher cfg env user id
  | .regeneratePublisherApiKey id => regeneratePublisherApiKey cfg env user id
  | .getPublisherApiKey id => getPublisherApiKey cfg env user id
  | .generatePublisherHmacSecretEncrypted id => generatePublisherHmacSecretEncrypted cfg env user id
  | .getPublisherRevenueShare id => getPublisherRevenueShare cfg env id
  | .listBuyers => listBuyers cfg env user
  | .createBuyer req => createBuyer env user req
  | .getBuyer id => getBuyer cfg env id
  | .updateBuyer id payload => updateBuyer cfg env user id payload
  | .deleteBuyer id => deleteBuyer env id
  | .listCampaigns => listCampaigns cfg env user
  | .createCampaign req => createCampaign env user req
  | .getCampaign id => getCampaign cfg env user id
  | .updateCampaign id payload => updateCampaign cfg env id payload
  | .deleteCampaign id => deleteCampaign env id
  | .listPingTrees => listPingTrees cfg env user
  | .createPingTree req => createPingTree env user req
  | .getPingTree id => getPingTree cfg env user id
  | .updatePingTree id payload => updatePingTree cfg env id payload
  | .deletePingTree id => deletePingTree env id
  | .addCampaignToPingTree pingTreeId campaignId priority =>
    addCampaignToPingTree cfg env pingTreeId campaignId priority
  | .removeCampaignFromPingTree pingTreeId campaignId =>
    removeCampaignFromPingTree cfg env pingTreeId campaignId
  | .listPingTreePublishers id => listPingTreePublishers cfg env id
  | .addPublisherToPingTree id publisherId percentage flatAmount =>
    addPublisherToPingTree cfg env id publisherId percentage flatAmount
  | .removePublisherFromPingTree id publisherId => removePublisherFromPingTree env id publisherId
  | .updatePingTreePublisherRevshare id publisherId percentage flatAmount =>
    updatePingTreePublisherRevshare cfg env id publisherId percentage flatAmount
  | .listBuyerRuleSets buyerId => listBuyerRuleSets cfg env buyerId
  | .createBuyerRuleSet buyerId req => createBuyerRuleSet env buyerId req
  | .getBuyerRuleSet buyerId id => getBuyerRuleSet cfg env buyerId id
  | .updateBuyerRuleSet buyerId id payload => updateBuyerRuleSet cfg env user buyerId id payload
  | .deleteBuyerRuleSet buyerId id => deleteBuyerRuleSet env buyerId id
  | .listAuditLogs resourceType resourceId => listAuditLogs cfg env resourceType resourceId

/-- The responses to a sequence of requests of a user, and the database after them. -/
def serve (cfg : DashConfig) (user : User) (requests : List (DashEnv × Request)) (db : Db) :
    List (Except ℕ Json) × Db :=
  Prog.answers (requests.map fun r => handle cfg user r.1 r.2) db

/-! ### The rows of other instances -/

section

variable (i : Uuid) (db : Db)

def foreignPublisher (id : Uuid) : Bool :=
  (db .publishers).rows.any fun r => r.id = id ∧ r.instanceId ≠ i

def foreignBuyer (id : Uuid) : Bool := (db .buyers).rows.any fun b => b.id = id ∧ b.instanceId ≠ i

def foreignPingTree (id : Uuid) : Bool :=
  (db .pingTrees).rows.any fun t => t.id = id ∧ t.instanceId ≠ i

def foreignZipList (id : Uuid) : Bool :=
  (db .buyerZipLists).rows.any fun l => l.id = id && foreignBuyer i db l.buyerId

/-- The row belongs to another instance than `i`. -/
def Foreign : ∀ t, Row t → Bool
  | .instances, r => r.id ≠ i
  | .instanceUsers, _ => false
  | .verticals, _ => false
  | .buyerIntegrations, _ => false
  | .publishers, r => r.instanceId ≠ i
  | .publisherVerticals, l => foreignPublisher i db l.publisherId
  | .buyers, b => b.instanceId ≠ i
  | .buyerQualificationConfigs, r => foreignBuyer i db r.buyerId
  | .buyerZipLists, l => foreignBuyer i db l.buyerId
  | .buyerZipCodes, c => foreignZipList i db c.buyerZipListId
  | .campaigns, c => c.instanceId ≠ i
  | .pingTrees, t => t.instanceId ≠ i
  | .pingTreeCampaigns, l => foreignPingTree i db l.pingTreeId
  | .pingTreePublishers, a => foreignPingTree i db a.pingTreeId
  | .auditLogs, log => log.instanceId.any (· ≠ i)

/-- The rows of other instances. -/
def others : Db := db.restrict (Foreign i db)

/-- The database without the rows of other instances. -/
def mine : Db := db.restrict fun t r => !Foreign i db t r

end

/-- No row of `t` in `F` meets `p`. -/
def Free (F : Db) (t : Relation) (p : Row t → Bool) : Prop := ∀ r ∈ (F t).rows, p r = false

instance (F : Db) (t : Relation) (p : Row t → Bool) : Decidable (Free F t p) :=
  inferInstanceAs (Decidable (∀ r ∈ (F t).rows, p r = false))

/-- The row refers to no row of `F`, and no row of `F` refers to it. -/
def Apart (F : Db) : ∀ t, Row t → Prop
  | .campaigns, c => Free F .pingTreeCampaigns fun l => l.campaignId = c.id
  | .publishers, r => Free F .pingTreePublishers fun a => a.publisherId = r.id
  | .buyers, b => Free F .campaigns fun c => c.buyerId = b.id
  | .pingTreeCampaigns, l => Free F .campaigns fun c => c.id = l.campaignId
  | .pingTreePublishers, a => Free F .publishers (livePublisher a.publisherId)
  | _, _ => True

/-- No reference of a row leads from the instance `i` to another one, or back. -/
def Separate (i : Uuid) (db : Db) : Prop :=
  ∀ t, ∀ r ∈ (db t).rows, Foreign i db t r = false → Apart (others i db) t r

/-- The user has no instance but `i`. -/
def OwnsOnly (i : Uuid) (user : User) (db : Db) : Prop :=
  ∀ r ∈ (db .instances).rows, isInstanceOf user r = true → r.id = i

/-! ### Requests that name no row of another instance -/

/-- The id is no id of a row of `F`, and no row of `F` refers to it. -/
structure Fresh (F : Db) (id : Uuid) : Prop where
  publishers : Free F .publishers fun r => r.id = id
  buyers : Free F .buyers fun b => b.id = id
  ruleSets : Free F .buyerQualificationConfigs fun r => r.id = id
  zipLists : Free F .buyerZipLists fun l => l.id = id
  campaigns : Free F .campaigns fun c => c.id = id
  pingTrees : Free F .pingTrees fun t => t.id = id
  pingTreeCampaigns : Free F .pingTreeCampaigns fun l => l.id = id
  pingTreePublishers : Free F .pingTreePublishers fun a => a.id = id
  auditLogs : Free F .auditLogs fun log => log.id = id
  campaignOf : Free F .pingTreeCampaigns fun l => l.campaignId = id
  publisherOf : Free F .pingTreePublishers fun a => a.publisherId = id
  buyerOf : Free F .campaigns fun c => c.buyerId = id

/-- The random draws of a request are not in `F`. -/
structure FreshDraws (cfg : DashConfig) (F : Db) (env : DashEnv) : Prop where
  id : ∀ n, Fresh F (env.uuid n)
  apiKey : Free F .publishers fun r => r.apiKeyHash = cfg.hash ("pk_live_" ++ env.random)
  token : Free F .campaigns fun c => c.campaignToken = env.random

/-- The body says the instance `i`, or none. -/
def SaysInstance (i : Uuid) (instanceId : Option Uuid) : Prop := ∀ id ∈ instanceId, id = i

/-- The request names no row of `F`, the rows of other instances than `i`.  The handlers that look
at the instance of the user may be given any id. -/
def Permitted (i : Uuid) (F : Db) : Request → Prop
  | .listPublishers | .listBuyers | .listCampaigns | .getCampaign _ | .listPingTrees
  | .getPingTree _ => True
  | .createPublisher req => SaysInstance i req.instanceId ∧
    Free F .publishers fun r => r.email = req.email ∧ r.deletedAt = none
  | .getPublisher id | .deletePublisher id => Free F .publishers fun r => r.id = id
  | .updatePublisher id _ | .regeneratePublisherApiKey id | .getPublisherApiKey id
  | .generatePublisherHmacSecretEncrypted id | .getPublisherRevenueShare id =>
    Free F .publishers (livePublisher id)
  | .createBuyer req => SaysInstance i req.instanceId
  | .getBuyer id | .updateBuyer id _ => Free F .buyers fun b => b.id = id
  | .deleteBuyer id => Free F .buyers (liveBuyer id)
  | .createCampaign req => SaysInstance i req.instanceId ∧
    ∀ id ∈ req.pingTreeId, Free F .pingTrees fun t => t.id = id
  | .updateCampaign id _ => Free F .campaigns (liveCampaign id)
  | .deleteCampaign id => Free F .campaigns fun c => c.id = id
  | .createPingTree req => SaysInstance i req.instanceId
  | .updatePingTree id _ | .deletePingTree id | .listPingTreePublishers id
  | .removePublisherFromPingTree id _ => Free F .pingTrees (livePingTree id)
  | .addCampaignToPingTree pingTreeId campaignId _ =>
    Free F .pingTrees (livePingTree pingTreeId) ∧ Free F .campaigns fun c => c.id = campaignId
  | .removeCampaignFromPingTree pingTreeId campaignId =>
    Free F .pingTrees (livePingTree pingTreeId) ∧ Free F .campaigns (liveCampaign campaignId)
  | .addPublisherToPingTree id publisherId _ _ =>
    Free F .pingTrees (livePingTree id) ∧ Free F .publishers (livePublisher publisherId)
  | .updatePingTreePublisherRevshare id publisherId _ _ =>
    Free F .pingTreePublishers fun a => a.pingTreeId = id ∧ a.publisherId = publisherId
  | .listBuyerRuleSets buyerId => Free F .buyers fun b => b.id = buyerId
  | .createBuyerRuleSet buyerId _ => Free F .buyers (liveBuyer buyerId)
  | .getBuyerRuleSet buyerId id | .updateBuyerRuleSet buyerId id
    _ | .deleteBuyerRuleSet buyerId id =>
    Free F .buyerQualificationConfigs (isRuleSet buyerId id)
  | .listAuditLogs resourceType resourceId =>
    Free F .auditLogs fun log => log.resourceType = resourceType ∧ log.resourceId = resourceId

/-! ### An instance as a part of the database -/

section

variable {i : Uuid} {db db' : Db}

/-- The part of the instance `i`, as the database has it. -/
def partOf (i : Uuid) (db : Db) : DbPart key where
  foreign := Foreign i db
  others := others i db
  ok := Apart (others i db)

theorem within_partOf (h : Separate i db) : (partOf i db).Within db := ⟨rfl, h⟩

theorem mem_others {t : Relation} {r : Row t} :
    r ∈ (others i db t).rows ↔ r ∈ (db t).rows ∧ Foreign i db t r = true := List.mem_filter

theorem any_restrict (g : ∀ t, Row t → Bool) (t : Relation) (p : Row t → Bool) :
    (db.restrict g t).rows.any p = (db t).rows.any fun r => g t r && p r := List.any_filter

theorem any_others (t : Relation) (p : Row t → Bool) :
    (others i db t).rows.any p = (db t).rows.any fun r => p r && Foreign i db t r := by
  rw [others, any_restrict]
  simp only [Bool.and_comm]

theorem free_iff {F : Db} {t : Relation} {p : Row t → Bool} :
    Free F t p ↔ (F t).rows.any p = false := by
  simp only [Free, List.any_eq_false, Bool.not_eq_true]

/-! The rows that hang on a publisher, buyer, ping tree or list belong to another instance if
that does. -/

theorem foreignPublisher_eq (id : Uuid) :
    foreignPublisher i db id = (others i db .publishers).rows.any fun r => r.id = id := by
  rw [any_others]
  simp only [foreignPublisher, Foreign, Bool.decide_and]

theorem foreignBuyer_eq (id : Uuid) :
    foreignBuyer i db id = (others i db .buyers).rows.any fun b => b.id = id := by
  rw [any_others]
  simp only [foreignBuyer, Foreign, Bool.decide_and]

theorem foreignPingTree_eq (id : Uuid) :
    foreignPingTree i db id = (others i db .pingTrees).rows.any fun t => t.id = id := by
  rw [any_others]
  simp only [foreignPingTree, Foreign, Bool.decide_and]

theorem foreignZipList_eq (id : Uuid) :
    foreignZipList i db id = (others i db .buyerZipLists).rows.any fun l => l.id = id := by
  rw [any_others]
  simp only [foreignZipList, Foreign]

theorem foreignPublisher_eq_false {id : Uuid} :
    foreignPublisher i db id = false ↔ Free (others i db) .publishers fun r => r.id = id := by
  rw [foreignPublisher_eq, free_iff]

theorem foreignBuyer_eq_false {id : Uuid} :
    foreignBuyer i db id = false ↔ Free (others i db) .buyers fun b => b.id = id := by
  rw [foreignBuyer_eq, free_iff]

theorem foreignPingTree_eq_false {id : Uuid} :
    foreignPingTree i db id = false ↔ Free (others i db) .pingTrees fun t => t.id = id := by
  rw [foreignPingTree_eq, free_iff]

theorem foreignZipList_eq_false {id : Uuid} :
    foreignZipList i db id = false ↔ Free (others i db) .buyerZipLists fun l => l.id = id := by
  rw [foreignZipList_eq, free_iff]

/-- Which rows belong to other instances depends on the rows of other instances only. -/
theorem foreign_congr (h : db'.restrict (Foreign i db) = others i db) :
    Foreign i db' = Foreign i db := by
  have hat : ∀ t, db'.restrict (Foreign i db) t = others i db t := fun t => by rw [h]
  have hpublisher : foreignPublisher i db' = foreignPublisher i db := by
    funext id
    rw [foreignPublisher_eq, foreignPublisher_eq, ← hat]
    rfl
  have hbuyer : foreignBuyer i db' = foreignBuyer i db := by
    funext id
    rw [foreignBuyer_eq, foreignBuyer_eq, ← hat]
    rfl
  have htree : foreignPingTree i db' = foreignPingTree i db := by
    funext id
    rw [foreignPingTree_eq, foreignPingTree_eq, ← hat]
    rfl
  have hlist : foreignZipList i db' = foreignZipList i db := by
    funext id
    rw [show foreignZipList i db id = _ from foreignZipList_eq id, ← hat, any_restrict,
      foreignZipList, hbuyer]
    refine congrArg _ (funext fun r => ?_)
    simp only [Foreign, Bool.and_comm]
  funext t r
  cases t with
  | publisherVerticals => exact congrFun hpublisher _
  | buyerQualificationConfigs => exact congrFun hbuyer _
  | buyerZipLists => exact congrFun hbuyer _
  | buyerZipCodes => exact congrFun hlist _
  | pingTreeCampaigns => exact congrFun htree _
  | pingTreePublishers => exact congrFun htree _
  | _ => rfl

end

end Dashboard

end LeadsNebula
