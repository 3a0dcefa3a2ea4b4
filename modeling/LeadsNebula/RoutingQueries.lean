/-
What the router caches, and the queries it caches (`core/src/models/ping_tree.rs`,
`ping_tree_campaign.rs`, `campaign.rs`, `buyer_qualification_config.rs`).

The queries read the tables that the dashboard edits.  SQL leaves the order of some
rows open, so what a query returns is a relation.

* `LeadCacheParams.lawful_schema` — keys, types and codecs of the cache, as one schema;
* `RoutingDb.Answers` — what the database answers for a key;
* `FindsEnabled.mem` — the campaigns of a ping tree are enabled in it and active.
-/
import LeadsNebula.CachedReads
import LeadsNebula.CacheKeys
import LeadsNebula.Dashboard
import LeadsNebula.QualificationConfigs
import Mathlib.Data.List.ProdSigma

/-- The table of the images of the rows, under the same keys. -/
def Table.mapRows {κ ρ ρ' : Type} {key : ρ → κ} (t : Table key) (key' : ρ' → κ) (f : ρ → ρ')
    (hf : ∀ r, key' (f r) = key r) : Table key' where
  rows := t.rows.map f
  nodup := by
    have hkeys : (t.rows.map f).map key' = t.rows.map key := by
      rw [List.map_map]
      exact List.map_congr_left fun r _ => hf r
    rw [hkeys]
    exact t.nodup

namespace LeadsNebula

/-! ### The tables -/

namespace Dashboard

def PingTree.toPingTree (r : PingTree) : LeadsNebula.PingTree :=
  ⟨r.id, r.strategy, r.status, r.deletedAt⟩

def PingTreeCampaign.toPingTreeCampaign (r : PingTreeCampaign) : LeadsNebula.PingTreeCampaign :=
  ⟨r.campaignId, r.priority⟩

def Campaign.toCampaign (r : Campaign) : LeadsNebula.Campaign :=
  ⟨r.id, r.buyerId, r.status, r.deletedAt⟩

def Buyer.toBuyer (r : Buyer) : LeadsNebula.Buyer :=
  ⟨r.id, r.buyerIntegrationId, r.status, r.deletedAt⟩

def RuleSet.toStored (r : RuleSet) : StoredRuleSet := { r with createdAt := r.createdAt }

end Dashboard

/-- The database, with a column of `buyer_integrations` that the dashboard does not read. -/
structure RoutingDb where
  dash : Dashboard.Db
  postingUrlTemplate : Uuid → Option String

namespace RoutingDb

variable (db : RoutingDb)

/-- The tables of campaigns, buyers and integrations, with the columns that routing reads. -/
def buyerTables : BuyerTables where
  campaigns := (db.dash .campaigns).mapRows Campaign.id Dashboard.Campaign.toCampaign fun _ => rfl
  buyers := (db.dash .buyers).mapRows Buyer.id Dashboard.Buyer.toBuyer fun _ => rfl
  integrations := (db.dash .buyerIntegrations).mapRows (fun r : IntegrationRow => r.integration.id)
    (fun r => ⟨⟨r.id, r.slug, db.postingUrlTemplate r.id, r.isInternal⟩, r.status⟩) fun _ => rfl

def configTable : ConfigTable :=
  (db.dash .buyerQualificationConfigs).mapRows (fun r : StoredRuleSet => r.id)
    Dashboard.RuleSet.toStored fun _ => rfl

/-! ### The queries -/

/-- `ORDER BY priority ASC NULLS LAST, created_at ASC`: the first may stand before the second. -/
def NotAfter : Option ℤ × ℕ → Option ℤ × ℕ → Prop
  | (some p, t), (some q, u) => p < q ∨ p = q ∧ t ≤ u
  | (some _, _), (none, _) => True
  | (none, _), (some _, _) => False
  | (none, t), (none, u) => t ≤ u

/-- The rows of `PingTree::find_for_routing`, without its `LIMIT`. -/
structure RoutingRows (publisherId : Uuid) (vertical : String)
    (rows : List (Dashboard.PingTree × Dashboard.PingTreePublisher)) : Prop where
  joined : rows.Perm (((db.dash .pingTrees).rows.product (db.dash .pingTreePublishers).rows).filter
    fun r => r.1.id = r.2.pingTreeId ∧ r.2.publisherId = publisherId ∧ r.1.vertical = vertical ∧
      r.1.deletedAt = none)
  ordered : rows.Pairwise fun a b =>
    NotAfter (a.1.priority, a.1.createdAt) (b.1.priority, b.1.createdAt)

/-- `PingTree::find_for_routing`. -/
def FindsForRouting (publisherId : Uuid) (vertical : String)
    (found : Option (PingTree × Option ℚ × Option ℚ)) : Prop :=
  ∃ rows, db.RoutingRows publisherId vertical rows ∧
    found = rows.head?.map fun r =>
      (r.1.toPingTree, r.2.revsharePercentage, r.2.revshareFlatAmount)

/-- The rows of `PingTreeCampaign::find_enabled_for_ping_tree`, joined with the campaigns. -/
structure EnabledRows (pingTreeId : Uuid)
    (rows : List (Dashboard.PingTreeCampaign × Dashboard.Campaign)) : Prop where
  joined : rows.Perm (((db.dash .pingTreeCampaigns).rows.product (db.dash .campaigns).rows).filter
    fun r => r.1.campaignId = r.2.id ∧ r.1.pingTreeId = pingTreeId ∧ r.1.enabled = true ∧
      r.2.status = .active ∧ r.2.deletedAt = none)
  ordered : rows.Pairwise fun a b =>
    NotAfter (a.1.priority, a.1.createdAt) (b.1.priority, b.1.createdAt)

/-- `PingTreeCampaign::find_enabled_for_ping_tree`. -/
def FindsEnabled (pingTreeId : Uuid) (links : List PingTreeCampaign) : Prop :=
  ∃ rows, db.EnabledRows pingTreeId rows ∧ links = rows.map fun r => r.1.toPingTreeCampaign

/-- `SELECT buyer_id FROM campaigns WHERE id = $1 AND deleted_at IS NULL`. -/
def buyerIdOf (campaignId : Uuid) : Option Uuid :=
  ((db.dash .campaigns).select fun r => r.id = campaignId ∧ r.deletedAt = none).map (·.buyerId)

/-- `SELECT name FROM buyers WHERE id = $1 AND deleted_at IS NULL`. -/
def buyerName (buyerId : Uuid) : Option String :=
  ((db.dash .buyers).select fun r => r.id = buyerId ∧ r.deletedAt = none).map (·.name)

/-- `SELECT name FROM campaigns WHERE id = $1 AND deleted_at IS NULL`, with the column as it is. -/
def campaignName (campaignId : Uuid) : Option (Option String) :=
  ((db.dash .campaigns).select fun r => r.id = campaignId ∧ r.deletedAt = none).map (·.name)

/-- A campaign is active and not deleted, and is enabled in the ping tree. -/
def Enabled (pingTreeId campaignId : Uuid) : Prop :=
  ∃ link ∈ (db.dash .pingTreeCampaigns).rows, ∃ c ∈ (db.dash .campaigns).rows,
    link.pingTreeId = pingTreeId ∧ link.campaignId = campaignId ∧ link.enabled = true ∧
    c.id = campaignId ∧ c.status = .active ∧ c.deletedAt = none

variable {db}

theorem FindsEnabled.mem {pingTreeId : Uuid} {links : List PingTreeCampaign}
    (h : db.FindsEnabled pingTreeId links) {link : PingTreeCampaign} (hlink : link ∈ links) :
    db.Enabled pingTreeId link.campaignId := by
  obtain ⟨rows, hrows, rfl⟩ := h
  obtain ⟨r, hr, rfl⟩ := List.mem_map.mp hlink
  obtain ⟨hmem, hp⟩ := List.mem_filter.mp (hrows.joined.mem_iff.mp hr)
  obtain ⟨hjoin, htree, henabled, hstatus, hdeleted⟩ := of_decide_eq_true hp
  obtain ⟨hlinks, hcampaigns⟩ := List.mem_product.mp hmem
  exact ⟨r.1, hlinks, r.2, hcampaigns, htree, rfl, henabled, hjoin.symm, hstatus, hdeleted⟩

end RoutingDb

/-! ### What is cached -/

/-- The entries of a map from buyers to configs. -/
abbrev ConfigEntries := List (Uuid × Option StoredRuleSet)

/-- The values of a key. -/
def CacheKey.Val : CacheKey → Type
  | verticalSlug _ => Vertical
  | pingTree _ _ => PingTree × Option ℚ × Option ℚ
  | pingTreeCampaigns _ => List PingTreeCampaign
  | campaignBuyerId _ => Uuid
  | campaignsAssociations _ => List (Campaign × Option Buyer × Option BuyerIntegration)
  | qualBuyers _ => ConfigEntries
  | buyerName _ | campaignName _ => String
  | buyerId _ => Buyer
  | buyerIntegrationId _ => BuyerIntegration
  | leadPromiseId _ => Lead
  | prechecks _ _ _ => Option Uuid × Option Uuid × Bool
  | publisherApiKey _ => Publisher

/-- The longest that a call stores a value of the key for. -/
def CacheKey.ttl : CacheKey → ℕ
  | verticalSlug _ | buyerId _ => 86400
  | pingTree _ _ | pingTreeCampaigns _ => 21600
  | campaignBuyerId _ | campaignsAssociations _ | qualBuyers _ | buyerName _ | campaignName _
  | buyerIntegrationId _ | publisherApiKey _ => 3600
  | leadPromiseId _ | prechecks _ _ _ => 300

/-- A key whose text no other key has. -/
abbrev PlainKey := {k : CacheKey // k.Plain}

/-- Two keys of the cache have different keys in Redis. -/
theorem PlainKey.redisKey_injective (env : String) :
    Function.Injective fun k : PlainKey => redisKey env k.1.text := by
  intro k k' h
  exact Subtype.ext (CacheKey.text_injective k.2 k'.2 (redisKey_inj.mp h))

/-- How the values are written as JSON and read back. -/
structure LeadCacheParams where
  codec : (k : CacheKey) → Codec k.Val
  decode_encode : ∀ k v text, (codec k).encode v = some text → (codec k).decode text = some v
  decode_null : ∀ k, (codec k).decode nullText = none

namespace LeadCacheParams

variable (p : LeadCacheParams)

def schema : CacheSchema PlainKey where
  Val k := k.1.Val
  codec k := p.codec k.1
  text k := k.1.text
  ttl k := k.1.ttl

theorem lawful_schema : p.schema.Lawful where
  text_injective k k' h := Subtype.ext (CacheKey.text_injective k.2 k'.2 h)
  decode_encode k := p.decode_encode k.1
  decode_null k := p.decode_null k.1

end LeadCacheParams

/-- What the database answers for a key; of the keys that routing does not ask for nothing is
said. -/
def RoutingDb.Answers (db : RoutingDb) (k : CacheKey) : Option k.Val → Prop :=
  match k with
  | .pingTree publisherId vertical => fun o => db.FindsForRouting publisherId vertical o
  | .pingTreeCampaigns pingTreeId => fun o => ∃ links, o = some links ∧
    db.FindsEnabled pingTreeId links
  | .campaignBuyerId campaignId => fun o => o = db.buyerIdOf campaignId
  | .campaignsAssociations ids => fun o =>
    ∃ rows, o = some rows ∧ rows.Perm (db.buyerTables.findByIdsWithAssociations ids.ids)
  | .qualBuyers ids => fun o =>
    ∃ configs entries, Fetched db.configTable ids.ids configs ∧ o = some entries ∧
      ∀ id, entries.lookup id = findByBuyerIds db.configTable ids.ids configs id
  | .buyerName buyerId => fun o => o = db.buyerName buyerId
  -- a name that is NULL is an error of the query
  | .campaignName campaignId => fun o => o.map some = db.campaignName campaignId
  | .buyerId buyerId => fun o => o = db.buyerTables.findBuyer buyerId
  | .buyerIntegrationId integrationId => fun o => o = db.buyerTables.findIntegration integrationId
  | .verticalSlug _ | .leadPromiseId _ | .prechecks _ _ _ | .publisherApiKey _ => fun _ => True

end LeadsNebula
