/-
The two ways to a buyer's integration (`models/campaign.rs`, `services/buyer_router.rs`).

The ping tree router loads the campaigns with their buyers and integrations in
one query and hands the integration to the buyer router; without it the buyer
router looks up the buyer and then the integration.  Both read the same tables
here (`ReadsTables`), and the rows of the query may come in any order.  The
query has the conditions of the lookups but one: it does not ask whether the
buyer is active.

* `preloadedIntegration_eq` — the integration that the query gives a campaign;
* `preloaded_agrees_iff` — both ways agree exactly where the buyer of the
  campaign is active, or cannot be joined with an available integration;
* `suspended_buyer_is_called` — a suspended buyer is refused by the lookup and
  answers when its integration is loaded with the campaign.
-/
import LeadsNebula.Join
import LeadsNebula.Qualification

namespace LeadsNebula

/-- A row of `buyer_integrations`. -/
structure IntegrationRow where
  integration : BuyerIntegration
  status : String

/-- The tables the integrations are read from. -/
structure BuyerTables where
  campaigns : Table Campaign.id
  buyers : Table Buyer.id
  integrations : Table fun r : IntegrationRow => r.integration.id

namespace BuyerTables

variable (db : BuyerTables)

/-- `Buyer::find_by_id`. -/
def findBuyer (id : Uuid) : Option Buyer :=
  db.buyers.select fun b => decide (b.id = id) && b.deletedAt.isNone

/-- `BuyerIntegration::find_by_id`. -/
def findIntegration (id : Uuid) : Option BuyerIntegration :=
  (db.integrations.select fun r => decide (r.integration.id = id) && r.status = "available").map
    IntegrationRow.integration

/-- `Campaign::find_by_ids_with_associations`. -/
def findByIdsWithAssociations (ids : List Uuid) :
    List (Campaign × Option Buyer × Option BuyerIntegration) :=
  if ids.isEmpty then []
  else
    let campaigns := db.campaigns.rows.filter fun c => ids.contains c.id && c.deletedAt.isNone
    let withBuyers := leftJoin campaigns db.buyers.rows fun c b =>
      decide (some c.buyerId = some b.id) && b.deletedAt.isNone
    let withIntegrations := leftJoin withBuyers db.integrations.rows fun p r =>
      decide (p.2.bind Buyer.buyerIntegrationId = some r.integration.id) && r.status = "available"
    withIntegrations.map fun p => (p.1.1, p.1.2, p.2.map IntegrationRow.integration)

/-- The lookups of the buyer router. -/
def directory : BuyerDirectory where
  findBuyer id := .ok (db.findBuyer id)
  findIntegration id := .ok (db.findIntegration id)

/-- The available integration of a buyer that is not deleted. -/
def integrationOf (buyerId : Uuid) : Option BuyerIntegration :=
  ((db.findBuyer buyerId).bind Buyer.buyerIntegrationId).bind db.findIntegration

/-- The buyer of the campaign is not deleted and not active, and has an available integration. -/
def InactiveWithIntegration (c : Campaign) : Prop :=
  ∃ b ∈ db.buyers.rows, b.id = c.buyerId ∧ b.deletedAt = none ∧ b.status ≠ .active ∧
    ∃ r ∈ db.integrations.rows, b.buyerIntegrationId = some r.integration.id ∧
      r.status = "available"

theorem findBuyer_eq (id : Uuid) :
    db.findBuyer id = (db.buyers.find id).filter fun b => b.deletedAt.isNone :=
  db.buyers.select_key id _

theorem findIntegration_eq (id : Uuid) :
    db.findIntegration id = ((db.integrations.find id).filter fun r => r.status = "available").map
      IntegrationRow.integration := by
  rw [findIntegration, db.integrations.select_key id]

/-- The query gives every campaign the buyer and the integration of its buyer's id. -/
theorem findByIdsWithAssociations_eq (ids : List Uuid) :
    db.findByIdsWithAssociations ids =
      (db.campaigns.rows.filter fun c => ids.contains c.id && c.deletedAt.isNone).map fun c =>
        (c, db.findBuyer c.buyerId, db.integrationOf c.buyerId) := by
  rw [findByIdsWithAssociations]
  by_cases hids : ids.isEmpty = true
  · rw [if_pos hids, List.isEmpty_iff.mp hids]
    simp
  · rw [if_neg hids]
    have hbuyers := db.buyers.leftJoin_find
      (db.campaigns.rows.filter fun c => ids.contains c.id && c.deletedAt.isNone)
      (fun c => some c.buyerId) fun b => b.deletedAt.isNone
    have hintegrations := fun l : List (Campaign × Option Buyer) => db.integrations.leftJoin_find l
      (fun p => p.2.bind Buyer.buyerIntegrationId) fun r => r.status = "available"
    dsimp only
    rw [hbuyers, hintegrations, List.map_map, List.map_map]
    refine List.map_congr_left fun c _ => ?_
    simp only [Function.comp_apply, Option.bind_some, ← findBuyer_eq, integrationOf,
      Option.map_bind]
    congr 3
    funext id
    exact (findIntegration_eq db id).symm

theorem findBuyer_eq_some_iff {id : Uuid} {b : Buyer} :
    db.findBuyer id = some b ↔ b ∈ db.buyers.rows ∧ b.id = id ∧ b.deletedAt = none := by
  rw [findBuyer_eq, Option.filter_eq_some_iff, Table.find_eq_some_iff, Option.isNone_iff_eq_none,
    and_assoc]

theorem findIntegration_eq_some_iff {id : Uuid} {i : BuyerIntegration} :
    db.findIntegration id = some i ↔
      ∃ r ∈ db.integrations.rows, r.integration.id = id ∧ r.status = "available" ∧
        r.integration = i := by
  rw [findIntegration_eq, Option.map_eq_some_iff]
  simp only [Option.filter_eq_some_iff, Table.find_eq_some_iff, decide_eq_true_iff, and_assoc]

/-- What the query loads for a campaign whose buyer is not active. -/
theorem inactiveWithIntegration_iff (c : Campaign) :
    db.InactiveWithIntegration c ↔
      ∃ b i, db.findBuyer c.buyerId = some b ∧ b.active = false ∧
        db.integrationOf c.buyerId = some i := by
  have hactive : ∀ b : Buyer, b.deletedAt = none → (b.active = false ↔ b.status ≠ .active) := by
    intro b hb
    rw [Buyer.active, hb]
    simp
  constructor
  · rintro ⟨b, hb, hid, hdel, hstatus, r, hr, hint, havail⟩
    have hfind : db.findBuyer c.buyerId = some b := db.findBuyer_eq_some_iff.mpr ⟨hb, hid, hdel⟩
    refine ⟨b, r.integration, hfind, (hactive b hdel).mpr hstatus, ?_⟩
    rw [integrationOf, hfind, Option.bind_some, hint, Option.bind_some]
    exact db.findIntegration_eq_some_iff.mpr ⟨r, hr, rfl, havail, rfl⟩
  · rintro ⟨b, i, hfind, hinactive, hint⟩
    obtain ⟨hb, hid, hdel⟩ := db.findBuyer_eq_some_iff.mp hfind
    rw [integrationOf, hfind, Option.bind_some] at hint
    obtain ⟨k, hk, hi⟩ := Option.bind_eq_some_iff.mp hint
    obtain ⟨r, hr, rfl, havail, -⟩ := db.findIntegration_eq_some_iff.mp hi
    exact ⟨b, hb, hid, hdel, (hactive b hdel).mp hinactive, r, hr, hk, havail⟩

end BuyerTables

/-- The lookups of the routers read the tables: the query of the campaigns, whose rows come in any
order, and the lookups of one buyer and one integration. -/
structure ReadsTables (env : RouteEnv) (db : BuyerTables) (ids : List Uuid) : Prop where
  associations : env.campaignsWithAssociations.Perm
    ((db.findByIdsWithAssociations ids).map fun r => (r.1, r.2.2))
  directory : env.directory = db.directory

/-- The buyer router finds the same integration for the campaign, or fails the same, and answers
the same, with the integration that was loaded with the campaigns and without. -/
def PreloadedAgrees [StdText] (env : RouteEnv) (c : Campaign) (lead : Lead) (t : RequestType)
    (config : Option BuyerQualificationConfig) : Prop :=
  let preloaded : BuyerRouter :=
    ⟨lead, [c], t, PingTreeRouter.preloadedIntegration env c.buyerId, config⟩
  let plain : BuyerRouter := ⟨lead, [c], t, none, config⟩
  preloaded.getBuyerIntegration env.directory c = plain.getBuyerIntegration env.directory c ∧
    ∀ call, preloaded.route env.directory call = plain.route env.directory call

section Agreement

variable {env : RouteEnv} {db : BuyerTables} {ids : List Uuid}

/-- A campaign of the query is given the integration of its buyer. -/
theorem preloadedIntegration_eq (h : ReadsTables env db ids) {c : Campaign}
    (hc : c ∈ env.campaignsWithAssociations.map Prod.fst) :
    PingTreeRouter.preloadedIntegration env c.buyerId = db.integrationOf c.buyerId := by
  have hrows : ∀ p ∈ env.campaignsWithAssociations, p.2 = db.integrationOf p.1.buyerId := by
    intro p hp
    have hp' := h.associations.mem_iff.mp hp
    rw [db.findByIdsWithAssociations_eq, List.map_map] at hp'
    obtain ⟨c', -, rfl⟩ := List.mem_map.mp hp'
    rfl
  obtain ⟨p, hp, rfl⟩ := List.mem_map.mp hc
  rw [PingTreeRouter.preloadedIntegration]
  cases hfind : env.campaignsWithAssociations.reverse.find? fun q => q.1.buyerId = p.1.buyerId with
  | none =>
    have hnone := List.find?_eq_none.mp hfind p (List.mem_reverse.mpr hp)
    exact absurd (decide_eq_true rfl) hnone
  | some q =>
    have hq := hrows q (List.mem_reverse.mp (List.mem_of_find?_eq_some hfind))
    have hbuyer := List.find?_some hfind
    rw [Option.bind_some, hq, of_decide_eq_true hbuyer]

/-- The lookup of a campaign's integration, where its buyer and the buyer's integration exist. -/
theorem getBuyerIntegration_lookup {c : Campaign} {b : Buyer} {i : BuyerIntegration}
    (hb : db.findBuyer c.buyerId = some b) (hi : db.integrationOf c.buyerId = some i) (lead : Lead)
    (t : RequestType) (config : Option BuyerQualificationConfig) :
    BuyerRouter.getBuyerIntegration ⟨lead, [c], t, none, config⟩ db.directory c =
      if b.active then .ok i
      else .error ("Buyer " ++ b.id.toString ++ " is not active (status: " ++
        b.status.asStr ++ ")") := by
  rw [BuyerTables.integrationOf, hb, Option.bind_some] at hi
  obtain ⟨k, hk, hint⟩ := Option.bind_eq_some_iff.mp hi
  have hbuyer : db.directory.findBuyer c.buyerId = .ok (some b) := congrArg Except.ok hb
  have hintegration : db.directory.findIntegration k = .ok (some i) := congrArg Except.ok hint
  rw [BuyerRouter.getBuyerIntegration]
  dsimp only
  rw [hbuyer]
  show (if (!b.active) = true then _ else _) = _
  cases b.active with
  | false => rfl
  | true =>
    simp only [Bool.not_true, Bool.false_eq_true, if_false, if_true, hk]
    rw [hintegration]
    rfl

section Route

variable [StdText]

/-- The buyer router uses the loaded integration for its lookup only. -/
theorem route_congr {r r' : BuyerRouter} {dir : BuyerDirectory} {c : Campaign}
    (hlead : r.lead = r'.lead) (hc : r.campaigns = [c]) (hc' : r'.campaigns = [c])
    (htype : r.requestType = r'.requestType)
    (hconfig : r.preloadedQualConfig = r'.preloadedQualConfig)
    (hint : r.getBuyerIntegration dir c = r'.getBuyerIntegration dir c) (call : BuyerCall) :
    r.route dir call = r'.route dir call := by
  rw [BuyerRouter.route, BuyerRouter.route, hc, hc', htype]
  dsimp only
  rw [BuyerRouter.routePing, BuyerRouter.routePing, BuyerRouter.routePost, BuyerRouter.routePost,
    BuyerRouter.routeFullpost, BuyerRouter.routeFullpost, hlead, hconfig, hint]

/-- The loaded and the looked-up integration agree exactly where the buyer is not one that is
inactive with an available integration. -/
theorem preloaded_agrees_iff (h : ReadsTables env db ids) {c : Campaign}
    (hc : c ∈ env.campaignsWithAssociations.map Prod.fst) (lead : Lead) (t : RequestType)
    (config : Option BuyerQualificationConfig) :
    PreloadedAgrees env c lead t config ↔ ¬ db.InactiveWithIntegration c := by
  rw [PreloadedAgrees, preloadedIntegration_eq h hc, h.directory, db.inactiveWithIntegration_iff]
  constructor
  · rintro ⟨hagrees, -⟩ ⟨b, i, hb, hinactive, hi⟩
    -- the lookup refuses the buyer
    rw [getBuyerIntegration_lookup hb hi, hinactive, hi] at hagrees
    cases hagrees
  · intro hgood
    have hint : BuyerRouter.getBuyerIntegration
          ⟨lead, [c], t, db.integrationOf c.buyerId, config⟩ db.directory c =
        BuyerRouter.getBuyerIntegration ⟨lead, [c], t, none, config⟩ db.directory c := by
      cases hi : db.integrationOf c.buyerId with
      | none => rfl
      | some i =>
        obtain ⟨k, hk, -⟩ := Option.bind_eq_some_iff.mp hi
        obtain ⟨b, hb, -⟩ := Option.bind_eq_some_iff.mp hk
        have hactive : b.active = true := by
          by_contra hna
          exact hgood ⟨b, i, hb, Bool.eq_false_iff.mpr hna, hi⟩
        rw [getBuyerIntegration_lookup hb hi, if_pos hactive]
        rfl
    exact ⟨hint, route_congr rfl rfl rfl rfl rfl hint⟩

end Route

end Agreement

/-! ### A suspended buyer -/

namespace Sample

/-- One campaign, its buyer in the given status, and the buyer's integration. -/
def buyerTables (status : BuyerStatus) : BuyerTables where
  campaigns := ⟨[campaign], List.nodup_singleton _⟩
  buyers := ⟨[⟨20, some 30, status, none⟩], List.nodup_singleton _⟩
  integrations := ⟨[⟨pulsar, "available"⟩], List.nodup_singleton _⟩

/-- The lookups on these tables. -/
def tablesEnv (status : BuyerStatus) : RouteEnv :=
  { env with
    campaignsWithAssociations :=
      ((buyerTables status).findByIdsWithAssociations [10]).map fun r => (r.1, r.2.2)
    directory := (buyerTables status).directory }

theorem readsTables (status : BuyerStatus) :
    ReadsTables (tablesEnv status) (buyerTables status) [10] :=
  ⟨List.Perm.refl _, rfl⟩

end Sample

open Sample

/-- A suspended buyer answers the ping with its integration loaded, and is refused without. -/
theorem suspended_buyer_is_called :
    campaign ∈ (tablesEnv .suspended).campaignsWithAssociations.map Prod.fst ∧
    ((BuyerRouter.route ⟨(ping true).newLead new 0, [campaign], .ping,
      PingTreeRouter.preloadedIntegration (tablesEnv .suspended) campaign.buyerId, none⟩
      (tablesEnv .suspended).directory call).toOption.map BuyerResponse.success) = some true ∧
    (BuyerRouter.route ⟨(ping true).newLead new 0, [campaign], .ping, none, none⟩
      (tablesEnv .suspended).directory call).toOption.isNone = true ∧
    ¬ PreloadedAgrees (tablesEnv .suspended) campaign ((ping true).newLead new 0) .ping none := by
  have hloaded : ((BuyerRouter.route ⟨(ping true).newLead new 0, [campaign], .ping,
      PingTreeRouter.preloadedIntegration (tablesEnv .suspended) campaign.buyerId, none⟩
      (tablesEnv .suspended).directory call).toOption.map BuyerResponse.success) = some true := by
    decide
  have hlooked : (BuyerRouter.route ⟨(ping true).newLead new 0, [campaign], .ping, none, none⟩
      (tablesEnv .suspended).directory call).toOption.isNone = true := by
    decide
  refine ⟨by decide, hloaded, hlooked, fun hagrees => ?_⟩
  rw [hagrees.2 call, Option.isNone_iff_eq_none.mp hlooked] at hloaded
  cases hloaded

/-- With an active buyer both ways agree. -/
theorem preloaded_agrees_active :
    PreloadedAgrees (tablesEnv .active) campaign ((ping true).newLead new 0) .ping none := by
  have hmem : campaign ∈ (tablesEnv .active).campaignsWithAssociations.map Prod.fst := by
    decide
  refine (preloaded_agrees_iff (readsTables .active) hmem _ .ping none).mpr ?_
  rintro ⟨b, hb, -, -, hstatus, -⟩
  obtain rfl := List.mem_singleton.mp hb
  exact hstatus rfl

end LeadsNebula
