/-
What requests are routed with, given what the database holds and has held.

* `called_recent` — in every run a campaign that a request calls was active at most two
  hours, and enabled in the ping tree of the publisher at most seven hours, before the
  request's load began: neither pausing a campaign nor removing it takes effect at once,
  as the dashboard does not touch these entries of the cache;
* `routed_fresh` — where nothing that routing reads has changed for seven hours, and no
  call failed, the request calls exactly the enabled campaigns of the ping tree, in
  their order, with the integrations and rule sets that are stored.

To both times `lag` is added, the longest that a statement takes.
-/
import LeadsNebula.RoutingLoad

namespace LeadsNebula

open PingTreeRouter

/-- What the routes read, with the values of a load; `text` gives the texts of its errors. -/
def Loaded.toEnv (l : Loaded) (text : CacheError → String) (env : RouteEnv) : RouteEnv :=
  { env with
    pingTree := l.pingTree.mapError text
    pingTreeCampaigns := l.pingTreeCampaigns.mapError text
    campaignsWithAssociations := l.campaignsWithAssociations.map fun r => (r.1, r.2.2)
    qualificationConfigs := fun id =>
      (l.qualificationConfigs.lookup id).join.map StoredRuleSet.toConfig }

section

variable {l : Loaded} {text : CacheError → String} {env : RouteEnv} {t : PingTree}
  {links : List PingTreeCampaign} {given : Given} {r : RouteCall} {clean : Bool}

theorem callable_toEnv (h : (l.toEnv text env).callable = some (t, links)) :
    l.pingTree = .ok (some t) ∧ l.pingTreeCampaigns = .ok links ∧ t.isActive = true := by
  obtain ⟨tree, ptcs, rows, configs⟩ := l
  simp only [RouteEnv.callable, Loaded.toEnv] at h
  rcases tree with e | _ | t'
  · cases h
  · cases h
  · rcases ptcs with e | links'
    · cases h
    · simp only [Except.mapError] at h
      split at h
      · next hactive =>
        cases h
        exact ⟨rfl, rfl, hactive⟩
      · cases h

/-- The values of a load that reaches the campaigns of a ping tree. -/
theorem Loaded.From.callable (h : l.From given r clean)
    (hcall : (l.toEnv text env).callable = some (t, links)) :
    FoundTree given r t ∧ given (.pingTreeCampaigns t.id) (some links) ∧ (links ≠ [] →
      ∃ buyerIds, FoundBuyers given clean (campaignIds links) buyerIds ∧
        FoundAssociations given clean links l.campaignsWithAssociations ∧
        FoundConfigs given clean buyerIds l.qualificationConfigs) := by
  obtain ⟨htree, hlinks, hactive⟩ := callable_toEnv hcall
  rw [Loaded.From, htree] at h
  obtain ⟨hfound, hrest⟩ := h
  have hrest := hrest hactive
  rw [hlinks] at hrest
  exact ⟨hfound, hrest⟩

/-- A campaign that is called is one of the links, and one of the associations. -/
theorem mem_activeCampaigns {c : Campaign} (h : c ∈ activeCampaigns (l.toEnv text env) links) :
    ∃ link ∈ links, link.campaignId = c.id ∧ c.active = true ∧
      c ∈ l.campaignsWithAssociations.map Prod.fst := by
  obtain ⟨link, hlink, hfilter⟩ := List.mem_filterMap.mp h
  obtain ⟨hfind, hactive⟩ := Option.filter_eq_some_iff.mp hfilter
  have hid := List.find?_some hfind
  obtain ⟨row, hrow, rfl⟩ := List.mem_map.mp (List.mem_of_find?_eq_some hfind)
  obtain ⟨association, hmem, rfl⟩ := List.mem_map.mp hrow
  exact ⟨link, hlink, (of_decide_eq_true hid).symm, hactive, List.mem_map_of_mem hmem⟩

end

/-! ### What was so lately -/

namespace RoutingDb

/-- The publisher is assigned to the ping tree, which is not deleted. -/
def Assigned (db : RoutingDb) (r : RouteCall) (t : PingTree) : Prop :=
  ∃ tree ∈ (db.dash .pingTrees).rows, ∃ assignment ∈ (db.dash .pingTreePublishers).rows,
    tree.toPingTree = t ∧ tree.id = assignment.pingTreeId ∧
    assignment.publisherId = r.publisherId ∧ tree.vertical = r.vertical ∧ tree.deletedAt = none

/-- The campaign is in the table, active and not deleted. -/
def Runs (db : RoutingDb) (c : Campaign) : Prop :=
  c ∈ db.buyerTables.campaigns.rows ∧ c.active = true

theorem FindsForRouting.assigned {db : RoutingDb} {r : RouteCall} {t : PingTree}
    {percentage flat : Option ℚ}
    (h : db.FindsForRouting r.publisherId r.vertical (some (t, percentage, flat))) :
    db.Assigned r t := by
  obtain ⟨rows, hrows, hhead⟩ := h
  obtain ⟨row, hrow, heq⟩ := Option.map_eq_some_iff.mp hhead.symm
  obtain ⟨hmem, hp⟩ := List.mem_filter.mp (hrows.joined.mem_iff.mp (List.mem_of_mem_head? hrow))
  obtain ⟨hjoin, hpublisher, hvertical, hdeleted⟩ := of_decide_eq_true hp
  obtain ⟨htree, hassignment⟩ := List.mem_product.mp hmem
  exact ⟨row.1, htree, row.2, hassignment, congrArg Prod.fst heq, hjoin, hpublisher, hvertical,
    hdeleted⟩

end RoutingDb

namespace RoutingSys

variable {p : LeadCacheParams} {s : RoutingSys} {redis : Option String} {environment : String}
  {now : ℕ} {db : RoutingDb} {acts : List (RoutingAction p)} {l : Load} {loaded : Loaded}
  {text : CacheError → String} {env : RouteEnv} {t : PingTree} {links : List PingTreeCampaign}
  {lag : ℕ}

/-- Something held of the database at most `age` seconds before a time. -/
def Lately (w : CacheWorld RoutingDb) (time age : ℕ) (P : RoutingDb → Prop) : Prop :=
  ∃ t db, (t, db) ∈ w.seen ∧ time < t + age ∧ P db

theorem called_recent
    (hhonest : Transition.Along step (Honest lag) (new redis environment now db) acts)
    (hrun : Transition.run step (new redis environment now db) acts = some s) (hl : l ∈ s.loads)
    (hdone : l.stage = .done loaded) (hcall : (loaded.toEnv text env).callable = some (t, links))
    {c : Campaign} (hc : c ∈ activeCampaigns (loaded.toEnv text env) links) :
    Lately s.world l.startedAt (25200 + lag) (fun db => db.Assigned l.call t) ∧
      Lately s.world l.startedAt (25200 + lag) (fun db => db.Enabled t.id c.id) ∧
      Lately s.world l.startedAt (7200 + lag) (fun db => db.Runs c) := by
  obtain ⟨⟨percentage, flat, t₁, db₁, hseen₁, hyoung₁, htree⟩, ⟨t₂, db₂, hseen₂, hyoung₂, hlinks⟩,
    hrest⟩ := (load_recent hhonest hrun hl hdone).callable hcall
  have hage : ∀ {t ttl : ℕ}, l.startedAt < t + ttl + l1Ttl + lag →
      l.startedAt < t + (ttl + l1Ttl + lag) := by
    intro t ttl h
    omega
  obtain ⟨link, hlink, hid, hactive, hmem⟩ := mem_activeCampaigns hc
  obtain ⟨buyerIds, -, hrows, -⟩ := hrest (List.ne_nil_of_mem hlink)
  refine ⟨⟨t₁, db₁, hseen₁, hage hyoung₁, htree.assigned⟩, ⟨t₂, db₂, hseen₂, hage hyoung₂, ?_⟩, ?_⟩
  · obtain ⟨links', heq, henabled⟩ := hlinks
    obtain rfl := Option.some.inj heq
    exact hid ▸ henabled.mem hlink
  · rcases hrows with ⟨t₃, db₃, hseen₃, hyoung₃, rows, heq, hperm⟩ | ⟨-, hnil⟩
    · obtain rfl := Option.some.inj heq
      refine ⟨t₃, db₃, hseen₃, hage hyoung₃, ?_, hactive⟩
      obtain ⟨row, hrow, rfl⟩ := List.mem_map.mp hmem
      have hrow' := hperm.mem_iff.mp hrow
      rw [BuyerTables.findByIdsWithAssociations_eq] at hrow'
      obtain ⟨c, hcmem, rfl⟩ := List.mem_map.mp hrow'
      exact (List.mem_filter.mp hcmem).1
    · -- a lookup that failed gives no campaign
      rw [hnil] at hmem
      cases hmem

end RoutingSys

/-! ### What is so now -/

theorem mem_foldl_insertBuyer {os : List (Option Uuid)} {found : List Uuid} {b : Uuid} :
    b ∈ os.foldl insertBuyer found ↔ b ∈ found ∨ some b ∈ os := by
  induction os generalizing found with
  | nil => simp
  | cons o os ih =>
    rw [List.foldl_cons, ih, List.mem_cons]
    cases o with
    | none => simp [insertBuyer]
    | some b' =>
      simp only [insertBuyer, List.mem_insert_iff, Option.some_inj]
      tauto

section

variable {db : RoutingDb} {ids found : List Uuid} {t : PingTree} {links : List PingTreeCampaign}

/-- The buyers that are found are those of the campaigns. -/
theorem mem_foundBuyers (h : FoundBuyers db.Answers true ids found) {b : Uuid} :
    b ∈ found ↔ ∃ id ∈ ids, db.buyerIdOf id = some b := by
  obtain ⟨os, hos, rfl⟩ := h
  have hos' : os = ids.map db.buyerIdOf := by
    refine (List.forall₂_eq_eq_eq ▸ List.forall₂_map_left_iff.mpr (hos.imp ?_)).symm
    rintro id o (ho | ⟨hclean, -⟩)
    · exact Eq.symm ho
    · cases hclean
  rw [mem_foldl_insertBuyer, hos', List.mem_map]
  simp

/-- The row of an enabled campaign. -/
theorem RoutingDb.Enabled.row {treeId id : Uuid} (h : db.Enabled treeId id) :
    ∃ c ∈ (db.dash .campaigns).rows, c.id = id ∧ c.status = .active ∧ c.deletedAt = none ∧
      db.buyerIdOf id = some c.buyerId := by
  obtain ⟨-, -, c, hc, -, -, -, hid, hstatus, hdeleted⟩ := h
  refine ⟨c, hc, hid, hstatus, hdeleted, ?_⟩
  obtain ⟨c', hc'⟩ : ∃ c', (db.dash .campaigns).select (fun r => r.id = id ∧ r.deletedAt = none) =
      some c' := by
    refine Option.isSome_iff_exists.mp (List.find?_isSome.mpr ⟨c, hc, ?_⟩)
    exact decide_eq_true ⟨hid, hdeleted⟩
  have hp := List.find?_some hc'
  have heq : c' = c := List.inj_on_of_nodup_map (db.dash .campaigns).nodup
    (List.mem_of_find?_eq_some hc') hc ((of_decide_eq_true hp).1.trans hid.symm)
  rw [RoutingDb.buyerIdOf, hc', heq]
  rfl

/-- The rows of the associations do not depend on the order of the ids. -/
theorem associations_of (db : BuyerTables) (ids : List Uuid) :
    db.findByIdsWithAssociations (SortedIds.of ids).ids = db.findByIdsWithAssociations ids := by
  have hcontains : ∀ id, (SortedIds.of ids).ids.contains id = ids.contains id := by
    intro id
    rw [Bool.eq_iff_iff, List.contains_iff_mem, List.contains_iff_mem, SortedIds.mem_of]
  simp only [BuyerTables.findByIdsWithAssociations_eq, hcontains]

/-- The campaign of a link is found among the associations. -/
theorem find_association {rows : List Association}
    (hrows : rows.Perm (db.buyerTables.findByIdsWithAssociations ids)) {id : Uuid} (hid : id ∈ ids)
    {c : Dashboard.Campaign} (hc : c ∈ (db.dash .campaigns).rows) (hcid : c.id = id)
    (hdeleted : c.deletedAt = none) :
    (rows.map Prod.fst).find? (fun c => c.id = id) = some c.toCampaign := by
  have hperm : (rows.map Prod.fst).Perm
      (db.buyerTables.campaigns.rows.filter fun c => ids.contains c.id && c.deletedAt.isNone) := by
    have h := hrows.map Prod.fst
    rw [BuyerTables.findByIdsWithAssociations_eq, List.map_map] at h
    exact h.trans (List.Perm.of_eq (List.map_id _))
  have hmem : c.toCampaign ∈ rows.map Prod.fst := by
    refine hperm.mem_iff.mpr (List.mem_filter.mpr ⟨List.mem_map_of_mem hc, ?_⟩)
    rw [Bool.and_eq_true, List.contains_iff_mem]
    exact ⟨show c.id ∈ ids from hcid ▸ hid, Option.isNone_iff_eq_none.mpr hdeleted⟩
  obtain ⟨c', hc'⟩ : ∃ c', (rows.map Prod.fst).find? (fun c => decide (c.id = id)) = some c' :=
    Option.isSome_iff_exists.mp (List.find?_isSome.mpr ⟨_, hmem, decide_eq_true hcid⟩)
  have hnodup : ((rows.map Prod.fst).map Campaign.id).Nodup :=
    (hperm.map Campaign.id).nodup_iff.mpr
      (db.buyerTables.campaigns.nodup.sublist (List.filter_sublist.map Campaign.id))
  have hkey := List.find?_some hc'
  rw [hc', List.inj_on_of_nodup_map hnodup (List.mem_of_find?_eq_some hc') hmem
    ((of_decide_eq_true hkey).trans hcid.symm)]

theorem filterMap_ids {f : PingTreeCampaign → Option Campaign}
    (h : ∀ link ∈ links, ∃ c, f link = some c ∧ c.id = link.campaignId) :
    (links.filterMap f).map Campaign.id = campaignIds links := by
  induction links with
  | nil => rfl
  | cons link links ih =>
    obtain ⟨c, hc, hid⟩ := h link List.mem_cons_self
    rw [List.filterMap_cons_some hc, List.map_cons, hid,
      ih fun link' hlink' => h link' (List.mem_cons_of_mem _ hlink')]
    rfl

end

namespace RoutingSys

variable {p : LeadCacheParams} {s : RoutingSys} {redis : Option String} {environment : String}
  {now : ℕ} {db : RoutingDb} {acts : List (RoutingAction p)} {l : Load} {loaded : Loaded}
  {text : CacheError → String} {env : RouteEnv} {t : PingTree} {links : List PingTreeCampaign}
  {lag : ℕ}

/-- The configs are those that the table holds. -/
structure ReadsConfigs (env : RouteEnv) (table : ConfigTable) (buyerIds : List Uuid) : Prop where
  fetched : ∃ configs, Fetched table buyerIds configs ∧
    ∀ buyerId, env.qualificationConfigs buyerId =
      (findByBuyerIds table buyerIds configs buyerId).join.map StoredRuleSet.toConfig

/-- What a request is routed with is what the database holds. -/
structure Fresh (db : RoutingDb) (r : RouteCall) (env : RouteEnv) (t : PingTree)
    (links : List PingTreeCampaign) : Prop where
  /-- The first ping tree of the publisher for the vertical. -/
  tree : ∃ percentage flat,
    db.FindsForRouting r.publisherId r.vertical (some (t, percentage, flat))
  /-- Its enabled campaigns, in their order. -/
  enabled : db.FindsEnabled t.id links
  /-- All of them are called. -/
  called : (activeCampaigns env links).map Campaign.id = campaignIds links
  associations : links ≠ [] → ReadsTables env db.buyerTables (campaignIds links)
  /-- The rule sets of all buyers that are called. -/
  configs : links ≠ [] → ∃ buyerIds, ReadsConfigs env db.configTable buyerIds ∧
    ∀ c ∈ activeCampaigns env links, c.buyerId ∈ buyerIds

/-- What was loaded for the links is what the join answers. -/
theorem associations_of_from (h : loaded.From db.Answers l.call true)
    (hcall : (loaded.toEnv text env).callable = some (t, links)) (hne : links ≠ []) :
    loaded.campaignsWithAssociations.Perm
      (db.buyerTables.findByIdsWithAssociations (campaignIds links)) := by
  obtain ⟨-, -, hrest⟩ := h.callable hcall
  obtain ⟨-, -, hrows, -⟩ := hrest hne
  rcases hrows with ⟨rows, hrows, hperm⟩ | ⟨hclean, -⟩
  · obtain rfl := Option.some.inj hrows
    rwa [associations_of] at hperm
  · cases hclean

/-- The campaign of an enabled link is found among what was loaded, and is active. -/
theorem find_campaign_of_from (h : loaded.From db.Answers l.call true)
    (hcall : (loaded.toEnv text env).callable = some (t, links)) {link : PingTreeCampaign}
    (hlink : link ∈ links) :
    ∃ row ∈ (db.dash .campaigns).rows, row.id = link.campaignId ∧
      db.buyerIdOf link.campaignId = some row.buyerId ∧
      (((loaded.toEnv text env).campaignsWithAssociations.map Prod.fst).find? fun c =>
        c.id = link.campaignId).filter Campaign.active = some row.toCampaign := by
  obtain ⟨-, ⟨links', heq, henabled⟩, -⟩ := h.callable hcall
  obtain rfl := Option.some.inj heq
  obtain ⟨row, hrow, hid, hstatus, hdeleted, hbuyer⟩ := (henabled.mem hlink).row
  refine ⟨row, hrow, hid, hbuyer, ?_⟩
  have hfirst : (loaded.toEnv text env).campaignsWithAssociations.map Prod.fst =
      loaded.campaignsWithAssociations.map Prod.fst := by
    rw [Loaded.toEnv, List.map_map]
    rfl
  have hread := associations_of_from h hcall (List.ne_nil_of_mem hlink)
  rw [hfirst, find_association hread (List.mem_map_of_mem hlink) hrow hid hdeleted]
  refine Option.filter_some_pos ?_
  simp [Campaign.active, Dashboard.Campaign.toCampaign, hstatus, hdeleted]

theorem fresh_of_from (h : loaded.From db.Answers l.call true)
    (hcall : (loaded.toEnv text env).callable = some (t, links))
    (hdirectory : env.directory = db.buyerTables.directory) :
    Fresh db l.call (loaded.toEnv text env) t links := by
  obtain ⟨htree, ⟨links', heq, henabled⟩, hrest⟩ := h.callable hcall
  obtain rfl := Option.some.inj heq
  refine ⟨htree, henabled, ?_, ?_, ?_⟩
  · refine filterMap_ids fun link hlink => ?_
    obtain ⟨row, -, hid, -, hfind⟩ := find_campaign_of_from h hcall hlink
    exact ⟨row.toCampaign, hfind, hid⟩
  · intro hne
    exact ⟨(associations_of_from h hcall hne).map fun r : Association => (r.1, r.2.2), hdirectory⟩
  · intro hne
    obtain ⟨buyerIds, hbuyers, -, hconfigs⟩ := hrest hne
    have hmem : ∀ c ∈ activeCampaigns (loaded.toEnv text env) links, c.buyerId ∈ buyerIds := by
      intro c hc
      obtain ⟨link, hlink, hfilter⟩ := List.mem_filterMap.mp hc
      obtain ⟨row, -, -, hbuyer, hfind⟩ := find_campaign_of_from h hcall hlink
      obtain rfl := Option.some.inj (hfilter.symm.trans hfind)
      exact (mem_foundBuyers hbuyers).mpr ⟨link.campaignId, List.mem_map_of_mem hlink, hbuyer⟩
    refine ⟨(SortedIds.of buyerIds).ids, ⟨?_⟩, fun c hc => SortedIds.mem_of.mpr (hmem c hc)⟩
    -- some campaign is called, so some buyer was found
    obtain ⟨link, hlink⟩ := List.exists_mem_of_ne_nil links hne
    obtain ⟨row, -, -, hbuyer, -⟩ := find_campaign_of_from h hcall hlink
    have hsome : buyerIds ≠ [] := List.ne_nil_of_mem
      ((mem_foundBuyers hbuyers).mpr ⟨link.campaignId, List.mem_map_of_mem hlink, hbuyer⟩)
    rw [FoundConfigs, if_neg hsome] at hconfigs
    rcases hconfigs with ⟨configs, entries, hfetched, heq, hentries⟩ | ⟨hclean, -⟩
    · refine ⟨configs, hfetched, fun buyerId => ?_⟩
      rw [← hentries, ← Option.some.inj heq]
      rfl
    · cases hclean

theorem routed_fresh
    (hhonest : Transition.Along step (Honest lag) (new redis environment now db) acts)
    (hrun : Transition.run step (new redis environment now db) acts = some s) (hl : l ∈ s.loads)
    (hdone : l.stage = .done loaded) (hclean : l.clean = true) {since : ℕ}
    (hlong : since + 25200 + lag ≤ l.startedAt)
    (hsame : ∀ t db', (t, db') ∈ s.world.seen → since ≤ t → ∀ k o, k.Loads → db'.Answers k o →
      s.world.db.Answers k o)
    (hcall : (loaded.toEnv text env).callable = some (t, links))
    (hdirectory : env.directory = s.world.db.buyerTables.directory) :
    Fresh s.world.db l.call (loaded.toEnv text env) t links :=
  fresh_of_from (load_current hhonest hrun hl hdone hclean hlong hsame) hcall hdirectory

end RoutingSys

/-! ### A request that is routed -/

namespace Sample

open RoutingSys

/-- One campaign in the ping tree of a publisher. -/
def routingDb : RoutingDb where
  dash :=
    { tables
        | .pingTrees =>
          ⟨[⟨40, 1, "Roofing", "solar", "ping_post", "active", none, none, 0, 0⟩], by decide⟩
        | .pingTreePublishers => ⟨[⟨60, 40, 6, "solar", some 80, none, 0, 0⟩], by decide⟩
        | .pingTreeCampaigns => ⟨[⟨50, 40, 10, some 1, true, 0, 0⟩], by decide⟩
        | .campaigns =>
          ⟨[⟨10, 20, 6, 1, some "Roofs", "solar", "tok", .active, false, none, 0, 0⟩], by decide⟩
        | _ => .empty }
  postingUrlTemplate _ := none

def routedTree : PingTree := ⟨40, "ping_post", "active", none⟩

def routedCampaign : Campaign := ⟨10, 20, .active, none⟩

/-- A codec for one value. -/
def onlyCodec {ν : Type} (test : ν → Bool) (v : ν) : Codec ν where
  simdFromSlice text := if text = "v" then some v else none
  serdeFromSlice _ := none
  simdToVec x := if test x then some "v" else none
  serdeToString _ := none

theorem onlyCodec_decode_encode {ν : Type} (test : ν → Bool) {v : ν}
    (h : ∀ x, test x = true → x = v) (x : ν) (text : String)
    (hx : (onlyCodec test v).encode x = some text) : (onlyCodec test v).decode text = some x := by
  simp only [Codec.encode, onlyCodec, Option.or_none] at hx
  split at hx
  · next htest =>
    obtain rfl := Option.some.inj hx
    rw [h x htest]
    rfl
  · cases hx

def treeValue : PingTree × Option ℚ × Option ℚ := (routedTree, some 80, none)

def linksValue : List PingTreeCampaign := [⟨10, some 1⟩]

def associationsValue : List Association := [(routedCampaign, none, none)]

/-- The buyer has no rule set. -/
def configsValue : ConfigEntries := [(20, none)]

def isTreeValue (v : PingTree × Option ℚ × Option ℚ) : Bool := decide (v = treeValue)

def isLinksValue (v : List PingTreeCampaign) : Bool := decide (v = linksValue)

def isAssociationsValue (v : List Association) : Bool := decide (v = associationsValue)

def isBuyerId (v : Uuid) : Bool := decide (v = 20)

def isConfigsValue : ConfigEntries → Bool
  | [(id, none)] => decide (id = 20)
  | _ => false

theorem eq_of_isConfigsValue (m : ConfigEntries) (h : isConfigsValue m = true) :
    m = configsValue := by
  unfold isConfigsValue at h
  split at h
  · rw [of_decide_eq_true h]
    rfl
  · cases h

def routingCodec : (k : CacheKey) → Codec k.Val
  | .pingTree _ _ => onlyCodec isTreeValue treeValue
  | .pingTreeCampaigns _ => onlyCodec isLinksValue linksValue
  | .campaignBuyerId _ => onlyCodec isBuyerId (20 : Uuid)
  | .campaignsAssociations _ => onlyCodec isAssociationsValue associationsValue
  | .qualBuyers _ => onlyCodec isConfigsValue configsValue
  | .verticalSlug _ | .buyerName _ | .campaignName _ | .buyerId _ | .buyerIntegrationId _
  | .leadPromiseId _ | .prechecks _ _ _ | .publisherApiKey _ =>
    ⟨fun _ => none, fun _ => none, fun _ => none, fun _ => none⟩

def routingParams : LeadCacheParams where
  codec := routingCodec
  decode_encode := by
    intro k v text h
    cases k
    case pingTree =>
      exact onlyCodec_decode_encode isTreeValue (fun x hx => of_decide_eq_true hx) v text h
    case pingTreeCampaigns =>
      exact onlyCodec_decode_encode isLinksValue (fun x hx => of_decide_eq_true hx) v text h
    case campaignBuyerId =>
      exact onlyCodec_decode_encode isBuyerId (fun x hx => of_decide_eq_true hx) v text h
    case campaignsAssociations =>
      exact onlyCodec_decode_encode isAssociationsValue (fun x hx => of_decide_eq_true hx) v text
        h
    case qualBuyers => exact onlyCodec_decode_encode isConfigsValue eq_of_isConfigsValue v text h
    all_goals cases h
  decode_null := by
    intro k
    cases k <;> rfl

def routingTurn : LoadTurn where
  pingTree := .ok (some treeValue)
  pingTreeCampaigns := .ok linksValue
  buyerId := .ok (some 20)
  associations := .ok associationsValue
  configs := .ok configsValue
  faults := ⟨true, none⟩
  configsFirst := false
  missed := false

/-- A day passes; a request comes, and makes its five lookups. -/
def routingActs : List (RoutingAction routingParams) :=
  .event (.wait 86400) :: .arrive ⟨6, "solar"⟩ :: List.replicate 5 (.next 0 routingTurn)

def routingStart : RoutingSys := .new none "production" 0 routingDb

def routedLoaded : Loaded :=
    ⟨.ok (some routedTree), .ok linksValue, associationsValue, configsValue⟩

def routedLoad : Load := ⟨⟨6, "solar"⟩, 86400, true, .done routedLoaded⟩

theorem routingDb_findsForRouting : routingDb.FindsForRouting 6 "solar" (some treeValue) :=
  ⟨[(⟨40, 1, "Roofing", "solar", "ping_post", "active", none, none, 0, 0⟩,
    ⟨60, 40, 6, "solar", some 80, none, 0, 0⟩)], ⟨.refl _, List.pairwise_singleton _ _⟩, rfl⟩

theorem routingDb_findsEnabled : routingDb.FindsEnabled 40 linksValue :=
  ⟨[(⟨50, 40, 10, some 1, true, 0, 0⟩,
    ⟨10, 20, 6, 1, some "Roofs", "solar", "tok", .active, false, none, 0, 0⟩)],
    ⟨.refl _, List.pairwise_singleton _ _⟩, rfl⟩

theorem routingDb_configs :
    routingDb.Answers (.qualBuyers (.of [20])) (some configsValue) := by
  refine ⟨[], configsValue, ⟨.refl _, List.Pairwise.nil⟩, rfl, fun id => ?_⟩
  rw [SortedIds.ids_of_singleton]
  show configsValue.lookup id = ConfigMap.ofBuyers [20] id
  rw [ofBuyers_apply]
  by_cases hid : id = 20
  · subst hid
    rfl
  · rw [if_neg (by simpa using hid), configsValue, List.lookup_cons, beq_false_of_ne hid]
    rfl

theorem routingDb_associations :
    routingDb.Answers (.campaignsAssociations (.of [10])) (some associationsValue) := by
  refine ⟨associationsValue, rfl, ?_⟩
  rw [SortedIds.ids_of_singleton]
  exact List.Perm.of_eq rfl

theorem routingActs_run : ∃ cache, Transition.run RoutingSys.step routingStart routingActs =
    some ⟨⟨cache, routingDb, [(86400, routingDb), (0, routingDb)]⟩, [routedLoad]⟩ := ⟨_, rfl⟩

theorem routingActs_honest :
    Transition.Along RoutingSys.step (Honest 0) routingStart routingActs := by
  refine ⟨trivial, trivial, ?_, ?_, ?_, ?_, ?_, trivial⟩
  · exact honest_next rfl rfl rfl
      ⟨86400, routingDb, List.mem_cons_self, le_rfl, le_rfl, routingDb_findsForRouting⟩
  · exact honest_next rfl rfl rfl
      ⟨86400, routingDb, List.mem_cons_self, le_rfl, le_rfl, _, rfl, routingDb_findsEnabled⟩
  · exact honest_next rfl rfl rfl ⟨86400, routingDb, List.mem_cons_self, le_rfl, le_rfl, rfl⟩
  · exact honest_next rfl rfl rfl
      ⟨86400, routingDb, List.mem_cons_self, le_rfl, le_rfl, routingDb_associations⟩
  · exact honest_next rfl rfl rfl
      ⟨86400, routingDb, List.mem_cons_self, le_rfl, le_rfl, routingDb_configs⟩

/-- What else the routes read. -/
def routedEnv : RouteEnv where
  pingTree := .ok none
  pingTreeCampaigns := .ok []
  campaignsWithAssociations := []
  qualificationConfigs _ := none
  directory := routingDb.buyerTables.directory
  order := [0]
  pingTask _ := ⟨⟨.sendFailed "unused", ⟨0, [], [], 50, "", 60⟩, "1"⟩, false, 3⟩
  postCall _ := ⟨.sendFailed "unused", ⟨0, [], [], 50, "", 60⟩, "1"⟩
  tieBreak := 0
  timestamp := "2024-01-01T00:00:00+00:00"
  promiseBytes := []

/-- The texts of the errors do not matter here. -/
def noText (_ : CacheError) : String := ""

theorem routed_callable :
    (routedLoaded.toEnv noText routedEnv).callable = some (routedTree, linksValue) := rfl

theorem routedCampaign_called :
    routedCampaign ∈ activeCampaigns (routedLoaded.toEnv noText routedEnv) linksValue :=
  List.mem_cons_self

/-- What the campaign was called with, was so within the last hours. -/
theorem routedCampaign_recent : ∃ s : RoutingSys,
    Transition.run RoutingSys.step routingStart routingActs = some s ∧
      Lately s.world 86400 (25200 + 0) (fun db => db.Assigned ⟨6, "solar"⟩ routedTree) ∧
      Lately s.world 86400 (25200 + 0) (fun db => db.Enabled routedTree.id routedCampaign.id) ∧
      Lately s.world 86400 (7200 + 0) (fun db => db.Runs routedCampaign) := by
  obtain ⟨cache, hrun⟩ := routingActs_run
  exact ⟨_, hrun, called_recent routingActs_honest hrun (l := routedLoad) List.mem_cons_self rfl
    routed_callable routedCampaign_called⟩

/-- The tables have not changed for a day. -/
theorem routed_fresh_day : Fresh routingDb ⟨6, "solar"⟩ (routedLoaded.toEnv noText routedEnv)
    routedTree linksValue := by
  obtain ⟨cache, hrun⟩ := routingActs_run
  have hsame : ∀ t db', (t, db') ∈ [(86400, routingDb), (0, routingDb)] → 0 ≤ t → ∀ k o,
      CacheKey.Loads k → db'.Answers k o → routingDb.Answers k o := by
    intro t db' hmem _ k o _ ho
    have hdb : db' = routingDb := by
      rcases List.mem_cons.mp hmem with heq | hmem
      · exact congrArg Prod.snd heq
      · exact congrArg Prod.snd (List.mem_singleton.mp hmem)
    exact hdb ▸ ho
  exact routed_fresh routingActs_honest hrun (l := routedLoad) List.mem_cons_self rfl rfl
    (by decide) hsame routed_callable rfl

end Sample

end LeadsNebula
