/-
What the integrity of the tables means for routing.

The dashboard is the only one to edit the tables, and it starts from empty ones.

* `found_unique` — a publisher has one ping tree of a vertical, so the order by priority
  never decides between two;
* `called_once` — in every run no request calls a campaign twice;
* `deleted_for_ever` — once a ping tree is deleted, its publishers have none in its
  vertical, whatever the dashboard is asked later: seven hours after the deletion their
  requests are not routed any more.
-/
import LeadsNebula.DashboardIntegrity
import LeadsNebula.RoutingFreshness

namespace LeadsNebula

open Dashboard

/-! ### Queries -/

namespace RoutingDb

variable {db : RoutingDb} {publisherId pingTreeId : Uuid} {vertical : String}

/-- A row of the join of ping trees and assignments. -/
theorem RoutingRows.mem {rows : List (Dashboard.PingTree × PingTreePublisher)}
    (h : db.RoutingRows publisherId vertical rows) {r : Dashboard.PingTree × PingTreePublisher}
    (hr : r ∈ rows) : r.1 ∈ (db.dash .pingTrees).rows ∧ r.2 ∈ (db.dash .pingTreePublishers).rows ∧
      r.1.id = r.2.pingTreeId ∧ r.2.publisherId = publisherId ∧ r.1.vertical = vertical ∧
      r.1.deletedAt = none := by
  obtain ⟨hmem, hp⟩ := List.mem_filter.mp (h.joined.mem_iff.mp hr)
  obtain ⟨htree, hassignment⟩ := List.mem_product.mp hmem
  exact ⟨htree, hassignment, of_decide_eq_true hp⟩

theorem rows_nodup (s : Dashboard.Db) (t : Relation) : (s t).rows.Nodup :=
  List.Nodup.of_map _ (s t).nodup

/-- No two assignments of a publisher are to ping trees of one vertical. -/
theorem RoutingRows.subsingleton (hdb : Intact db.dash)
    {rows : List (Dashboard.PingTree × PingTreePublisher)}
    (h : db.RoutingRows publisherId vertical rows) : rows.length ≤ 1 := by
  have hsame : ∀ r ∈ rows, ∀ r' ∈ rows, r = r' := by
    intro r hr r' hr'
    obtain ⟨htree, ha, hid, hpublisher, hvertical, -⟩ := h.mem hr
    obtain ⟨htree', ha', hid', hpublisher', hvertical', -⟩ := h.mem hr'
    have hassignment : r.2 = r'.2 := by
      refine hdb.assignment_unique ha ha' (Prod.ext (hpublisher.trans hpublisher'.symm) ?_)
      show r.2.vertical = r'.2.vertical
      rw [hdb.vertical_eq htree ha hid, hdb.vertical_eq htree' ha' hid', hvertical, hvertical']
    refine Prod.ext (List.inj_on_of_nodup_map (db.dash .pingTrees).nodup
      htree htree' ?_) hassignment
    exact (hid.trans (congrArg PingTreePublisher.pingTreeId hassignment)).trans hid'.symm
  have hnodup : rows.Nodup := by
    refine h.joined.nodup_iff.mpr (List.Nodup.filter _ ?_)
    exact (rows_nodup db.dash .pingTrees).product (rows_nodup db.dash .pingTreePublishers)
  cases rows with
  | nil => exact Nat.zero_le _
  | cons r rows =>
    cases rows with
    | nil => exact le_rfl
    | cons r' rows =>
      have heq := hsame r List.mem_cons_self r' (List.mem_cons_of_mem _ List.mem_cons_self)
      exact absurd (heq ▸ List.mem_cons_self) (List.nodup_cons.mp hnodup).1

theorem FindsForRouting.unique (hdb : Intact db.dash)
    {found found' : Option (PingTree × Option ℚ × Option ℚ)}
    (h : db.FindsForRouting publisherId vertical found)
    (h' : db.FindsForRouting publisherId vertical found') : found = found' := by
  obtain ⟨rows, hrows, rfl⟩ := h
  obtain ⟨rows', hrows', rfl⟩ := h'
  have hperm : rows.Perm rows' := hrows.joined.trans hrows'.joined.symm
  have hshort := hrows.subsingleton hdb
  cases rows with
  | nil => rw [hperm.nil_eq]
  | cons r rows =>
    obtain rfl : rows = [] := List.length_eq_zero_iff.mp (by rw [List.length_cons] at hshort; omega)
    rw [List.singleton_perm.mp hperm]

/-- The publisher of a deleted ping tree has no other one of the vertical. -/
theorem FindsForRouting.none_of_stranded (hdb : Intact db.dash)
    (hstranded : Stranded publisherId vertical db.dash)
    {found : Option (PingTree × Option ℚ × Option ℚ)}
    (h : db.FindsForRouting publisherId vertical found) : found = none := by
  obtain ⟨rows, hrows, rfl⟩ := h
  obtain ⟨t, ht, a, ha, hdeleted, heq⟩ := hstranded
  cases rows with
  | nil => rfl
  | cons r rows =>
    obtain ⟨htree, ha', hid, hpublisher, hvertical, hlive⟩ := hrows.mem List.mem_cons_self
    have hassignment : r.2 = a := by
      refine hdb.assignment_unique ha' ha ?_
      rw [hdb.vertical_eq htree ha' hid, hpublisher, hvertical]
      exact (Prod.mk.inj heq).2.symm
    have hsame : r.1 = t := List.inj_on_of_nodup_map (db.dash .pingTrees).nodup htree ht
      ((hid.trans (congrArg PingTreePublisher.pingTreeId hassignment)).trans (Prod.mk.inj heq).1)
    rw [← hsame, hlive] at hdeleted
    cases hdeleted

theorem found_unique {cfg : DashConfig} {calls : List DashCall} {s : Dashboard.Db}
    (hempty : ∀ t, routed t = true → (s t).rows = [])
    (hrun : Transition.run (dashStep cfg) s calls = some db.dash)
    {found found' : Option (PingTree × Option ℚ × Option ℚ)}
    (h : db.FindsForRouting publisherId vertical found)
    (h' : db.FindsForRouting publisherId vertical found') : found = found' :=
  h.unique (intact_run (intact_empty hempty) hrun) h'

/-- A campaign is once in a ping tree. -/
theorem FindsEnabled.nodup (hdb : Intact db.dash) {links : List PingTreeCampaign}
    (h : db.FindsEnabled pingTreeId links) : (campaignIds links).Nodup := by
  obtain ⟨rows, hrows, rfl⟩ := h
  have hnodup : rows.Nodup := by
    refine hrows.joined.nodup_iff.mpr (List.Nodup.filter _ ?_)
    exact (rows_nodup db.dash .pingTreeCampaigns).product (rows_nodup db.dash .campaigns)
  rw [campaignIds, List.map_map]
  refine List.Nodup.map_on (fun r hr r' hr' hid => ?_) hnodup
  obtain ⟨hmem, hp⟩ := List.mem_filter.mp (hrows.joined.mem_iff.mp hr)
  obtain ⟨hmem', hp'⟩ := List.mem_filter.mp (hrows.joined.mem_iff.mp hr')
  obtain ⟨hjoin, htree, -⟩ := of_decide_eq_true hp
  obtain ⟨hjoin', htree', -⟩ := of_decide_eq_true hp'
  obtain ⟨hlink, hcampaign⟩ := List.mem_product.mp hmem
  obtain ⟨hlink', hcampaign'⟩ := List.mem_product.mp hmem'
  have heq : r.1 = r'.1 :=
    hdb.link_unique hlink hlink' (Prod.ext (htree.trans htree'.symm) hid)
  refine Prod.ext heq (List.inj_on_of_nodup_map (db.dash .campaigns).nodup hcampaign hcampaign' ?_)
  exact (hjoin.symm.trans (congrArg Dashboard.PingTreeCampaign.campaignId heq)).trans hjoin'

end RoutingDb

/-- What is found are the ids of some links. -/
theorem sublist_filterMap_ids {links : List PingTreeCampaign}
    {f : PingTreeCampaign → Option Campaign}
    (h : ∀ link c, f link = some c → c.id = link.campaignId) :
    ((links.filterMap f).map Campaign.id).Sublist (campaignIds links) := by
  induction links with
  | nil => exact List.Sublist.slnil
  | cons link links ih =>
    cases hf : f link with
    | none =>
      rw [List.filterMap_cons_none hf]
      exact ih.cons _
    | some c =>
      rw [List.filterMap_cons_some hf, List.map_cons, h link c hf]
      exact ih.cons_cons _

theorem sublist_activeCampaigns (env : RouteEnv) (links : List PingTreeCampaign) :
    ((PingTreeRouter.activeCampaigns env links).map Campaign.id).Sublist (campaignIds links) := by
  refine sublist_filterMap_ids fun link c h => ?_
  have hid := List.find?_some (Option.filter_eq_some_iff.mp h).1
  exact of_decide_eq_true hid

/-! ### Runs in which the dashboard edits the tables -/

namespace RoutingSys

variable {p : LeadCacheParams} {s s' : RoutingSys} {cfg : DashConfig} {lag : ℕ}
  {acts : List (RoutingAction p)}

/-- The tables change by requests to the dashboard. -/
def ByDashboard (cfg : DashConfig) (s : RoutingSys) : RoutingAction p → Prop
  | .event (.edit db) => ∃ call, dashStep cfg s.world.db.dash call = some db.dash
  | _ => True

/-- Something holds of the tables, and has held since a time. -/
structure HeldSince (I : Dashboard.Db → Prop) (since : ℕ) (w : CacheWorld RoutingDb) : Prop where
  current : I w.db.dash
  past : ∀ e ∈ w.seen, e.1 ≤ w.cache.now
  held : ∀ e ∈ w.seen, since ≤ e.1 → I e.2.dash

section

variable {I : Dashboard.Db → Prop} {since : ℕ} {w : CacheWorld RoutingDb}

theorem HeldSince.apply {ev : CacheEvent p.schema RoutingDb} (h : HeldSince I since w)
    (hev : I (w.apply ev).db.dash) : HeldSince I since (w.apply ev) where
  current := hev
  past e he := by
    rcases CacheWorld.mem_of_mem_seen_apply he with he | rfl
    · exact (h.past e he).trans (CacheWorld.now_le_apply ev)
    · exact le_rfl
  held e he hsince := by
    rcases CacheWorld.mem_of_mem_seen_apply he with he | rfl
    · exact h.held e he hsince
    · exact hev

/-- A request changes the tables by edits. -/
theorem current_apply (hI : ∀ s s', Edit s s' → I s → I s') (h : I s.world.db.dash)
    {ev : CacheEvent p.schema RoutingDb} (hev : s.ByDashboard cfg (.event ev)) :
    I (s.world.apply ev).db.dash := by
  cases ev with
  | edit db =>
    obtain ⟨call, hcall⟩ := hev
    exact edits_step hI h hcall
  | wait seconds => exact h
  | evict key => exact h
  | drop redisKey => exact h
  | call c missed => exact h
  | peer k text ttl => exact h
  | delete key fault => exact h
  | deleteByPrefix start fault => exact h

theorem heldSince_step (hI : ∀ s s', Edit s s' → I s → I s') (h : HeldSince I since s.world)
    {a : RoutingAction p} (ha : s.ByDashboard cfg a) (hstep : s.step a = some s') :
    HeldSince I since s'.world := by
  cases a with
  | event ev =>
    obtain rfl := Option.some.inj hstep
    exact h.apply (current_apply hI h.current ha)
  | arrive call =>
    obtain rfl := Option.some.inj hstep
    exact h
  | next i turn =>
    obtain ⟨l, hl, hnext⟩ := Option.bind_eq_some_iff.mp hstep
    obtain ⟨asks, hasks, rfl⟩ := Option.map_eq_some_iff.mp hnext
    have hdb : (s.world.apply (.call asks.call turn.missed)).db = s.world.db := rfl
    exact h.apply (by rw [hdb]; exact h.current)

theorem heldSince_run (hI : ∀ s s', Edit s s' → I s → I s') (h : HeldSince I since s.world)
    (hdash : Transition.Along step (ByDashboard cfg) s acts)
    (hrun : Transition.run step s acts = some s') : HeldSince I since s'.world := by
  let Inv : RoutingSys → Prop := fun s => HeldSince I since s.world
  have hstep : ∀ {s s' : RoutingSys} {a : RoutingAction p}, Inv s → s.ByDashboard cfg a →
      s.step a = some s' → Inv s' := fun hs ha hstep => heldSince_step hI hs ha hstep
  exact Transition.inv_of_run hstep h hdash hrun

end

variable {redis : Option String} {environment : String} {now : ℕ} {db : RoutingDb} {l : Load}
  {loaded : Loaded} {text : CacheError → String} {env : RouteEnv} {t : PingTree}
  {links : List PingTreeCampaign}

/-- The tables are intact, and have been. -/
theorem intact_since (hempty : ∀ t, routed t = true → (db.dash t).rows = [])
    (hdash : Transition.Along step (ByDashboard cfg) (new redis environment now db) acts)
    (hrun : Transition.run step (new redis environment now db) acts = some s) :
    HeldSince Intact 0 s.world := by
  have hdb : Intact db.dash := intact_empty hempty
  refine heldSince_run (fun _ _ => intact_of_edit) ⟨hdb, ?_, ?_⟩ hdash hrun
  · intro e he
    rw [List.mem_singleton.mp he]
    exact le_rfl
  · intro e he _
    rw [List.mem_singleton.mp he]
    exact hdb

theorem called_once (hempty : ∀ t, routed t = true → (db.dash t).rows = [])
    (hdash : Transition.Along step (ByDashboard cfg) (new redis environment now db) acts)
    (hhonest : Transition.Along step (Honest lag) (new redis environment now db) acts)
    (hrun : Transition.run step (new redis environment now db) acts = some s) (hl : l ∈ s.loads)
    (hdone : l.stage = .done loaded)
    (hcall : (loaded.toEnv text env).callable = some (t, links)) :
    ((PingTreeRouter.activeCampaigns (loaded.toEnv text env) links).map Campaign.id).Nodup := by
  have hheld := intact_since hempty hdash hrun
  obtain ⟨-, ⟨t₂, db₂, hseen, -, links', heq, henabled⟩, -⟩ :=
    (load_recent hhonest hrun hl hdone).callable hcall
  obtain rfl := Option.some.inj heq
  have hnodup := henabled.nodup (hheld.held _ hseen (Nat.zero_le _))
  exact hnodup.sublist (sublist_activeCampaigns _ links)

theorem deleted_for_ever (hempty : ∀ t, routed t = true → (db.dash t).rows = [])
    {acts' : List (RoutingAction p)} {db' : RoutingDb}
    (hdash : Transition.Along step (ByDashboard cfg) (new redis environment now db)
      (acts ++ .event (.edit db') :: acts'))
    (hhonest : Transition.Along step (Honest lag) (new redis environment now db)
      (acts ++ .event (.edit db') :: acts'))
    (hbefore : Transition.run step (new redis environment now db) acts = some s)
    (hrun : Transition.run step (new redis environment now db)
      (acts ++ .event (.edit db') :: acts') = some s')
    {a : PingTreePublisher} (ha : a ∈ (s.world.db.dash .pingTreePublishers).rows) {denv : DashEnv}
    {body : Json}
    (hdelete : deletePingTree denv a.pingTreeId s.world.db.dash = (.ok body, db'.dash))
    (hl : l ∈ s'.loads) (hdone : l.stage = .done loaded)
    (hlate : s.world.cache.now + 25200 + lag ≤ l.startedAt)
    (hcall : l.call = ⟨a.publisherId, a.vertical⟩) (t : PingTree) :
    loaded.pingTree ≠ .ok (some t) := by
  have hintact := intact_since hempty (Transition.along_append_left hdash) hbefore
  have hdash' := Transition.along_cons rfl (Transition.along_append_right hbefore hdash)
  have hrun' : Transition.run step
      ⟨s.world.apply (.edit db' : CacheEvent p.schema RoutingDb), s.loads⟩ acts' = some s' := by
    obtain ⟨u, hu, hrest⟩ := Transition.run_append.mp hrun
    obtain rfl := Option.some.inj (hbefore.symm.trans hu)
    obtain ⟨s₁, hs₁, hafter⟩ := Transition.run_cons_eq_some.mp hrest
    obtain rfl := Option.some.inj hs₁
    exact hafter
  -- the tables since the deletion
  have hheld : HeldSince (fun s => Intact s ∧ Stranded a.publisherId a.vertical s)
      (s.world.cache.now + 1) s'.world := by
    refine heldSince_run (fun _ _ hedit hs => ⟨intact_of_edit hedit hs.1, hs.2.of_edit hedit⟩) ?_
      hdash'.2 hrun'
    refine ⟨⟨current_apply (fun _ _ => intact_of_edit) hintact.current hdash'.1,
      stranded_of_deletePingTree denv hintact.current ha hdelete⟩, ?_, ?_⟩
    · exact (hintact.apply
        (current_apply (fun _ _ => intact_of_edit) hintact.current hdash'.1)).past
    · intro e he hsince
      rcases CacheWorld.mem_of_mem_seen_apply he with he | rfl
      · have hpast := hintact.past e he
        omega
      · have hnow : s.world.cache.now + 1 ≤ s.world.cache.now := hsince
        omega
  intro htree
  have hfrom := load_recent hhonest hrun hl hdone
  rw [Loaded.From, htree] at hfrom
  obtain ⟨⟨percentage, flat, t₁, db₁, hseen, hyoung, hfinds⟩, -⟩ := hfrom
  simp only [CacheKey.ttl, l1Ttl] at hyoung
  obtain ⟨hdb₁, hstranded⟩ := hheld.held _ hseen (show s.world.cache.now + 1 ≤ t₁ by omega)
  rw [hcall] at hfinds
  cases RoutingDb.FindsForRouting.none_of_stranded hdb₁ hstranded hfinds

end RoutingSys

/-! ### A publisher and its ping tree -/

namespace Sample

open RoutingSys

/-- A request, with its draw. -/
def drawing (uuid : Uuid) (req : Request) : DashCall :=
  ⟨user, { dashEnv with uuid := fun _ => uuid }, req⟩

def served (db : RoutingDb) (call : DashCall) : RoutingDb :=
  { db with dash := (handle dashConfig call.user call.env call.req db.dash).2 }

def roofsPublisher : CreatePublisherRequest :=
  ⟨"Roofs", "roofs@example.com", some 2, none, none, none, none, none, none, none, none, none⟩

def addPublisherCall : DashCall := drawing 6 (.createPublisher roofsPublisher)

def addTreeCall : DashCall :=
  drawing 40 (.createPingTree ⟨"Roofing", "solar", "ping_post", some 2, none⟩)

def assignCall : DashCall := drawing 60 (.addPublisherToPingTree 40 6 none none)

def addCampaignCall : DashCall :=
  drawing 10 (.createCampaign { newCampaign none with buyerId := 20 })

def linkCall : DashCall := drawing 50 (.addCampaignToPingTree 40 10 (some 1))

def deleteTreeCall : DashCall := drawing 70 (.deletePingTree 40)

def instanceDb : RoutingDb := ⟨newInstance, fun _ => none⟩

def publisherDb : RoutingDb := served instanceDb addPublisherCall

def treeDb : RoutingDb := served publisherDb addTreeCall

/-- The publisher gets four fifths of the revenue, as the request names no share. -/
def assignedRow : PingTreePublisher := ⟨60, 40, 6, "solar", some 80, none, 1000, 1000⟩

def assignedDb : RoutingDb :=
  { treeDb with
    dash :=
      (Database.insert .pingTreePublishers assignedRow treeDb.dash :
        Except ℕ Bool × Dashboard.Db).2 }

def campaignDb : RoutingDb := served assignedDb addCampaignCall

def linkedDb : RoutingDb := served campaignDb linkCall

def deletedDb : RoutingDb := served assignedDb deleteTreeCall

theorem instanceDb_empty (t : Relation) (ht : routed t = true) : (instanceDb.dash t).rows = [] := by
  cases t <;> first | rfl | cases ht

theorem fourFifths_valid : Revshare.valid ⟨some 80, none⟩ = true := by
  norm_num [Revshare.valid]

theorem fourFifths_stored : Revshare.stored ⟨some 80, none⟩ = some ⟨some 80, none⟩ := by
  have hcents : cents 80 = 80 := by
    have hround : round (80 * 100 : ℚ) = 8000 := by
      norm_num
    rw [cents, hround]
    norm_num
  have hcolumn : decimalColumn 3 80 = some 80 := by
    rw [decimalColumn, hcents]
    norm_num
  simp [Revshare.stored, hcolumn]

theorem dashStep_assignCall :
    dashStep dashConfig treeDb.dash assignCall = some assignedDb.dash := by
  have hshare : (Revshare.ofRequest dashConfig none none).applyDefaults = ⟨some 80, none⟩ := rfl
  show some (addPublisherToPingTree dashConfig _ 40 6 none none treeDb.dash).2 = _
  simp only [addPublisherToPingTree, hshare, fourFifths_valid, fourFifths_stored]
  rfl

/-- The one ping tree of the publisher. -/
theorem assignedDb_finds : assignedDb.FindsForRouting 6 "solar" (some treeValue) :=
  ⟨[(⟨40, 2, "Roofing", "solar", "ping_post", "active", none, none, 1000, 1000⟩,
    ⟨60, 40, 6, "solar", some 80, none, 1000, 1000⟩)], ⟨.refl _, List.pairwise_singleton _ _⟩, rfl⟩

theorem linkedDb_findsEnabled : linkedDb.FindsEnabled 40 linksValue :=
  ⟨[(⟨50, 40, 10, some 1, true, 1000, 1000⟩,
    (linkedDb.dash .campaigns).rows.head (by decide))],
    ⟨.refl _, List.pairwise_singleton _ _⟩, rfl⟩

theorem linkedDb_associations :
    linkedDb.Answers (.campaignsAssociations (.of [10])) (some associationsValue) := by
  refine ⟨associationsValue, rfl, ?_⟩
  rw [SortedIds.ids_of_singleton]
  exact List.Perm.of_eq rfl

theorem linkedDb_configs : linkedDb.Answers (.qualBuyers (.of [20])) (some configsValue) :=
  routingDb_configs

theorem linkedDb_finds : linkedDb.FindsForRouting 6 "solar" (some treeValue) :=
  ⟨[(⟨40, 2, "Roofing", "solar", "ping_post", "active", none, none, 1000, 1000⟩,
    ⟨60, 40, 6, "solar", some 80, none, 1000, 1000⟩)], ⟨.refl _, List.pairwise_singleton _ _⟩, rfl⟩

theorem deletedDb_finds : deletedDb.FindsForRouting 6 "solar" none :=
  ⟨[], ⟨.refl _, .nil⟩, rfl⟩

/-- The publisher has no second ping tree, and not none. -/
theorem assignedDb_finds_not_none : ¬assignedDb.FindsForRouting 6 "solar" none := by
  intro h
  have hrun : Transition.run (dashStep dashConfig) newInstance
      [addPublisherCall, addTreeCall, assignCall] = some assignedDb.dash := by
    rw [Transition.run_cons_eq_some]
    refine ⟨publisherDb.dash, rfl, ?_⟩
    rw [Transition.run_cons_eq_some]
    refine ⟨treeDb.dash, rfl, ?_⟩
    rw [Transition.run_cons_eq_some]
    exact ⟨assignedDb.dash, dashStep_assignCall, rfl⟩
  cases RoutingDb.found_unique instanceDb_empty hrun h assignedDb_finds

/-- The tables are filled. -/
def fillActs : List (RoutingAction routingParams) :=
  [publisherDb, treeDb, assignedDb, campaignDb, linkedDb].map fun db => .event (.edit db)

/-- A request comes, and makes its five lookups. -/
def requestActs : List (RoutingAction routingParams) :=
  .arrive ⟨6, "solar"⟩ :: List.replicate 5 (.next 0 routingTurn)

def emptySys : RoutingSys := .new none "production" 0 instanceDb

def linkedLoad : Load := ⟨⟨6, "solar"⟩, 0, true, .done routedLoaded⟩

theorem filled_run : ∃ cache, Transition.run RoutingSys.step emptySys (fillActs ++ requestActs) =
    some ⟨⟨cache, linkedDb, [(0, linkedDb), (0, campaignDb), (0, assignedDb), (0, treeDb),
      (0, publisherDb), (0, instanceDb)]⟩, [linkedLoad]⟩ := ⟨_, rfl⟩

theorem filled_byDashboard : Transition.Along RoutingSys.step (ByDashboard dashConfig) emptySys
    (fillActs ++ requestActs) :=
  ⟨⟨addPublisherCall, rfl⟩, ⟨addTreeCall, rfl⟩, ⟨assignCall, dashStep_assignCall⟩,
    ⟨addCampaignCall, rfl⟩, ⟨linkCall, rfl⟩, trivial, trivial, trivial, trivial, trivial, trivial,
    trivial⟩

theorem filled_honest : Transition.Along RoutingSys.step (Honest 0) emptySys
    (fillActs ++ requestActs) := by
  refine ⟨trivial, trivial, trivial, trivial, trivial, trivial, ?_, ?_, ?_, ?_, ?_, trivial⟩
  · exact honest_next rfl rfl rfl ⟨0, linkedDb, List.mem_cons_self, le_rfl, le_rfl, linkedDb_finds⟩
  · exact honest_next rfl rfl rfl
      ⟨0, linkedDb, List.mem_cons_self, le_rfl, le_rfl, _, rfl, linkedDb_findsEnabled⟩
  · exact honest_next rfl rfl rfl ⟨0, linkedDb, List.mem_cons_self, le_rfl, le_rfl, rfl⟩
  · exact honest_next rfl rfl rfl
      ⟨0, linkedDb, List.mem_cons_self, le_rfl, le_rfl, linkedDb_associations⟩
  · exact honest_next rfl rfl rfl
      ⟨0, linkedDb, List.mem_cons_self, le_rfl, le_rfl, linkedDb_configs⟩

theorem routedCampaign_called_once :
    ((PingTreeRouter.activeCampaigns (routedLoaded.toEnv noText routedEnv) linksValue).map
      Campaign.id).Nodup := by
  obtain ⟨cache, hrun⟩ := filled_run
  exact called_once instanceDb_empty filled_byDashboard filled_honest hrun List.mem_cons_self
    (rfl : linkedLoad.stage = .done routedLoaded) routed_callable

/-- A publisher is assigned to a ping tree. -/
def assignActs : List (RoutingAction routingParams) :=
  [publisherDb, treeDb, assignedDb].map fun db => .event (.edit db)

/-- The ping tree is not found any more. -/
def noTreeTurn : LoadTurn := { routingTurn with pingTree := .ok none }

/-- Seven hours later a request comes. -/
def lateActs : List (RoutingAction routingParams) :=
  [.event (.wait 25200), .arrive ⟨6, "solar"⟩, .next 0 noTreeTurn]

def unroutedLoad : Load := ⟨⟨6, "solar"⟩, 25200, true, .done (.early (.ok none) (.ok []))⟩

theorem deleted_run : ∃ cache, Transition.run RoutingSys.step emptySys
    (assignActs ++ .event (.edit deletedDb) :: lateActs) = some ⟨⟨cache, deletedDb,
      [(25200, deletedDb), (0, deletedDb), (0, assignedDb), (0, treeDb), (0, publisherDb),
        (0, instanceDb)]⟩, [unroutedLoad]⟩ := ⟨_, rfl⟩

theorem deleted_byDashboard : Transition.Along RoutingSys.step (ByDashboard dashConfig) emptySys
    (assignActs ++ .event (.edit deletedDb) :: lateActs) :=
  ⟨⟨addPublisherCall, rfl⟩, ⟨addTreeCall, rfl⟩, ⟨assignCall, dashStep_assignCall⟩,
    ⟨deleteTreeCall, rfl⟩, trivial, trivial, trivial, trivial⟩

theorem deleted_honest : Transition.Along RoutingSys.step (Honest 0) emptySys
    (assignActs ++ .event (.edit deletedDb) :: lateActs) := by
  refine ⟨trivial, trivial, trivial, trivial, trivial, trivial, ?_, trivial⟩
  refine honest_next rfl rfl rfl ?_
  exact ⟨25200, deletedDb, List.mem_cons_self, le_rfl, le_rfl, deletedDb_finds⟩

/-- The publisher of the deleted ping tree is not routed to it. -/
theorem unroutedLoad_tree : ∃ s : RoutingSys, Transition.run RoutingSys.step emptySys
    (assignActs ++ .event (.edit deletedDb) :: lateActs) = some s ∧ unroutedLoad ∈ s.loads ∧
      (Loaded.early (.ok none) (.ok [])).pingTree ≠ .ok (some routedTree) := by
  obtain ⟨cache, hrun⟩ := deleted_run
  refine ⟨_, hrun, List.mem_cons_self, ?_⟩
  exact deleted_for_ever instanceDb_empty deleted_byDashboard deleted_honest rfl hrun
    (a := assignedRow) List.mem_cons_self (rfl : deletePingTree deleteTreeCall.env 40 _ = _)
    (l := unroutedLoad) List.mem_cons_self rfl (by decide) rfl routedTree

end Sample

end LeadsNebula
