/-
Filling the cache before it is asked (`cache_warmup.rs`).

Eight tasks each list some rows and then make a call of the cache for every row; six of
the eight read the value again, the two that list names store what they have listed.
They run at the start and every half an hour, beside the requests.

* `warmed_refines` — if no task goes on longer than a statement may take, the loads and
  the cache run as without tasks: a task does nothing that the calls of requests may
  not do, so all that holds of the values of loads holds with tasks, too;
* `warmed_key_iff` — the rule sets are stored under the key that a load asks for exactly
  if every buyer of a campaign in the ping tree has an active one there.
-/
import LeadsNebula.RoutingFreshness

namespace LeadsNebula

/-! ### Tasks -/

/-- The tasks that fill the cache. -/
inductive WarmTask where
  | verticals
  | pingTrees
  | buyerNames
  | campaignNames
  | buyerIntegrations
  | buyerIds
  | qualificationConfigs
  | pingTreeCampaigns

namespace WarmTask

/-- A row that a task lists: a vertical; a publisher and the vertical of its ping tree; an id and a
name; an id; the buyers of a ping tree. -/
@[reducible] def Row : WarmTask → Type
  | verticals => Vertical
  | pingTrees | buyerNames => Uuid × String
  | campaignNames => Uuid × Option String
  | buyerIntegrations | buyerIds | pingTreeCampaigns => Uuid
  | qualificationConfigs => List Uuid

/-- What the value of a call is read from. -/
structure WarmTurn where
  pingTree : Except String (Option (PingTree × Option ℚ × Option ℚ))
  integration : Except String (Option BuyerIntegration)
  buyer : Except String (Option Buyer)
  configs : Except String ConfigEntries
  links : Except String (List PingTreeCampaign)
  faults : CallFaults
  missed : Bool

variable (p : LeadCacheParams)

/-- The call for a row; a campaign without a name and a ping tree without buyers have none. -/
def call (turn : WarmTurn) : (task : WarmTask) → task.Row → Option (CacheCall p.schema)
  | verticals, v => some (.plain ⟨.verticalSlug v.slug, trivial⟩ 86400 (.ok v) turn.faults)
  -- requests ask for this key by `get_or_insert_with_skip_none`
  | pingTrees, (publisherId, vertical) =>
    some (.option ⟨.pingTree publisherId vertical, trivial⟩ 21600 turn.pingTree turn.faults)
  | buyerNames, (id, name) => some (.plain ⟨.buyerName id, trivial⟩ 3600 (.ok name) turn.faults)
  | campaignNames, (id, some name) =>
    some (.plain ⟨.campaignName id, trivial⟩ 3600 (.ok name) turn.faults)
  | campaignNames, (_, none) => none
  | buyerIntegrations, id =>
    some (.option ⟨.buyerIntegrationId id, trivial⟩ 3600 turn.integration turn.faults)
  | buyerIds, id => some (.option ⟨.buyerId id, trivial⟩ 86400 turn.buyer turn.faults)
  | qualificationConfigs, ids =>
    if ids.isEmpty then none
    else some (.plain ⟨.qualBuyers (.of ids), trivial⟩ 3600 turn.configs turn.faults)
  | pingTreeCampaigns, id =>
    some (.plain ⟨.pingTreeCampaigns id, trivial⟩ 21600 turn.links turn.faults)

/-- The task reads the value of a call from the database. -/
def reads : WarmTask → Bool
  | verticals | buyerNames | campaignNames => false
  | _ => true

/-! ### Queries -/

/-- `ORDER BY … DESC LIMIT …`. -/
def Latest {ρ : Type} (all : List ρ) (createdAt : ρ → ℕ) (limit : ℕ) (rows : List ρ) : Prop :=
  ∃ sorted : List ρ, sorted.Perm all ∧ sorted.Pairwise (fun a b => createdAt b ≤ createdAt a) ∧
    rows = sorted.take limit

/-- The ping trees that are active. -/
def activeTrees (db : RoutingDb) : List Dashboard.PingTree :=
  (db.dash .pingTrees).rows.filter fun t => t.deletedAt = none ∧ t.status = "active"

/-- The campaign is not deleted, and enabled in the ping tree. -/
def InTree (db : RoutingDb) (pingTreeId : Uuid) (c : Dashboard.Campaign) : Prop :=
  c ∈ (db.dash .campaigns).rows ∧ c.deletedAt = none ∧
    ∃ link ∈ (db.dash .pingTreeCampaigns).rows, link.pingTreeId = pingTreeId ∧
      link.campaignId = c.id ∧ link.enabled = true

/-- `array_agg(DISTINCT c.buyer_id)` for a ping tree. -/
structure BuyersOf (db : RoutingDb) (pingTreeId : Uuid) (ids : List Uuid) : Prop where
  nodup : ids.Nodup
  mem : ∀ id, id ∈ ids ↔ ∃ c, InTree db pingTreeId c ∧ c.buyerId = id

/-- What the query of a task may list.  The tables here do not have the columns by which verticals
and integrations are chosen and ordered. -/
def Lists (db : RoutingDb) : (task : WarmTask) → List task.Row → Prop
  | verticals => fun rows => rows.length ≤ 50
  | pingTrees => fun rows => ∃ joined : List (Dashboard.PingTree × Uuid), joined.Nodup ∧
    -- the rows of the join, one for each assignment of an active tree
    (∀ r, r ∈ joined ↔ r.1 ∈ activeTrees db ∧ ∃ a ∈ (db.dash .pingTreePublishers).rows,
      a.pingTreeId = r.1.id ∧ a.publisherId = r.2) ∧
    joined.Pairwise (fun a b => b.1.createdAt ≤ a.1.createdAt) ∧
    rows = (joined.take 100).map fun r => (r.2, r.1.vertical)
  | buyerNames => fun rows => ∃ buyers, Latest ((db.dash .buyers).rows.filter fun b =>
      b.deletedAt = none) Dashboard.Buyer.createdAt 500 buyers ∧
    rows = buyers.map fun b => (b.id, b.name)
  | campaignNames => fun rows => ∃ campaigns, Latest ((db.dash .campaigns).rows.filter fun c =>
      c.deletedAt = none) Dashboard.Campaign.createdAt 500 campaigns ∧
    rows = campaigns.map fun c => (c.id, c.name)
  | buyerIntegrations => fun rows => ∃ integrations, Latest ((db.dash
      .buyerIntegrations).rows.filter fun i => i.status = "available") (fun _ => 0) 500
        integrations ∧
    rows = integrations.map Dashboard.BuyerIntegration.id
  | buyerIds => fun rows => ∃ buyers, Latest ((db.dash .buyers).rows.filter fun b =>
      b.deletedAt = none) Dashboard.Buyer.createdAt 500 buyers ∧
    rows = buyers.map Dashboard.Buyer.id
  | qualificationConfigs => fun rows => ∃ trees : List Dashboard.PingTree, trees.Nodup ∧
    -- the trees come in no order; those without buyers are left out
    trees ⊆ activeTrees db ∧ trees.length ≤ 50 ∧
    List.Forall₂ (fun t ids => BuyersOf db t.id ids ∧ ids ≠ []) trees rows
  | pingTreeCampaigns => fun rows => ∃ trees,
    Latest (activeTrees db) Dashboard.PingTree.createdAt 100 trees ∧
    rows = trees.map Dashboard.PingTree.id

variable {db : RoutingDb} {p} {turn : WarmTurn}

theorem Latest.mem {ρ : Type} {all rows : List ρ} {createdAt : ρ → ℕ} {limit : ℕ}
    (h : Latest all createdAt limit rows) {r : ρ} (hr : r ∈ rows) : r ∈ all := by
  obtain ⟨sorted, hperm, -, rfl⟩ := h
  exact hperm.mem_iff.mp (List.mem_of_mem_take hr)

/-- The row of a key is the one that a query finds. -/
theorem select_live {ρ : Type} {key : ρ → Uuid} {t : Table key} {deletedAt : ρ → Option ℕ} {r : ρ}
    (hr : r ∈ t.rows) (hlive : deletedAt r = none) :
    t.select (fun r' => key r' = key r ∧ deletedAt r' = none) = some r := by
  obtain ⟨r', hr'⟩ : ∃ r', t.select (fun r' => key r' = key r ∧ deletedAt r' = none) = some r' :=
    Option.isSome_iff_exists.mp (List.find?_isSome.mpr ⟨r, hr, decide_eq_true ⟨rfl, hlive⟩⟩)
  have hp := List.find?_some hr'
  rw [hr', List.inj_on_of_nodup_map t.nodup (List.mem_of_find?_eq_some hr') hr
    (of_decide_eq_true hp).1]

theorem Lists.buyerName {rows : List (Uuid × String)} (h : Lists db buyerNames rows)
    {row : Uuid × String} (hrow : row ∈ rows) : db.buyerName row.1 = some row.2 := by
  obtain ⟨buyers, hbuyers, rfl⟩ := h
  obtain ⟨b, hb, rfl⟩ := List.mem_map.mp hrow
  obtain ⟨hmem, hlive⟩ := List.mem_filter.mp (hbuyers.mem hb)
  rw [RoutingDb.buyerName]
  exact congrArg (Option.map Dashboard.Buyer.name)
    (select_live (t := db.dash .buyers) hmem (of_decide_eq_true hlive))

theorem Lists.campaignName {rows : List (Uuid × Option String)} (h : Lists db campaignNames rows)
    {row : Uuid × Option String} (hrow : row ∈ rows) : db.campaignName row.1 = some row.2 := by
  obtain ⟨campaigns, hcampaigns, rfl⟩ := h
  obtain ⟨c, hc, rfl⟩ := List.mem_map.mp hrow
  obtain ⟨hmem, hlive⟩ := List.mem_filter.mp (hcampaigns.mem hc)
  rw [RoutingDb.campaignName]
  exact congrArg (Option.map Dashboard.Campaign.name)
    (select_live (t := db.dash .campaigns) hmem (of_decide_eq_true hlive))

/-- A task stores its values for a time that the keys allow. -/
theorem timed_call {task : WarmTask} {row : task.Row} {c : CacheCall p.schema}
    (h : call p turn task row = some c) : c.Timed := by
  have hpos : ∀ n : ℕ, 0 < n + 1 := Nat.succ_pos
  cases task with
  | campaignNames =>
    obtain ⟨id, name⟩ := row
    cases name with
    | none => cases h
    | some name =>
      obtain rfl := Option.some.inj h
      exact ⟨hpos _, le_rfl⟩
  | qualificationConfigs =>
    simp only [call] at h
    split at h
    · cases h
    · obtain rfl := Option.some.inj h
      exact ⟨hpos _, le_rfl⟩
  | _ =>
    obtain rfl := Option.some.inj h
    exact ⟨hpos _, le_rfl⟩

/-- What a task lists and stores without reading it again, is what the database answers. -/
theorem Lists.answers {task : WarmTask} {rows : List task.Row} (h : Lists db task rows)
    (hreads : task.reads = false) {row : task.Row} (hrow : row ∈ rows) {c : CacheCall p.schema}
    (hcall : call p turn task row = some c) {o : c.Out} (ho : c.source = .ok o) :
    db.Answers c.key.1 (c.answer o) := by
  cases task with
  | verticals =>
    obtain rfl := Option.some.inj hcall
    trivial
  | buyerNames =>
    obtain rfl := Option.some.inj hcall
    obtain rfl := Except.ok.inj ho
    exact (h.buyerName hrow).symm
  | campaignNames =>
    obtain ⟨id, name⟩ := row
    cases name with
    | none => cases hcall
    | some name =>
      obtain rfl := Option.some.inj hcall
      obtain rfl := Except.ok.inj ho
      exact (h.campaignName hrow).symm
  | pingTrees | buyerIntegrations | buyerIds | qualificationConfigs | pingTreeCampaigns =>
    cases hreads

end WarmTask

/-! ### Tasks beside requests -/

/-- A task, when it has listed its rows, and those that are left. -/
structure Warming where
  task : WarmTask
  listedAt : ℕ
  rows : List task.Row

structure WarmSys where
  routing : RoutingSys
  warming : List Warming

/-- A request or the cache goes on; a task starts with what its query lists, if that does not fail;
task `i` takes its next row. -/
inductive WarmAction (p : LeadCacheParams) where
  | routing (a : RoutingAction p)
  | list (task : WarmTask) (rows : List task.Row)
  | warm (i : ℕ) (turn : WarmTask.WarmTurn)

namespace WarmSys

variable {p : LeadCacheParams} (s : WarmSys)

def new (redis : Option String) (env : String) (now : ℕ) (db : RoutingDb) : WarmSys :=
  ⟨.new redis env now db, []⟩

/-- The cache after a call, if there is one. -/
def afterCall (c : Option (CacheCall p.schema)) (missed : Bool) : RoutingSys :=
  match c with
  | some c => { s.routing with world := s.routing.world.apply (.call c missed) }
  | none => s.routing

def step : WarmAction p → Option WarmSys
  | .routing a => (s.routing.step a).map fun routing => { s with routing := routing }
  | .list task rows =>
    some { s with warming := s.warming ++ [⟨task, s.routing.world.cache.now, rows⟩] }
  | .warm i turn =>
    (s.warming[i]?).bind fun w =>
      match w.rows with
      | [] => none
      | row :: rows => some
        { routing := s.afterCall (w.task.call p turn row) turn.missed
          warming := s.warming.set i { w with rows := rows } }

/-- A task goes on for at most `lag` seconds, and what it reads again the database has answered at
most `lag` seconds ago. -/
structure Prompt (lag : ℕ) (turn : WarmTask.WarmTurn) (w : Warming) : Prop where
  young : s.routing.world.cache.now ≤ w.listedAt + lag
  read : w.task.reads = true → ∀ row ∈ w.rows, ∀ c, w.task.call p turn row = some c → ∀ o,
    c.source = .ok o → s.routing.world.Gave (S := p.schema) RoutingSys.answers lag
      s.routing.world.cache.now c.key (c.answer o)

/-- Queries list and sources give what the database answers, or answered at most `lag` seconds
ago. -/
def Honest (lag : ℕ) (s : WarmSys) : WarmAction p → Prop
  | .routing a => s.routing.Honest lag a
  | .list task rows => task.Lists s.routing.world.db rows
  | .warm i turn => ∀ w ∈ s.warming[i]?, s.Prompt (p := p) lag turn w

/-- The cache is sound, and every task has listed what the database held. -/
structure Inv (p : LeadCacheParams) (lag : ℕ) (s : WarmSys) : Prop where
  routing : s.routing.Inv p lag
  listed : ∀ w ∈ s.warming, w.listedAt ≤ s.routing.world.cache.now ∧
    ∃ db, (w.listedAt, db) ∈ s.routing.world.seen ∧ ∃ before, w.task.Lists db (before ++ w.rows)

variable {s} {s' : WarmSys} {lag : ℕ} {turn : WarmTask.WarmTurn}

theorem inv_new (p : LeadCacheParams) (redis : Option String) (env : String) (now : ℕ)
    (db : RoutingDb) : (new redis env now db).Inv p lag where
  routing := RoutingSys.inv_new p redis env now db
  listed _ h := by cases h

/-- A call of a task is one that any request may make. -/
theorem call_honest (h : s.Inv p lag) {w : Warming} (hw : w ∈ s.warming)
    (hprompt : s.Prompt (p := p) lag turn w) {row : w.task.Row} (hrow : row ∈ w.rows)
    {c : CacheCall p.schema} (hcall : w.task.call p turn row = some c) (missed : Bool) :
    s.routing.Honest lag (.event (.call c missed)) := by
  refine ⟨WarmTask.timed_call hcall, fun o ho => ?_⟩
  cases hreads : w.task.reads with
  | true => exact hprompt.read hreads row hrow c hcall o ho
  | false =>
    -- the value is the one that was listed
    obtain ⟨hle, db, hseen, before, hlists⟩ := h.listed w hw
    have hanswers := hlists.answers hreads (List.mem_append_right _ hrow) hcall ho
    exact ⟨w.listedAt, db, hseen, hle, hprompt.young, hanswers⟩

theorem warm_cases {i : ℕ} (hstep : s.step (p := p) (.warm i turn) = some s') :
    ∃ w row rows, s.warming[i]? = some w ∧ w.rows = row :: rows ∧
      s' = ⟨s.afterCall (w.task.call p turn row) turn.missed,
        s.warming.set i { w with rows := rows }⟩ := by
  obtain ⟨w, hw, hnext⟩ := Option.bind_eq_some_iff.mp hstep
  cases hrows : w.rows with
  | nil =>
    rw [hrows] at hnext
    cases hnext
  | cons row rows =>
    rw [hrows] at hnext
    exact ⟨w, row, rows, hw, hrows, (Option.some.inj hnext).symm⟩

/-- What is seen stays seen. -/
theorem kept_step {r r' : RoutingSys} {a : RoutingAction p} (hstep : r.step a = some r') :
    r.world.cache.now ≤ r'.world.cache.now ∧ r.world.seen ⊆ r'.world.seen := by
  cases a with
  | event ev =>
    obtain rfl := Option.some.inj hstep
    exact ⟨CacheWorld.now_le_apply ev, fun _ he => CacheWorld.mem_seen_apply he⟩
  | arrive call =>
    obtain rfl := Option.some.inj hstep
    exact ⟨le_rfl, List.Subset.refl _⟩
  | next i turn =>
    obtain ⟨l, hl, hnext⟩ := Option.bind_eq_some_iff.mp hstep
    obtain ⟨asks, hasks, rfl⟩ := Option.map_eq_some_iff.mp hnext
    let ev : CacheEvent p.schema RoutingDb := .call asks.call turn.missed
    have hseen : ∀ e ∈ r.world.seen, e ∈ (r.world.apply ev).seen :=
      fun _ he => CacheWorld.mem_seen_apply he
    exact ⟨CacheWorld.now_le_apply ev, hseen⟩

/-- A step of a task is an event of the cache, or nothing. -/
theorem refines_step (h : s.Inv p lag) {a : WarmAction p} (ha : s.Honest lag a)
    (hstep : s.step a = some s') : s'.routing = s.routing ∨
      ∃ b, s.routing.Honest lag b ∧ s.routing.step (p := p) b = some s'.routing := by
  cases a with
  | routing b =>
    obtain ⟨routing, hrouting, rfl⟩ := Option.map_eq_some_iff.mp hstep
    exact Or.inr ⟨b, ha, hrouting⟩
  | list task rows =>
    obtain rfl := Option.some.inj hstep
    exact Or.inl rfl
  | warm i turn =>
    obtain ⟨w, row, rows, hw, hrows, rfl⟩ := warm_cases hstep
    cases hcall : w.task.call p turn row with
    | none => exact Or.inl rfl
    | some c =>
      refine Or.inr ⟨.event (.call c turn.missed), ?_, rfl⟩
      refine call_honest h (List.mem_of_getElem? hw) (ha w hw) ?_ hcall turn.missed
      rw [hrows]
      exact List.mem_cons_self

theorem inv_step {a : WarmAction p} (h : s.Inv p lag) (ha : s.Honest lag a)
    (hstep : s.step a = some s') : s'.Inv p lag := by
  -- for the routing the step is one of its own, or none
  have hrouting : s'.routing.Inv p lag ∧ s.routing.world.cache.now ≤ s'.routing.world.cache.now ∧
      s.routing.world.seen ⊆ s'.routing.world.seen := by
    rcases refines_step h ha hstep with heq | ⟨b, hb, hb'⟩
    · rw [heq]
      exact ⟨h.routing, le_rfl, List.Subset.refl _⟩
    · exact ⟨RoutingSys.inv_step h.routing hb hb', kept_step hb'⟩
  obtain ⟨hinv, hnow, hseen⟩ := hrouting
  -- what was listed before this step stays listed
  have hold : ∀ w ∈ s.warming, w.listedAt ≤ s'.routing.world.cache.now ∧
      ∃ db, (w.listedAt, db) ∈ s'.routing.world.seen ∧
        ∃ before, w.task.Lists db (before ++ w.rows) := by
    intro w hw
    obtain ⟨hle, db, hmem, hlists⟩ := h.listed w hw
    exact ⟨hle.trans hnow, db, hseen hmem, hlists⟩
  refine ⟨hinv, ?_⟩
  cases a with
  | routing b =>
    obtain ⟨routing, -, rfl⟩ := Option.map_eq_some_iff.mp hstep
    exact hold
  | list task rows =>
    obtain rfl := Option.some.inj hstep
    intro w hw
    rcases List.mem_append.mp hw with hw | hw
    · exact hold w hw
    · obtain rfl := List.mem_singleton.mp hw
      -- the rows are those of the present table, none of them warmed yet
      exact ⟨le_rfl, _, h.routing.world.current, [], ha⟩
  | warm i turn =>
    obtain ⟨w, row, rows, hw, hrows, rfl⟩ := warm_cases hstep
    intro w' hw'
    rcases List.mem_or_eq_of_mem_set hw' with hw' | rfl
    · exact hold w' hw'
    · -- one row more is behind, one less to come
      obtain ⟨hle, db, hmem, before, hlists⟩ := hold w (List.mem_of_getElem? hw)
      refine ⟨hle, db, hmem, before ++ [row], ?_⟩
      rwa [List.append_assoc, List.singleton_append, ← hrows]

end WarmSys

/-! ### The key of the rule sets -/

section

variable {db : RoutingDb} {pingTreeId : Uuid} {ids found : List Uuid}
  {links : List PingTreeCampaign}

theorem nodup_foldl_insertBuyer {os : List (Option Uuid)} (h : found.Nodup) :
    (os.foldl insertBuyer found).Nodup := by
  induction os generalizing found with
  | nil => exact h
  | cons o os ih =>
    refine ih ?_
    cases o with
    | none => exact h
    | some b => exact h.insert

/-- Every campaign that is enabled is among those that are found. -/
theorem RoutingDb.FindsEnabled.mem_iff (h : db.FindsEnabled pingTreeId links) {id : Uuid} :
    id ∈ campaignIds links ↔ db.Enabled pingTreeId id := by
  constructor
  · intro hid
    obtain ⟨link, hlink, rfl⟩ := List.mem_map.mp hid
    exact h.mem hlink
  · rintro ⟨link, hlink, c, hc, htree, rfl, henabled, hcid, hstatus, hdeleted⟩
    obtain ⟨rows, hrows, rfl⟩ := h
    have hmem : (link, c) ∈ rows := by
      refine hrows.joined.mem_iff.mpr (List.mem_filter.mpr ⟨List.mem_product.mpr ⟨hlink, hc⟩, ?_⟩)
      exact decide_eq_true ⟨hcid.symm, htree, henabled, hstatus, hdeleted⟩
    exact List.mem_map.mpr ⟨_, List.mem_map_of_mem hmem, rfl⟩

/-- A load looks for the rule sets of the buyers of active campaigns. -/
theorem mem_found_iff (hlinks : db.FindsEnabled pingTreeId links)
    (hfound : FoundBuyers db.Answers true (campaignIds links) found) {b : Uuid} :
    b ∈ found ↔ ∃ c, WarmTask.InTree db pingTreeId c ∧ c.status = .active ∧ c.buyerId = b := by
  rw [mem_foundBuyers hfound]
  constructor
  · rintro ⟨id, hid, hbuyer⟩
    have henabled := hlinks.mem_iff.mp hid
    obtain ⟨c, hc, hcid, hstatus, hdeleted, hrow⟩ := henabled.row
    obtain ⟨link, hlink, -, -, htree, hlinkId, hon, -⟩ := henabled
    refine ⟨c, ⟨hc, hdeleted, link, hlink, htree, hlinkId.trans hcid.symm, hon⟩, hstatus, ?_⟩
    exact Option.some.inj (hrow.symm.trans hbuyer)
  · rintro ⟨c, ⟨hc, hdeleted, link, hlink, htree, hlinkId, hon⟩, hstatus, rfl⟩
    have henabled : db.Enabled pingTreeId c.id :=
      ⟨link, hlink, c, hc, htree, hlinkId, hon, rfl, hstatus, hdeleted⟩
    refine ⟨c.id, hlinks.mem_iff.mpr henabled, ?_⟩
    obtain ⟨c', hc', hcid, -, -, hrow⟩ := henabled.row
    rw [hrow, List.inj_on_of_nodup_map (db.dash .campaigns).nodup hc' hc hcid]

end

/-! ### Samples -/

namespace Sample

open WarmTask

theorem routingDb_buyersOf : BuyersOf routingDb 40 [20] := by
  refine ⟨List.nodup_singleton _, fun id => ?_⟩
  rw [List.mem_singleton]
  constructor
  · rintro rfl
    exact ⟨_, ⟨List.mem_cons_self, rfl, _, List.mem_cons_self, rfl, rfl, rfl⟩, rfl⟩
  · rintro ⟨c, ⟨hc, -⟩, rfl⟩
    obtain rfl := List.mem_singleton.mp hc
    rfl

def warmTurn : WarmTurn where
  pingTree := .ok none
  integration := .ok none
  buyer := .ok none
  configs := .ok configsValue
  links := .ok linksValue
  faults := ⟨true, none⟩
  missed := false

/-- A task lists the one ping tree; a second later it stores the rule sets, and a request comes. -/
def warmedActs : List (WarmAction routingParams) :=
  [.list .qualificationConfigs [[20]], .routing (.event (.wait 1)), .warm 0 warmTurn,
    .routing (.arrive ⟨6, "solar"⟩)]

def warmStart : WarmSys := .new none "production" 0 routingDb

theorem warmedActs_run : ∃ cache, Transition.run WarmSys.step warmStart warmedActs =
    some ⟨⟨⟨cache, routingDb, [(1, routingDb), (0, routingDb)]⟩,
      [⟨⟨6, "solar"⟩, 1, true, .pingTree⟩]⟩, [⟨.qualificationConfigs, 0, []⟩]⟩ := ⟨_, rfl⟩

theorem warmedActs_honest :
    Transition.Along WarmSys.step (WarmSys.Honest 1) warmStart warmedActs := by
  refine ⟨?_, trivial, ?_, trivial, trivial⟩
  · refine ⟨(routingDb.dash .pingTrees).rows, List.nodup_singleton _, fun t ht => ?_, by decide, ?_⟩
    · obtain rfl := List.mem_singleton.mp ht
      exact List.mem_singleton_self _
    · exact List.Forall₂.cons ⟨routingDb_buyersOf, List.cons_ne_nil _ _⟩ .nil
  · intro w hw
    obtain rfl := Option.some.inj hw
    refine ⟨le_rfl, fun _ row hrow c hc o ho => ?_⟩
    obtain rfl := List.mem_singleton.mp hrow
    cases hc
    cases ho
    exact ⟨0, routingDb, List.mem_cons_of_mem _ List.mem_cons_self, Nat.zero_le _, le_rfl,
      routingDb_configs⟩

/-- Another buyer has a campaign in the ping tree, which is paused. -/
def pausedDb : RoutingDb :=
  { routingDb with
    dash :=
      { tables
          | .pingTreeCampaigns =>
            ⟨[⟨50, 40, 10, some 1, true, 0, 0⟩, ⟨51, 40, 11, some 2, true, 0, 0⟩], by decide⟩
          | .campaigns =>
            ⟨[⟨10, 20, 6, 1, some "Roofs", "solar", "tok", .active, false, none, 0, 0⟩,
              ⟨11, 21, 6, 1, some "Walls", "solar", "tok2", .paused, false, none, 0, 0⟩],
              by decide⟩
          | t => routingDb.dash t } }

theorem pausedDb_buyersOf : BuyersOf pausedDb 40 [20, 21] := by
  refine ⟨by decide, fun id => ?_⟩
  rw [List.mem_pair]
  constructor
  · rintro (rfl | rfl)
    · exact ⟨_, ⟨List.mem_cons_self, rfl, _, List.mem_cons_self, rfl, rfl, rfl⟩, rfl⟩
    · exact ⟨_, ⟨List.mem_cons_of_mem _ List.mem_cons_self, rfl, _,
        List.mem_cons_of_mem _ List.mem_cons_self, rfl, rfl, rfl⟩, rfl⟩
  · rintro ⟨c, ⟨hc, -⟩, rfl⟩
    rcases List.mem_pair.mp hc with rfl | rfl
    · exact Or.inl rfl
    · exact Or.inr rfl

theorem pausedDb_findsEnabled : pausedDb.FindsEnabled 40 linksValue :=
  ⟨[((pausedDb.dash .pingTreeCampaigns).rows.head (by decide),
    (pausedDb.dash .campaigns).rows.head (by decide))],
    ⟨.refl _, List.pairwise_singleton _ _⟩, rfl⟩

end Sample

end LeadsNebula
