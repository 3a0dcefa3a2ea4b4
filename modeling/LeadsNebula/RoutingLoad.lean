/-
Loading what a request is routed with (`route` in `services/ping_tree_router.rs`).

A request looks up its ping tree, the tree's campaigns, their buyers, and then, at the
same time, the campaigns with their integrations and the rule sets of the buyers.
Every lookup is a call of the cache, and between two of them anything may happen: the
dashboard edits the tables, entries expire or are evicted, other requests and other
processes fill the same cache.

* `from_step` — every step of a load leaves values that the database has answered;
* `load_recent` — in every run a finished load is one that statements could have given
  which read the tables as they were at most their time-to-live, an hour and the time
  that a statement takes before the load began;
* `load_current` — seven hours after the last edit a load in which no call failed is one
  that the statements give without a cache.
-/
import LeadsNebula.RoutingQueries

namespace LeadsNebula

/-! ### The steps of a load -/

/-- The request that is routed. -/
structure RouteCall where
  publisherId : Uuid
  vertical : String

abbrev Association := Campaign × Option Buyer × Option BuyerIntegration

/-- What a request is routed with. -/
structure Loaded where
  pingTree : Except CacheError (Option PingTree)
  pingTreeCampaigns : Except CacheError (List PingTreeCampaign)
  campaignsWithAssociations : List Association
  qualificationConfigs : ConfigEntries

/-- A load that ends with the lookup of the ping tree, or with that of its campaigns. -/
def Loaded.early (pingTree : Except CacheError (Option PingTree))
    (pingTreeCampaigns : Except CacheError (List PingTreeCampaign)) : Loaded :=
  ⟨pingTree, pingTreeCampaigns, [], []⟩

/-- What a load does next: it looks up the ping tree; the campaigns of the tree; the buyer of a
campaign; or, at the same time, the campaigns with their associations and the rule sets. -/
inductive LoadStage where
  | pingTree
  | pingTreeCampaigns (pingTree : PingTree)
  | buyerIds (pingTree : PingTree) (links : List PingTreeCampaign) (campaignId : Uuid)
    (todo : List Uuid) (found : List Uuid)
  | joined (pingTree : PingTree) (links : List PingTreeCampaign) (buyerIds : List Uuid)
    (associations : Option (List Association)) (configs : Option ConfigEntries)
  | done (loaded : Loaded)

/-- What the sources of the next call give, whether Redis answers, which of the two last lookups
goes on, and whether the lookup of the call was made before. -/
structure LoadTurn where
  pingTree : Except String (Option (PingTree × Option ℚ × Option ℚ))
  pingTreeCampaigns : Except String (List PingTreeCampaign)
  buyerId : Except String (Option Uuid)
  associations : Except String (List Association)
  configs : Except String ConfigEntries
  faults : CallFaults
  configsFirst : Bool
  missed : Bool

def campaignIds (links : List PingTreeCampaign) : List Uuid := links.map PingTreeCampaign.campaignId

/-- `buyer_ids.insert(…)`, for a buyer that was found. -/
def insertBuyer (found : List Uuid) : Option Uuid → List Uuid
  | some buyerId => found.insert buyerId
  | none => found

namespace LoadStage

/-- Both lookups have to come to an end. -/
def join (pingTree : PingTree) (links : List PingTreeCampaign) (buyerIds : List Uuid) :
    Option (List Association) → Option ConfigEntries → LoadStage
  | some associations, some configs => done ⟨.ok (some pingTree), .ok links, associations, configs⟩
  | associations, configs => joined pingTree links buyerIds associations configs

/-- The next buyer is looked up; without buyers there are no rule sets to load. -/
def nextBuyer (pingTree : PingTree) (links : List PingTreeCampaign) (todo found : List Uuid) :
    LoadStage :=
  match todo with
  | campaignId :: todo => buyerIds pingTree links campaignId todo found
  | [] => join pingTree links found none (if found.isEmpty then some [] else none)

/-- The `unwrap_or_default` of the last two lookups. -/
def orDefault {α : Type} (d : α) : Except CacheError α → Option α
  | .ok a => some a
  | .error _ => some d

variable (p : LeadCacheParams) (r : RouteCall) (turn : LoadTurn)

/-- A call, and what the load does with what it gives. -/
structure Asks where
  call : CacheCall p.schema
  resume : Except CacheError call.Out → LoadStage

def askPingTree : Asks p where
  call := .skipNone ⟨.pingTree r.publisherId r.vertical, trivial⟩ 21600 turn.pingTree turn.faults
  resume
    | .error e => done (.early (.error e) (.ok []))
    | .ok none => done (.early (.ok none) (.ok []))
    | .ok (some (t, _, _)) =>
      if t.isActive then pingTreeCampaigns t else done (.early (.ok (some t)) (.ok []))

def askPingTreeCampaigns (pingTree : PingTree) : Asks p where
  call := .plain ⟨.pingTreeCampaigns pingTree.id, trivial⟩ 21600 turn.pingTreeCampaigns turn.faults
  resume
    | .error e => done (.early (.ok (some pingTree)) (.error e))
    | .ok [] => done (.early (.ok (some pingTree)) (.ok []))
    | .ok (link :: links) => nextBuyer pingTree (link :: links) (campaignIds (link :: links)) []

def askBuyerId (pingTree : PingTree) (links : List PingTreeCampaign) (campaignId : Uuid)
    (todo found : List Uuid) : Asks p where
  call := .option ⟨.campaignBuyerId campaignId, trivial⟩ 3600 turn.buyerId turn.faults
  resume
    | .ok o => nextBuyer pingTree links todo (insertBuyer found o)
    | .error _ => nextBuyer pingTree links todo found

def askAssociations (pingTree : PingTree) (links : List PingTreeCampaign) (buyerIds : List Uuid)
    (configs : Option ConfigEntries) : Asks p where
  call := .plain ⟨.campaignsAssociations (.of (campaignIds links)), trivial⟩ 3600 turn.associations
    turn.faults
  resume result := join pingTree links buyerIds (orDefault [] result) configs

def askConfigs (pingTree : PingTree) (links : List PingTreeCampaign) (buyerIds : List Uuid)
    (associations : Option (List Association)) : Asks p where
  call := .plain ⟨.qualBuyers (.of buyerIds), trivial⟩ 3600 turn.configs turn.faults
  resume result := join pingTree links buyerIds associations (orDefault [] result)

def next : LoadStage → Option (Asks p)
  | pingTree => some (askPingTree p r turn)
  | pingTreeCampaigns t => some (askPingTreeCampaigns p turn t)
  | buyerIds t links campaignId todo found => some (askBuyerId p turn t links campaignId todo found)
  | joined t links ids none (some configs) =>
    some (askAssociations p turn t links ids (some configs))
  | joined t links ids (some rows) none => some (askConfigs p turn t links ids (some rows))
  | joined t links ids none none =>
    if turn.configsFirst then some (askConfigs p turn t links ids none)
    else some (askAssociations p turn t links ids none)
  | joined _ _ _ (some _) (some _) | done _ => none

end LoadStage

/-! ### Where the values of a load come from -/

/-- Which answers a load may have been given. -/
abbrev Given := (k : CacheKey) → Option k.Val → Prop

/-- The keys that a load asks for. -/
def CacheKey.Loads : CacheKey → Prop
  | pingTree _ _ | pingTreeCampaigns _ | campaignBuyerId _ | campaignsAssociations _
  | qualBuyers _ => True
  | _ => False

theorem CacheKey.Loads.ttl_le {k : CacheKey} (h : k.Loads) : k.ttl ≤ 21600 := by
  cases k <;> first | exact h.elim | simp [CacheKey.ttl]

section

variable (given : Given) (r : RouteCall) (clean : Bool)

/-- The buyers that were found for some campaigns; a lookup that failed found none. -/
def FoundBuyers (campaignIds found : List Uuid) : Prop :=
  ∃ os, List.Forall₂ (fun id o => given (.campaignBuyerId id) o ∨ clean = false ∧ o = none)
    campaignIds os ∧ found = os.foldl insertBuyer []

/-- The associations of the campaigns; none if the lookup failed. -/
def FoundAssociations (links : List PingTreeCampaign) (rows : List Association) : Prop :=
  given (.campaignsAssociations (.of (campaignIds links))) (some rows) ∨ clean = false ∧ rows = []

/-- The rule sets of the buyers; none if the lookup failed. -/
def FoundConfigs (buyerIds : List Uuid) (configs : ConfigEntries) : Prop :=
  if buyerIds = [] then configs = []
  else given (.qualBuyers (.of buyerIds)) (some configs) ∨ clean = false ∧ configs = []

/-- The ping tree of the request. -/
def FoundTree (t : PingTree) : Prop :=
  ∃ percentage flat, given (.pingTree r.publisherId r.vertical) (some (t, percentage, flat))

/-- The values of a finished load were given, each by the lookup that the values before it ask for;
`clean` says that no lookup failed. -/
def Loaded.From (l : Loaded) : Prop :=
  match l.pingTree with
  | .error _ => clean = false
  | .ok none => given (.pingTree r.publisherId r.vertical) none
  | .ok (some t) => FoundTree given r t ∧ (t.isActive = true →
    match l.pingTreeCampaigns with
    | .error _ => clean = false
    | .ok links => given (.pingTreeCampaigns t.id) (some links) ∧ (links ≠ [] →
      ∃ buyerIds, FoundBuyers given clean (campaignIds links) buyerIds ∧
        FoundAssociations given clean links l.campaignsWithAssociations ∧
        FoundConfigs given clean buyerIds l.qualificationConfigs))

/-- The same for the values of a load on its way. -/
def LoadStage.From : LoadStage → Prop
  | pingTree => True
  | pingTreeCampaigns t => FoundTree given r t
  | buyerIds t links campaignId todo found => FoundTree given r t ∧
    given (.pingTreeCampaigns t.id) (some links) ∧
    ∃ before, campaignIds links = before ++ campaignId :: todo ∧
      FoundBuyers given clean before found
  | joined t links ids associations configs => FoundTree given r t ∧
    given (.pingTreeCampaigns t.id) (some links) ∧
    FoundBuyers given clean (campaignIds links) ids ∧
    (∀ rows ∈ associations, FoundAssociations given clean links rows) ∧
    (∀ m ∈ configs, FoundConfigs given clean ids m) ∧ (configs = none → ids ≠ [])
  | done l => l.From given r clean

end

/-! ### One step -/

section

variable {given given' : Given} {r : RouteCall} {clean clean' : Bool} {t : PingTree}
  {links : List PingTreeCampaign} {buyerIds : List Uuid} {p : LeadCacheParams} {turn : LoadTurn}

theorem FoundBuyers.mono (hgiven : ∀ k o, k.Loads → given k o → given' k o)
    (hclean : clean = false → clean' = false) {ids found : List Uuid}
    (h : FoundBuyers given clean ids found) : FoundBuyers given' clean' ids found := by
  obtain ⟨os, hos, hfound⟩ := h
  refine ⟨os, hos.imp fun id o ho => ?_, hfound⟩
  exact ho.imp (hgiven _ _ trivial) fun ho => ⟨hclean ho.1, ho.2⟩

theorem FoundAssociations.mono (hgiven : ∀ k o, k.Loads → given k o → given' k o)
    (hclean : clean = false → clean' = false) {rows : List Association}
    (h : FoundAssociations given clean links rows) : FoundAssociations given' clean' links rows :=
  h.imp (hgiven _ _ trivial) fun h => ⟨hclean h.1, h.2⟩

theorem FoundConfigs.mono (hgiven : ∀ k o, k.Loads → given k o → given' k o)
    (hclean : clean = false → clean' = false) {configs : ConfigEntries}
    (h : FoundConfigs given clean buyerIds configs) :
    FoundConfigs given' clean' buyerIds configs := by
  unfold FoundConfigs at h ⊢
  split at h
  · rwa [if_pos ‹_›]
  · rw [if_neg ‹_›]
    exact h.imp (hgiven _ _ trivial) fun h => ⟨hclean h.1, h.2⟩

theorem FoundTree.mono (hgiven : ∀ k o, k.Loads → given k o → given' k o)
    (h : FoundTree given r t) :
    FoundTree given' r t := by
  obtain ⟨percentage, flat, h⟩ := h
  exact ⟨percentage, flat, hgiven _ _ trivial h⟩

theorem Loaded.From.mono (hgiven : ∀ k o, k.Loads → given k o → given' k o)
    (hclean : clean = false → clean' = false) {l : Loaded} (h : l.From given r clean) :
    l.From given' r clean' := by
  unfold Loaded.From at h ⊢
  rcases htree : l.pingTree with e | _ | t
  · rw [htree] at h
    exact hclean h
  · rw [htree] at h
    exact hgiven _ _ trivial h
  · rw [htree] at h
    refine ⟨h.1.mono hgiven, fun hactive => ?_⟩
    have hlinks := h.2 hactive
    rcases hl : l.pingTreeCampaigns with e | links
    · rw [hl] at hlinks
      exact hclean hlinks
    · rw [hl] at hlinks
      refine ⟨hgiven _ _ trivial hlinks.1, fun hne => ?_⟩
      obtain ⟨ids, hbuyers, hrows, hconfigs⟩ := hlinks.2 hne
      exact ⟨ids, hbuyers.mono hgiven hclean, hrows.mono hgiven hclean, hconfigs.mono hgiven hclean⟩

theorem LoadStage.From.mono (hgiven : ∀ k o, k.Loads → given k o → given' k o)
    (hclean : clean = false → clean' = false) {st : LoadStage} (h : st.From given r clean) :
    st.From given' r clean' := by
  cases st with
  | pingTree => trivial
  | pingTreeCampaigns t => exact FoundTree.mono hgiven h
  | buyerIds t links campaignId todo found =>
    obtain ⟨htree, hlinks, before, hids, hbuyers⟩ := h
    exact ⟨htree.mono hgiven, hgiven _ _ trivial hlinks, before, hids, hbuyers.mono hgiven hclean⟩
  | joined t links ids associations configs =>
    obtain ⟨htree, hlinks, hbuyers, hrows, hconfigs, hne⟩ := h
    exact ⟨htree.mono hgiven, hgiven _ _ trivial hlinks, hbuyers.mono hgiven hclean,
      fun rows h => (hrows rows h).mono hgiven hclean,
      fun m h => (hconfigs m h).mono hgiven hclean, hne⟩
  | done l => exact Loaded.From.mono hgiven hclean h

/-- One more buyer was looked up. -/
theorem FoundBuyers.append {ids found : List Uuid} {id : Uuid} {o : Option Uuid}
    (h : FoundBuyers given clean ids found)
    (ho : given (.campaignBuyerId id) o ∨ clean = false ∧ o = none) :
    FoundBuyers given clean (ids ++ [id]) (insertBuyer found o) := by
  obtain ⟨os, hos, rfl⟩ := h
  refine ⟨os ++ [o], List.rel_append hos (List.Forall₂.cons ho .nil), ?_⟩
  rw [List.foldl_append]
  rfl

theorem from_join (htree : FoundTree given r t)
    (hlinks : given (.pingTreeCampaigns t.id) (some links))
    (hbuyers : FoundBuyers given clean (campaignIds links) buyerIds)
    {associations : Option (List Association)} {configs : Option ConfigEntries}
    (hrows : ∀ rows ∈ associations, FoundAssociations given clean links rows)
    (hconfigs : ∀ m ∈ configs, FoundConfigs given clean buyerIds m)
    (hne : configs = none → buyerIds ≠ []) :
    (LoadStage.join t links buyerIds associations configs).From given r clean := by
  cases associations with
  | none => exact ⟨htree, hlinks, hbuyers, hrows, hconfigs, hne⟩
  | some rows =>
    cases configs with
    | none => exact ⟨htree, hlinks, hbuyers, hrows, hconfigs, hne⟩
    | some m =>
      exact ⟨htree, fun _ => ⟨hlinks, fun _ => ⟨buyerIds, hbuyers, hrows rows rfl, hconfigs m rfl⟩⟩⟩

theorem from_nextBuyer (htree : FoundTree given r t)
    (hlinks : given (.pingTreeCampaigns t.id) (some links)) {before todo found : List Uuid}
    (hids : campaignIds links = before ++ todo) (hbuyers : FoundBuyers given clean before found) :
    (LoadStage.nextBuyer t links todo found).From given r clean := by
  cases todo with
  | cons campaignId todo => exact ⟨htree, hlinks, before, hids, hbuyers⟩
  | nil =>
    rw [List.append_nil] at hids
    show (LoadStage.join t links found none _).From given r clean
    refine from_join htree hlinks (hids ▸ hbuyers) ?_ ?_ ?_
    · intro rows h
      cases h
    · -- without buyers there is nothing to look up
      intro m hm
      cases found with
      | nil =>
        obtain rfl := Option.some.inj hm
        rfl
      | cons b found => cases hm
    · intro h hnil
      rw [hnil] at h
      cases h

theorem foundAssociations_orDefault {clean : Bool} {result : Except CacheError (List Association)}
    (h : ∀ rows, result = .ok rows →
      given (.campaignsAssociations (.of (campaignIds links))) (some rows)) :
    ∀ rows ∈ LoadStage.orDefault [] result,
      FoundAssociations given (clean && result.isOk) links rows := by
  intro rows hrows
  cases result with
  | ok rows' =>
    obtain rfl := Option.some.inj hrows
    exact Or.inl (h rows' rfl)
  | error e =>
    obtain rfl := Option.some.inj hrows
    exact Or.inr ⟨Bool.and_false _, rfl⟩

theorem foundConfigs_orDefault {clean : Bool} {result : Except CacheError ConfigEntries}
    (hne : buyerIds ≠ [])
    (h : ∀ m, result = .ok m → given (.qualBuyers (.of buyerIds)) (some m)) :
    ∀ m ∈ LoadStage.orDefault [] result,
      FoundConfigs given (clean && result.isOk) buyerIds m := by
  intro m hm
  rw [FoundConfigs, if_neg hne]
  cases result with
  | ok m' =>
    obtain rfl := Option.some.inj hm
    exact Or.inl (h m' rfl)
  | error e =>
    obtain rfl := Option.some.inj hm
    exact Or.inr ⟨Bool.and_false _, rfl⟩

/-- A step of a load: the next values are given too, unless the call fails. -/
theorem from_step {st : LoadStage} (h : st.From given r clean) {asks : LoadStage.Asks p}
    (hnext : st.next p r turn = some asks) (result : Except CacheError asks.call.Out)
    (hresult : ∀ o, result = .ok o → given asks.call.key.1 (asks.call.answer o)) :
    (asks.resume result).From given r (clean && result.isOk) := by
  have hclean : clean = false → (clean && result.isOk) = false := by
    rintro rfl
    rfl
  have h' := h.mono (fun _ _ _ ho => ho) hclean
  cases st with
  | pingTree =>
    obtain rfl := Option.some.inj hnext
    -- without the tree there is nothing to load, so an error ends the request
    cases result with
    | error e => exact Bool.and_false _
    | ok o =>
      have ho := hresult o rfl
      cases o with
      | none => exact ho
      | some found =>
        obtain ⟨t, percentage, flat⟩ := found
        simp only [LoadStage.askPingTree]
        split
        · exact ⟨percentage, flat, ho⟩
        · next hinactive => exact ⟨⟨percentage, flat, ho⟩, fun hactive => absurd hactive hinactive⟩
  | pingTreeCampaigns t =>
    obtain rfl := Option.some.inj hnext
    cases result with
    | error e => exact ⟨h, fun _ => Bool.and_false _⟩
    | ok links =>
      have hlinks := hresult links rfl
      cases links with
      | nil => exact ⟨h, fun _ => ⟨hlinks, fun hne => absurd rfl hne⟩⟩
      | cons link links => exact from_nextBuyer h hlinks (List.nil_append _).symm ⟨[], .nil, rfl⟩
  | buyerIds t links campaignId todo found =>
    obtain rfl := Option.some.inj hnext
    obtain ⟨htree, hlinks, before, hids, hbuyers⟩ := h'
    have hids' : campaignIds links = (before ++ [campaignId]) ++ todo := by
      rw [hids, List.append_assoc, List.singleton_append]
    -- an error leaves the buyers of this campaign out, and the load is not clean
    cases result with
    | error e =>
      exact from_nextBuyer htree hlinks hids' (hbuyers.append (Or.inr ⟨Bool.and_false _, rfl⟩))
    | ok o => exact from_nextBuyer htree hlinks hids' (hbuyers.append (Or.inl (hresult o rfl)))
  | joined t links ids associations configs =>
    obtain ⟨htree, hlinks, hbuyers, hrows, hconfigs, hne⟩ := h'
    have hnone : ∀ rows ∈ (none : Option (List Association)),
        FoundAssociations given (clean && result.isOk) links rows := fun _ hr => (by cases hr)
    -- the two joined calls answer in either order
    cases associations with
    | some rows =>
      cases configs with
      | some m => cases hnext
      | none =>
        obtain rfl := Option.some.inj hnext
        exact from_join htree hlinks hbuyers hrows (foundConfigs_orDefault (hne rfl) hresult)
          fun _ => hne rfl
    | none =>
      cases configs with
      | some m =>
        obtain rfl := Option.some.inj hnext
        exact from_join htree hlinks hbuyers (foundAssociations_orDefault hresult) hconfigs hne
      | none =>
        simp only [LoadStage.next] at hnext
        split at hnext
        · obtain rfl := Option.some.inj hnext
          exact from_join htree hlinks hbuyers hnone (foundConfigs_orDefault (hne rfl) hresult)
            fun _ => hne rfl
        · obtain rfl := Option.some.inj hnext
          exact from_join htree hlinks hbuyers (foundAssociations_orDefault hresult) hconfigs hne
  | done l => cases hnext

end

/-! ### Loads that interleave -/

/-- A load; `startedAt` and `clean`, that none of its calls has failed, are not kept by the
program. -/
structure Load where
  call : RouteCall
  startedAt : ℕ
  clean : Bool
  stage : LoadStage

structure RoutingSys where
  world : CacheWorld RoutingDb
  loads : List Load

/-- Something happens to the cache or the database; a request comes; load `i` makes its next
call. -/
inductive RoutingAction (p : LeadCacheParams) where
  | event (ev : CacheEvent p.schema RoutingDb)
  | arrive (call : RouteCall)
  | next (i : ℕ) (turn : LoadTurn)

namespace RoutingSys

variable {p : LeadCacheParams} (s : RoutingSys)

/-- A cache that holds nothing, and no request. -/
def new (redis : Option String) (env : String) (now : ℕ) (db : RoutingDb) : RoutingSys :=
  ⟨.new redis env now db, []⟩

/-- Load `i` makes a call. -/
def ask (i : ℕ) (l : Load) (asks : LoadStage.Asks p) (missed : Bool) : RoutingSys :=
  let result := (asks.call.run missed s.world.cache).1.map Served.value
  { world := s.world.apply (.call asks.call missed)
    loads := s.loads.set i { l with
      clean := l.clean && result.isOk
      stage := asks.resume result } }

def step : RoutingAction p → Option RoutingSys
  | .event ev => some ⟨s.world.apply ev, s.loads⟩
  | .arrive call => some ⟨s.world, s.loads ++ [⟨call, s.world.cache.now, true, .pingTree⟩]⟩
  | .next i turn =>
    (s.loads[i]?).bind fun l => (l.stage.next p l.call turn).map fun asks =>
      s.ask i l asks turn.missed

/-- What the database answers, for the schema of the cache. -/
abbrev answers (db : RoutingDb) (k : PlainKey) : Option k.1.Val → Prop := db.Answers k.1

/-- The sources give what the database answers, or answered at most `lag` seconds ago. -/
def Honest (lag : ℕ) (s : RoutingSys) : RoutingAction p → Prop
  | .event ev => s.world.Honest answers lag ev
  | .arrive _ => True
  | .next i turn => ∀ l asks, s.loads[i]? = some l → l.stage.next p l.call turn = some asks →
    ∀ o, asks.call.source = .ok o → s.world.Gave (S := p.schema) answers lag s.world.cache.now
      asks.call.key (asks.call.answer o)

/-- What the database has answered at most the time-to-live of the key, an hour and `lag` seconds
before a time. -/
def GivenBefore (lag : ℕ) (w : CacheWorld RoutingDb) (time : ℕ) : Given := fun k o =>
  ∃ t db, (t, db) ∈ w.seen ∧ time < t + k.ttl + l1Ttl + lag ∧ db.Answers k o

variable {s} {s' : RoutingSys} {lag : ℕ}

/-- A turn whose call is given what the database answers. -/
theorem honest_next {i : ℕ} {turn : LoadTurn} {l : Load} {asks : LoadStage.Asks p}
    {o : asks.call.Out} (hl : s.loads[i]? = some l)
    (hasks : l.stage.next p l.call turn = some asks) (hsource : asks.call.source = .ok o)
    (hgave : s.world.Gave (S := p.schema) answers lag s.world.cache.now asks.call.key
      (asks.call.answer o)) : s.Honest lag (.next i turn : RoutingAction p) := by
  intro l' asks' hl' hasks' o' hsource'
  obtain rfl := Option.some.inj (hl.symm.trans hl')
  obtain rfl := Option.some.inj (hasks.symm.trans hasks')
  obtain rfl := Except.ok.inj (hsource.symm.trans hsource')
  exact hgave

/-- The calls of a load store their values for a time that the keys allow. -/
theorem timed_next {st : LoadStage} {r : RouteCall} {turn : LoadTurn} {asks : LoadStage.Asks p}
    (h : st.next p r turn = some asks) : asks.call.Timed := by
  have hpos : ∀ n : ℕ, 0 < n + 1 := Nat.succ_pos
  cases st with
  | pingTree =>
    obtain rfl := Option.some.inj h
    exact ⟨hpos _, le_rfl⟩
  | pingTreeCampaigns t =>
    obtain rfl := Option.some.inj h
    exact ⟨hpos _, le_rfl⟩
  | buyerIds t links campaignId todo found =>
    obtain rfl := Option.some.inj h
    exact ⟨hpos _, le_rfl⟩
  | joined t links ids associations configs =>
    cases associations <;> cases configs <;> simp only [LoadStage.next] at h
    · split at h
      · obtain rfl := Option.some.inj h
        exact ⟨hpos _, le_rfl⟩
      · obtain rfl := Option.some.inj h
        exact ⟨hpos _, le_rfl⟩
    · obtain rfl := Option.some.inj h
      exact ⟨hpos _, le_rfl⟩
    · obtain rfl := Option.some.inj h
      exact ⟨hpos _, le_rfl⟩
    · cases h
  | done l => cases h

/-- The cache is sound, and the values of every load were given to it. -/
structure Inv (p : LeadCacheParams) (lag : ℕ) (s : RoutingSys) : Prop where
  world : s.world.Inv (S := p.schema) answers lag
  started : ∀ l ∈ s.loads, l.startedAt ≤ s.world.cache.now
  given : ∀ l ∈ s.loads, l.stage.From (GivenBefore lag s.world l.startedAt) l.call l.clean

theorem inv_new (p : LeadCacheParams) (redis : Option String) (env : String) (now : ℕ)
    (db : RoutingDb) : (new redis env now db).Inv p lag where
  world := CacheWorld.inv_new redis env now db
  started _ h := by cases h
  given _ h := by cases h

theorem givenBefore_apply {w : CacheWorld RoutingDb} (ev : CacheEvent p.schema RoutingDb) {time : ℕ}
    (k : CacheKey) (o : Option k.Val) (_ : k.Loads) (h : GivenBefore lag w time k o) :
    GivenBefore lag (w.apply ev) time k o := by
  obtain ⟨t, db, hmem, hyoung, ho⟩ := h
  exact ⟨t, db, CacheWorld.mem_seen_apply hmem, hyoung, ho⟩

theorem inv_step {a : RoutingAction p} (h : s.Inv p lag) (ha : s.Honest lag a)
    (hstep : s.step a = some s') : s'.Inv p lag := by
  have hkept : ∀ ev : CacheEvent p.schema RoutingDb, ∀ l ∈ s.loads,
      l.startedAt ≤ (s.world.apply ev).cache.now ∧
        l.stage.From (GivenBefore lag (s.world.apply ev) l.startedAt) l.call l.clean :=
    fun ev l hl => ⟨(h.started l hl).trans (CacheWorld.now_le_apply ev),
      (h.given l hl).mono (givenBefore_apply ev) id⟩
  cases a with
  | event ev =>
    obtain rfl := Option.some.inj hstep
    exact ⟨CacheWorld.inv_step p.lawful_schema h.world ha rfl, fun l hl => (hkept ev l hl).1,
      fun l hl => (hkept ev l hl).2⟩
  | arrive call =>
    obtain rfl := Option.some.inj hstep
    refine ⟨h.world, fun l hl => ?_, fun l hl => ?_⟩
    · rcases List.mem_append.mp hl with hl | hl
      · exact h.started l hl
      · rw [List.mem_singleton.mp hl]
    · rcases List.mem_append.mp hl with hl | hl
      · exact h.given l hl
      · rw [List.mem_singleton.mp hl]
        trivial
  | next i turn =>
    obtain ⟨l, hl, hnext⟩ := Option.bind_eq_some_iff.mp hstep
    obtain ⟨asks, hasks, rfl⟩ := Option.map_eq_some_iff.mp hnext
    have hhonest : s.world.Honest answers lag (.call asks.call turn.missed) :=
      ⟨timed_next hasks, ha l asks hl hasks⟩
    have hmem := List.mem_of_getElem? hl
    refine ⟨CacheWorld.inv_step p.lawful_schema h.world hhonest rfl, fun l' hl' => ?_,
      fun l' hl' => ?_⟩
    · rcases List.mem_or_eq_of_mem_set hl' with hl' | rfl
      · exact (hkept (.call asks.call turn.missed) l' hl').1
      · exact (hkept (.call asks.call turn.missed) l hmem).1
    · rcases List.mem_or_eq_of_mem_set hl' with hl' | rfl
      · exact (hkept (.call asks.call turn.missed) l' hl').2
      · refine from_step (hkept (.call asks.call turn.missed) l hmem).2 hasks _ fun o ho => ?_
        -- the call gives what the database answered lately
        cases hran : asks.call.run turn.missed s.world.cache with
        | mk r cache =>
          rw [hran] at ho
          cases r with
          | error e => cases ho
          | ok a =>
            obtain rfl := Except.ok.inj ho
            obtain ⟨t, db, hdb, hanswer, hyoung⟩ := h.world.recent p.lawful_schema hhonest hran
            refine ⟨t, db, CacheWorld.mem_seen_apply hdb, ?_, hanswer⟩
            exact (h.started l hmem).trans_lt hyoung

/-- In every run the values of a finished load are some that its statements could have given had
they read the tables as they were at most the time-to-live of the value, an hour and `lag` seconds
before the load began. -/
theorem load_recent {redis : Option String} {env : String} {now : ℕ} {db : RoutingDb}
    {acts : List (RoutingAction p)}
    (hhonest : Transition.Along step (Honest lag) (new redis env now db) acts)
    (hrun : Transition.run step (new redis env now db) acts = some s) {l : Load} (hl : l ∈ s.loads)
    {loaded : Loaded} (hdone : l.stage = .done loaded) :
    loaded.From (GivenBefore lag s.world l.startedAt) l.call l.clean := by
  have h : s.Inv p lag :=
    Transition.inv_of_run (fun hs ha hstep => inv_step hs ha hstep) (inv_new p redis env now db)
      hhonest hrun
  have hfrom := h.given l hl
  rw [hdone] at hfrom
  exact hfrom

/-- Where the queries of routing have been answered the same for seven hours and `lag` seconds
before a load began, and none of its calls has failed, its values are some that the statements give
without a cache. -/
theorem load_current {redis : Option String} {env : String} {now : ℕ} {db : RoutingDb}
    {acts : List (RoutingAction p)}
    (hhonest : Transition.Along step (Honest lag) (new redis env now db) acts)
    (hrun : Transition.run step (new redis env now db) acts = some s) {l : Load} (hl : l ∈ s.loads)
    {loaded : Loaded} (hdone : l.stage = .done loaded) (hclean : l.clean = true) {since : ℕ}
    (hlong : since + 25200 + lag ≤ l.startedAt)
    (hsame : ∀ t db', (t, db') ∈ s.world.seen → since ≤ t → ∀ k o, k.Loads → db'.Answers k o →
      s.world.db.Answers k o) : loaded.From s.world.db.Answers l.call true := by
  have hfrom := load_recent hhonest hrun hl hdone
  rw [hclean] at hfrom
  refine hfrom.mono ?_ id
  rintro k o hk ⟨t, db', hmem, hyoung, ho⟩
  have httl := hk.ttl_le
  simp only [l1Ttl] at hyoung
  exact hsame t db' hmem (by omega) k o hk ho

end RoutingSys

end LeadsNebula
