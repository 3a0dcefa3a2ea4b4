/-
The config that the auction passes to the qualification engine.

`route` finds the buyers of the campaigns and looks their configs up, both through the
cache where the process has one.  An entry of the cache lives an hour in Redis and then up
to an hour in the memory of a process, the dashboard does not take it out, and a lookup
that fails counts as one that finds nothing (`unwrap_or_default`).

* `applied_config_recent` — in every run the config that a campaign's lead is judged by is
  the latest enabled and active one that its buyer had less than two hours before the
  request's load began, whatever its vertical, and none if the buyer had none; beyond that
  a lead is judged by no config only if a lookup failed or the campaign had another buyer;
* `config_of_another_vertical` — a lead that is judged by a config for another vertical,
  and one that is judged by a config that is no longer active.
-/
import LeadsNebula.RoutingFreshness

namespace LeadsNebula

open PingTreeRouter RoutingSys

section

variable {given : Given} {clean : Bool} {ids buyerIds : List Uuid} {configs : ConfigEntries}
  {buyerId : Uuid} {config : Option BuyerQualificationConfig}

/-- The config of a buyer in the entries of a map. -/
def ConfigEntries.of (configs : ConfigEntries) (buyerId : Uuid) : Option BuyerQualificationConfig :=
  (configs.lookup buyerId).join.map StoredRuleSet.toConfig

/-- What a query for the configs of some buyers gives one of them. -/
theorem applied_of_answers {db : RoutingDb} {rows : List StoredRuleSet}
    (hrows : Fetched db.configTable ids rows)
    (hentries : ∀ id, configs.lookup id = findByBuyerIds db.configTable ids rows id) :
    (buyerId ∈ ids → Applied db.configTable (ofBuyer buyerId) (configs.of buyerId)) ∧
      (buyerId ∉ ids → configs.of buyerId = none) :=
  applied_of_lookup hrows buyerId (by rw [ConfigEntries.of, hentries])

/-- The buyer of a campaign was given, or its lookup failed. -/
theorem FoundBuyers.of_mem (h : FoundBuyers given clean ids buyerIds) {id : Uuid} (hid : id ∈ ids) :
    ∃ o, (∀ b, o = some b → b ∈ buyerIds) ∧
      (given (.campaignBuyerId id) o ∨ clean = false ∧ o = none) := by
  obtain ⟨os, hos, rfl⟩ := h
  obtain ⟨n, hn, rfl⟩ := List.mem_iff_getElem.mp hid
  have hn' : n < os.length := hos.length_eq ▸ hn
  refine ⟨os[n], fun b hb => ?_, hos.get hn hn'⟩
  exact mem_foldl_insertBuyer.mpr (Or.inr (hb ▸ List.getElem_mem hn'))

end

/-! ### Without a cache -/

/-- The entries that a router without a cache has: a failed statement finds nothing, and without
buyers there are no configs to look up. -/
def directConfigs (buyerIds : Except String (List Uuid)) (configs : Except String ConfigEntries) :
    ConfigEntries :=
  if (buyerIds.toOption.getD []).isEmpty then [] else configs.toOption.getD []

@[simp] theorem directConfigs_ok (ids : List Uuid) (entries : ConfigEntries) :
    directConfigs (.ok ids) (.ok entries) = if ids.isEmpty then [] else entries := rfl

@[simp] theorem directConfigs_error (buyerIds : Except String (List Uuid)) (e : String) :
    directConfigs buyerIds (.error e) = [] := ite_self []

/-- The buyers of the campaigns are read in `db₁`, and their configs in `db₂`. -/
structure DirectReads (db₁ db₂ : RoutingDb) (links : List PingTreeCampaign)
    (buyerIds : Except String (List Uuid)) (configs : Except String ConfigEntries) : Prop where
  buyers : ∀ ids, buyerIds = .ok ids → ids.Perm (db₁.buyerTables.buyerIdsOf (campaignIds links))
  configs : ∀ ids entries, buyerIds = .ok ids → configs = .ok entries →
    ∃ rows, Fetched db₂.configTable ids rows ∧
      ∀ id, entries.lookup id = findByBuyerIds db₂.configTable ids rows id

/-- The buyer of a campaign is among the buyers of the campaigns. -/
theorem mem_buyerIdsOf {db : RoutingDb} {ids : List Uuid} {id buyerId : Uuid} (hid : id ∈ ids)
    (h : db.buyerIdOf id = some buyerId) : buyerId ∈ db.buyerTables.buyerIdsOf ids := by
  obtain ⟨row, hrow, rfl⟩ := Option.map_eq_some_iff.mp h
  obtain ⟨hmem, hp⟩ := Table.select_mem hrow
  obtain ⟨rfl, hdeleted⟩ := of_decide_eq_true hp
  refine List.mem_dedup.mpr (List.mem_map.mpr ⟨row.toCampaign, ?_, rfl⟩)
  refine List.mem_filter.mpr ⟨List.mem_map_of_mem hmem, ?_⟩
  rw [Bool.and_eq_true, List.contains_iff_mem]
  exact ⟨hid, Option.isNone_iff_eq_none.mpr hdeleted⟩

theorem applied_direct {db₁ db₂ : RoutingDb} {links : List PingTreeCampaign}
    {buyerIds : Except String (List Uuid)} {configs : Except String ConfigEntries}
    (h : DirectReads db₁ db₂ links buyerIds configs) {id : Uuid} (buyerId : Uuid)
    (hid : id ∈ campaignIds links) :
    Applied db₂.configTable (ofBuyer buyerId) ((directConfigs buyerIds configs).of buyerId) ∨
      (directConfigs buyerIds configs).of buyerId = none ∧
        (buyerIds.isOk = false ∨ configs.isOk = false ∨ db₁.buyerIdOf id ≠ some buyerId) := by
  -- each statement may fail, and then there are no configs
  cases buyerIds with
  | error e => exact Or.inr ⟨rfl, Or.inl rfl⟩
  | ok ids =>
    cases configs with
    | error e =>
      rw [directConfigs_error]
      exact Or.inr ⟨rfl, Or.inr (Or.inl rfl)⟩
    | ok entries =>
      obtain ⟨rows, hrows, hentries⟩ := h.configs ids entries rfl rfl
      by_cases hmem : buyerId ∈ ids
      · have hne : ids.isEmpty = false := List.isEmpty_eq_false_iff.mpr (List.ne_nil_of_mem hmem)
        rw [directConfigs_ok, hne]
        exact Or.inl ((applied_of_answers hrows hentries).1 hmem)
      · -- the buyer was not found for any of the campaigns
        refine Or.inr ⟨?_, Or.inr (Or.inr fun hb => ?_)⟩
        · rw [directConfigs_ok]
          by_cases hnil : ids.isEmpty = true
          · rw [if_pos hnil]
            rfl
          · rw [if_neg hnil]
            exact (applied_of_answers hrows hentries).2 hmem
        · exact hmem ((h.buyers ids rfl).mem_iff.mpr (mem_buyerIdsOf hid hb))

/-! ### In a run -/

namespace RoutingSys

variable {p : LeadCacheParams} {s : RoutingSys} {redis : Option String} {environment : String}
  {now : ℕ} {db : RoutingDb} {acts : List (RoutingAction p)} {l : Load} {loaded : Loaded}
  {text : CacheError → String} {env : RouteEnv} {t : PingTree} {links : List PingTreeCampaign}
  {lag : ℕ} {c : Campaign}

theorem applied_cached
    (hhonest : Transition.Along step (Honest lag) (new redis environment now db) acts)
    (hrun : Transition.run step (new redis environment now db) acts = some s) (hl : l ∈ s.loads)
    (hdone : l.stage = .done loaded) (hcall : (loaded.toEnv text env).callable = some (t, links))
    (hc : c ∈ activeCampaigns (loaded.toEnv text env) links) :
    Lately s.world l.startedAt (7200 + lag) (fun db =>
        Applied db.configTable (ofBuyer c.buyerId) (loaded.qualificationConfigs.of c.buyerId)) ∨
      loaded.qualificationConfigs.of c.buyerId = none ∧ (l.clean = false ∨
        Lately s.world l.startedAt (7200 + lag) fun db => db.buyerIdOf c.id ≠ some c.buyerId) := by
  obtain ⟨-, -, hrest⟩ := (load_recent hhonest hrun hl hdone).callable hcall
  obtain ⟨link, hlink, hid, -, -⟩ := mem_activeCampaigns hc
  obtain ⟨buyerIds, hbuyers, -, hconfigs⟩ := hrest (List.ne_nil_of_mem hlink)
  have hage : ∀ {t : ℕ}, l.startedAt < t + 3600 + l1Ttl + lag →
      l.startedAt < t + (7200 + lag) := by
    intro t h
    simp only [l1Ttl] at h
    omega
  by_cases hmem : c.buyerId ∈ buyerIds
  · -- the buyer was asked for
    rw [FoundConfigs, if_neg (List.ne_nil_of_mem hmem)] at hconfigs
    rcases hconfigs with ⟨t, db, hseen, hyoung, rows, entries, hrows, heq, hentries⟩ | ⟨hfail, hnil⟩
    · obtain rfl := Option.some.inj heq
      exact Or.inl ⟨t, db, hseen, hage hyoung,
        (applied_of_answers hrows hentries).1 (SortedIds.mem_of.mpr hmem)⟩
    · rw [hnil]
      exact Or.inr ⟨rfl, Or.inl hfail⟩
  · refine Or.inr ⟨?_, ?_⟩
    · rw [FoundConfigs] at hconfigs
      split at hconfigs
      · rw [hconfigs]
        rfl
      · rcases hconfigs with ⟨t, db, -, -, rows, entries, hrows, heq, hentries⟩ | ⟨-, hnil⟩
        · obtain rfl := Option.some.inj heq
          exact (applied_of_answers hrows hentries).2 fun h => hmem (SortedIds.mem_of.mp h)
        · rw [hnil]
          rfl
    · -- its campaign had another buyer, or the lookup of the buyer failed
      obtain ⟨o, ho, hgiven⟩ := hbuyers.of_mem (List.mem_map.mpr ⟨link, hlink, hid⟩)
      rcases hgiven with ⟨t, db, hseen, hyoung, rfl⟩ | ⟨hfail, -⟩
      · exact Or.inr ⟨t, db, hseen, hage hyoung, fun hb => hmem (ho _ hb)⟩
      · exact Or.inl hfail

end RoutingSys

/-- In every run, the config that the auction passes for a campaign it calls is the latest of the
enabled and active configs of the campaign's buyer, and none exactly if the buyer has none, in the
table as it was less than two hours and the time of a statement before the load of the request
began; or it is none, and a lookup of the load failed, or the campaign did not have this buyer
then.  Without a cache the same holds of the tables that the two statements read. -/
theorem applied_config_recent (r : PingTreeRouter) (c : Campaign) :
    (∀ (p : LeadCacheParams) (lag : ℕ) (redis : Option String) (environment : String) (now : ℕ)
      (db : RoutingDb) (acts : List (RoutingAction p)) (s : RoutingSys) (l : Load)
      (loaded : Loaded) (text : CacheError → String) (env : RouteEnv) (t : PingTree)
      (links : List PingTreeCampaign),
      Transition.Along RoutingSys.step (Honest lag) (new redis environment now db) acts →
      Transition.run RoutingSys.step (new redis environment now db) acts = some s → l ∈ s.loads →
      l.stage = .done loaded → (loaded.toEnv text env).callable = some (t, links) →
      c ∈ activeCampaigns (loaded.toEnv text env) links →
      Lately s.world l.startedAt (7200 + lag) (fun db => Applied db.configTable (ofBuyer c.buyerId)
          (r.pingRouter (loaded.toEnv text env) c).preloadedQualConfig) ∨
        (r.pingRouter (loaded.toEnv text env) c).preloadedQualConfig = none ∧ (l.clean = false ∨
          Lately s.world l.startedAt (7200 + lag) fun db => db.buyerIdOf c.id ≠ some c.buyerId)) ∧
    ∀ (db₁ db₂ : RoutingDb) (links : List PingTreeCampaign) (env : RouteEnv)
      (buyerIds : Except String (List Uuid)) (configs : Except String ConfigEntries),
      DirectReads db₁ db₂ links buyerIds configs →
      env.qualificationConfigs = (directConfigs buyerIds configs).of →
      c ∈ activeCampaigns env links →
      Applied db₂.configTable (ofBuyer c.buyerId) (r.pingRouter env c).preloadedQualConfig ∨
        (r.pingRouter env c).preloadedQualConfig = none ∧
          (buyerIds.isOk = false ∨ configs.isOk = false ∨ db₁.buyerIdOf c.id ≠ some c.buyerId) := by
  refine ⟨?_, ?_⟩
  · intro p lag redis environment now db acts s l loaded text env t links
      hhonest hrun hl hdone hcall
      hc
    exact applied_cached hhonest hrun hl hdone hcall hc
  · intro db₁ db₂ links env buyerIds configs hreads henv hc
    -- the campaign is one of those whose buyers were looked up
    have hid : c.id ∈ campaignIds links := by
      obtain ⟨link, hlink, hfilter⟩ := List.mem_filterMap.mp hc
      have hkey := List.find?_some (Option.filter_eq_some_iff.mp hfilter).1
      exact List.mem_map.mpr ⟨link, hlink, (of_decide_eq_true hkey).symm⟩
    have happlied := applied_direct hreads c.buyerId hid
    rwa [← henv] at happlied

/-! ### A config for another vertical -/

namespace Sample

/-- A config that the buyer of the campaign has for vertical 3. -/
def solarOwners : StoredRuleSet := ⟨⟨50, 20, 3, "owners", .obj [], [], true, true, .fin 1⟩, 0⟩

/-- The tables of `routingDb`, with that config. -/
def configsDb (isActive : Bool) : RoutingDb :=
  { routingDb with
    dash :=
      { tables
          | .buyerQualificationConfigs =>
            ⟨[⟨{ solarOwners.toRuleSet with isActive := isActive }, none, 0, 0⟩],
              List.nodup_singleton _⟩
          | k => routingDb.dash.tables k } }

def ownersValue : ConfigEntries := [(20, some solarOwners)]

def isOwnersValue : ConfigEntries → Bool
  | [(buyerId, some ⟨⟨id, b, v, name, .obj [], [], true, true, .fin q⟩, n⟩)] =>
    decide (buyerId = 20 ∧ id = 50 ∧ b = 20 ∧ v = 3 ∧ name = "owners" ∧ q = 1 ∧ n = 0)
  | _ => false

theorem eq_of_isOwnersValue (m : ConfigEntries) (h : isOwnersValue m = true) :
    m = ownersValue := by
  unfold isOwnersValue at h
  split at h
  · obtain ⟨rfl, rfl, rfl, rfl, rfl, rfl, rfl⟩ := of_decide_eq_true h
    rfl
  · cases h

def ownersCodec (k : CacheKey) : Codec k.Val :=
  match k with
  | .qualBuyers _ => onlyCodec isOwnersValue ownersValue
  | k => routingCodec k

def ownersParams : LeadCacheParams where
  codec := ownersCodec
  decode_encode := by
    intro k v text h
    cases k
    case qualBuyers => exact onlyCodec_decode_encode isOwnersValue eq_of_isOwnersValue v text h
    all_goals exact routingParams.decode_encode _ v text h
  decode_null := by
    intro k
    cases k <;> rfl

/-- The statements of a request that find the given configs. -/
def ownersTurn (configs : ConfigEntries) : LoadTurn := { routingTurn with configs := .ok configs }

/-- A request is routed; the config is deactivated; a minute later another request is routed. -/
def ownersActs : List (RoutingAction ownersParams) :=
  .arrive ⟨6, "solar"⟩ :: List.replicate 5 (.next 0 (ownersTurn ownersValue)) ++
    .event (.edit (configsDb false)) :: .event (.wait 60) :: .arrive ⟨6, "solar"⟩ ::
      List.replicate 5 (.next 1 (ownersTurn configsValue))

def ownersStart : RoutingSys := .new none "production" 0 (configsDb true)

def ownersLoaded : Loaded := { routedLoaded with qualificationConfigs := ownersValue }

/-- The load that began at this time. -/
def ownersLoad (startedAt : ℕ) : Load := ⟨⟨6, "solar"⟩, startedAt, true, .done ownersLoaded⟩

theorem ownersActs_run : ∃ cache, Transition.run RoutingSys.step ownersStart ownersActs =
    some ⟨⟨cache, configsDb false, [(60, configsDb false), (0, configsDb false),
      (0, configsDb true)]⟩, [ownersLoad 0, ownersLoad 60]⟩ :=
  ⟨_, by with_unfolding_all rfl⟩

theorem solarOwners_fetched : Fetched (configsDb true).configTable [20] [solarOwners] := by
  refine ⟨?_, List.pairwise_singleton _ _⟩
  show List.Perm _ ([solarOwners].filter fun r => [20].contains r.buyerId && r.inUse)
  rw [List.filter_cons_of_pos (by decide)]
  exact .refl _

theorem ownersValue_lookup (id : Uuid) : ownersValue.lookup id =
    findByBuyerIds (configsDb true).configTable [20] [solarOwners] id := by
  by_cases hid : id = 20
  · subst hid
    rw [findByBuyerIds_eq solarOwners_fetched List.mem_cons_self]
    rfl
  · rw [findByBuyerIds_of_not_mem _ _ (by simpa using hid), ownersValue, List.lookup_cons,
      beq_false_of_ne hid]
    rfl

theorem configsDb_ownersValue :
    (configsDb true).Answers (.qualBuyers (.of [20])) (some ownersValue) := by
  refine ⟨[solarOwners], ownersValue, ?_, rfl, fun id => ?_⟩
  · rw [SortedIds.ids_of_singleton]
    exact solarOwners_fetched
  · rw [SortedIds.ids_of_singleton]
    exact ownersValue_lookup id

/-- The deactivated config is not found any more. -/
theorem configsDb_configsValue :
    (configsDb false).Answers (.qualBuyers (.of [20])) (some configsValue) := by
  obtain ⟨rows, entries, hrows, heq, hentries⟩ := routingDb_configs
  refine ⟨rows, entries, ⟨?_, hrows.latestFirst⟩, heq, fun id => ?_⟩
  · refine hrows.rows.trans (List.Perm.of_eq ?_)
    rw [SortedIds.ids_of_singleton]
    rfl
  · rw [hentries, SortedIds.ids_of_singleton]
    rfl

theorem ownersActs_honest :
    Transition.Along RoutingSys.step (Honest 0) ownersStart ownersActs := by
  have htree : ∀ b, (configsDb b).FindsForRouting 6 "solar" (some treeValue) := by
    intro b
    obtain ⟨rows, hrows, heq⟩ := routingDb_findsForRouting
    exact ⟨rows, ⟨hrows.joined, hrows.ordered⟩, heq⟩
  have hlinks : ∀ b, (configsDb b).FindsEnabled 40 linksValue := by
    intro b
    obtain ⟨rows, hrows, heq⟩ := routingDb_findsEnabled
    exact ⟨rows, ⟨hrows.joined, hrows.ordered⟩, heq⟩
  have hrows : ∀ b, (configsDb b).Answers (.campaignsAssociations (.of [10]))
      (some associationsValue) := fun _ => routingDb_associations
  -- what the five statements of the first request, and those of the second, give
  with_unfolding_all
    refine ⟨trivial, ?_, ?_, ?_, ?_, ?_, trivial, trivial, trivial, ?_, ?_, ?_, ?_, ?_, trivial⟩
  all_goals
    intro l asks hl hasks o ho
    with_unfolding_all cases hl
    with_unfolding_all cases hasks
    with_unfolding_all cases ho
  · exact ⟨0, configsDb true, List.mem_cons_self, le_rfl, le_rfl, htree true⟩
  · exact ⟨0, configsDb true, List.mem_cons_self, le_rfl, le_rfl, _, rfl, hlinks true⟩
  · exact ⟨0, configsDb true, List.mem_cons_self, le_rfl, le_rfl, rfl⟩
  · exact ⟨0, configsDb true, List.mem_cons_self, le_rfl, le_rfl, hrows true⟩
  · exact ⟨0, configsDb true, List.mem_cons_self, le_rfl, le_rfl, configsDb_ownersValue⟩
  · exact ⟨60, configsDb false, List.mem_cons_self, le_rfl, le_rfl, htree false⟩
  · exact ⟨60, configsDb false, List.mem_cons_self, le_rfl, le_rfl, _, rfl, hlinks false⟩
  · exact ⟨60, configsDb false, List.mem_cons_self, le_rfl, le_rfl, rfl⟩
  · exact ⟨60, configsDb false, List.mem_cons_self, le_rfl, le_rfl, hrows false⟩
  · with_unfolding_all
      exact ⟨60, configsDb false, List.mem_cons_self, le_rfl, le_rfl, configsDb_configsValue⟩

theorem owners_callable :
    (ownersLoaded.toEnv noText routedEnv).callable = some (routedTree, linksValue) := rfl

theorem owners_called :
    routedCampaign ∈ activeCampaigns (ownersLoaded.toEnv noText routedEnv) linksValue :=
  List.mem_cons_self

/-- What a router without a cache has read. -/
theorem owners_directReads :
    DirectReads (configsDb true) (configsDb true) linksValue (.ok [20]) (.ok ownersValue) := by
  refine ⟨fun ids h => ?_, fun ids entries hids hentries => ?_⟩
  · cases h
    decide
  · cases hids
    cases hentries
    exact ⟨[solarOwners], solarOwners_fetched, ownersValue_lookup⟩

end Sample

open Sample in
/-- A lead of vertical 2 is judged by the config that its buyer has for vertical 3, and another one
by the same config a minute after it has been deactivated. -/
theorem config_of_another_vertical :
    ((ping true).router new 0).lead.verticalId = 2 ∧
    Transition.Along RoutingSys.step (Honest 0) ownersStart ownersActs ∧
    ∃ s, Transition.run RoutingSys.step ownersStart ownersActs = some s ∧
      s.loads = [ownersLoad 0, ownersLoad 60] ∧ s.world.db = configsDb false ∧
      ∃ config, (((ping true).router new 0).pingRouter (ownersLoaded.toEnv noText routedEnv)
          routedCampaign).preloadedQualConfig = some config ∧
        ¬ Applied (configsDb true).configTable (ofVertical routedCampaign.buyerId 2) (some config) ∧
        ¬ Applied (configsDb false).configTable (ofBuyer routedCampaign.buyerId) (some config) := by
  obtain ⟨cache, hrun⟩ := ownersActs_run
  refine ⟨by decide, ownersActs_honest, _, hrun, rfl, rfl, _, rfl, fun happlied => ?_,
    fun happlied => ?_⟩
  · obtain ⟨r, hr, -, hvertical, -⟩ := happlied.latest _ rfl
    rw [List.mem_singleton.mp hr] at hvertical
    exact absurd hvertical (by decide)
  · obtain ⟨r, hr, -, huse, -⟩ := happlied.latest _ rfl
    rw [List.mem_singleton.mp hr] at huse
    exact absurd huse (by decide)

open Sample in
/-- The config of both requests was the latest of the buyer when the first began; so is the one that
a router without a cache reads. -/
theorem applied_config_recent_owners :
    (∃ s, Transition.run RoutingSys.step ownersStart ownersActs = some s ∧
      ((((ping true).router new 0).pingRouter (ownersLoaded.toEnv noText routedEnv)
          routedCampaign).preloadedQualConfig).isSome = true ∧
      Lately s.world 60 (7200 + 0) fun db => Applied db.configTable (ofBuyer routedCampaign.buyerId)
        (((ping true).router new 0).pingRouter (ownersLoaded.toEnv noText routedEnv)
          routedCampaign).preloadedQualConfig) ∧
    Applied (configsDb true).configTable (ofBuyer routedCampaign.buyerId)
      (((ping true).router new 0).pingRouter (ownersLoaded.toEnv noText routedEnv)
        routedCampaign).preloadedQualConfig := by
  obtain ⟨cache, hrun⟩ := ownersActs_run
  have hsome : ((((ping true).router new 0).pingRouter (ownersLoaded.toEnv noText routedEnv)
      routedCampaign).preloadedQualConfig) ≠ none := by
    intro h
    cases h
  refine ⟨⟨_, hrun, rfl, ?_⟩, ?_⟩
  · have h := (applied_config_recent ((ping true).router new 0) routedCampaign).1
      ownersParams 0 none
      "production" 0 (configsDb true) ownersActs _ (ownersLoad 60) ownersLoaded noText routedEnv
      routedTree linksValue ownersActs_honest hrun (List.mem_cons_of_mem _ List.mem_cons_self) rfl
      owners_callable owners_called
    exact h.resolve_right fun h => hsome h.1
  · have h := (applied_config_recent ((ping true).router new 0) routedCampaign).2 (configsDb true)
      (configsDb true) linksValue (ownersLoaded.toEnv noText routedEnv) (.ok [20]) (.ok ownersValue)
      owners_directReads rfl owners_called
    exact h.resolve_right fun h => hsome h.1

end LeadsNebula
