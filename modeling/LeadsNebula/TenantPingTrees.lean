/-
The handlers of campaigns and ping trees keep to the instance of the user, for
requests that name no campaign, ping tree or publisher of another instance.
-/
import LeadsNebula.TenantStatements

namespace LeadsNebula

namespace Dashboard

open DbPart

variable {cfg : DashConfig} {env : DashEnv} {user : User} {i : Uuid} {db : Db}

/-! ### Campaigns -/

theorem free_campaigns_of_instance {p : Campaign → Bool}
    (hp : ∀ c, p c = true → c.instanceId = i) : Free (others i db) .campaigns p := by
  refine free_of_foreign_eq_false fun c hc => ?_
  simp [Foreign, hp c hc]

theorem owned_campaign {c : Campaign} (h : (partOf i db).Owned .campaigns c) :
    c.instanceId = i := by
  simpa [partOf, Foreign] using h.foreign

/-- A campaign is in the list of members exactly when it is among the members of the list's
campaigns. -/
theorem listedCampaign_filter {campaigns : List Campaign} {c : Campaign} (hc : c ∈ campaigns)
    (members : List PingTreeCampaign) :
    listedCampaign cfg (members.filter fun l => l.campaignId ∈ campaigns.map Campaign.id) c =
      listedCampaign cfg members c := by
  have hany : (members.filter fun l => l.campaignId ∈ campaigns.map Campaign.id).any
      (·.campaignId = c.id) = members.any (·.campaignId = c.id) := by
    rw [List.any_filter]
    refine congrArg _ (funext fun l => ?_)
    by_cases hl : l.campaignId = c.id
    · have hmem : l.campaignId ∈ campaigns.map Campaign.id :=
        List.mem_map.mpr ⟨c, hc, hl.symm⟩
      rw [decide_eq_true hmem, Bool.true_and]
    · rw [decide_eq_false hl, Bool.and_false]
  simp only [listedCampaign, hany]

theorem confined_listCampaigns (hu : Free (others i db) .instances (isInstanceOf user)) :
    (partOf i db).Confined (listCampaigns cfg env user) fun _ => True := by
  refine Confined.bind (confined_requireInstance hu 0) fun id hid => ?_
  subst hid
  refine Confined.bind (confined_fetchAll (free_campaigns_of_instance ?_)) fun campaigns hown => ?_
  · exact fun c hc => (of_decide_eq_true hc).1
  cases hok : !campaigns.isEmpty && env.ok 2 with
  | false => exact Confined.bind (Q := fun _ => True) (Confined.pure trivial) fun _ _ =>
      Confined.pure trivial
  | true =>
    -- of all the memberships, only those of the campaigns of the instance are looked at
    refine Confined.rows_bind (fun l => l.campaignId ∈ campaigns.map Campaign.id) ?_ ?_
      fun _ => Confined.pure trivial
    · intro members
      have hmap : (orderDesc Campaign.createdAt campaigns).map (listedCampaign cfg
          (members.filter fun l => l.campaignId ∈ campaigns.map Campaign.id)) =
          (orderDesc Campaign.createdAt campaigns).map (listedCampaign cfg members) :=
        List.map_congr_left fun c hc => listedCampaign_filter (List.mem_mergeSort.mp hc) members
      rw [hmap]
    · intro l hl
      refine (Bool.and_true _).trans (decide_eq_false fun hmem => ?_)
      obtain ⟨c, hc, hid⟩ := List.mem_map.mp hmem
      exact of_decide_eq_false ((hown c hc).1.ok l hl) hid.symm

theorem confined_linkCampaign {link : PingTreeCampaign} {f : PingTreeCampaign → PingTreeCampaign}
    {hf : ∀ l, (f l).id = l.id}
    (hf' : ∀ l, (f l).pingTreeId = l.pingTreeId ∧ (f l).campaignId = l.campaignId)
    (hlink : Fresh (others i db) link.id)
    (htree : Free (others i db) .pingTrees fun t => t.id = link.pingTreeId)
    (hcampaign : Free (others i db) .campaigns fun c => c.id = link.campaignId) :
    (partOf i db).Confined (linkCampaign link f hf) fun _ => True := by
  have hforeign : foreignPingTree i db link.pingTreeId = false := foreignPingTree_eq_false.mpr htree
  have hfree : Free (others i db) .pingTreeCampaigns fun l =>
      l.pingTreeId = link.pingTreeId ∧ l.campaignId = link.campaignId :=
    free_of_foreign_eq_false fun l hl =>
      (congrArg (foreignPingTree i db) (of_decide_eq_true hl).1).trans hforeign
  refine Confined.bind (confined_present htree) fun _ _ => ?_
  refine Confined.bind confined_stopWhen fun _ _ => ?_
  refine Confined.bind (confined_present hcampaign) fun _ _ => ?_
  refine Confined.bind confined_stopWhen fun _ _ => ?_
  refine Confined.bind (confined_present hfree) fun linked _ => ?_
  split
  · refine confined_update hfree fun l hl => ⟨?_, ?_⟩
    · exact (congrArg (foreignPingTree i db) (hf' l).1).trans hl.foreign
    · exact fun c hc => (congrArg (fun id => decide (c.id = id)) (hf' l).2).trans (hl.ok c hc)
  · exact Confined.bind (confined_insert hforeign hlink.pingTreeCampaigns hcampaign) fun _ _ =>
      Confined.mono confined_stopWhen fun _ _ => trivial

theorem confined_createCampaign (hu : Free (others i db) .instances (isInstanceOf user))
    (hd : FreshDraws cfg (others i db) env) {req : CreateCampaignRequest}
    (hi : SaysInstance i req.instanceId)
    (htree : ∀ id ∈ req.pingTreeId, Free (others i db) .pingTrees fun t => t.id = id) :
    (partOf i db).Confined (createCampaign env user req) fun _ => True := by
  refine Confined.bind (confined_targetInstance hu 0 hi) fun id hid => ?_
  subst hid
  refine Confined.bind (Confined.stmt (confined_present hd.token)) fun taken _ => ?_
  refine Confined.bind confined_stopWhen fun _ _ => ?_
  refine Confined.bind (confined_insert ?_ (hd.id 0).campaigns (hd.id 0).campaignOf)
    fun inserted _ => ?_
  · simp [Foreign, CreateCampaignRequest.row]
  refine Confined.bind confined_stopWhen fun _ _ => ?_
  refine Confined.bind (Confined.ifSome fun pingTreeId ht => Confined.stmt (confined_linkCampaign
    (fun _ => ⟨rfl, rfl⟩) (hd.id 2) (htree pingTreeId ht) (hd.id 0).campaigns)) fun _ _ => ?_
  exact Confined.pure trivial

theorem confined_inPingTree {n : ℕ} {id : Uuid}
    (h : Free (others i db) .pingTreeCampaigns fun l => l.campaignId = id) :
    (partOf i db).Confined (inPingTree env n id) fun _ => True :=
  Confined.attempt (confined_present h) trivial

/-- No ping tree of another instance has a campaign of the instance. -/
theorem owned_liveCampaign {id : Uuid} {c : Campaign}
    (h : (partOf i db).Owned .campaigns c ∧ liveCampaign id c = true) :
    Free (others i db) .pingTreeCampaigns fun l => l.campaignId = id := by
  have hid : c.id = id := (of_decide_eq_true h.2).1
  rw [← hid]
  exact h.1.ok

theorem confined_getCampaign (hu : Free (others i db) .instances (isInstanceOf user)) {id : Uuid} :
    (partOf i db).Confined (getCampaign cfg env user id) fun _ => True := by
  refine Confined.bind (confined_requireInstance hu 0) fun j hj => ?_
  subst hj
  refine Confined.bind (confined_fetchOptional (free_campaigns_of_instance ?_)) fun o ho => ?_
  · intro c hc
    rw [Bool.and_eq_true] at hc
    exact of_decide_eq_true hc.2
  refine Confined.bind (Confined.orStop ho) fun c hc => ?_
  rw [Bool.and_eq_true] at hc
  exact Confined.bind (confined_inPingTree (owned_liveCampaign ⟨hc.1, hc.2.1⟩)) fun _ _ =>
    Confined.pure trivial

theorem confined_applyCampaignChanges (hd : FreshDraws cfg (others i db) env) {id : Uuid}
    {before : Campaign} {c : CampaignChanges}
    (h : Free (others i db) .campaigns (liveCampaign id)) (hbefore : before.instanceId = i) :
    (partOf i db).Confined (applyCampaignChanges cfg env id before c) fun _ => True := by
  unfold applyCampaignChanges
  split
  · exact Confined.pure trivial
  refine Confined.bind (Confined.stmt (confined_update h fun r hr => ⟨hr.foreign, hr.ok⟩))
    fun _ _ => ?_
  refine Confined.bind (confined_fetchOrNone h) fun after _ => ?_
  refine Confined.bind (confined_createAuditLog (hd.id 1) ?_) fun _ _ => Confined.pure trivial
  intro j hj
  rw [← Option.some_inj.mp hj]
  exact hbefore

theorem confined_updateCampaign (hd : FreshDraws cfg (others i db) env) {id : Uuid} {payload : Json}
    (h : Free (others i db) .campaigns (liveCampaign id)) :
    (partOf i db).Confined (updateCampaign cfg env id payload) fun _ => True := by
  refine Confined.bind (confined_fetchOptional h) fun o ho => ?_
  refine Confined.bind (Confined.orStop ho) fun before hbefore => ?_
  have hinstance := owned_campaign hbefore.1
  dsimp only
  split
  · exact confined_applyCampaignChanges hd h hinstance
  refine Confined.bind (confined_inPingTree (owned_liveCampaign hbefore)) fun member _ => ?_
  split
  · exact Confined.pure trivial
  · exact confined_applyCampaignChanges hd h hinstance

theorem confined_deleteCampaign {id : Uuid}
    (h : Free (others i db) .campaigns fun c => c.id = id) :
    (partOf i db).Confined (deleteCampaign env id) fun _ => True :=
  Confined.bind (Confined.stmt (confined_update h fun _ hr => ⟨hr.foreign, hr.ok⟩)) fun _ _ =>
    Confined.pure trivial

/-! ### Ping trees -/

theorem free_pingTrees_of_instance {p : PingTree → Bool}
    (hp : ∀ t, p t = true → t.instanceId = i) : Free (others i db) .pingTrees p := by
  refine free_of_foreign_eq_false fun t ht => ?_
  simp [Foreign, hp t ht]

theorem owned_pingTree {t : PingTree} (h : (partOf i db).Owned .pingTrees t) :
    t.instanceId = i := by
  simpa [partOf, Foreign] using h.foreign

theorem free_pingTreeCampaigns {id : Uuid} {p : PingTreeCampaign → Bool}
    (h : foreignPingTree i db id = false) (hp : ∀ l, p l = true → l.pingTreeId = id) :
    Free (others i db) .pingTreeCampaigns p :=
  free_of_foreign_eq_false fun l hl => (congrArg (foreignPingTree i db) (hp l hl)).trans h

theorem free_pingTreePublishers {id : Uuid} {p : PingTreePublisher → Bool}
    (h : foreignPingTree i db id = false) (hp : ∀ a, p a = true → a.pingTreeId = id) :
    Free (others i db) .pingTreePublishers p :=
  free_of_foreign_eq_false fun a ha => (congrArg (foreignPingTree i db) (hp a ha)).trans h

/-- The id of a ping tree of the instance is no id of another instance's. -/
theorem owned_livePingTree {id : Uuid} {t : PingTree}
    (h : (partOf i db).Owned .pingTrees t ∧ livePingTree id t = true) :
    Free (others i db) .pingTrees fun t => t.id = id := by
  have hid : t.id = id := (of_decide_eq_true h.2).1
  rw [← hid]
  exact Owned.free_key h.1

theorem confined_listPingTrees (hu : Free (others i db) .instances (isInstanceOf user)) :
    (partOf i db).Confined (listPingTrees cfg env user) fun _ => True := by
  refine Confined.bind (confined_requireInstance hu 0) fun j hj => ?_
  subst hj
  refine Confined.bind (confined_fetchAll (free_pingTrees_of_instance ?_)) fun trees htrees => ?_
  · exact fun t ht => (of_decide_eq_true ht).1
  refine Confined.bind (Confined.collect (R := fun _ => True) fun t ht => ?_) fun _ _ =>
    Confined.pure trivial
  have hmem : t.1 ∈ trees := List.mem_mergeSort.mp (fst_mem_of_mem_zipIdx ht)
  have hforeign : foreignPingTree j db t.1.id = false :=
    foreignPingTree_eq_false.mpr (Owned.free_key (htrees t.1 hmem).1)
  exact Confined.bind (confined_fetchAllOrNone (free_pingTreePublishers hforeign fun a ha =>
    of_decide_eq_true ha)) fun _ _ => Confined.pure trivial

theorem confined_getPingTree (hu : Free (others i db) .instances (isInstanceOf user)) {id : Uuid} :
    (partOf i db).Confined (getPingTree cfg env user id) fun _ => True := by
  refine Confined.bind (confined_requireInstance hu 0) fun j hj => ?_
  subst hj
  refine Confined.bind (confined_fetchOptional (free_pingTrees_of_instance ?_)) fun o ho => ?_
  · intro t ht
    rw [Bool.and_eq_true] at ht
    exact of_decide_eq_true ht.2
  refine Confined.bind (Confined.orStop ho) fun t ht => ?_
  rw [Bool.and_eq_true] at ht
  have hforeign := foreignPingTree_eq_false.mpr (owned_livePingTree ⟨ht.1, ht.2.1⟩)
  refine Confined.bind (confined_fetchAll (free_pingTreeCampaigns hforeign fun l hl =>
    of_decide_eq_true hl)) fun _ _ => ?_
  exact Confined.bind (confined_fetchAll (free_pingTreePublishers hforeign fun a ha =>
    of_decide_eq_true ha)) fun _ _ => Confined.pure trivial

theorem confined_pingTreeNameTaken {t : PingTree} (ht : t.instanceId = i) :
    (partOf i db).Confined (pingTreeNameTaken t) fun _ => True :=
  confined_present (free_pingTrees_of_instance fun _ h => (of_decide_eq_true h).1.trans ht)

theorem confined_createPingTree (hu : Free (others i db) .instances (isInstanceOf user))
    (hd : FreshDraws cfg (others i db) env) {req : CreatePingTreeRequest}
    (hi : SaysInstance i req.instanceId) :
    (partOf i db).Confined (createPingTree env user req) fun _ => True := by
  refine Confined.bind confined_stopWhen fun _ _ => ?_
  refine Confined.bind (confined_targetInstance hu 0 hi) fun j hj => ?_
  subst hj
  refine Confined.bind
    (Confined.stmt (confined_present (free_of_foreign_eq_false ?_))) fun _ _ => ?_
  · intro r hr
    simp [Foreign, of_decide_eq_true hr]
  refine Confined.bind (confined_pingTreeNameTaken rfl) fun taken _ => ?_
  refine Confined.bind confined_stopWhen fun _ _ => ?_
  refine Confined.bind (confined_insert ?_ (hd.id 0).pingTrees trivial) fun inserted _ => ?_
  · simp [Foreign, CreatePingTreeRequest.row]
  exact Confined.bind confined_stopWhen fun _ _ => Confined.pure trivial

theorem confined_pingTreeLog (hd : FreshDraws cfg (others i db) env) {n : ℕ} {t : PingTree}
    (ht : (partOf i db).Owned .pingTrees t) {actionType : String} {id : Uuid}
    {details affected : Json} :
    (partOf i db).Confined
      (createAuditLog env n (pingTreeLog env t.instanceId actionType id details affected))
      fun _ => True := by
  refine confined_createAuditLog (hd.id 1) fun j hj => ?_
  rw [← Option.some_inj.mp hj]
  exact owned_pingTree ht

theorem confined_updatePingTree (hd : FreshDraws cfg (others i db) env) {id : Uuid} {payload : Json}
    (h : Free (others i db) .pingTrees (livePingTree id)) :
    (partOf i db).Confined (updatePingTree cfg env id payload) fun _ => True := by
  refine Confined.bind (confined_fetchOptional h) fun o ho => ?_
  refine Confined.bind (Confined.orStop ho) fun before hbefore => ?_
  dsimp only
  split
  · exact Confined.pure trivial
  have hinstance : before.instanceId = i := owned_pingTree hbefore.1
  refine Confined.bind (Confined.stmt (confined_pingTreeNameTaken hinstance)) fun taken _ => ?_
  refine Confined.bind confined_stopWhen fun _ _ => ?_
  refine Confined.bind (confined_update h fun t ht => ⟨ht.foreign, trivial⟩) fun _ _ => ?_
  refine Confined.bind (confined_fetchOrNone h) fun after _ => ?_
  exact Confined.bind (confined_pingTreeLog hd hbefore.1) fun _ _ => Confined.pure trivial

theorem confined_campaignsOfPingTree {id : Uuid} (h : foreignPingTree i db id = false) :
    (partOf i db).Confined (campaignsOfPingTree id) fun _ => True := by
  refine Confined.bind (confined_rows (free_pingTreeCampaigns h fun l hl =>
    of_decide_eq_true hl)) fun links hlinks => ?_
  refine Confined.bind (confined_rows ?_) fun _ _ => Confined.pure trivial
  -- a campaign of a link of the instance is not another instance's
  intro c hc
  refine decide_eq_false fun hmem => ?_
  obtain ⟨l, hl, hid⟩ := List.mem_map.mp hmem
  exact of_decide_eq_false ((hlinks l hl).1.ok c hc) hid.symm

theorem confined_deletePingTree (hd : FreshDraws cfg (others i db) env) {id : Uuid}
    (h : Free (others i db) .pingTrees (livePingTree id)) :
    (partOf i db).Confined (deletePingTree env id) fun _ => True := by
  refine Confined.bind (confined_fetchOptional h) fun o ho => ?_
  refine Confined.bind (Confined.orStop ho) fun t ht => ?_
  have hfree := owned_livePingTree ht
  refine Confined.bind (Confined.attempt (confined_campaignsOfPingTree
    (foreignPingTree_eq_false.mpr hfree)) trivial) fun affected _ => ?_
  refine Confined.bind (Confined.stmt (confined_update hfree fun t ht => ⟨ht.foreign, trivial⟩))
    fun _ _ => ?_
  exact Confined.bind (confined_pingTreeLog hd ht.1) fun _ _ => Confined.pure trivial

/-! ### The campaigns of a ping tree -/

theorem Free.liveCampaign {F : Db} {id : Uuid} (h : Free F .campaigns fun c => c.id = id) :
    Free F .campaigns (liveCampaign id) :=
  h.mono fun _ hc => decide_eq_true (of_decide_eq_true hc).1

theorem confined_addCampaignToPingTree (hd : FreshDraws cfg (others i db) env)
    {pingTreeId campaignId : Uuid} {priority : Option ℤ}
    (h : Free (others i db) .pingTrees (livePingTree pingTreeId))
    (hcampaign : Free (others i db) .campaigns fun c => c.id = campaignId) :
    (partOf i db).Confined (addCampaignToPingTree cfg env pingTreeId campaignId priority)
      fun _ => True := by
  refine Confined.bind (confined_fetchOptional h) fun o ho => ?_
  refine Confined.bind (Confined.orStop ho) fun t ht => ?_
  refine Confined.bind (confined_fetchOrNone hcampaign.liveCampaign) fun campaign _ => ?_
  refine Confined.bind (Confined.stmt (confined_linkCampaign (fun _ => ⟨rfl, rfl⟩) (hd.id 2)
    (owned_livePingTree ht) hcampaign)) fun _ _ => ?_
  exact Confined.bind (confined_pingTreeLog hd ht.1) fun _ _ => Confined.pure trivial

/-- Without a live campaign of the id nothing is written. -/
theorem deactivateRonin_eq {pingTreeId campaignId : Uuid} {s : Db}
    (h : ∀ c ∈ (s .campaigns).rows, liveCampaign campaignId c = false) :
    deactivateRonin env pingTreeId campaignId s = (.ok (), s) := by
  have hupdate : ∀ l : List PingTreeCampaign, (Prog.whenever l.isEmpty (executeIgnored env 4
      (Database.update .campaigns (liveCampaign campaignId)
        (fun c => { c with status := .inactive }) fun _ => rfl)) : Handler Unit) s = (.ok (), s) :=
    fun _ => Prog.whenever_eq (Prog.attempt_eq (Database.update_eq _ h) _) _
  cases h3 : env.ok 3 with
  | false =>
    simp only [deactivateRonin, Prog.run_bind, Prog.attempt, h3]
    exact hupdate []
  | true =>
    simp only [deactivateRonin, Prog.run_bind, Prog.attempt, h3]
    exact hupdate _

theorem confined_deactivateRonin {pingTreeId campaignId : Uuid}
    (h : Free (others i db) .campaigns (liveCampaign campaignId)) :
    (partOf i db).Confined (deactivateRonin env pingTreeId campaignId) fun _ => True := by
  intro s hs
  by_cases hlive : ∃ c ∈ (s .campaigns).rows, liveCampaign campaignId c = true
  · -- a live campaign of the instance, which is in no ping tree of another one
    obtain ⟨c, hc, hid⟩ := hlive
    have hfree := owned_liveCampaign ⟨hs.owned hc (hs.foreign_eq_false h hc hid), hid⟩
    refine Confined.bind (confined_fetchAllOrNone (hfree.mono fun l hl => ?_)) ?_ s hs
    · exact decide_eq_true (of_decide_eq_true hl).1
    · intro links _
      exact Confined.whenever fun _ => Confined.attempt (confined_update h fun c hc =>
        ⟨hc.foreign, hc.ok⟩) trivial
  · have hnone : ∀ c ∈ (s .campaigns).rows, liveCampaign campaignId c = false := by
      intro c hc
      by_contra hne
      exact hlive ⟨c, hc, Bool.not_eq_false _ ▸ hne⟩
    rw [deactivateRonin_eq hnone, deactivateRonin_eq fun c hc => hnone c (List.mem_filter.mp hc).1]
    exact ⟨rfl, hs, fun _ _ => trivial⟩

theorem confined_removeCampaignFromPingTree (hd : FreshDraws cfg (others i db) env)
    {pingTreeId campaignId : Uuid} (h : Free (others i db) .pingTrees (livePingTree pingTreeId))
    (hcampaign : Free (others i db) .campaigns (liveCampaign campaignId)) :
    (partOf i db).Confined (removeCampaignFromPingTree cfg env pingTreeId campaignId)
      fun _ => True := by
  refine Confined.bind (confined_fetchOptional h) fun o ho => ?_
  refine Confined.bind (Confined.orStop ho) fun t ht => ?_
  have hforeign := foreignPingTree_eq_false.mpr (owned_livePingTree ht)
  refine Confined.bind (confined_fetchOrNone hcampaign) fun campaign _ => ?_
  refine Confined.bind (Confined.stmt (confined_delete (free_pingTreeCampaigns hforeign
    fun l hl => (of_decide_eq_true hl).1))) fun _ _ => ?_
  refine Confined.bind (confined_deactivateRonin hcampaign) fun _ _ => ?_
  exact Confined.bind (confined_pingTreeLog hd ht.1) fun _ _ => Confined.pure trivial

/-! ### The publishers of a ping tree -/

theorem confined_listPingTreePublishers {id : Uuid}
    (h : Free (others i db) .pingTrees (livePingTree id)) :
    (partOf i db).Confined (listPingTreePublishers cfg env id) fun _ => True := by
  refine Confined.bind (confined_fetchOptional h) fun o ho => ?_
  refine Confined.bind (Confined.orStop ho) fun t ht => ?_
  have hforeign := foreignPingTree_eq_false.mpr (owned_livePingTree ht)
  refine Confined.bind (confined_fetchAll (free_pingTreePublishers hforeign fun a ha =>
    of_decide_eq_true ha)) fun assignments hassign => ?_
  refine Confined.bind (Confined.collect (R := fun _ => True) fun a ha => ?_) fun _ _ =>
    Confined.pure trivial
  have hmem : a.1 ∈ assignments := List.mem_mergeSort.mp (fst_mem_of_mem_zipIdx ha)
  exact Confined.bind (confined_fetchOrNone (hassign a.1 hmem).1.ok) fun _ _ =>
    Confined.pure trivial

theorem confined_addPublisherToPingTree (hd : FreshDraws cfg (others i db) env)
    {id publisherId : Uuid} {percentage flatAmount : Option F64}
    (h : Free (others i db) .pingTrees (livePingTree id))
    (hpublisher : Free (others i db) .publishers (livePublisher publisherId)) :
    (partOf i db).Confined (addPublisherToPingTree cfg env id publisherId percentage flatAmount)
      fun _ => True := by
  refine Confined.bind (confined_fetchOptional h) fun o ho => ?_
  refine Confined.bind (Confined.orStop ho) fun t ht => ?_
  refine Confined.bind (confined_fetchOptional hpublisher) fun o' ho' => ?_
  refine Confined.bind (Confined.orStop ho') fun r hr => ?_
  refine Confined.bind confined_stopWhen fun _ _ => ?_
  refine Confined.bind (Confined.orStop (Q := fun _ => True) fun _ _ => trivial) fun share _ => ?_
  have hid : r.id = publisherId := (of_decide_eq_true hr.2).1
  subst hid
  -- no ping tree of another instance has the publisher
  have hassigned : Free (others i db) .pingTreePublishers fun a => a.publisherId = r.id := hr.1.ok
  refine Confined.bind (Confined.stmt (confined_present (hassigned.mono fun a ha => ?_)))
    fun taken _ => ?_
  · exact decide_eq_true (of_decide_eq_true ha).1
  refine Confined.bind confined_stopWhen fun _ _ => ?_
  refine Confined.bind (confined_insert (foreignPingTree_eq_false.mpr (owned_livePingTree ht))
    (hd.id 0).pingTreePublishers hpublisher) fun inserted _ => ?_
  exact Confined.bind confined_stopWhen fun _ _ => Confined.pure trivial

theorem confined_removePublisherFromPingTree {id publisherId : Uuid}
    (h : Free (others i db) .pingTrees (livePingTree id)) :
    (partOf i db).Confined (removePublisherFromPingTree env id publisherId) fun _ => True := by
  refine Confined.bind (confined_fetchOptional h) fun o ho => ?_
  refine Confined.bind (Confined.orStop ho) fun t ht => ?_
  have hforeign := foreignPingTree_eq_false.mpr (owned_livePingTree ht)
  exact Confined.bind (Confined.stmt (confined_delete (free_pingTreePublishers hforeign
    fun a ha => (of_decide_eq_true ha).1))) fun _ _ => Confined.pure trivial

theorem confined_updatePingTreePublisherRevshare {id publisherId : Uuid}
    {percentage flatAmount : Option F64}
    (h : Free (others i db) .pingTreePublishers fun a =>
      a.pingTreeId = id ∧ a.publisherId = publisherId) :
    (partOf i db).Confined
      (updatePingTreePublisherRevshare cfg env id publisherId percentage flatAmount)
      fun _ => True := by
  refine Confined.bind (confined_fetchOptional h) fun o ho => ?_
  refine Confined.bind (Confined.orStop ho) fun a ha => ?_
  refine Confined.bind confined_stopWhen fun _ _ => ?_
  refine Confined.bind (Confined.orStop (Q := fun _ => True) fun _ _ => trivial) fun share _ => ?_
  exact Confined.bind (Confined.stmt (confined_update (Owned.free_key ha.1) fun a ha =>
    ⟨ha.foreign, ha.ok⟩)) fun _ _ => Confined.pure trivial

end Dashboard

end LeadsNebula
