/-
The audit records of a call of the router.

For every request that the router sends to a buyer it is to leave one record, with the
id of the campaign and that of its buyer.  The auction does, whatever the buyers do.  A
post whose call fails leaves none, and neither does a fullpost whose post fails.  The
direct fullpost stores its records last: after the return for a request without a valid
answer, after the statement that records the sale, and without the calls that failed.

* `length_eq_of_oneRecordEach` — as many records as requests;
* `one_record_each_iff` — when every request of a call leaves exactly one record.
-/
import LeadsNebula.FailureClasses

namespace LeadsNebula

/-! ### Records and requests -/

/-- The audit records among effects. -/
def records (es : List Effect) : List BuyerResponseTask :=
  es.filterMap fun
    | .enqueue (.buyerResponse t) => some t
    | _ => none

/-- The effects of a call that happen; if its statement fails, it is the last one. -/
def performed (fails : Bool) : List Effect → List Effect
  | [] => []
  | .exec st :: es => if fails then [.exec st] else .exec st :: performed fails es
  | e :: es => e :: performed fails es

/-- Every request to a campaign has left one record, with the buyer of the campaign. -/
def OneRecordEach (requests : List Campaign) (tasks : List BuyerResponseTask) : Prop :=
  ∀ c ∈ requests, (tasks.countP fun t => t.campaignId = c.id) =
      (requests.countP fun c' => c'.id = c.id) ∧
    ∀ t ∈ tasks, t.campaignId = c.id → t.buyerId = some c.buyerId

theorem mem_of_perm {requests : List Campaign} {tasks : List BuyerResponseTask}
    (h : (tasks.map fun t => (t.campaignId, t.buyerId)).Perm
      (requests.map fun c => (c.id, some c.buyerId))) {t : BuyerResponseTask} (ht : t ∈ tasks) :
    ∃ c ∈ requests, c.id = t.campaignId ∧ some c.buyerId = t.buyerId := by
  have hmem : (t.campaignId, t.buyerId) ∈ tasks.map fun t => (t.campaignId, t.buyerId) :=
    List.mem_map.mpr ⟨t, ht, rfl⟩
  obtain ⟨c, hc, hpair⟩ := List.mem_map.mp (h.mem_iff.mp hmem)
  exact ⟨c, hc, (Prod.mk.inj hpair).1, (Prod.mk.inj hpair).2⟩

/-- Records that are those of the requests, in some order. -/
theorem oneRecordEach_of_perm {requests : List Campaign} {tasks : List BuyerResponseTask}
    (hinj : ∀ c ∈ requests, ∀ c' ∈ requests, c.id = c'.id → c = c')
    (h : (tasks.map fun t => (t.campaignId, t.buyerId)).Perm
      (requests.map fun c => (c.id, some c.buyerId))) : OneRecordEach requests tasks := by
  intro c hc
  constructor
  · have hcount := h.countP_eq fun p => decide (p.1 = c.id)
    rw [List.countP_map, List.countP_map] at hcount
    exact hcount
  · intro t ht hid
    obtain ⟨c', hc', hid', hbuyer⟩ := mem_of_perm h ht
    rw [← hbuyer, hinj c' hc' c hc (hid'.trans hid)]

/-- If every request has left one record and there are no others, there are as many. -/
theorem length_eq_of_oneRecordEach {requests : List Campaign} {tasks : List BuyerResponseTask}
    (hsub : ∀ t ∈ tasks, ∃ c ∈ requests, c.id = t.campaignId) (h : OneRecordEach requests tasks) :
    tasks.length = requests.length := by
  have hperm : (tasks.map BuyerResponseTask.campaignId).Perm (requests.map Campaign.id) := by
    rw [List.perm_iff_count]
    intro id
    by_cases hid : ∃ c ∈ requests, c.id = id
    · obtain ⟨c, hc, rfl⟩ := hid
      rw [List.count_eq_countP, List.count_eq_countP, List.countP_map, List.countP_map]
      exact (h c hc).1
    · have htasks : id ∉ tasks.map BuyerResponseTask.campaignId := by
        intro hmem
        obtain ⟨t, ht, rfl⟩ := List.mem_map.mp hmem
        exact hid (hsub t ht)
      have hrequests : id ∉ requests.map Campaign.id := by
        intro hmem
        obtain ⟨c, hc, rfl⟩ := List.mem_map.mp hmem
        exact hid ⟨c, hc, rfl⟩
      rw [List.count_eq_zero_of_not_mem htasks, List.count_eq_zero_of_not_mem hrequests]
  have hlen := hperm.length_eq
  rwa [List.length_map, List.length_map] at hlen

theorem oneRecordEach_nil_iff {requests : List Campaign} :
    OneRecordEach requests [] ↔ requests = [] := by
  constructor
  · intro h
    have hlen := length_eq_of_oneRecordEach (fun t ht => by cases ht) h
    exact List.length_eq_zero_iff.mp hlen.symm
  · rintro rfl c hc
    cases hc

theorem records_append (es es' : List Effect) : records (es ++ es') = records es ++ records es' :=
  List.filterMap_append

theorem performed_subset (fails : Bool) (es : List Effect) : performed fails es ⊆ es := by
  induction es with
  | nil => exact List.Subset.refl _
  | cons e es ih =>
    cases e with
    | exec st =>
      rw [performed]
      split
      · exact List.cons_subset_cons _ (List.nil_subset es)
      · exact List.cons_subset_cons _ ih
    | enqueue t => exact List.cons_subset_cons _ ih
    | spawn st => exact List.cons_subset_cons _ ih

/-- Records that come first happen. -/
theorem performed_append {audit : List Effect} (h : PingTreeRouter.IsAudit audit) (fails : Bool)
    (es : List Effect) : performed fails (audit ++ es) = audit ++ performed fails es := by
  induction audit with
  | nil => rfl
  | cons e audit ih =>
    obtain ⟨t, rfl⟩ := h e List.mem_cons_self
    exact congrArg (List.cons _) (ih fun e he => h e (List.mem_cons_of_mem _ he))

/-- Effects that leave no record. -/
def NoRecords (es : List Effect) : Prop := ∀ e ∈ es, ∀ t, e ≠ .enqueue (.buyerResponse t)

theorem noRecords_nil : NoRecords [] := by
  intro e he
  cases he

theorem records_performed_of_noRecords {es : List Effect} (h : NoRecords es) (fails : Bool) :
    records (performed fails es) = [] := by
  rw [records, List.filterMap_eq_nil_iff]
  intro e he
  have hne := h e (performed_subset fails es he)
  split
  · next t => exact absurd rfl (hne t)
  · rfl

/-- What happens of records followed by effects that leave none. -/
theorem records_performed {audit es : List Effect} (haudit : PingTreeRouter.IsAudit audit)
    (h : NoRecords es) (fails : Bool) :
    records (performed fails (audit ++ es)) = records audit := by
  rw [performed_append haudit, records_append, records_performed_of_noRecords h, List.append_nil]

namespace PingTreeRouter

section Audit

variable [StdText] {r : PingTreeRouter} {env : RouteEnv} {priority : Uuid → Option ℤ}
  {campaigns : List Campaign}

omit [StdText] in
theorem noRecords_updateLeadStatus (r : PingTreeRouter) (env : RouteEnv) (status : LeadStatus)
    (error : Option String) : NoRecords (r.updateLeadStatus env status error) := by
  intro e he t
  rw [updateLeadStatus] at he
  split at he
  · rw [List.mem_singleton.mp he]
    intro h
    cases h
  · cases he

/-! ### The auction -/

/-- The auction stores its records before anything else; with a winner, only the update of the
lead follows. -/
theorem routePingAuction_effects (r : PingTreeRouter) (env : RouteEnv)
    (priority : Uuid → Option ℤ) (campaigns : List Campaign) :
    ∃ es, NoRecords es ∧
      (r.routePingAuction env priority campaigns).effects =
        r.pingAudit env campaigns (r.pingResponses env priority campaigns) ++ es ∧
      ∀ winner c, r.winnerAmong env priority campaigns = some (winner, c) →
        es = [.enqueue (.leadUpdate (r.winnerUpdate winner c))] := by
  simp only [routePingAuction, winnerAmong]
  by_cases hempty : ((r.pingResponses env priority campaigns).filter
      fun x => validPing x.1).isEmpty = true
  · -- no valid answer
    rw [if_pos hempty, List.isEmpty_iff.mp hempty, selectWinnerF64_nil]
    exact ⟨_, noRecords_updateLeadStatus r env _ _, rfl,
      fun _ _ h => absurd h.symm (Option.some_ne_none _)⟩
  · rw [if_neg hempty]
    split
    · next hnone =>
      -- the bids are no numbers to choose from
      rw [hnone]
      exact ⟨[], noRecords_nil, (List.append_nil _).symm,
        fun _ _ h => absurd h.symm (Option.some_ne_none _)⟩
    · next winner winnerId prio hwin =>
      rw [hwin, Option.bind_some]
      split
      · next hnone =>
        -- the winner is of no campaign of the tree
        simp only [hnone]
        exact ⟨[], noRecords_nil, (List.append_nil _).symm,
        fun _ _ h => absurd h.symm (Option.some_ne_none _)⟩
      · next c hc =>
        simp only [hc]
        -- what is queued is the update of the lead alone
        refine ⟨_, ?_, rfl, ?_⟩
        · intro e he t
          rw [List.mem_singleton.mp he]
          intro h
          cases h
        · intro winner' c' h
          obtain ⟨rfl, rfl⟩ := Prod.mk.inj (Option.some_inj.mp h)
          rfl

/-- The records of an auction: one for each campaign, with its buyer. -/
theorem records_pingAudit (priority : Uuid → Option ℤ)
    (hinj : ∀ c ∈ campaigns, ∀ c' ∈ campaigns, c.id = c'.id → c = c')
    (horder : env.order.Perm (List.range campaigns.length)) :
    ((records (r.pingAudit env campaigns (r.pingResponses env priority campaigns))).map
        fun t => (t.campaignId, t.buyerId)).Perm
      (campaigns.map fun c => (c.id, some c.buyerId)) := by
  have hmap : (records (r.pingAudit env campaigns (r.pingResponses env priority campaigns))).map
      (fun t => (t.campaignId, t.buyerId)) =
      (Completion.inOrder env.order campaigns).map fun c => (c.id, some c.buyerId) := by
    rw [records, pingAudit, pingResponses, List.filterMap_map, List.filterMap_map,
      List.map_filterMap, ← List.filterMap_eq_map]
    refine List.filterMap_congr fun c hc => ?_
    have hfind := find_campaign hinj (Completion.inOrder_subset _ _ hc)
    show some (c.id, buyerOf campaigns c.id) = some (c.id, some c.buyerId)
    rw [buyerOf, hfind]
    rfl
  rw [hmap]
  exact (Completion.inOrder_perm horder).map _

/-! ### Posts -/

/-- The campaign whose buyer a post is sent to. -/
def postRequest (r : PingTreeRouter) (campaigns : List Campaign) : Option Campaign :=
  if r.lead.campaignId.any fun id => !campaigns.any fun c => c.id = id then none
  else r.postCampaign campaigns

/-- The buyer's part of a post. -/
def postOutcome (r : PingTreeRouter) (env : RouteEnv) (c : Campaign) :
    Except String BuyerResponse :=
  (BuyerRouter.new r.lead [c] r.requestType).route env.directory (env.postCall c.id)

/-- The post, if one is sent, is answered. -/
def PostAnswered (r : PingTreeRouter) (env : RouteEnv) (campaigns : List Campaign) : Prop :=
  ∀ c, r.postRequest campaigns = some c → ∃ b, r.postOutcome env c = .ok b

omit [StdText] in
/-- An answer to a post is stored before anything else. -/
theorem records_postAnswered (r : PingTreeRouter) (env : RouteEnv) (c : Campaign)
    (b : BuyerResponse) (fails : Bool) :
    (records (performed fails (r.postAnswered env c b).effects)).map
      (fun t => (t.campaignId, t.buyerId)) = [(c.id, some c.buyerId)] := by
  rw [postAnswered]
  split
  · cases fails <;> rfl
  · simp only [performed]
    have hnone := records_performed_of_noRecords
      (noRecords_updateLeadStatus r env (postFailureStatus b) b.error) fails
    rw [records] at hnone ⊢
    rw [List.filterMap_cons, hnone]
    rfl

/-- A post leaves a record if it is answered, and none if it is not. -/
theorem records_routePost (r : PingTreeRouter) (env : RouteEnv) (campaigns : List Campaign)
    (fails : Bool) :
    r.PostAnswered env campaigns ∧
        (records (performed fails (r.routePost env campaigns).effects)).map
          (fun t => (t.campaignId, t.buyerId)) =
        (r.postRequest campaigns).toList.map (fun c => (c.id, some c.buyerId)) ∨
      ¬ r.PostAnswered env campaigns ∧
        records (performed fails (r.routePost env campaigns).effects) = [] ∧
        ∃ c, r.postRequest campaigns = some c := by
  rw [PostAnswered, routePost, postRequest]
  split
  · -- the campaign of the lead is not in the tree, so no buyer is asked
    refine Or.inl ⟨fun c h => absurd h.symm (Option.some_ne_none c), ?_⟩
    rw [failWith, records_performed_of_noRecords (noRecords_updateLeadStatus r env _ _)]
    rfl
  · split
    · next hnone =>
      rw [hnone]
      refine Or.inl ⟨fun c h => absurd h.symm (Option.some_ne_none c), ?_⟩
      rw [failWith, records_performed_of_noRecords (noRecords_updateLeadStatus r env _ _)]
      rfl
    · next c hc =>
      rw [hc]
      split
      · next b hb =>
        refine Or.inl ⟨?_, records_postAnswered r env c b fails⟩
        intro c' hc'
        obtain rfl := Option.some_inj.mp hc'
        exact ⟨b, hb⟩
      · next e he =>
        refine Or.inr ⟨fun h => ?_, records_performed_of_noRecords
          (noRecords_updateLeadStatus r env _ _) fails, c, rfl⟩
        obtain ⟨b, hb⟩ := h c rfl
        -- an error instead of an answer leaves no record
        rw [postOutcome, he] at hb
        cases hb

omit [StdText] in
theorem postRequest_mem {c : Campaign} (h : r.postRequest campaigns = some c) :
    c ∈ campaigns := by
  rw [postRequest] at h
  split at h
  · cases h
  · rw [postCampaign] at h
    split at h
    · exact List.mem_of_find?_eq_some h
    · exact List.mem_of_head? h

/-- A post leaves one record for its request exactly if it is answered. -/
theorem oneRecordEach_post_iff
    (hinj : ∀ c ∈ campaigns, ∀ c' ∈ campaigns, c.id = c'.id → c = c') (fails : Bool) :
    OneRecordEach (r.postRequest campaigns).toList
        (records (performed fails (r.routePost env campaigns).effects)) ↔
      r.PostAnswered env campaigns := by
  rcases r.records_routePost env campaigns fails with
    ⟨hpost, hrecords⟩ | ⟨hpost, hrecords, c, hc⟩
  · refine iff_of_true (oneRecordEach_of_perm ?_ (hrecords ▸ List.Perm.refl _)) hpost
    exact fun c hc c' hc' => hinj c (postRequest_mem (Option.mem_toList.mp hc)) c'
      (postRequest_mem (Option.mem_toList.mp hc'))
  · rw [hrecords, oneRecordEach_nil_iff, hc]
    exact iff_of_false nofun hpost

/-! ### Fullposts -/

/-- The campaign whose buyer gets the post of a fullpost, after the ping. -/
def splitRequest (r : PingTreeRouter) (env : RouteEnv) (priority : Uuid → Option ℤ)
    (campaigns : List Campaign) : Option Campaign :=
  ({ r with requestType := .ping }.winnerAmong env priority campaigns).bind fun w =>
    (r.postRouter (winnerResult w.1 w.2 none)).postRequest campaigns

/-- The post of a fullpost, if the ping has a winner, is answered. -/
def SplitAnswered (r : PingTreeRouter) (env : RouteEnv) (priority : Uuid → Option ℤ)
    (campaigns : List Campaign) : Prop :=
  ∀ winner c, { r with requestType := .ping }.winnerAmong env priority campaigns =
    some (winner, c) → (r.postRouter (winnerResult winner c none)).PostAnswered env campaigns

/-- The effects of a fullpost: those of the ping, and, if it has a winner, of the post. -/
theorem routeFullpostSplit_effects (r : PingTreeRouter) (env : RouteEnv)
    (priority : Uuid → Option ℤ) (campaigns : List Campaign) :
    (∃ winner c u, { r with requestType := .ping }.winnerAmong env priority campaigns =
        some (winner, c) ∧
      (r.routeFullpostSplit env priority campaigns).effects =
        { r with requestType := .ping }.pingAudit env campaigns
          ({ r with requestType := .ping }.pingResponses env priority campaigns) ++
        .enqueue (.leadUpdate u) ::
          ((r.postRouter (winnerResult winner c none)).routePost env campaigns).effects) ∨
    { r with requestType := .ping }.winnerAmong env priority campaigns = none ∧
      (r.routeFullpostSplit env priority campaigns).effects =
        ({ r with requestType := .ping }.routePingAuction env priority campaigns).effects := by
  rw [routeFullpostSplit]
  rcases hwin : { r with requestType := .ping }.winnerAmong env priority campaigns with
    _ | ⟨winner, c⟩
  · refine Or.inr ⟨hwin, ?_⟩
    simp only
    split
    · rfl
    · next ping hping =>
      -- without a winner the ping has no success
      split
      · rfl
      · next hsuccess =>
        rw [Bool.not_eq_true', Bool.not_eq_false] at hsuccess
        obtain ⟨winner, c, timings, hsome, -⟩ := winner_of_success hping hsuccess
        rw [hwin] at hsome
        cases hsome
  · left
    obtain ⟨audit, timings, hrouted⟩ := routePingAuction_of_winner hwin
    obtain ⟨es, -, heffects, hes⟩ :=
      routePingAuction_effects { r with requestType := .ping } env priority campaigns
    rw [hes winner c hwin] at heffects
    have hsuccess : (winnerResult winner c timings).success = true := by
      have hvalid := winnerAmong_valid hwin
      rw [validPing, Bool.and_eq_true, Bool.and_eq_true, Bool.and_eq_true] at hvalid
      exact hvalid.1.1.1
    refine ⟨winner, c, r.winnerUpdate winner c, hwin, ?_⟩
    simp only [show ({ r with requestType := .ping }.routePingAuction env priority
      campaigns).result = _ from congrArg Routed.result hrouted, hsuccess, Bool.not_true,
      Bool.false_eq_true, if_false, heffects]
    exact List.append_assoc _ _ _

/-- A fullpost leaves one record for each request exactly if its post, if there is one, is
answered. -/
theorem oneRecordEach_split_iff (priority : Uuid → Option ℤ)
    (hinj : ∀ c ∈ campaigns, ∀ c' ∈ campaigns, c.id = c'.id → c = c')
    (horder : env.order.Perm (List.range campaigns.length)) (fails : Bool) :
    OneRecordEach (campaigns ++ (r.splitRequest env priority campaigns).toList)
        (records (performed fails (r.routeFullpostSplit env priority campaigns).effects)) ↔
      r.SplitAnswered env priority campaigns := by
  have haudit := isAudit_pingAudit { r with requestType := .ping } env campaigns
    ({ r with requestType := .ping }.pingResponses env priority campaigns)
  have hperm := records_pingAudit (r := { r with requestType := .ping }) priority hinj horder
  rcases r.routeFullpostSplit_effects env priority campaigns with
    ⟨winner, c, u, hwin, heffects⟩ | ⟨hnone, heffects⟩
  · have hrequest : r.splitRequest env priority campaigns =
        (r.postRouter (winnerResult winner c none)).postRequest campaigns := by
      rw [splitRequest, hwin, Option.bind_some]
    have hanswered : r.SplitAnswered env priority campaigns ↔
        (r.postRouter (winnerResult winner c none)).PostAnswered env campaigns := by
      refine ⟨fun h => h winner c hwin, fun h winner' c' hwin' => ?_⟩
      obtain ⟨rfl, rfl⟩ := Prod.mk.inj (Option.some_inj.mp (hwin.symm.trans hwin'))
      exact h
    rw [heffects, performed_append haudit, records_append, hrequest, hanswered]
    have hupdate : ∀ es, records (performed fails (.enqueue (.leadUpdate u) :: es)) =
        records (performed fails es) := fun _ => rfl
    rw [hupdate]
    rcases (r.postRouter (winnerResult winner c none)).records_routePost env campaigns fails with
      ⟨hpost, hrecords⟩ | ⟨hpost, hrecords, c', hc'⟩
    · refine iff_of_true ?_ hpost
      refine oneRecordEach_of_perm ?_ ?_
      · have hsub : ∀ c' ∈ campaigns ++
            ((r.postRouter (winnerResult winner c none)).postRequest campaigns).toList,
            c' ∈ campaigns := by
          intro c' hc'
          rcases List.mem_append.mp hc' with hc' | hc'
          · exact hc'
          · exact postRequest_mem (Option.mem_toList.mp hc')
        exact fun c₁ h₁ c₂ h₂ => hinj c₁ (hsub c₁ h₁) c₂ (hsub c₂ h₂)
      · rw [List.map_append, List.map_append, hrecords]
        exact hperm.append_right _
    · refine iff_of_false (fun h => ?_) hpost
      -- one request more than records
      rw [hrecords, List.append_nil, hc'] at h
      have hlen := length_eq_of_oneRecordEach (fun t ht => ?_) h
      · have hcount := hperm.length_eq
        rw [List.length_map, List.length_map] at hcount
        rw [List.length_append, hcount] at hlen
        exact absurd hlen (Nat.ne_of_lt (Nat.lt_succ_self _))
      · obtain ⟨c₁, hc₁, hid, -⟩ := mem_of_perm hperm ht
        exact ⟨c₁, List.mem_append_left _ hc₁, hid⟩
  · obtain ⟨es, hes, hping, -⟩ :=
      routePingAuction_effects { r with requestType := .ping } env priority campaigns
    have hrequest : r.splitRequest env priority campaigns = none := by
      rw [splitRequest, hnone]
      rfl
    rw [heffects, hping, records_performed haudit hes, hrequest, Option.toList_none,
      List.append_nil]
    refine iff_of_true (oneRecordEach_of_perm hinj hperm) fun winner c hwin => ?_
    rw [hnone] at hwin
    cases hwin

/-- The records of a direct fullpost name the campaigns of the answers, in the order that the
code puts them. -/
theorem map_records_fullpostAudit (priority : Uuid → Option ℤ) :
    (records (r.fullpostAudit campaigns (r.fullpostResponses env priority campaigns))).map
        (fun t => (t.campaignId, t.buyerId)) =
      ((Completion.zipCollect Campaign.id (r.fullpostAnswer env) campaigns
        (Completion.inOrder env.order campaigns)).map Prod.snd).map
          fun id => (id, buyerOf campaigns id) := by
  rw [records, fullpostAudit, fullpostResponses_eq, List.filterMap_map, List.filterMap_map,
    List.map_filterMap, List.map_map, ← List.filterMap_eq_map]
  rfl

/-- There are as many records as answers. -/
theorem length_records_fullpostAudit (priority : Uuid → Option ℤ)
    (horder : env.order.Perm (List.range campaigns.length)) :
    (records (r.fullpostAudit campaigns (r.fullpostResponses env priority campaigns))).length =
      ((Completion.inOrder env.order campaigns).filterMap (r.fullpostAnswer env)).length := by
  have hlen := (Completion.inOrder_perm horder).length_eq.symm
  have hanswers := congrArg List.length
    (Completion.map_fst_zipCollect Campaign.id (r.fullpostAnswer env) hlen)
  rw [List.length_map] at hanswers
  rw [← List.length_map fun t : BuyerResponseTask => (t.campaignId, t.buyerId),
    map_records_fullpostAudit, List.length_map, List.length_map]
  exact hanswers

theorem campaign_of_fullpostAudit (priority : Uuid → Option ℤ) {t : BuyerResponseTask}
    (ht : t ∈ records (r.fullpostAudit campaigns (r.fullpostResponses env priority campaigns))) :
    ∃ c ∈ campaigns, c.id = t.campaignId := by
  have hmem := List.mem_map_of_mem (f := fun t => (t.campaignId, t.buyerId)) ht
  rw [map_records_fullpostAudit] at hmem
  obtain ⟨id, hid, hpair⟩ := List.mem_map.mp hmem
  obtain ⟨p, hp, rfl⟩ := List.mem_map.mp hid
  obtain ⟨c, hc, hcid⟩ := List.mem_map.mp (Completion.zipCollect_key_mem _ _ hp)
  exact ⟨c, hc, hcid.trans (Prod.mk.inj hpair).1⟩

/-- If every call is answered, there is one record for each campaign. -/
theorem records_fullpostAudit_of_ok (priority : Uuid → Option ℤ)
    (horder : env.order.Perm (List.range campaigns.length))
    (hok : ∀ c ∈ campaigns, ∃ b, r.fullpostOutcome env c = .ok b)
    (hinj : ∀ c ∈ campaigns, ∀ c' ∈ campaigns, c.id = c'.id → c = c') :
    (records (r.fullpostAudit campaigns (r.fullpostResponses env priority campaigns))).map
        (fun t => (t.campaignId, t.buyerId)) = campaigns.map fun c => (c.id, some c.buyerId) := by
  have hlen := (Completion.inOrder_perm horder).length_eq.symm
  rw [map_records_fullpostAudit, Completion.map_snd_zipCollect _ _ hlen, List.map_map]
  · refine List.map_congr_left fun c hc => ?_
    show (c.id, buyerOf campaigns c.id) = _
    rw [buyerOf, find_campaign hinj hc]
    rfl
  · intro c hc
    obtain ⟨b, hb⟩ := hok c (Completion.inOrder_subset _ _ hc)
    rw [fullpostAnswer, hb]
    rfl

/-- Every call of a direct fullpost is answered, some answer is valid, and the statement that
records the sale succeeds. -/
def DirectKept (r : PingTreeRouter) (env : RouteEnv) (campaigns : List Campaign) (fails : Bool) :
    Prop :=
  (∀ c ∈ campaigns, ∃ b, r.fullpostOutcome env c = .ok b) ∧
    (∃ c ∈ campaigns, ∃ b, r.fullpostOutcome env c = .ok b ∧ validFullpost b = true) ∧
    fails = false

/-- A direct fullpost without a valid answer, and one with a winner. -/
theorem routeFullpostDirect_effects (priority : Uuid → Option ℤ)
    (horder : env.order.Perm (List.range campaigns.length)) :
    r.NoValidFullpost env campaigns ∧
        NoRecords (r.routeFullpostDirect env priority campaigns).effects ∨
      (∃ c ∈ campaigns, ∃ b, r.fullpostOutcome env c = .ok b ∧ validFullpost b = true) ∧
        ∃ st, (r.routeFullpostDirect env priority campaigns).effects =
          .exec st :: r.fullpostAudit campaigns (r.fullpostResponses env priority campaigns) := by
  have hmem := mem_fullpostResponses (r := r) priority horder
  rw [routeFullpostDirect]
  simp only
  split
  · next hsort =>
    refine Or.inl ⟨fun c hc b hb => eq_false_of_ne_true fun hvalid => ?_,
      noRecords_updateLeadStatus r env _ _⟩
    obtain ⟨x, hx, rfl⟩ := (hmem b).mpr (List.mem_map.mpr ⟨c, hc, congrArg some hb⟩)
    have hsorted : x ∈ sortOffers BuyerResponse.price
        ((r.fullpostResponses env priority campaigns).filter fun x => validFullpost x.1) :=
      List.mem_mergeSort.mpr (List.mem_filter.mpr ⟨hx, hvalid⟩)
    rw [hsort] at hsorted
    cases hsorted
  · next winner winnerId prio rest hsort =>
    have hsorted : (winner, winnerId, prio) ∈ sortOffers BuyerResponse.price
        ((r.fullpostResponses env priority campaigns).filter fun x => validFullpost x.1) :=
      hsort ▸ List.mem_cons_self
    obtain ⟨hx, hvalid⟩ := List.mem_filter.mp (List.mem_mergeSort.mp hsorted)
    obtain ⟨c, hc, hb⟩ := List.mem_map.mp ((hmem winner).mp ⟨_, hx, rfl⟩)
    refine Or.inr ⟨⟨c, hc, winner, Option.some_inj.mp hb, hvalid⟩, ?_⟩
    -- the winner is attributed to a campaign of the tree
    have hid : winnerId ∈ campaigns.map Campaign.id := by
      rw [fullpostResponses_eq] at hx
      obtain ⟨p, hp, hpair⟩ := List.mem_map.mp hx
      rw [← (Prod.mk.inj (Prod.mk.inj hpair).2).1]
      exact Completion.zipCollect_key_mem _ _ hp
    split
    · next hnone =>
      obtain ⟨c', hc', rfl⟩ := List.mem_map.mp hid
      exact absurd (decide_eq_true rfl) (List.find?_eq_none.mp hnone c' hc')
    · exact ⟨_, rfl⟩

/-- A direct fullpost leaves one record for each request exactly if every call is answered, some
answer is valid, and the sale is recorded. -/
theorem oneRecordEach_direct_iff (priority : Uuid → Option ℤ)
    (hinj : ∀ c ∈ campaigns, ∀ c' ∈ campaigns, c.id = c'.id → c = c')
    (horder : env.order.Perm (List.range campaigns.length)) (fails : Bool) :
    OneRecordEach campaigns
        (records (performed fails (r.routeFullpostDirect env priority campaigns).effects)) ↔
      campaigns = [] ∨ r.DirectKept env campaigns fails := by
  rcases routeFullpostDirect_effects priority horder with ⟨hnone, hno⟩ | ⟨hvalid, st, heffects⟩
  · rw [records_performed_of_noRecords hno, oneRecordEach_nil_iff]
    refine ⟨Or.inl, ?_⟩
    rintro (hnil | ⟨-, ⟨c, hc, b, hb, hb'⟩, -⟩)
    · exact hnil
    · rw [hnone c hc b hb] at hb'
      cases hb'
  · have hne : campaigns ≠ [] := by
      obtain ⟨c, hc, -⟩ := hvalid
      exact List.ne_nil_of_mem hc
    rw [heffects, performed]
    cases fails with
    | true =>
      -- the statement fails, and the call ends before the records
      rw [if_pos rfl]
      show OneRecordEach campaigns [] ↔ _
      rw [oneRecordEach_nil_iff]
      exact iff_of_false hne fun h => h.elim hne fun h => Bool.false_ne_true h.2.2.symm
    | false =>
      have haudit : IsAudit (r.fullpostAudit campaigns
          (r.fullpostResponses env priority campaigns)) := by
        intro e he
        obtain ⟨x, -, rfl⟩ := List.mem_map.mp he
        exact ⟨_, rfl⟩
      have hcount := length_records_fullpostAudit (r := r) priority horder
      have hrecords : records (.exec st :: performed false (r.fullpostAudit campaigns
          (r.fullpostResponses env priority campaigns))) =
          records (r.fullpostAudit campaigns (r.fullpostResponses env priority campaigns)) := by
        have hperformed := performed_append haudit false []
        rw [List.append_nil, performed, List.append_nil] at hperformed
        rw [hperformed]
        rfl
      rw [if_neg Bool.false_ne_true, hrecords]
      constructor
      · intro h
        refine Or.inr ⟨fun c hc => ?_, hvalid, rfl⟩
        -- as many answers as calls
        have hlen := hcount.symm.trans (length_eq_of_oneRecordEach
          (fun t ht => campaign_of_fullpostAudit priority ht) h)
        rw [← (Completion.inOrder_perm horder).length_eq, List.filterMap_length_eq_length] at hlen
        have hsome := hlen c ((Completion.inOrder_perm horder).mem_iff.mpr hc)
        obtain ⟨b, hb⟩ := Option.isSome_iff_exists.mp hsome
        exact ⟨b, ok_of_toOption hb⟩
      · rintro (hnil | ⟨hok, -, -⟩)
        · exact absurd hnil hne
        · have hall := records_fullpostAudit_of_ok priority horder hok hinj
          exact oneRecordEach_of_perm hinj (hall ▸ List.Perm.refl _)

/-! ### Every call -/

/-- The campaigns whose buyers the call sends a request to. -/
def requests (r : PingTreeRouter) (env : RouteEnv) : List Campaign :=
  match env.callable with
  | none => []
  | some (tree, ptcs) =>
    let campaigns := activeCampaigns env ptcs
    match r.requestType with
    | .ping => campaigns
    | .post => (r.postRequest campaigns).toList
    | .fullpost =>
      if tree.strategy = "ping_post" then
        campaigns ++ (r.splitRequest env (priorityOf ptcs) campaigns).toList
      else campaigns
    | .other _ => []

/-- The call comes to its records for every request. -/
def AuditKept (r : PingTreeRouter) (env : RouteEnv) (fails : Bool) : Prop :=
  ∀ tree ptcs, env.callable = some (tree, ptcs) →
    match r.requestType with
    | .ping => True
    | .post => r.PostAnswered env (activeCampaigns env ptcs)
    | .fullpost =>
      if tree.strategy = "ping_post" then
        r.SplitAnswered env (priorityOf ptcs) (activeCampaigns env ptcs)
      else activeCampaigns env ptcs = [] ∨ r.DirectKept env (activeCampaigns env ptcs) fails
    | .other _ => True

/-- Every request of a call leaves exactly one record, with its campaign and buyer, exactly if the
post is answered, and for a direct fullpost if every call is answered, some answer is valid and
the sale is recorded. -/
theorem one_record_each_iff (r : PingTreeRouter) (env : RouteEnv) (fails : Bool)
    (horder : ∀ tree ptcs, env.callable = some (tree, ptcs) →
      env.order.Perm (List.range (activeCampaigns env ptcs).length)) :
    OneRecordEach (r.requests env) (records (performed fails (r.route env).effects)) ↔
      r.AuditKept env fails := by
  rcases r.route_cases env with ⟨hcall, -, e, h⟩ | ⟨hempty, logged, reported, h⟩ |
    ⟨tree, ptcs, hcall, h⟩
  · rw [requests, hcall]
    refine iff_of_true (fun c hc => by cases hc) fun tree ptcs hsome => ?_
    rw [hcall] at hsome
    cases hsome
  · -- there is no campaign to call
    have hpost : r.postRequest [] = none :=
      Option.eq_none_iff_forall_not_mem.mpr fun c hc => by cases postRequest_mem hc
    have hnil : r.requests env = [] := by
      rw [requests]
      rcases hcall : env.callable with _ | ⟨tree, ptcs⟩
      · rfl
      · simp only [hempty tree ptcs hcall, hpost, splitRequest, winnerAmong_nil]
        cases r.requestType <;> simp
    rw [hnil]
    refine iff_of_true (fun c hc => by cases hc) fun tree ptcs hcall => ?_
    rw [hempty tree ptcs hcall]
    cases r.requestType with
    | ping => trivial
    | post => exact fun c hc => by cases postRequest_mem hc
    | fullpost =>
      show if tree.strategy = "ping_post" then _ else _
      split
      · intro winner c hwin
        rw [winnerAmong_nil] at hwin
        cases hwin
      · exact Or.inl rfl
    | other s => trivial
  · have hinj : ∀ c ∈ activeCampaigns env ptcs, ∀ c' ∈ activeCampaigns env ptcs,
        c.id = c'.id → c = c' := fun c hc c' hc' => activeCampaigns_inj hc hc'
    have horder := horder tree ptcs hcall
    have hkept : r.AuditKept env fails ↔ match r.requestType with
        | .ping => True
        | .post => r.PostAnswered env (activeCampaigns env ptcs)
        | .fullpost =>
          if tree.strategy = "ping_post" then
            r.SplitAnswered env (priorityOf ptcs) (activeCampaigns env ptcs)
          else activeCampaigns env ptcs = [] ∨ r.DirectKept env (activeCampaigns env ptcs) fails
        | .other _ => True := by
      refine ⟨fun h => h tree ptcs hcall, fun h tree' ptcs' hcall' => ?_⟩
      obtain ⟨rfl, rfl⟩ := Prod.mk.inj (Option.some_inj.mp (hcall.symm.trans hcall'))
      exact h
    rw [h, requests, hcall, hkept]
    cases hr : r.requestType with
    | ping =>
      obtain ⟨es, hes, heffects, -⟩ :=
        r.routePingAuction_effects env (priorityOf ptcs) (activeCampaigns env ptcs)
      simp only [heffects, records_performed (isAudit_pingAudit r env _ _) hes, iff_true]
      exact oneRecordEach_of_perm hinj (records_pingAudit _ hinj horder)
    | post => exact oneRecordEach_post_iff hinj fails
    | fullpost =>
      simp only [routeFullpost]
      split
      · exact oneRecordEach_split_iff _ hinj horder fails
      · exact oneRecordEach_direct_iff _ hinj horder fails
    | other s =>
      refine iff_of_true (fun c hc => ?_) trivial
      cases hc

end Audit

/-! ### A rejected fullpost -/

open Sample

/-- A tree for fullposts, with one campaign whose buyer rejects the lead. -/
def rejectedFullpostEnv : RouteEnv :=
  { rejectedPostEnv with pingTree := .ok (some ⟨40, "fullpost", "active", none⟩) }

/-- The buyer is asked and rejects the lead, and no record is left. -/
theorem rejected_fullpost_leaves_no_record :
    ((fullpost false).router new 0).requests rejectedFullpostEnv = [campaign] ∧
      records (performed false (((fullpost false).router new 0).route
        rejectedFullpostEnv).effects) = [] ∧
      ¬ OneRecordEach (((fullpost false).router new 0).requests rejectedFullpostEnv)
        (records (performed false (((fullpost false).router new 0).route
          rejectedFullpostEnv).effects)) := by
  have hrequests : ((fullpost false).router new 0).requests rejectedFullpostEnv = [campaign] := by
    decide
  have hrecords : (records (performed false (((fullpost false).router new 0).route
      rejectedFullpostEnv).effects)).length = 0 := by
    decide +kernel
  rw [List.length_eq_zero_iff] at hrecords
  refine ⟨hrequests, hrecords, ?_⟩
  rw [hrequests, hrecords, oneRecordEach_nil_iff]
  exact List.cons_ne_nil _ _

/-- The sample ping leaves its record. -/
theorem one_record_each_iff_ping :
    ((ping false).router new 0).requests env = [campaign] ∧
      OneRecordEach (((ping false).router new 0).requests env)
        (records (performed true (((ping false).router new 0).route env).effects)) := by
  refine ⟨by decide, (one_record_each_iff _ _ _ ?_).mpr ?_⟩
  · intro tree ptcs hcall
    obtain ⟨rfl, rfl⟩ := Prod.mk.inj (Option.some_inj.mp hcall)
    decide
  · intro tree ptcs _
    trivial

end PingTreeRouter

end LeadsNebula
