/-
The bid of a ping and the price of its posts.

The winner's update writes `winning_bid` into the `vertical_data` of the row, and
Pulsar prices a post at the `winning_bid` of the copy that the post has read.
All other updates keep the entry, except one: the sale that `create_lead` records
of its own for a synchronous ping replaces `vertical_data` as a whole.

* `LeadStatement.Fits` — what a statement for a won lead does to its row;
* `post_priced_at_bid` — as long as posts read the row while the winner's update
  is the later of the two, they carry the bid, and are priced at it.
-/
import LeadsNebula.FullpostSplit
import LeadsNebula.PingSale
import LeadsNebula.Qualification
import LeadsNebula.SaleRecord

namespace LeadsNebula

/-- `vertical_data` is an object. -/
def Lead.HasFields (r : Lead) : Prop := ∃ m, r.verticalData = .obj m

/-- The row carries bid `q` and the campaign that made it, and the lead is not being processed
any more. -/
structure Lead.Priced (q : ℚ) (c : Uuid) (r : Lead) : Prop where
  bid : BuyerRouter.pingBid r = some (.fin q)
  campaign : r.campaignId = some c
  closed : ¬ (r.status = .processing ∨ r.status = .test)

namespace LeadStatement

/-- The update that records the bid of a winner. -/
def recordsBid : LeadStatement → Bool
  | updateStandard u => (u.verticalData.bind fun vd => vd.get "winning_bid").isSome
  | _ => false

/-- The sale that `create_lead` records of its own: not conditional on a token. -/
def recordsOwnSale : LeadStatement → Bool
  | updateSold u => u.inprogToken.isNone
  | _ => false

/-- What a statement for a lead that was won with bid `q` does to its row. -/
structure Fits (q : ℚ) (c : Uuid) (st : LeadStatement) : Prop where
  fields : ∀ {now r}, r.HasFields → (st.setRow now r).HasFields
  inserted : ∀ {now cr}, st = insertLead cr → (cr.row now).HasFields
  records : st.recordsBid = true → ∀ {now r}, r.HasFields → (st.setRow now r).Priced q c
  keeps : st.recordsOwnSale = false → ∀ {now r}, r.HasFields → r.Priced q c →
    (st.setRow now r).Priced q c

end LeadStatement

/-- Of the two updates, that of the winner is the one that was applied last. -/
def Sys.bidRecorded (s : Sys) (l : Uuid) : Bool :=
  (s.history.find? fun st => st.leadId = l && (st.recordsBid || st.recordsOwnSale)).any
    LeadStatement.recordsBid

/-! ### The statements for a won lead -/

namespace LeadStatement

variable {q : ℚ} {c : Uuid}

theorem fits_insertLead {cr : LeadCreation} (h : cr.verticalData = .obj []) :
    (insertLead cr).Fits q c where
  fields hr := hr
  inserted heq := by
    rw [← insertLead.inj heq]
    exact ⟨[], h⟩
  records h := by cases h
  keeps _ _ _ _ hr := ⟨hr.bid, hr.campaign, hr.closed⟩

theorem fits_resetToken (l : Uuid) (token : String) : (resetToken l token).Fits q c where
  fields hr := hr
  inserted heq := by cases heq
  records h := by cases h
  keeps _ _ _ _ hr := ⟨hr.bid, hr.campaign, hr.closed⟩

theorem fits_setPost (l : Uuid) (postId : String) : (setPost l postId).Fits q c where
  fields hr := hr
  inserted heq := by cases heq
  records h := by cases h
  keeps _ _ _ _ hr := ⟨hr.bid, hr.campaign, by rintro (h | h) <;> cases h⟩

theorem fits_claim (l : Uuid) (promiseId token : String) : (claim l promiseId token).Fits q c where
  fields hr := hr
  inserted heq := by cases heq
  records h := by cases h
  keeps _ _ _ _ hr := ⟨hr.bid, hr.campaign, hr.closed⟩

/-- The winner's update. -/
theorem fits_winner {u : LeadUpdate} (hstatus : u.status = .pingAccepted)
    (hc : u.campaignId = some c)
    (hvd : u.verticalData = some (.obj [("winning_bid", .ofF64 (.fin q))])) :
    (updateStandard u).Fits q c := by
  have hrow : ∀ {now r}, r.HasFields → ((updateStandard u).setRow now r).Priced q c := by
    rintro now r ⟨m, hm⟩
    refine ⟨?_, ?_, ?_⟩
    · simp [BuyerRouter.pingBid, setRow, hvd, hm, Json.lookup_insertField]
    · simp [setRow, hc]
    · simp [setRow, hstatus]
  refine ⟨?_, ?_, fun _ _ _ hr => hrow hr, fun _ _ _ hr _ => hrow hr⟩
  · rintro now r ⟨m, hm⟩
    exact ⟨_, by simp [setRow, hvd, hm]; rfl⟩
  · intro now cr heq
    cases heq

/-- An update that stores other entries, such as the timing data of a request. -/
theorem fits_updateStandard {u : LeadUpdate} {m : List (String × Json)}
    (hstatus : u.status = .sold) (hc : u.campaignId = some c)
    (hvd : u.verticalData = some (.obj m)) (hm : "winning_bid" ∉ m.map Prod.fst) :
    (updateStandard u).Fits q c where
  fields := by
    rintro now r ⟨m', hm'⟩
    exact ⟨_, by simp [setRow, hvd, hm']; rfl⟩
  inserted heq := by cases heq
  records h := by
    have hnone : m.lookup "winning_bid" = none := by
      rw [List.lookup_eq_none_iff]
      intro p hp
      rw [bne_iff_ne]
      rintro heq
      exact hm (heq ▸ List.mem_map_of_mem hp)
    -- nothing else of an update is a sale of the lead's own
    simp [recordsBid, hvd, hnone] at h
  keeps := by
    rintro - now r ⟨m', hm'⟩ hr
    have hbid := hr.bid
    refine ⟨?_, ?_, ?_⟩
    · -- the entries of the update leave the bid as it is
      rw [BuyerRouter.pingBid, hm', Json.get_obj] at hbid
      simp only [BuyerRouter.pingBid, setRow, hvd, hm', Json.concat_obj, Json.get_obj,
        Json.lookup_mergeFields_of_not_mem hm]
      exact hbid
    · simp [setRow, hc]
    · simp [setRow, hstatus]

/-- A sale that `create_lead` records of its own. -/
theorem fits_ownSale {u : LeadUpdate} {m : List (String × Json)} (htoken : u.inprogToken = none)
    (hvd : u.verticalData = some (.obj m)) : (updateSold u).Fits q c where
  fields _ := ⟨m, by simp [setRow, hvd]⟩
  inserted heq := by cases heq
  records h := by cases h
  keeps h := by simp [recordsOwnSale, htoken] at h

/-- The sale of a post: it stores what the post has read, and the bid with it. -/
theorem fits_postSale {u : LeadUpdate} {m : List (String × Json)} (hstatus : u.status = .sold)
    (hc : u.campaignId = some c) (hvd : u.verticalData = some (.obj m))
    (hbid : (m.lookup "winning_bid").bind Json.asF64 = some (.fin q)) :
    (updateSold u).Fits q c where
  fields _ := ⟨m, by simp [setRow, hvd]⟩
  inserted heq := by cases heq
  records h := by cases h
  keeps _ _ _ _ _ := by
    refine ⟨?_, ?_, ?_⟩
    · simp only [BuyerRouter.pingBid, setRow, hvd, Option.getD_some, Json.get_obj]
      exact hbid
    · simp [setRow, hc]
    · simp [setRow, hstatus]

end LeadStatement

/-! ### The statements of the requests -/

section Requests

variable [StdText] {q : ℚ}

open LeadStatement PingTreeRouter

/-- Every statement of a ping that is won with bid `q`. -/
theorem createEffects_fits {req : LeadRequest} (hping : req.requestType = .ping) {new : NewLead}
    {now : Timestamp} {env : RouteEnv} {timing : AuctionTiming} {winner : BuyerResponse}
    {c : Campaign} (hwin : (req.router new now).auctionWinner env = some (winner, c))
    (hbid : winningBid winner = some (.fin q)) (hpos : 0 < q) {e : Effect}
    (he : e ∈ req.createEffects new now env timing) {st : LeadStatement}
    (hst : st ∈ e.statements) : st.Fits q c.id := by
  rcases route_ping_cases (router_requestType hping new now) env with
    ⟨winner', c', audit, timings, hwin', hvalid, haudit, h⟩ | ⟨hnone, -⟩
  · rw [hwin] at hwin'
    obtain ⟨rfl, rfl⟩ := Prod.mk.inj (Option.some_inj.mp hwin')
    simp only [LeadRequest.createEffects, h, List.cons_append, List.mem_cons, List.mem_append,
      List.append_assoc, List.nil_append] at he
    rcases he with rfl | he | rfl | he
    · rw [List.mem_singleton.mp hst]
      exact fits_insertLead rfl
    · obtain ⟨t, rfl⟩ := haudit e he
      cases hst
    · have hst' : st ∈ ((req.router new now).winnerUpdate winner c).statements := hst
      rw [LeadUpdate.statements_of_not_sold (u := winnerUpdate ..) LeadStatus.noConfusion rfl,
        List.mem_singleton] at hst'
      subst hst'
      refine fits_winner rfl rfl ?_
      simp [winnerUpdate, hbid]
    · -- the synchronous ping is taken for a sale
      have hsold : finalStatus (winnerResult winner c timings) = .sold := by
        rw [finalStatus_winnerResult (success_of_validPing hvalid), hbid]
        simp [hpos]
      have hown : ∀ {st : LeadStatement},
          st ∈ (req.finalUpdate new timing (winnerResult winner c timings)).statements →
          st.Fits q c.id := by
        intro st hst
        simp only [LeadUpdate.statements, LeadRequest.finalUpdate, LeadUpdate.shouldUpdateAsSold,
          hsold, decide_true, Bool.and_self, Bool.true_or, if_true, List.mem_append,
          List.mem_singleton] at hst
        rcases hst with rfl | rfl
        · exact fits_ownSale rfl rfl
        · exact fits_updateStandard rfl rfl rfl
            (by simp [LeadRequest.auctionTimingData, timingData])
      rw [LeadRequest.afterRouting.eq_def] at he
      split at he
      · cases he
      · simp only [LeadRequest.recordResult, LeadRequest.payloadTasks, hping, hsold, if_true,
          List.mem_append, List.mem_singleton] at he
        rcases he with (he | rfl) | rfl
        · simp at he
        · rw [List.mem_singleton.mp hst]
          exact fits_ownSale rfl rfl
        · exact hown hst
  · rw [hwin] at hnone
    cases hnone

/-- Every statement of a post on a copy that carries the bid. -/
theorem postEffects_fits {req : LeadRequest} {lead : Lead} {token : String} {now : Timestamp}
    {env : RouteEnv} {timing : AuctionTiming} {c : Uuid} (hlead : lead.Priced q c) {e : Effect}
    (he : e ∈ req.postEffects lead token now env timing) {st : LeadStatement}
    (hst : st ∈ e.statements) : st.Fits q c := by
  have hout := req.postOutcome lead token now env timing
  revert hout he
  generalize ((req.postRouter lead).route env).result = result,
    req.postEffects lead token now env timing = effects
  intro he hout
  cases hout with
  | failed e' hfail => cases he
  | @sale c' b r postId audit payload hmem hid hb hacc hpost hsale hrpost hprice hcamp hbuyer =>
    simp only [List.mem_cons, List.not_mem_nil, or_false] at he
    rcases he with rfl | rfl | rfl | rfl
    · cases hst
    · rw [List.mem_singleton.mp hst]
      exact fits_setPost _ _
    · cases hst
    · have hst' : st ∈ (req.postUpdate lead token now timing r).statements := hst
      rw [postUpdate_statements req lead token now timing hsale, List.mem_cons,
        List.mem_singleton] at hst'
      rcases hst' with rfl | rfl
      · -- the post goes to the campaign of the lead
        have hc : c'.id = c := by
          rw [hlead.campaign, Option.all_some, decide_eq_true_iff] at hid
          exact hid.symm
        have hbid := hlead.bid
        rw [BuyerRouter.pingBid] at hbid
        cases hvd : lead.verticalData with
        | obj m =>
          rw [hvd, Json.get_obj] at hbid
          refine fits_postSale (m := Json.mergeFields m (req.postTimingData lead now timing r))
            ?_ ?_ ?_ ?_
          · simp [LeadRequest.postUpdate, hsale]
          · simp [LeadRequest.postUpdate, hsale, hcamp, hc]
          · simp [LeadRequest.postUpdate, hsale, LeadRequest.postVerticalData, hvd]
          · rw [Json.lookup_mergeFields_of_not_mem]
            · exact hbid
            · simp [LeadRequest.postTimingData, timingData]
        | _ =>
          rw [hvd] at hbid
          cases hbid
      · exact fits_resetToken _ _
  | @noSale r before payload hsale hbefore =>
    simp only [List.mem_append, List.mem_cons, List.not_mem_nil, or_false] at he
    rcases he with he | rfl | rfl
    · rcases hbefore e he with ⟨t, rfl⟩ | ⟨status, vd, rfl, hopen⟩
      · cases hst
      · exact absurd hopen hlead.closed
    · cases hst
    · have hst' : st ∈ (req.postUpdate lead token now timing r).statements := hst
      rw [postUpdate_statements_of_no_sale req lead token now timing hsale,
        List.mem_singleton] at hst'
      rw [hst']
      exact fits_resetToken _ _

/-- A post on a copy that carries the bid is priced at it, if Pulsar answers its campaign. -/
theorem sale_price {req : LeadRequest} {lead : Lead} {env : RouteEnv} {c : Uuid}
    (hlead : lead.Priced q c)
    (hpulsar : ∀ c' ∈ env.campaignsWithAssociations.map Prod.fst, c'.id = c →
      CallsPulsar env.directory c') {res : RoutingResult}
    (hres : ((req.postRouter lead).route env).result = .ok res)
    (hsale : LeadRequest.isSale res = true) : res.price = some (.fin q) := by
  rcases route_post_cases (r := req.postRouter lead) rfl env with
    ⟨e, h, -⟩ | ⟨err, res', h, hfail⟩ | ⟨c', b, hmem, hid, hb, h⟩
  · -- the sale can only come from an accepted answer
    rw [h] at hres
    cases hres
  · rw [h] at hres
    rw [← Except.ok.inj hres, LeadRequest.isSale, hfail] at hsale
    cases hsale
  · have hc : c'.id = c := by
      rw [show (req.postRouter lead).lead.campaignId = some c from hlead.campaign,
        Option.all_some, decide_eq_true_iff] at hid
      exact hid.symm
    -- Pulsar answers a post at the bid of its ping
    have hprice : b.price = some (.fin q) := by
      rw [postResponse_price (hpulsar c' hmem hc) hb]
      rw [show BuyerRouter.pingBid (req.postRouter lead).lead = some (.fin q) from hlead.bid]
      rfl
    obtain ⟨res', hres', -, -, hprice', -⟩ := (req.postRouter lead).postAnswered_result env c' b
    rw [h, hres'] at hres
    rw [← Except.ok.inj hres, hprice', hprice]

end Requests

/-! ### The invariant -/

/-- The lead whose row the action reads. -/
def Action.reads : Action → Option Uuid
  | .read _ source => source.lead
  | _ => none

/-- A post reads the row of the lead only while the winner's update is the later one. -/
def ReadsBid (l : Uuid) (s : Sys) (a : Action) : Prop := a.reads = some l → s.bidRecorded l = true

instance (l : Uuid) (s : Sys) (a : Action) : Decidable (ReadsBid l s a) :=
  inferInstanceAs (Decidable (_ → _))

/-- The campaign is still one of Pulsar's when a post is routed. -/
def Action.KeepsPulsar (c : Uuid) : Action → Prop
  | .route _ env _ => ∀ c' ∈ env.campaignsWithAssociations.map Prod.fst, c'.id = c →
      PingTreeRouter.CallsPulsar env.directory c'
  | _ => True

/-- Every copy of the lead carries the bid, and every post on it that is sold is priced at it. -/
structure Sys.PricedAt (q : ℚ) (l : Uuid) (s : Sys) : Prop where
  copies : ∀ lead, s.Copy lead → lead.uuid = l → BuyerRouter.pingBid lead = some (.fin q)
  posts : ∀ th ∈ s.threads, ∀ p res, th.stage = .routed p (.ok res) → p.lead.uuid = l →
    LeadRequest.isSale res = true → res.price = some (.fin q)

/-- What keeps `PricedAt`. -/
structure PriceInv (q : ℚ) (c l : Uuid) (s : Sys) : Prop where
  known : l ∈ s.uuids
  pending : ∀ st, s.Pending st → st.leadId = l → st.Fits q c
  fields : ∀ r, s.leads.find l = some r → r.HasFields
  row : s.bidRecorded l = true → ∃ r, s.leads.find l = some r ∧ r.Priced q c
  copies : ∀ lead, s.Copy lead → lead.uuid = l → lead.Priced q c
  posts : ∀ th ∈ s.threads, ∀ p res, th.stage = .routed p (.ok res) → p.lead.uuid = l →
    LeadRequest.isSale res = true → res.price = some (.fin q)

section Run

variable [StdText] {s s' : Sys} {a : Action} {q : ℚ} {c l : Uuid}

omit [StdText] in
theorem bidRecorded_of_history {st : LeadStatement} (h : s'.history = st :: s.history) :
    s'.bidRecorded l =
      if st.leadId = l ∧ (st.recordsBid = true ∨ st.recordsOwnSale = true) then st.recordsBid
      else s.bidRecorded l := by
  rw [Sys.bidRecorded, h, List.find?_cons]
  by_cases hst : st.leadId = l ∧ (st.recordsBid = true ∨ st.recordsOwnSale = true)
  · have hmatch : (st.leadId = l && (st.recordsBid || st.recordsOwnSale)) = true := by
      simpa using hst
    rw [if_pos hst, hmatch]
    rfl
  · have hmatch : (st.leadId = l && (st.recordsBid || st.recordsOwnSale)) = false := by
      simpa using hst
    rw [if_neg hst, hmatch]
    rfl

omit [StdText] in
theorem fits_of_executed (hinv : PriceInv q c l s) {st : LeadStatement}
    (hex : s.executed a = some st) (hl : st.leadId = l) : st.Fits q c := by
  have hpending : s.Pending st ∨ _ := pending_of_executed hex
  rcases hpending with hp | hp | ⟨-, _, _, _, rfl⟩
  · exact hinv.pending st hp hl
  · cases hp
  · exact LeadStatement.fits_claim _ _ _

/-- The row of the lead after a statement for it. -/
theorem fields_step (hinv : PriceInv q c l s) (h : Step s a s') :
    ∀ r, s'.leads.find l = some r → r.HasFields := by
  intro r hr
  rcases step_exec h with ⟨-, hleads, -⟩ | ⟨st, hex, hleads, -⟩
  · exact hinv.fields r (hleads ▸ hr)
  · rw [hleads] at hr
    by_cases hl : st.leadId = l
    · -- a statement for the lead: what it writes, or inserts, has the fields
      have hfits := fits_of_executed hinv hex hl
      have happly : ∀ {r₀ : Lead}, r₀.HasFields → (st.applyRow s.now r₀).HasFields := by
        intro r₀ hr₀
        rw [LeadStatement.applyRow]
        split
        · exact hfits.fields hr₀
        · exact hr₀
      rcases LeadStatement.find_exec s.now st s.leads l with hx | ⟨cr, rfl, hx⟩
      · rw [hx] at hr
        obtain ⟨r₀, hr₀, rfl⟩ := Option.map_eq_some_iff.mp hr
        exact happly (hinv.fields r₀ hr₀)
      · rw [hx] at hr
        rcases Option.or_eq_some_iff.mp hr with hr | ⟨-, hr⟩
        · exact hinv.fields r hr
        · have hl : cr.uuid = l := hl
          rw [if_pos hl, Option.some_inj] at hr
          exact hr ▸ hfits.inserted rfl
    · -- a statement for another lead
      have hsame : ((st.exec s.now s.leads).find l).map Lead.sale = _ :=
        LeadStatement.sale_exec_of_ne hl
      rw [hr, Option.map_some] at hsame
      obtain ⟨r₀, hr₀, hsale⟩ := Option.map_eq_some_iff.mp hsame.symm
      obtain ⟨m, hm⟩ := hinv.fields r₀ hr₀
      exact ⟨m, (congrArg Sale.verticalData hsale).symm.trans hm⟩

omit [StdText] in
/-- A statement keeps the bid of a row, unless it is a sale that `create_lead` records of its
own for the lead. -/
theorem priced_exec (hinv : PriceInv q c l s) {st : LeadStatement}
    (hex : s.executed a = some st) (hown : ¬ (st.leadId = l ∧ st.recordsOwnSale = true)) {r : Lead}
    (hr : s.leads.find l = some r) (hpriced : r.Priced q c) :
    ∃ r', (st.exec s.now s.leads).find l = some r' ∧ r'.Priced q c := by
  -- a statement for this lead that records no sale of its own keeps the price
  by_cases hl : st.leadId = l
  · have hown : st.recordsOwnSale = false := by
      rw [not_and, Bool.not_eq_true] at hown
      exact hown hl
    have hkeeps : (st.setRow s.now r).Priced q c :=
      (fits_of_executed hinv hex hl).keeps hown (hinv.fields r hr) hpriced
    rcases LeadStatement.find_exec_of_find hr s.now st with hx | ⟨-, hx⟩
    · refine ⟨_, hx, ?_⟩
      rw [LeadStatement.applyRow]
      split
      · exact hkeeps
      · exact hpriced
    · exact ⟨r, hx, hpriced⟩
  · -- a statement for another lead
    have hsame : ((st.exec s.now s.leads).find l).map Lead.sale = _ :=
      LeadStatement.sale_exec_of_ne hl
    rw [hr, Option.map_some] at hsame
    obtain ⟨r', hr', hsale⟩ := Option.map_eq_some_iff.mp hsame
    have hvd : r'.verticalData = r.verticalData := congrArg Sale.verticalData hsale
    refine ⟨r', hr', ?_, (congrArg Sale.campaignId hsale).trans hpriced.campaign, ?_⟩
    · rw [BuyerRouter.pingBid, hvd]
      exact hpriced.bid
    · rw [show r'.status = r.status from congrArg Sale.status hsale]
      exact hpriced.closed

theorem row_step (hinv : PriceInv q c l s) (h : Step s a s') (hrec : s'.bidRecorded l = true) :
    ∃ r, s'.leads.find l = some r ∧ r.Priced q c := by
  rcases step_exec h with ⟨-, hleads, hhist⟩ | ⟨st, hex, hleads, hhist⟩
  · rw [Sys.bidRecorded, hhist] at hrec
    rw [hleads]
    exact hinv.row hrec
  · rw [hleads]
    by_cases haff : st.affects s.now s.leads = true
    · rw [if_pos haff] at hhist
      rw [bidRecorded_of_history hhist] at hrec
      split at hrec
      · -- the winner's update runs
        next hst =>
        have hup : st.IsUpdate := by
          cases st with
          | insertLead cr => cases hrec
          | _ => trivial
        obtain ⟨r, hr, hm⟩ := LeadStatement.find_of_affects hup haff
        rw [hst.1] at hr
        refine ⟨st.setRow s.now r, ?_,
          (fits_of_executed hinv hex hst.1).records hrec (hinv.fields r hr)⟩
        rw [LeadStatement.find_exec_of_isUpdate hup, hr, Option.map_some, LeadStatement.applyRow,
          if_pos hm]
      · next hst =>
        obtain ⟨r, hr, hpriced⟩ := hinv.row hrec
        exact priced_exec hinv hex (fun hown => hst ⟨hown.1, Or.inr hown.2⟩) hr hpriced
    · -- a statement that changes no row
      rw [if_neg haff] at hhist
      rw [Sys.bidRecorded, hhist] at hrec
      obtain ⟨r, hr, hpriced⟩ := hinv.row hrec
      by_cases hup : st.IsUpdate
      · refine ⟨r, ?_, hpriced⟩
        have hno : st.matchesRow s.now r = false := by
          rw [Bool.eq_false_iff]
          intro hm
          exact haff (List.any_eq_true.mpr ⟨r, (Table.find_eq_some_iff.mp hr).1, hm⟩)
        rw [LeadStatement.find_exec_of_isUpdate hup, hr, Option.map_some, LeadStatement.applyRow,
          hno]
        rfl
      · refine priced_exec hinv hex ?_ hr hpriced
        rintro ⟨-, hown⟩
        cases st with
        | updateSold u => exact hup trivial
        | _ => cases hown

theorem copies_step (hinv : PriceInv q c l s) (hreads : ReadsBid l s a) (h : Step s a s') :
    ∀ lead, s'.Copy lead → lead.uuid = l → lead.Priced q c := by
  intro lead hc hl
  rcases step_copy h hc with hc | ⟨⟨i, source, rfl, hsource⟩, hrow⟩
  · exact hinv.copies lead hc hl
  · rw [hl] at hsource hrow
    obtain ⟨r, hr, hpriced⟩ := hinv.row (hreads hsource)
    rw [hrow, Option.some_inj] at hr
    exact hr ▸ hpriced

theorem posts_step (hinv : PriceInv q c l s) (hpulsar : a.KeepsPulsar c) (h : Step s a s') :
    ∀ th ∈ s'.threads, ∀ p res, th.stage = .routed p (.ok res) → p.lead.uuid = l →
      LeadRequest.isSale res = true → res.price = some (.fin q) := by
  intro th hth p res hstage hl hsale
  cases step_threads h hth with
  | effect hold hsub => exact hinv.posts _ hold p res hstage hl hsale
  | routed ha hi =>
    obtain ⟨rfl, hres⟩ := Stage.routed.inj hstage
    subst ha
    exact sale_price (hinv.copies _ (.post (List.mem_of_getElem? hi) rfl) hl) hpulsar hres hsale
  | _ => cases hstage

theorem pending_fits_step (hinv : PriceInv q c l s) (h : Step s a s') :
    ∀ st, s'.Pending st → st.leadId = l → st.Fits q c := by
  intro st hst hl
  rcases step_pending h hst with hst | ⟨e, he, hmem⟩
  · exact hinv.pending st hst hl
  · cases h with
    | submit htype hnew =>
      -- a new lead is another one
      rw [(LeadRequest.onLead_createEffects he st hmem).1] at hl
      exact absurd hinv.known (hl ▸ hnew)
    | route hi =>
      simp only [Sys.newEffects, hi] at he
      rw [(LeadRequest.postEffects_statements he hmem).1] at hl
      exact postEffects_fits (hinv.copies _ (.post (List.mem_of_getElem? hi) rfl) hl) he hmem
    | _ => cases he

theorem priceInv_step (hinv : PriceInv q c l s) (hreads : ReadsBid l s a)
    (hpulsar : a.KeepsPulsar c) (h : step s a = some s') : PriceInv q c l s' := by
  have h := step_cases h
  exact ⟨step_uuids h hinv.known, pending_fits_step hinv h, fields_step hinv h, row_step hinv h,
    copies_step hinv hreads h, posts_step hinv hpulsar h⟩

/-- A ping has the winner that Pulsar's answer makes it: the bid is the one it drew. -/
theorem internal_winner {req : LeadRequest} (hping : req.requestType = .ping) {new : NewLead}
    {now : Timestamp} {env : RouteEnv} {winner : BuyerResponse} {campaign : Campaign}
    (hwin : (req.router new now).auctionWinner env = some (winner, campaign))
    {integration : BuyerIntegration}
    (hint : ((req.router new now).pingRouter env campaign).getBuyerIntegration env.directory
      campaign = .ok integration) (hinternal : integration.isInternal = true) :
    winner = PulsarService.acceptedPing (req.newLead new now)
      (env.pingTask campaign.id).call.draw := by
  obtain ⟨hvalid, hresponse⟩ := PingTreeRouter.auctionWinner_response hwin
  rcases pingResponse_internal hping new now hint hinternal with h | ⟨h, -⟩
  · rw [hresponse, h]
  · rw [← hresponse, success_of_validPing hvalid] at h
    cases h

/-- Nothing is known of the lead before its ping is submitted, and the ping only fits its bid. -/
theorem priceInv_submit {s₁ : Sys} {req : LeadRequest} {new : NewLead} {env : RouteEnv}
    {timing : AuctionTiming} {winner : BuyerResponse} {campaign : Campaign} (hknown : Known s)
    (hping : req.requestType = .ping) (hsubmit : step s (.submit req new env timing) = some s₁)
    (hwin : (req.router new s.now).auctionWinner env = some (winner, campaign))
    (hbid : PingTreeRouter.winningBid winner = some (.fin q)) (hpos : 0 < q) :
    PriceInv q campaign.id new.uuid s₁ := by
  obtain ⟨-, -, -, hnone, -⟩ := submit_line hknown hsubmit
  have hstep := step_cases hsubmit
  -- the identifier is new, so neither the queue nor any copy names the lead
  have hfresh : new.uuid ∉ s.uuids := by
    cases hstep with
    | submit htype hnew => exact hnew
  have hhist : s₁.history = s.history := by
    cases hstep with
    | submit htype hnew => rfl
  refine ⟨?_, ?_, ?_, ?_, ?_, ?_⟩
  · cases hstep with
    | submit htype hnew => exact List.mem_cons_self
  · intro st hst hl
    rcases step_pending hstep hst with hold | ⟨e, he, hmem⟩
    · exact absurd (hl ▸ hknown.pending st hold) hfresh
    · -- what the ping has queued carries the winning bid
      exact createEffects_fits hping hwin hbid hpos he hmem
  · intro r hr
    rw [hnone] at hr
    cases hr
  · -- an earlier record would be of a known lead
    intro hrec
    obtain ⟨st, hst, -⟩ := (Option.any_eq_true _ _).mp hrec
    have hl := List.find?_some hst
    rw [Bool.and_eq_true, decide_eq_true_iff] at hl
    have hmem : st ∈ s.history := hhist ▸ List.mem_of_find?_eq_some hst
    exact absurd (hl.1 ▸ hknown.history st hmem) hfresh
  · intro lead hc hl
    rcases step_copy hstep hc with hc | ⟨⟨i, source, ha, -⟩, -⟩
    · exact absurd (hl ▸ hknown.copies lead hc) hfresh
    · cases ha
  · intro th hth p res hstage hl hsale
    cases step_threads hstep hth with
    | effect hold hsub =>
      have hc : s.Copy p.lead := .post hold (by rw [show _ = _ from hstage]; rfl)
      exact absurd (hl ▸ hknown.copies _ hc) hfresh
    | routed ha hi => cases ha
    | _ => cases hstage

/-- Every post on a lead whose ping an internal campaign won is priced at its bid, in every run
in which posts read the row while the winner's update is the later one. -/
theorem post_priced_at_bid {before : List Action} {s s₁ : Sys} {req : LeadRequest}
    {new : NewLead} {env : RouteEnv} {timing : AuctionTiming} {winner : BuyerResponse}
    {campaign : Campaign} {integration : BuyerIntegration}
    (hreach : Transition.run step Sys.init before = some s) (hping : req.requestType = .ping)
    (hsubmit : step s (.submit req new env timing) = some s₁)
    (hwin : (req.router new s.now).auctionWinner env = some (winner, campaign))
    (hint : ((req.router new s.now).pingRouter env campaign).getBuyerIntegration env.directory
      campaign = .ok integration) (hinternal : integration.isInternal = true) :
    ∃ q, winner.bid = some (.fin q) ∧ ∀ actions s',
      Transition.Along step (fun s a => ReadsBid new.uuid s a ∧ a.KeepsPulsar campaign.id) s₁
        actions → Transition.run step s₁ actions = some s' → s'.PricedAt q new.uuid := by
  -- the bid of an internal campaign is drawn, and it is never zero
  have hwinner := internal_winner hping hwin hint hinternal
  set draw := (env.pingTask campaign.id).call.draw with hdraw
  refine ⟨((draw.bid.toNat % 200 + 100 : ℕ) : ℚ), by rw [hwinner]; rfl, ?_⟩
  intro actions s' halong hrun
  have hbid : PingTreeRouter.winningBid winner =
      some (.fin ((draw.bid.toNat % 200 + 100 : ℕ) : ℚ)) := by
    rw [hwinner]
    rfl
  have hpos : (0 : ℚ) < ((draw.bid.toNat % 200 + 100 : ℕ) : ℚ) := Nat.cast_pos.mpr (by omega)
  have hinv₁ := priceInv_submit (known_run hreach) hping hsubmit hwin hbid hpos
  have hinv := Transition.inv_of_run
    (fun hs hp h => priceInv_step hs hp.1 hp.2 h) hinv₁ halong hrun
  exact ⟨fun lead hc hl => (hinv.copies lead hc hl).bid, hinv.posts⟩

end Run

/-! ### The price of a post -/

open Sample

/-- What a request that was routed and sold was priced at. -/
def Thread.salePrice : Thread → Option F64
  | ⟨.routed _ (.ok res), _⟩ => if LeadRequest.isSale res then res.price else none
  | _ => none

/-- The tasks of a synchronous ping have all been applied when the post comes. -/
def syncPostRun : List Action := syncPingRun ++ postRun 1 100

/-- The ping is won with a bid of 150, and the post is priced at 160. -/
theorem sync_ping_loses_bid :
    ∃ s₁ s th, step Sys.init (.submit (ping false) new env timing) = some s₁ ∧
      (((ping false).router new Sys.init.now).auctionWinner env).any
        (fun w => w.1.bid = some (.fin 150) ∧ w.2 = campaign) = true ∧
      Transition.run step s₁ syncPostRun = some s ∧ s.threads[1]? = some th ∧
      th.stage.lead.map Lead.uuid = some 7 ∧ th.salePrice = some (.fin 160) := by
  have h : (step Sys.init (.submit (ping false) new env timing)).any (fun s₁ =>
      (Transition.run step s₁ syncPostRun).any fun s => (s.threads[1]?).any fun th =>
        decide (th.stage.lead.map Lead.uuid = some 7 ∧ th.salePrice = some (.fin 160))) = true := by
    decide +kernel
  obtain ⟨s₁, hs₁, h⟩ := (Option.any_eq_true _ _).mp h
  obtain ⟨s, hs, h⟩ := (Option.any_eq_true _ _).mp h
  obtain ⟨th, hth, h⟩ := (Option.any_eq_true _ _).mp h
  obtain ⟨hlead, hprice⟩ := of_decide_eq_true h
  exact ⟨s₁, s, th, hs₁, by decide +kernel, hs, hth, hlead, hprice⟩

/-- After an asynchronous ping the post is priced at the bid. -/
theorem post_priced_at_bid_async :
    ∃ s₁ s, step Sys.init (.submit (ping true) new env timing) = some s₁ ∧
      Transition.run step s₁ (asyncPingRun ++ postRun 1 100) = some s ∧ s.PricedAt 150 7 ∧
      (s.threads[1]?).any (fun th => th.salePrice = some (.fin 150)) = true := by
  have h : (step Sys.init (.submit (ping true) new env timing)).any (fun s₁ =>
      decide (Transition.Along step (ReadsBid 7) s₁ (asyncPingRun ++ postRun 1 100)) &&
      (Transition.run step s₁ (asyncPingRun ++ postRun 1 100)).any fun s =>
        (s.threads[1]?).any fun th => th.salePrice = some (.fin 150)) = true := by
    decide +kernel
  obtain ⟨s₁, hs₁, h⟩ := (Option.any_eq_true _ _).mp h
  rw [Bool.and_eq_true, decide_eq_true_iff] at h
  obtain ⟨hreads, h⟩ := h
  obtain ⟨s, hs, hprice⟩ := (Option.any_eq_true _ _).mp h
  -- the run keeps the internal buyer and its answers
  have hpulsar : ∀ a ∈ asyncPingRun ++ postRun 1 100, a.KeepsPulsar 10 := by
    simp only [asyncPingRun, postRun, List.cons_append, List.nil_append, List.forall_mem_cons,
      Action.KeepsPulsar, List.not_mem_nil, false_imp_iff, implies_true, and_true, true_and]
    exact fun c _ _ lead => ⟨pulsar, rfl, by decide⟩
  have hwin : ((ping true).router new Sys.init.now).auctionWinner env =
      some (PulsarService.acceptedPing ((ping true).newLead new 0) draw, campaign) := by
    decide +kernel
  have hint : (((ping true).router new Sys.init.now).pingRouter env campaign).getBuyerIntegration
      env.directory campaign = .ok pulsar := rfl
  -- the bid is guaranteed, and it is 150
  obtain ⟨q, hq, hrun⟩ := post_priced_at_bid (Transition.run_nil Sys.init) (by decide) hs₁
    hwin hint rfl
  obtain rfl : 150 = q := by
    have h150 : (PulsarService.acceptedPing ((ping true).newLead new 0) draw).bid =
        some (.fin 150) := by
      decide
    rw [h150, Option.some_inj] at hq
    exact F64.fin.inj hq
  exact ⟨s₁, s, hs₁, hs, hrun _ _ (Transition.along_and hreads hpulsar) hs, hprice⟩

end LeadsNebula
