/-
What is recorded of a sold post.

Two writers persist the sale of a post.  The router sets `post_id` and the
status itself (`update_lead_with_post`); `create_lead` then enqueues an update
with the campaign, the buyer, `sold_at` and the timing data, conditional on the
in-progress token.  The first write takes the token out of the row, so the
second one does not match any more.

* `recorded_iff` — if no other request touches the lead, the row of a sold
  post ends up complete exactly when it had all that the second write brings
  before the post came.
-/
import LeadsNebula.Outcome

namespace LeadsNebula

/-- The row has what a sale brings beside the status and the `post_id`: `sold_at`, the campaign
and the buyer of the result, and the entries of the post. -/
structure Lead.HasSaleData (r : Lead) (res : RoutingResult) (entries : List (String × Json)) :
    Prop where
  soldAt : r.soldAt.isSome = true
  campaignId : r.campaignId = res.campaignId
  buyerId : r.buyerId = res.buyerId
  verticalData : ∀ kv ∈ entries, r.verticalData.get kv.1 = some kv.2

/-- The row records the sale. -/
structure Lead.Records (r : Lead) (res : RoutingResult) (entries : List (String × Json)) :
    Prop where
  status : r.status = .sold
  postId : r.postId = res.postId
  data : r.HasSaleData res entries

theorem Lead.hasSaleData_congr {r r₀ : Lead} {res : RoutingResult} {entries : List (String × Json)}
    (hsold : r.soldAt.isSome = r₀.soldAt.isSome) (hc : r.campaignId = r₀.campaignId)
    (hb : r.buyerId = r₀.buyerId) (hvd : r.verticalData = r₀.verticalData) :
    r.HasSaleData res entries ↔ r₀.HasSaleData res entries := by
  constructor
  · rintro ⟨h₁, h₂, h₃, h₄⟩
    exact ⟨hsold ▸ h₁, hc ▸ h₂, hb ▸ h₃, hvd ▸ h₄⟩
  · rintro ⟨h₁, h₂, h₃, h₄⟩
    exact ⟨hsold ▸ h₁, hc ▸ h₂, hb ▸ h₃, hvd ▸ h₄⟩

section Step

variable [StdText] {s s' : Sys} {a : Action} {i : ℕ} {l : Uuid}

/-! ### The two writes of a sale -/

omit [StdText] in
/-- The queued update of a sale: the sale if the row holds the token, then the release. -/
theorem postUpdate_statements (req : LeadRequest) (lead : Lead) (token : String) (now : Timestamp)
    (timing : AuctionTiming) {res : RoutingResult} (hsale : LeadRequest.isSale res = true) :
    (req.postUpdate lead token now timing res).statements =
      [.updateSold (req.postUpdate lead token now timing res),
        .resetToken lead.uuid token] := by
  have hsold : (req.postUpdate lead token now timing res).shouldUpdateAsSold = true := by
    rw [LeadRequest.postUpdate, if_pos hsale]
    rfl
  rw [LeadUpdate.statements, if_pos hsold, LeadRequest.postUpdate_inprogToken,
    LeadRequest.postUpdate_leadId]
  rfl

omit [StdText] in
/-- The queued update of a post without a sale only releases the claim. -/
theorem postUpdate_statements_of_no_sale (req : LeadRequest) (lead : Lead) (token : String)
    (now : Timestamp) (timing : AuctionTiming) {res : RoutingResult}
    (hsale : LeadRequest.isSale res = false) :
    (req.postUpdate lead token now timing res).statements = [.resetToken lead.uuid token] := by
  have hsold : (req.postUpdate lead token now timing res).shouldUpdateAsSold = false := by
    simp [LeadRequest.postUpdate, hsale, LeadUpdate.shouldUpdateAsSold]
  rw [LeadUpdate.statements, hsold, LeadRequest.postUpdate_inprogToken,
    LeadRequest.postUpdate_leadId]
  rfl

omit [StdText] in
/-- Once the router has written the `post_id` of the buyer, the queued update finds no token, and
only the status and the `post_id` have changed; a buyer that answers with the token itself has
its `post_id` erased. -/
theorem sale_of_two_writes (req : LeadRequest) (lead : Lead) (token : String) (now : Timestamp)
    (timing : AuctionTiming) {res : RoutingResult} {postId : String}
    (hpost : res.postId = some postId) (hsale : LeadRequest.isSale res = true) (v : Sale) :
    ∃ v', [.setPost lead.uuid postId, .updateSold (req.postUpdate lead token now timing res),
        .resetToken lead.uuid token].foldl (fun v st => LeadStatement.onSale st v) (some v) =
          some v' ∧
      (postId ≠ token → v' = { v with status := .sold, postId := some postId }) ∧
      (postId = token → v'.postId = some "") := by
  by_cases hne : postId = token
  · refine ⟨_, rfl, fun h => absurd hne h, fun _ => ?_⟩
    have hbound : (req.postUpdate lead token now timing res).postId = some token := by
      rw [LeadRequest.postUpdate, if_pos hsale, ← hne]
      exact hpost
    simp [LeadStatement.applySale, LeadStatement.setSale, LeadStatement.token,
      LeadRequest.postUpdate_inprogToken, hbound, hne]
  · refine ⟨_, rfl, fun _ => ?_, fun h => absurd h hne⟩
    simp [LeadStatement.applySale, LeadStatement.setSale, LeadStatement.token,
      LeadRequest.postUpdate_inprogToken, hne]

/-! ### The run -/

/-- The statements of request `i` for lead `l` are updates that run in order, and end in `v`. -/
structure SaleInv (i : ℕ) (l : Uuid) (v : Option Sale) (s : Sys) : Prop where
  outcome : OutcomeInv i l v s
  inLine : s.InLine i l
  updates : ∀ st ∈ s.line i l, st.IsUpdate

theorem saleInv_step {v : Option Sale} (hinv : SaleInv i l v s) (hun : Undisturbed l s a)
    (h : step s a = some s') : SaleInv i l v s' := by
  have h := step_cases h
  obtain ⟨halone, hsteady, -⟩ := hinv.outcome
  have hturn := hinv.inLine.inTurn a
  have hline := line_step h halone hun.1 hturn hun.2 hsteady.1
  have hins : s.Inserts l a := by
    intro st hst hl hnot
    rcases hline with ⟨-, hother⟩ | ⟨st', hex, -, hline⟩
    · exact absurd hl (hother st hst)
    · rw [Option.mem_def, hex, Option.some_inj] at hst
      exact absurd (hinv.updates st (hst ▸ hline ▸ List.mem_cons_self)) hnot
  refine ⟨outcomeInv_step hinv.outcome h hun hturn hins,
    inLine_step h halone hun.1 hun.2 hsteady.1 hinv.inLine, ?_⟩
  rcases hline with ⟨hline, -⟩ | ⟨st, -, -, hline⟩
  · rw [hline]
    exact hinv.updates
  · intro st' hst'
    exact hinv.updates st' (hline ▸ List.mem_cons_of_mem _ hst')

omit [StdText] in
/-- What waits after a sale: the router's statement, then those of the update. -/
theorem line_sale {postId : String} {audit : BuyerResponseTask} {payload : PayloadUpdate}
    {update : LeadUpdate} (hfront : s.front l = [])
    (htodo : s.todo i = [.enqueue (.buyerResponse audit), .exec (.setPost l postId),
      .enqueue (.payloadUpdate payload), .enqueue (.leadUpdate update)]) :
    s.line i l = onLead l (.setPost l postId :: update.statements) := by
  rw [Sys.line, hfront, htodo]
  show onLead l (.setPost l postId :: (update.statements ++ [])) = _
  rw [List.append_nil]

omit [StdText] in
/-- The router's statement comes after an audit record only. -/
theorem inLine_sale {postId : String} {audit : BuyerResponseTask} {payload : PayloadUpdate}
    {update : LeadUpdate} (hfront : s.front l = [])
    (htodo : s.todo i = [.enqueue (.buyerResponse audit), .exec (.setPost l postId),
      .enqueue (.payloadUpdate payload), .enqueue (.leadUpdate update)]) : s.InLine i l := by
  intro pre st post hpre hl
  refine ⟨hfront, ?_⟩
  rw [htodo] at hpre
  rcases pre with _ | ⟨e, _ | ⟨e', pre⟩⟩
  · rfl
  · rw [List.singleton_append, List.cons.injEq] at hpre
    rw [← hpre.1]
    rfl
  · have hmem : Effect.exec st ∈ [.enqueue (.payloadUpdate payload),
        .enqueue (.leadUpdate update)] := by
      rw [List.cons_append, List.cons_append, List.cons.injEq, List.cons.injEq] at hpre
      rw [hpre.2.2]
      exact List.mem_append_right _ List.mem_cons_self
    simp at hmem

/-- What waits for a lead when its post has been routed and a buyer has accepted. -/
theorem saleInv_route {s₀ s₁ : Sys} {p : ClaimedPost} {r₀ : Lead} {env : RouteEnv}
    {timing : AuctionTiming} {res : RoutingResult}
    (hi : s₀.threads[i]? = some ⟨.claimed p, []⟩)
    (hrow : s₀.leads.find p.lead.uuid = some r₀) (hquiet : s₀.Quiet p.lead.uuid)
    (hres : ((p.req.postRouter p.lead).route env).result = .ok res)
    (hsale : LeadRequest.isSale res = true)
    (hroute : step s₀ (.route i env timing) = some s₁) :
    ∃ postId, res.postId = some postId ∧ SaleInv i p.lead.uuid
      ([.setPost p.lead.uuid postId,
        .updateSold (p.req.postUpdate p.lead p.token s₀.now timing res),
        .resetToken p.lead.uuid p.token].foldl (fun v st => LeadStatement.onSale st v)
          (some r₀.sale)) s₁ := by
  have hs₁ : s₁ = s₀.setThread i ⟨.routed p (.ok res),
      p.req.postEffects p.lead p.token s₀.now env timing⟩ := by
    rw [step, hi, Option.some_inj, hres, List.nil_append] at hroute
    exact hroute.symm
  have hout := LeadRequest.postOutcome p.req p.lead p.token s₀.now env timing
  rw [hres] at hout
  revert hs₁ hout
  generalize p.req.postEffects p.lead p.token s₀.now env timing = effects
  intro hs₁ hout
  cases hout with
  | noSale hno hbefore =>
    rw [hsale] at hno
    cases hno
  | @sale c b _ postId audit payload hmem hid hb hacc hpost _ hrpost hprice hcamp hbuyer =>
    refine ⟨postId, hrpost, ?_⟩
    have htodo : s₁.todo i =
        [.enqueue (.buyerResponse audit), .exec (.setPost p.lead.uuid postId),
          .enqueue (.payloadUpdate payload),
          .enqueue (.leadUpdate (p.req.postUpdate p.lead p.token s₀.now timing res))] := by
      rw [hs₁, Sys.todo_setThread hi, if_pos rfl]
    have hfront : s₁.front p.lead.uuid = [] := hs₁ ▸ hquiet.front
    have hline : s₁.line i p.lead.uuid =
        [.setPost p.lead.uuid postId,
          .updateSold (p.req.postUpdate p.lead p.token s₀.now timing res),
          .resetToken p.lead.uuid p.token] := by
      rw [line_sale hfront htodo, postUpdate_statements _ _ _ _ _ hsale]
      refine onLead_eq_self ?_
      simp [LeadStatement.leadId, LeadRequest.postUpdate_leadId]
    refine ⟨⟨?_, ⟨?_, ?_⟩, ?_⟩, ?_, ?_⟩
    · rw [hs₁]
      refine hquiet.setThread_alone hi ?_
      intro st hst
      simp at hst
    · rw [hline]
      simp [LeadStatement.IsUpdate]
    · rw [hline]
      simp [LeadStatement.isClaim]
    · rw [Sys.outcome, hline, hs₁, Sys.setThread_leads, hrow]
      rfl
    · exact inLine_sale hfront htodo
    · rw [hline]
      simp [LeadStatement.IsUpdate]

/-- A post that has claimed its lead is routed in `s₀` and sold, with result `res`; no other
request touches the lead, every statement succeeds, and in `s` they have all run. -/
structure SoldPostRun (i : ℕ) (p : ClaimedPost) (env : RouteEnv) (timing : AuctionTiming)
    (res : RoutingResult) (s₀ s : Sys) : Prop where
  claimed : s₀.threads[i]? = some ⟨.claimed p, []⟩
  token : ∃ id, p.token = LeadRequest.inprogToken id
  quiet : s₀.Quiet p.lead.uuid
  routed : ((p.req.postRouter p.lead).route env).result = .ok res
  sale : LeadRequest.isSale res = true
  run : ∃ s₁ actions, step s₀ (.route i env timing) = some s₁ ∧
    Transition.Along step (Undisturbed p.lead.uuid) s₁ actions ∧
    Transition.run step s₁ actions = some s
  drained : s.Drained i

/-- The row of a sold post records the sale exactly when it had the data of the sale already, and
the `post_id` of the buyer is not the post's own token. -/
theorem recorded_iff {p : ClaimedPost} {env : RouteEnv} {timing : AuctionTiming}
    {res : RoutingResult} {s₀ s : Sys} {r₀ : Lead} (h : SoldPostRun i p env timing res s₀ s)
    (hrow : s₀.leads.find p.lead.uuid = some r₀) :
    ∃ r, s.leads.find p.lead.uuid = some r ∧
      (r.Records res (p.req.postTimingData p.lead s₀.now timing res) ↔
        res.postId ≠ some p.token ∧
          r₀.HasSaleData res (p.req.postTimingData p.lead s₀.now timing res)) := by
  obtain ⟨s₁, actions, hroute, hun, hrun⟩ := h.run
  obtain ⟨postId, hpost, hinv₁⟩ := saleInv_route h.claimed hrow h.quiet h.routed h.sale hroute
  have hinv := Transition.inv_of_run (fun hs hp h => saleInv_step hs hp h) hinv₁ hun hrun
  obtain ⟨v, hv, hother, hown⟩ :=
    sale_of_two_writes p.req p.lead p.token s₀.now timing hpost h.sale r₀.sale
  have hfinal := (find_of_line_nil (h.drained.line p.lead.uuid)).trans
    (hinv.outcome.outcome.trans hv)
  obtain ⟨r, hr, hrv⟩ := Option.map_eq_some_iff.mp hfinal
  refine ⟨r, hr, ?_⟩
  rw [hpost, Ne, Option.some_inj]
  by_cases hne : postId = p.token
  · -- the release has taken the `post_id` of the sale for its token
    refine iff_of_false ?_ fun h => h.1 hne
    intro hrec
    have hempty : r.postId = some "" := (congrArg Sale.postId hrv).trans (hown hne)
    obtain ⟨id, htoken⟩ := h.token
    rw [hrec.postId, hpost, hne, htoken, Option.some_inj] at hempty
    exact LeadRequest.inprogToken_ne_empty id hempty
  · have hv' := hrv.trans (hother hne)
    have hdata : r.HasSaleData res (p.req.postTimingData p.lead s₀.now timing res) ↔
        r₀.HasSaleData res (p.req.postTimingData p.lead s₀.now timing res) :=
      Lead.hasSaleData_congr (congrArg Sale.sold hv') (congrArg Sale.campaignId hv')
        (congrArg Sale.buyerId hv') (congrArg Sale.verticalData hv')
    constructor
    · intro hrec
      exact ⟨hne, hdata.mp hrec.data⟩
    · rintro ⟨-, hsold⟩
      exact ⟨congrArg Sale.status hv', (congrArg Sale.postId hv').trans hpost.symm,
        hdata.mpr hsold⟩

end Step

/-! ### A sale that is not recorded -/

open Sample

/-- A ping in asynchronous mode whose tasks have run, and a post that has claimed the lead. -/
def claimedRun : List Action :=
  [.submit (ping true) new env timing, .effect 0 true, .effect 0 true, .effect 0 true,
    .take 3, .apply true, .apply true, .arrive post, .read 1 (.promise 7 false),
    .claim 1 100 true]

/-- The timing of the post, a minute after the ping. -/
def postTiming : AuctionTiming := { timing with timestamp := "2024-01-01T00:01:00+00:00" }

/-- The rest of the post, up to the last statement of its update. -/
def soldRun : List Action :=
  [.effect 1 true, .effect 1 true, .effect 1 true, .effect 1 true, .take 3, .apply true,
    .apply true]

/-- The post of a request that has claimed its lead and owes nothing. -/
def Thread.claim : Thread → Option ClaimedPost
  | ⟨.claimed p, []⟩ => some p
  | _ => none

theorem Thread.eq_of_claim {th : Thread} {p : ClaimedPost} (h : th.claim = some p) :
    th = ⟨.claimed p, []⟩ := by
  rw [Thread.claim.eq_def] at h
  split at h
  · rw [Option.some_inj.mp h]
  · cases h

/-- The post of `claimedRun` and `soldRun` is sold; `sold_at` is not set before and after. -/
theorem soldPostRun_sample :
    ∃ s₀ s p res, Transition.run step Sys.init claimedRun = some s₀ ∧
      SoldPostRun 1 p env postTiming res s₀ s ∧
      (∃ r₀, s₀.leads.find p.lead.uuid = some r₀ ∧ r₀.soldAt.isSome = false) ∧
      ∃ r, s.leads.find p.lead.uuid = some r ∧ r.soldAt.isSome = false := by
  have h : (Transition.run step Sys.init claimedRun).any (fun s₀ =>
      ((s₀.threads[1]?).bind Thread.claim).any fun p =>
        decide (p.token = LeadRequest.inprogToken 100) && (decide (s₀.Quiet p.lead.uuid) &&
        ((s₀.leads.find p.lead.uuid).any (fun r => !r.soldAt.isSome) &&
        (((p.req.postRouter p.lead).route env).result.toOption.any LeadRequest.isSale &&
        (step s₀ (.route 1 env postTiming)).any fun s₁ =>
          decide (Transition.Along step (Undisturbed p.lead.uuid) s₁ soldRun) &&
          (Transition.run step s₁ soldRun).any fun s =>
            decide (s.Drained 1) && (s.leads.find p.lead.uuid).any fun r => !r.soldAt.isSome)))) =
              true := by
    decide +kernel
  obtain ⟨s₀, hs₀, h⟩ := (Option.any_eq_true _ _).mp h
  obtain ⟨p, hp, h⟩ := (Option.any_eq_true _ _).mp h
  obtain ⟨th, hth, hclaim⟩ := Option.bind_eq_some_iff.mp hp
  -- what the search has found, piece by piece
  simp only [Bool.and_eq_true, decide_eq_true_iff] at h
  obtain ⟨htoken, hquiet, hr₀, hres, h⟩ := h
  obtain ⟨r₀, hr₀, hsold₀⟩ := (Option.any_eq_true _ _).mp hr₀
  obtain ⟨res, hres, hsale⟩ := (Option.any_eq_true _ _).mp hres
  obtain ⟨s₁, hs₁, h⟩ := (Option.any_eq_true _ _).mp h
  simp only [Bool.and_eq_true, decide_eq_true_iff] at h
  obtain ⟨hun, h⟩ := h
  obtain ⟨s, hs, h⟩ := (Option.any_eq_true _ _).mp h
  simp only [Bool.and_eq_true, decide_eq_true_iff] at h
  obtain ⟨hdrained, hr⟩ := h
  obtain ⟨r, hr, hsold⟩ := (Option.any_eq_true _ _).mp hr
  refine ⟨s₀, s, p, res, hs₀, ⟨?_, ⟨100, htoken⟩, hquiet, ?_, hsale, ⟨s₁, soldRun, hs₁, hun, hs⟩,
    hdrained⟩, ⟨r₀, hr₀, by simpa using hsold₀⟩, r, hr, by simpa using hsold⟩
  · rw [hth, Thread.eq_of_claim hclaim]
  · exact ok_of_toOption hres

/-- The post is sold and every statement has run, but `sold_at` is not set. -/
theorem sold_post_not_recorded :
    ∃ s₀ s p res r, Transition.run step Sys.init claimedRun = some s₀ ∧
      SoldPostRun 1 p env postTiming res s₀ s ∧ s.leads.find p.lead.uuid = some r ∧
      ¬ r.Records res (p.req.postTimingData p.lead s₀.now postTiming res) := by
  obtain ⟨s₀, s, p, res, hs₀, hsold, -, r, hr, hsoldAt⟩ := soldPostRun_sample
  refine ⟨s₀, s, p, res, r, hs₀, hsold, hr, ?_⟩
  intro hrec
  rw [hrec.data.soldAt] at hsoldAt
  cases hsoldAt

end LeadsNebula
