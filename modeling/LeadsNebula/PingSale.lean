/-
Pings and sales.

A ping only asks buyers for bids; the sale is made by a post.  But the status
that `create_lead` derives from the result of an auction takes a positive price
with a campaign and a buyer for a sale, and the auction fills the price with the
bid.  In synchronous mode every ping with a paying winner is recorded as sold.

* `derivedStatus_eq_sold` — exactly these pings are taken for sales;
* `ping_records_no_sale` — all others never become sold, whatever the batches,
  and end as accepted pings if they have a winner.
-/
import LeadsNebula.Auction
import LeadsNebula.KnownLeads
import LeadsNebula.Outcome

namespace LeadsNebula

/-! ### The derived status -/

section Derived

variable [StdText]

/-- The status that `create_lead` derives from the result; in asynchronous mode, and when the
router fails, it derives none. -/
def LeadRequest.derivedStatus (req : LeadRequest) (new : NewLead) (now : Timestamp)
    (env : RouteEnv) : Option LeadStatus :=
  if req.asyncMode then none
  else
    match ((req.router new now).route env).result with
    | .ok r => some (finalStatus r)
    | .error _ => none

/-- The request is synchronous, and the price of the auction's winner, or its bid where it gave
no price, is positive. -/
def LeadRequest.paidWinner (req : LeadRequest) (new : NewLead) (now : Timestamp)
    (env : RouteEnv) : Bool :=
  !req.asyncMode && ((req.router new now).auctionWinner env).any fun w =>
    (PingTreeRouter.winningBid w.1).any F64.isPos

open PingTreeRouter

omit [StdText] in
theorem success_of_validPing {winner : BuyerResponse} (h : validPing winner = true) :
    winner.success = true := by
  rw [validPing, Bool.and_eq_true, Bool.and_eq_true, Bool.and_eq_true] at h
  exact h.1.1.1

/-- A winner is taken for a sale if it pays, else for an accepted ping. -/
theorem finalStatus_winnerResult {winner : BuyerResponse} (h : winner.success = true)
    (c : Campaign) (timings : Option (List Json)) :
    finalStatus (winnerResult winner c timings) =
      if (winningBid winner).any F64.isPos then .sold else .pingAccepted := by
  cases hpos : (winningBid winner).any F64.isPos <;>
    simp [finalStatus, winnerResult, h, hpos]

omit [StdText] in
theorem finalStatus_failed (status msg : String) (timings : Option (List Json)) :
    finalStatus { RoutingResult.failed status msg with perBuyerTimings := timings } =
      .processing := rfl

/-- The router of a ping is one of a ping. -/
theorem router_requestType {req : LeadRequest} (hping : req.requestType = .ping) (new : NewLead)
    (now : Timestamp) : (req.router new now).requestType = .ping := hping

theorem derivedStatus_eq_sold {req : LeadRequest} (hping : req.requestType = .ping)
    (new : NewLead) (now : Timestamp) (env : RouteEnv) :
    req.derivedStatus new now env = some .sold ↔ req.paidWinner new now env = true := by
  rw [LeadRequest.derivedStatus, LeadRequest.paidWinner]
  cases hmode : req.asyncMode with
  | true => simp
  | false =>
    rcases route_ping_cases (router_requestType hping new now) env with
      ⟨winner, c, audit, timings, hwin, hvalid, -, h⟩ | ⟨hnone, ⟨audit, e, -, h⟩ | h⟩
    · simp only [h, hwin, finalStatus_winnerResult (success_of_validPing hvalid)]
      cases hpos : (winningBid winner).any F64.isPos <;> simp [hpos]
    · simp [h, hnone]
    · rw [hnone]
      generalize (req.router new now).route env = routed at h ⊢
      cases h with
      | mk haudit hstatus => simp [finalStatus_failed]

end Derived

/-! ### No statement of such a ping is a sale -/

/-- A statement that makes a lead a sold one. -/
def LeadStatement.sells : LeadStatement → Bool
  | updateSold _ => true
  | updateStandard u => u.status = .sold
  | setStatus _ status _ => status = .sold
  | setPost _ _ => true
  | setFullpostWinner _ _ _ _ _ => true
  | _ => false

theorem LeadUpdate.statements_of_not_sold {u : LeadUpdate} (hstatus : u.status ≠ .sold)
    (htoken : u.inprogToken = none) : u.statements = [.updateStandard u] := by
  have hsold : u.shouldUpdateAsSold = false := by
    simp [LeadUpdate.shouldUpdateAsSold, hstatus]
  rw [LeadUpdate.statements, hsold, htoken]
  rfl

section Ping

variable [StdText]

open PingTreeRouter

/-- What a ping records of its own, unless it is taken for a sale: nothing, or one update that is
no sale. -/
theorem afterRouting_ping {req : LeadRequest} (hping : req.requestType = .ping) (new : NewLead)
    (timing : AuctionTiming) {result : Except String RoutingResult}
    (h : req.asyncMode = false → ∀ r, result = .ok r → finalStatus r ≠ .sold) :
    req.afterRouting new timing result = [] ∨
      ∃ r, result = .ok r ∧ finalStatus r ≠ .sold ∧
        req.afterRouting new timing result =
          [.enqueue (.leadUpdate (req.finalUpdate new timing r))] := by
  rw [LeadRequest.afterRouting.eq_def]
  cases hmode : req.asyncMode with
  | true => exact Or.inl (if_pos rfl)
  | false =>
    rw [if_neg (by decide)]
    cases result with
    | error e => exact Or.inl rfl
    | ok r =>
      have hr := h hmode r rfl
      refine Or.inr ⟨r, rfl, hr, ?_⟩
      simp [LeadRequest.recordResult, LeadRequest.payloadTasks, hping, hr]

/-- What comes of a ping that is not taken for a sale. -/
inductive PingOutcome (req : LeadRequest) (new : NewLead) (now : Timestamp) (env : RouteEnv)
    (timing : AuctionTiming) : List Effect → Prop
  | won {winner : BuyerResponse} {c : Campaign} {audit after : List Effect}
      (hwin : (req.router new now).auctionWinner env = some (winner, c)) (haudit : IsAudit audit)
      (hafter : after = [] ∨ ∃ u : LeadUpdate, after = [.enqueue (.leadUpdate u)] ∧
        u.status = .pingAccepted ∧ u.inprogToken = none) :
      PingOutcome req new now env timing
        (.enqueue (.leadCreation (req.leadCreation new)) :: (audit ++
          [.enqueue (.leadUpdate ((req.router new now).winnerUpdate winner c))]) ++ after)
  | lost {audit middle after : List Effect}
      (hnone : (req.router new now).auctionWinner env = none) (haudit : IsAudit audit)
      (hmiddle : ∀ e ∈ middle, ∃ l status vd, e = .exec (.setStatus l status vd) ∧ status ≠ .sold)
      (hafter : after = [] ∨ ∃ u : LeadUpdate, after = [.enqueue (.leadUpdate u)] ∧
        u.status ≠ .sold ∧ u.inprogToken = none) :
      PingOutcome req new now env timing
        (.enqueue (.leadCreation (req.leadCreation new)) :: (audit ++ middle) ++ after)

theorem pingOutcome {req : LeadRequest} (hping : req.requestType = .ping) (new : NewLead)
    (now : Timestamp) (env : RouteEnv) (timing : AuctionTiming)
    (hpaid : req.paidWinner new now env = false) :
    PingOutcome req new now env timing (req.createEffects new now env timing) := by
  -- the derived status is not a sale
  have hfinal : req.asyncMode = false → ∀ r, ((req.router new now).route env).result = .ok r →
      finalStatus r ≠ .sold := by
    intro hmode r hr hsold
    have hder : req.derivedStatus new now env = some .sold := by
      simp [LeadRequest.derivedStatus, hmode, hr, hsold]
    rw [(derivedStatus_eq_sold hping new now env).mp hder] at hpaid
    cases hpaid
  have hafter := afterRouting_ping hping new timing hfinal
  rw [LeadRequest.createEffects]
  rcases route_ping_cases (router_requestType hping new now) env with
    ⟨winner, c, audit, timings, hwin, hvalid, haudit, h⟩ | ⟨hnone, ⟨audit, e, haudit, h⟩ | h⟩
  · simp only [h] at hafter ⊢
    refine .won hwin haudit (hafter.imp_right ?_)
    rintro ⟨r, hr, hne, hrec⟩
    obtain rfl := Except.ok.inj hr
    refine ⟨_, hrec, ?_, rfl⟩
    show finalStatus _ = _
    rw [finalStatus_winnerResult (success_of_validPing hvalid)] at hne ⊢
    split at hne
    · exact absurd rfl hne
    · next hpos => rw [if_neg hpos]
  · simp only [h] at hafter ⊢
    rw [← List.append_nil audit]
    refine .lost hnone haudit (fun e he => by cases he) (hafter.imp_right ?_)
    rintro ⟨r, hr, hne, hrec⟩
    exact ⟨_, hrec, hne, rfl⟩
  · generalize (req.router new now).route env = routed at h hafter ⊢
    cases h with
    | mk haudit hstatus =>
      refine .lost hnone haudit ?_ (hafter.imp_right ?_)
      · intro e he
        obtain ⟨vd, rfl, -⟩ := mem_updateLeadStatus he
        refine ⟨_, _, _, rfl, ?_⟩
        rintro rfl
        simp at hstatus
      · rintro ⟨r, hr, hne, hrec⟩
        exact ⟨_, hrec, hne, rfl⟩

/-- An effect that spawns nothing and leads to no statement that sells. -/
def Effect.NoSale (e : Effect) : Prop :=
  (∀ st, e ≠ .spawn st) ∧ ∀ st ∈ e.statements, st.sells = false

omit [StdText] in
theorem noSale_enqueue {t : BackgroundTask} (h : ∀ st ∈ t.statements, st.sells = false) :
    (Effect.enqueue t).NoSale := by
  refine ⟨?_, h⟩
  intro st hst
  cases hst

omit [StdText] in
theorem noSale_exec {st : LeadStatement} (h : st.sells = false) : (Effect.exec st).NoSale := by
  refine ⟨?_, ?_⟩
  · intro st' hst'
    cases hst'
  · intro st' hst'
    rw [List.mem_singleton.mp hst']
    exact h

omit [StdText] in
theorem noSale_audit {audit : List Effect} (h : IsAudit audit) {e : Effect} (he : e ∈ audit) :
    e.NoSale := by
  obtain ⟨t, rfl⟩ := h e he
  refine noSale_enqueue ?_
  intro st hst
  cases hst

omit [StdText] in
theorem noSale_leadUpdate {u : LeadUpdate} {e : Effect} (hstatus : u.status ≠ .sold)
    (htoken : u.inprogToken = none) (he : e ∈ [Effect.enqueue (.leadUpdate u)]) : e.NoSale := by
  rw [List.mem_singleton.mp he]
  refine noSale_enqueue ?_
  intro st hst
  have hmem : st ∈ u.statements := hst
  rw [LeadUpdate.statements_of_not_sold hstatus htoken, List.mem_singleton] at hmem
  rw [hmem]
  exact decide_eq_false hstatus

theorem PingOutcome.noSale {req : LeadRequest} {new : NewLead} {now : Timestamp}
    {env : RouteEnv} {timing : AuctionTiming} {effects : List Effect}
    (h : PingOutcome req new now env timing effects) {e : Effect} (he : e ∈ effects) :
    e.NoSale := by
  -- the creation of the lead is no sale
  have hcreate : (Effect.enqueue (.leadCreation (req.leadCreation new))).NoSale := by
    refine noSale_enqueue ?_
    intro st hst
    rw [List.mem_singleton.mp hst]
    rfl
  cases h with
  -- the audit, the winner's update, and what follows in the handler
  | won hwin haud hafter =>
    rcases List.mem_append.mp he with he | he
    · rcases List.mem_cons.mp he with he | he
      · exact he ▸ hcreate
      · rcases List.mem_append.mp he with he | he
        · exact noSale_audit haud he
        · exact noSale_leadUpdate (u := winnerUpdate ..) LeadStatus.noConfusion rfl he
    · rcases hafter with rfl | ⟨u, rfl, hstatus, htoken⟩
      · cases he
      · exact noSale_leadUpdate (hstatus ▸ by decide) htoken he
  | lost hnone haud hmiddle hafter =>
    -- without a winner the router writes the failure itself
    rcases List.mem_append.mp he with he | he
    · rcases List.mem_cons.mp he with he | he
      · exact he ▸ hcreate
      · rcases List.mem_append.mp he with he | he
        · exact noSale_audit haud he
        · obtain ⟨l, status, vd, rfl, hstatus⟩ := hmiddle e he
          exact noSale_exec (decide_eq_false hstatus)
    · rcases hafter with rfl | ⟨u, rfl, hstatus, htoken⟩
      · cases he
      · exact noSale_leadUpdate hstatus htoken he

/-- The statements of a ping with a winner: the insertion, then updates that accept the ping. -/
theorem PingOutcome.statements {req : LeadRequest} {new : NewLead} {now : Timestamp}
    {env : RouteEnv} {timing : AuctionTiming} {effects : List Effect}
    (h : PingOutcome req new now env timing effects)
    (hwin : ((req.router new now).auctionWinner env).isSome = true) :
    (∀ st, .exec st ∉ effects) ∧ ∃ u us,
      effects.flatMap Effect.statements =
        .insertLead (req.leadCreation new) :: .updateStandard u :: us.map .updateStandard ∧
      ∀ u' ∈ u :: us, u'.status = .pingAccepted := by
  cases h with
  | lost hnone =>
    rw [hnone] at hwin
    cases hwin
  | @won winner c audit after hwin haudit hafter =>
    have hexec : ∀ st, Effect.exec st ∉ audit := by
      intro st hst
      obtain ⟨t, ht⟩ := haudit _ hst
      cases ht
    -- an update that does not sell is one statement on `leads`
    have hW : (Effect.enqueue
      (.leadUpdate ((req.router new now).winnerUpdate winner c))).statements =
        [.updateStandard ((req.router new now).winnerUpdate winner c)] :=
      LeadUpdate.statements_of_not_sold (u := winnerUpdate ..) LeadStatus.noConfusion rfl
    have hC : (Effect.enqueue (.leadCreation (req.leadCreation new))).statements =
        [.insertLead (req.leadCreation new)] := rfl
    -- in synchronous mode the status of the answer is written once more
    rcases hafter with rfl | ⟨u, rfl, hstatus, htoken⟩
    · refine ⟨?_, (req.router new now).winnerUpdate winner c, [], ?_, ?_⟩
      · intro st hst
        simp [hexec] at hst
      · simp only [List.append_nil, List.flatMap_cons, List.flatMap_append, List.flatMap_nil,
          isAudit_statements haudit, hW, hC]
        rfl
      · intro u' hu'
        rw [List.mem_singleton.mp hu']
        rfl
    · have hu : (Effect.enqueue (.leadUpdate u)).statements = [.updateStandard u] := by
        refine LeadUpdate.statements_of_not_sold ?_ htoken
        rw [hstatus]
        exact LeadStatus.noConfusion
      refine ⟨?_, (req.router new now).winnerUpdate winner c, [u], ?_, ?_⟩
      · intro st hst
        simp [hexec] at hst
      · simp only [List.append_nil, List.flatMap_cons, List.flatMap_append, List.flatMap_nil,
          List.cons_append, isAudit_statements haudit, hW, hC, hu]
        rfl
      · intro u' hu'
        rcases List.mem_cons.mp hu' with rfl | hu'
        · rfl
        · rw [List.mem_singleton.mp hu']
          exact hstatus

end Ping

/-! ### The run -/

/-- The lead is not sold. -/
def Lead.unsold (r : Lead) : Prop := r.status ≠ .sold ∧ r.soldAt = none

theorem unsold_applyRow {st : LeadStatement} {r : Lead} (hst : st.sells = false)
    (hr : r.unsold) (now : Timestamp) : (st.applyRow now r).unsold := by
  rw [LeadStatement.applyRow]
  split
  · cases st with
    | insertLead c => exact hr
    | updateSold u => cases hst
    | resetToken l token => exact hr
    | updateStandard u => exact ⟨of_decide_eq_false hst, hr.2⟩
    | setStatus l status vd => exact ⟨of_decide_eq_false hst, hr.2⟩
    | setPost l postId => cases hst
    | setFullpostWinner l c b promiseId postId => cases hst
    | claim l promiseId token => exact hr
  · exact hr

/-- Nothing that waits for the lead sells it, and it is not sold. -/
structure NoSaleInv (l : Uuid) (s : Sys) : Prop where
  pending : ∀ st, s.Pending st → st.leadId = l → st.sells = false
  row : ∀ r, s.leads.find l = some r → r.unsold

section Run

variable [StdText] {s s' : Sys} {a : Action} {i : ℕ} {l : Uuid}

theorem noSaleInv_step (hinv : NoSaleInv l s) (hun : Sys.Untouched l s a)
    (h : step s a = some s') : NoSaleInv l s' := by
  have h := step_cases h
  refine ⟨?_, ?_⟩
  · intro st hst hl
    rcases step_pending h hst with hst | ⟨e, he, hst⟩
    · exact hinv.pending st hst hl
    · exact absurd hl (hun.1 e he st hst)
  · intro r hr
    rcases step_exec h with ⟨-, hleads, -⟩ | ⟨st, hex, hleads, -⟩
    · exact hinv.row r (hleads ▸ hr)
    · rw [hleads] at hr
      by_cases htarget : st.Targets l
      · -- what targets the lead is an insertion, one of the statements that wait, or a claim
        have hsells : st.sells = false := by
          rcases htarget with hins | hl
          · cases st with
            | insertLead c => rfl
            | _ => exact absurd trivial hins
          · have hpending : s.Pending st ∨ _ := pending_of_executed hex
            rcases hpending with hp | hp | ⟨-, _, _, _, rfl⟩
            · exact hinv.pending st hp hl
            · cases hp
            · rfl
        rcases LeadStatement.find_exec s.now st s.leads l with hx | ⟨c, rfl, hx⟩
        · rw [hx] at hr
          obtain ⟨r₀, hr₀, rfl⟩ := Option.map_eq_some_iff.mp hr
          exact unsold_applyRow hsells (hinv.row r₀ hr₀) s.now
        · rw [hx] at hr
          rcases Option.or_eq_some_iff.mp hr with hr | ⟨-, hr⟩
          · exact hinv.row r hr
          · split at hr
            · rw [← Option.some_inj.mp hr]
              refine ⟨?_, rfl⟩
              simp only [LeadCreation.row]
              split <;> exact LeadStatus.noConfusion
            · cases hr
      · rw [LeadStatement.find_exec_of_not_targets htarget] at hr
        exact hinv.row r hr

/-- Nothing else happens to the lead, every statement succeeds, and an insertion of the lead
finds no row with its `lead_id`. -/
def Settles (l : Uuid) (s : Sys) (a : Action) : Prop := Undisturbed l s a ∧ s.Inserts l a

instance (l : Uuid) (s : Sys) (a : Action) : Decidable (Settles l s a) :=
  inferInstanceAs (Decidable (_ ∧ _))

/-- The lines of pings with a winner run in order. -/
structure WonInv (i : ℕ) (l : Uuid) (v : Option Sale) (s : Sys) : Prop where
  outcome : OutcomeInv i l v s
  inLine : s.InLine i l

theorem wonInv_step {v : Option Sale} (hinv : WonInv i l v s) (hun : Settles l s a)
    (h : step s a = some s') : WonInv i l v s' := by
  have h := step_cases h
  obtain ⟨hun, hins⟩ := hun
  exact ⟨outcomeInv_step hinv.outcome h hun (hinv.inLine.inTurn a) hins,
    inLine_step h hinv.outcome.alone hun.1 hun.2 hinv.outcome.steady.1 hinv.inLine⟩

omit [StdText] in
/-- Updates that accept the ping end in an accepted ping. -/
theorem sale_of_accepted {u : LeadUpdate} {us : List LeadUpdate}
    (h : ∀ u' ∈ u :: us, u'.status = .pingAccepted) (v : Sale) :
    ∃ v', (LeadStatement.updateStandard u :: us.map .updateStandard).foldl
      (fun v st => LeadStatement.onSale st v) (some v) = some v' ∧ v'.status = .pingAccepted := by
  induction us generalizing u v with
  | nil => exact ⟨_, rfl, h u List.mem_cons_self⟩
  | cons u' us ih =>
    exact ih (fun u'' hu'' => h u'' (List.mem_cons_of_mem _ hu'')) _

/-- A ping is taken for a sale exactly when it is synchronous and its winner pays.  All other
pings are never recorded as sold, and end as accepted pings if they have a winner. -/
theorem ping_records_no_sale {before : List Action} {s s₁ : Sys} {req : LeadRequest}
    {new : NewLead} {env : RouteEnv} {timing : AuctionTiming}
    (hreach : Transition.run step Sys.init before = some s) (hping : req.requestType = .ping)
    (hsubmit : step s (.submit req new env timing) = some s₁) :
    (req.derivedStatus new s.now env ≠ some .sold ↔ req.paidWinner new s.now env = false) ∧
    (req.paidWinner new s.now env = false →
      (∀ actions s', Transition.Along step (Sys.Untouched new.uuid) s₁ actions →
        Transition.run step s₁ actions = some s' →
        ∀ r, s'.leads.find new.uuid = some r → r.status ≠ .sold ∧ r.soldAt = none) ∧
      (((req.router new s.now).auctionWinner env).isSome = true → ∀ actions s',
        Transition.Along step (Settles new.uuid) s₁ actions →
        Transition.run step s₁ actions = some s' → s'.Drained s.threads.length →
        ∃ r, s'.leads.find new.uuid = some r ∧ r.status = .pingAccepted)) := by
  have hknown := known_run hreach
  obtain ⟨htodo, hfront, hline, hnone, halone⟩ := submit_line hknown hsubmit
  refine ⟨?_, ?_⟩
  · rw [Ne, derivedStatus_eq_sold hping, Bool.not_eq_true]
  intro hpaid
  have hout := pingOutcome hping new s.now env timing hpaid
  refine ⟨?_, ?_⟩
  · -- nothing that waits for the lead sells it
    intro actions s' halong hrun r hr
    have hinv₁ : NoSaleInv new.uuid s₁ := by
      refine ⟨?_, fun r hr => by rw [hnone] at hr; cases hr⟩
      intro st hst hl
      rcases step_pending (step_cases hsubmit) hst with hold | ⟨e, he, hmem⟩
      · have hmem := hl ▸ hknown.pending st hold
        cases step_cases hsubmit with
        | submit htype hnew => exact absurd hmem hnew
      · exact (hout.noSale he).2 st hmem
    exact (Transition.inv_of_run (fun hs hp h => noSaleInv_step hs hp h) hinv₁ halong hrun).row r hr
  · -- the line ends with an accepted ping
    intro hwin actions s' halong hrun hdrained
    obtain ⟨hexec, u, us, hstatements, hstatus⟩ := hout.statements hwin
    obtain ⟨v, hv, haccepted⟩ := sale_of_accepted hstatus ((req.leadCreation new).row 0).sale
    rw [hstatements] at hline
    have hinv₁ : WonInv s.threads.length new.uuid (some v) s₁ := by
      refine ⟨⟨halone ?_, ⟨?_, ?_⟩, ?_⟩, ?_⟩
      · intro st hst
        exact (hout.noSale hst).1 st rfl
      · rw [hline]
        intro st hst
        rcases List.mem_cons.mp hst with rfl | hst
        · trivial
        · obtain ⟨u', -, rfl⟩ := List.mem_map.mp hst
          trivial
      · rw [hline]
        intro st hst
        rcases List.mem_cons.mp hst with rfl | hst
        · rfl
        · rcases List.mem_cons.mp hst with rfl | hst
          · rfl
          · obtain ⟨u', -, rfl⟩ := List.mem_map.mp hst
            rfl
      · rw [Sys.outcome, hline, hnone]
        exact hv
      · intro pre st post hpre hl
        rw [htodo] at hpre
        exact absurd (hpre ▸ List.mem_append_right _ List.mem_cons_self) (hexec st)
    have hinv := Transition.inv_of_run (fun hs hp h => wonInv_step hs hp h) hinv₁ halong hrun
    have hfinal := (find_of_line_nil (hdrained.line new.uuid)).trans hinv.outcome.outcome
    obtain ⟨r, hr, hrv⟩ := Option.map_eq_some_iff.mp hfinal
    exact ⟨r, hr, (congrArg Sale.status hrv).trans haccepted⟩

end Run

/-! ### A ping that is recorded as sold -/

open Sample

/-- What a synchronous ping does, up to the last statement. -/
def syncPingRun : List Action :=
  [.effect 0 true, .effect 0 true, .effect 0 true, .effect 0 true, .effect 0 true, .take 4,
    .apply true, .apply true, .apply true, .apply true, .spawned 0 true]

/-- The bid of 150 is taken for the price of a sale. -/
theorem sync_ping_recorded_as_sold :
    ∃ s₁ s r, step Sys.init (.submit (ping false) new env timing) = some s₁ ∧
      (ping false).requestType = .ping ∧
      (ping false).derivedStatus new Sys.init.now env = some .sold ∧
      (∀ a ∈ syncPingRun, a.succeeds = true) ∧ Transition.run step s₁ syncPingRun = some s ∧
      s.Drained 0 ∧ s.leads.find 7 = some r ∧ r.status = .sold ∧ r.soldAt.isSome = true := by
  have h : (step Sys.init (.submit (ping false) new env timing)).any (fun s₁ =>
      (Transition.run step s₁ syncPingRun).any fun s => decide (s.Drained 0) &&
        (s.leads.find 7).any fun r => decide (r.status = .sold ∧ r.soldAt.isSome = true)) =
      true := by
    decide +kernel
  obtain ⟨s₁, hs₁, h⟩ := (Option.any_eq_true _ _).mp h
  obtain ⟨s, hs, h⟩ := (Option.any_eq_true _ _).mp h
  rw [Bool.and_eq_true, decide_eq_true_iff] at h
  obtain ⟨r, hr, hsold⟩ := (Option.any_eq_true _ _).mp h.2
  rw [decide_eq_true_iff] at hsold
  exact ⟨s₁, s, r, hs₁, by decide +kernel, by decide +kernel, by decide +kernel, hs, h.1, hr,
    hsold⟩

/-- What an asynchronous ping does, up to the last statement. -/
def asyncPingRun : List Action :=
  [.effect 0 true, .effect 0 true, .effect 0 true, .take 3, .apply true, .apply true]

theorem ping_records_no_sale_async :
    ∃ s₁ s r, step Sys.init (.submit (ping true) new env timing) = some s₁ ∧
      Transition.run step s₁ asyncPingRun = some s ∧ s.leads.find 7 = some r ∧
      r.status = .pingAccepted ∧ r.soldAt = none := by
  have h : (step Sys.init (.submit (ping true) new env timing)).any (fun s₁ =>
      decide (Transition.Along step (Settles 7) s₁ asyncPingRun) &&
      (decide (Transition.Along step (Sys.Untouched 7) s₁ asyncPingRun) &&
      (Transition.run step s₁ asyncPingRun).any fun s => decide (s.Drained 0))) = true := by
    decide +kernel
  obtain ⟨s₁, hs₁, h⟩ := (Option.any_eq_true _ _).mp h
  simp only [Bool.and_eq_true, decide_eq_true_iff] at h
  obtain ⟨hsettles, huntouched, h⟩ := h
  obtain ⟨s, hs, hdrained⟩ := (Option.any_eq_true _ _).mp h
  have hno := ping_records_no_sale (Transition.run_nil Sys.init) (by decide) hs₁
  obtain ⟨hnever, hend⟩ := hno.2 (by decide)
  obtain ⟨r, hr, hstatus⟩ := hend (by decide +kernel) asyncPingRun s hsettles hs
    (of_decide_eq_true hdrained)
  exact ⟨s₁, s, r, hs₁, hs, hr, hstatus, (hnever asyncPingRun s huntouched hs r hr).2⟩

end LeadsNebula
