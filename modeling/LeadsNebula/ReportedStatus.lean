/-
The reported status and the stored one.

A call that reaches no valid response reports `rejected`, `timeout` or `error`.
The router writes that status itself, while the insertion of the row may still
wait in the queue: then there is no row to update, and the status is lost.  In
synchronous mode `create_lead` also enqueues an update of its own, whose status
for such a result is `processing`.

* `reported_status_stored` — in asynchronous mode, and if the row is there when
  the router updates it, the row ends with the reported status.
-/
import LeadsNebula.Auction
import LeadsNebula.KnownLeads
import LeadsNebula.Outcome

namespace LeadsNebula

section Step

variable [StdText] {s s' : Sys} {a : Action} {i : ℕ} {l : Uuid}

/-! ### The condition -/

/-- Nothing else happens to the lead, every statement succeeds, the insertion of the lead finds no
row with its `lead_id`, and an update of the lead finds the row. -/
def FindsRow (l : Uuid) (s : Sys) (a : Action) : Prop :=
  Undisturbed l s a ∧ s.Inserts l a ∧
    ∀ st ∈ s.executed a, st.leadId = l → st.IsUpdate → (s.leads.find l).isSome = true

instance (l : Uuid) (s : Sys) (a : Action) : Decidable (FindsRow l s a) :=
  inferInstanceAs (Decidable (_ ∧ _ ∧ ∀ st ∈ s.executed a, st.leadId = l → st.IsUpdate →
    (s.leads.find l).isSome = true))

/-! ### The insertion comes first -/

/-- Only the insertion of the lead is left to the queue, and until it runs there is no row. -/
structure ReportInv (i : ℕ) (l : Uuid) (v : Option Sale) (s : Sys) : Prop where
  outcome : OutcomeInv i l v s
  queued : ∀ st ∈ s.front l, ¬ st.IsUpdate
  enqueues : ∀ t, .enqueue t ∈ s.todo i → ∀ st ∈ t.statements, st.leadId = l → ¬ st.IsUpdate
  absent : ∀ st ∈ s.line i l, ¬ st.IsUpdate → s.leads.find l = none

omit [StdText] in
theorem executed_of_todo {st : LeadStatement} {todo : List Effect}
    (h : s.todo i = .exec st :: todo) : s.executed (.effect i true) = some st := by
  rw [Sys.todo] at h
  rcases hi : s.threads[i]? with _ | ⟨stage, es⟩
  · rw [hi] at h
    cases h
  · rw [hi] at h
    obtain rfl : es = .exec st :: todo := h
    simp only [Sys.executed, hi]

/-- When the router updates the row, the insertion has run. -/
theorem ReportInv.inTurn {v : Option Sale} (hinv : ReportInv i l v s) (hrow : FindsRow l s a) :
    s.InTurn i l a := by
  intro ha st todo htodo hl
  subst ha
  by_contra hne
  obtain ⟨st₀, sts, hfront⟩ := List.exists_cons_of_ne_nil hne
  have hline : s.line i l = st₀ :: (sts ++ onLead l (st :: todo.flatMap Effect.statements)) := by
    rw [Sys.line, hfront, htodo]
    rfl
  have hup : st.IsUpdate := by
    refine hinv.outcome.steady.1 st ?_
    rw [hline, onLead_cons_of_eq hl]
    exact List.mem_append_right _ List.mem_cons_self
  have hsome := hrow.2.2 st (executed_of_todo htodo) hl hup
  have hnone := hinv.absent st₀ (hline ▸ List.mem_cons_self)
    (hinv.queued st₀ (hfront ▸ List.mem_cons_self))
  rw [hnone] at hsome
  cases hsome

theorem reportInv_step {v : Option Sale} (hinv : ReportInv i l v s) (hrow : FindsRow l s a)
    (h : step s a = some s') : ReportInv i l v s' := by
  have h := step_cases h
  have hturn := hinv.inTurn hrow
  obtain ⟨hun, hins, -⟩ := hrow
  obtain ⟨halone, hsteady, -⟩ := hinv.outcome
  refine ⟨outcomeInv_step hinv.outcome h hun hturn hins, ?_, ?_, ?_⟩
  · cases lineStep h halone hun.1 hun.2 hsteady.1 with
    | wait hf ht hex => exact hf ▸ hinv.queued
    | routed hf ht hnew hex => exact hf ▸ hinv.queued
    | exec ha hs hf ht hex => exact hf ▸ hinv.queued
    | spawn hs hl hf ht hex => exact hf ▸ hinv.queued
    | enqueue hs hf ht hex =>
      intro st hst
      rw [hf, List.mem_append] at hst
      rcases hst with hst | hst
      · exact hinv.queued st hst
      · obtain ⟨hst, hl⟩ := mem_onLead.mp hst
        exact hinv.enqueues _ (hs ▸ List.mem_cons_self) st hst hl
    | apply hf ht hex hl =>
      intro st hst
      exact hinv.queued st (hf ▸ List.mem_cons_of_mem _ hst)
  · intro t ht st hst hl
    rcases mem_todo_step h i _ ht with ht | ht
    · exact hinv.enqueues t ht st hst hl
    · exact absurd hl (hun.1.1 _ ht st hst)
  · intro st hst hnot
    rcases line_step h halone hun.1 hturn hun.2 hsteady.1 with ⟨hline, hother⟩ | ⟨st₀, -, -, hline⟩
    · have hnone := hinv.absent st (hline ▸ hst) hnot
      rcases step_exec h with ⟨-, hleads, -⟩ | ⟨st', hex, hleads, -⟩
      · rw [hleads]
        exact hnone
      · have hsale : ((st'.exec s.now s.leads).find l).map Lead.sale = _ :=
          LeadStatement.sale_exec_of_ne (hother st' hex)
        rw [hnone, Option.map_none, Option.map_eq_none_iff] at hsale
        rw [hleads]
        exact hsale
    · -- only the first statement of the line can be an insertion
      have htail : st ∈ (s.line i l).tail := hline ▸ hst
      exact absurd (hsteady.1 st htail) hnot

/-! ### The run -/

open PingTreeRouter

/-- The router's own update of a new lead. -/
theorem updateLeadStatus_router (req : LeadRequest) (new : NewLead) (now : Timestamp)
    (env : RouteEnv) (status : LeadStatus) (error : Option String) :
    ∃ vd, (req.router new now).updateLeadStatus env status error =
      [.exec (.setStatus new.uuid status vd)] := by
  have hstatus : (req.router new now).lead.status = .processing ∨
      (req.router new now).lead.status = .test := by
    simp only [LeadRequest.router, LeadRequest.newLead]
    split
    · exact Or.inr rfl
    · exact Or.inl rfl
  rw [updateLeadStatus, if_pos hstatus]
  exact ⟨_, rfl⟩

/-- The effects of an asynchronous request that fails: the insertion is left to the queue, and the
status is written at once. -/
theorem createEffects_failed {req : LeadRequest} {new : NewLead} {now : Timestamp}
    {env : RouteEnv} (timing : AuctionTiming) (hasync : req.asyncMode = true) {res : RoutingResult}
    (h : Failed (req.router new now) env ((req.router new now).route env))
    (hres : ((req.router new now).route env).result = .ok res) :
    ∃ audit status vd, IsAudit audit ∧ res.status = status.asStr ∧
      req.createEffects new now env timing =
        .enqueue (.leadCreation (req.leadCreation new)) ::
          (audit ++ [.exec (.setStatus new.uuid status vd)]) := by
  have hafter : ∀ result, req.afterRouting new timing result = [] := by
    intro result
    rw [LeadRequest.afterRouting.eq_def, if_pos hasync]
  simp only [LeadRequest.createEffects, hafter, List.append_nil]
  generalize (req.router new now).route env = routed at h hres ⊢
  cases h with
  | @mk audit status err msg timings haudit hstatus =>
    obtain ⟨vd, hvd⟩ := updateLeadStatus_router req new now env status (some err)
    refine ⟨audit, status, vd, haudit, ?_, ?_⟩
    · rw [← Except.ok.inj hres]
      rfl
    · rw [hvd]

theorem reportInv_submit {s₁ : Sys} {req : LeadRequest} {new : NewLead} {env : RouteEnv}
    {timing : AuctionTiming} {audit : List Effect} {status : LeadStatus} {vd : Json}
    (hknown : Known s) (hsubmit : step s (.submit req new env timing) = some s₁)
    (haudit : IsAudit audit)
    (heffects : req.createEffects new s.now env timing =
      .enqueue (.leadCreation (req.leadCreation new)) ::
        (audit ++ [.exec (.setStatus new.uuid status vd)])) :
    ReportInv s.threads.length new.uuid
      (some { ((req.leadCreation new).row 0).sale with status := status, verticalData := vd })
      s₁ := by
  obtain ⟨htodo, hfront, hline, hnone, halone⟩ := submit_line hknown hsubmit
  have hline : s₁.line s.threads.length new.uuid =
      [.insertLead (req.leadCreation new), .setStatus new.uuid status vd] := by
    rw [hline, heffects, List.flatMap_cons, List.flatMap_append, isAudit_statements haudit]
    rfl
  refine ⟨⟨halone ?_, ⟨?_, ?_⟩, ?_⟩, ?_, ?_, fun _ _ _ => hnone⟩
  · -- no audit effect executes a statement, so the one that is executed is the last
    intro st hst
    rw [heffects] at hst
    simp only [List.mem_cons, List.mem_append, List.not_mem_nil, or_false, reduceCtorEq,
      false_or] at hst
    obtain ⟨t, ht⟩ := haudit _ hst
    cases ht
  · rw [hline]
    simp [LeadStatement.IsUpdate]
  · rw [hline]
    simp [LeadStatement.isClaim]
  · rw [Sys.outcome, hline, hnone]
    rfl
  · rw [hfront]
    intro st hst
    cases hst
  · -- the creation is the only task of the request that has a statement
    intro t ht st hst _
    rw [htodo, heffects] at ht
    simp only [List.mem_cons, List.mem_append, List.not_mem_nil, or_false, reduceCtorEq,
      Effect.enqueue.injEq] at ht
    rcases ht with rfl | ht
    · rw [List.mem_singleton.mp hst]
      exact id
    · obtain ⟨t', ht'⟩ := haudit _ ht
      rw [Effect.enqueue.inj ht'] at hst
      cases hst

/-- A ping or a fullpost in asynchronous mode that reports a failure, the ping without a winner:
once every statement has run, the row has the reported status. -/
theorem reported_status_stored {before : List Action} {s s₁ : Sys} {req : LeadRequest}
    {new : NewLead} {env : RouteEnv} {timing : AuctionTiming} {res : RoutingResult}
    (hreach : Transition.run step Sys.init before = some s)
    (htype : req.requestType = .ping ∨ req.requestType = .fullpost)
    (hsubmit : step s (.submit req new env timing) = some s₁)
    (hres : ((req.router new s.now).route env).result = .ok res)
    (hfail : reportsFailure res.status = true) (hasync : req.asyncMode = true)
    (hwinner : req.requestType = .ping → (req.router new s.now).auctionWinner env = none)
    (actions : List Action) (s' : Sys)
    (hrow : Transition.Along step (FindsRow new.uuid) s₁ actions)
    (hrun : Transition.run step s₁ actions = some s') (hdrained : s'.Drained s.threads.length) :
    ∃ r, s'.leads.find new.uuid = some r ∧ r.status.asStr = res.status := by
  -- the routing has failed and written a failure
  have hfailed : Failed (req.router new s.now) env ((req.router new s.now).route env) := by
    rcases failed_of_reported htype hres hfail with h | ⟨hping, winner, c, hwin, -⟩
    · exact h
    · rw [hwinner hping] at hwin
      cases hwin
  -- what is queued is the audit and one update, with the status that is reported
  obtain ⟨audit, status, vd, haudit, hstatus, heffects⟩ :=
    createEffects_failed timing hasync hfailed hres
  have hinv₁ := reportInv_submit (known_run hreach) hsubmit haudit heffects
  have hinv := Transition.inv_of_run (fun hs hp h => reportInv_step hs hp h) hinv₁ hrow hrun
  -- once all has run, the outcome of the line is the row
  have hfinal := (find_of_line_nil (hdrained.line new.uuid)).trans hinv.outcome.outcome
  obtain ⟨r, hr, hrv⟩ := Option.map_eq_some_iff.mp hfinal
  refine ⟨r, hr, ?_⟩
  rw [hstatus, show r.status = status from congrArg Sale.status hrv]

end Step

/-! ### A failure that is stored as being processed -/

open Sample

/-- The publisher has no ping tree. -/
def noTreeEnv : RouteEnv := { env with pingTree := .ok none }

/-- What a synchronous ping without a ping tree does: the insertion runs first. -/
def syncFailedRun : List Action :=
  [.effect 0 true, .take 1, .apply true, .effect 0 true, .effect 0 true, .take 1, .apply true]

/-- The error is reported and written, and then overwritten by `create_lead`. -/
theorem sync_failure_stored_as_processing :
    ∃ s₁ s r res, step Sys.init (.submit (ping false) new noTreeEnv timing) = some s₁ ∧
      (((ping false).router new Sys.init.now).route noTreeEnv).result = .ok res ∧
      PingTreeRouter.reportsFailure res.status = true ∧
      (∀ a ∈ syncFailedRun, a.succeeds = true) ∧ Transition.run step s₁ syncFailedRun = some s ∧
      s.Drained 0 ∧ s.leads.find 7 = some r ∧ r.status.asStr ≠ res.status := by
  have h : (step Sys.init (.submit (ping false) new noTreeEnv timing)).any (fun s₁ =>
      (Transition.run step s₁ syncFailedRun).any fun s => decide (s.Drained 0) &&
        (s.leads.find 7).any fun r => decide (r.status = .processing)) = true := by
    decide
  obtain ⟨s₁, hs₁, h⟩ := (Option.any_eq_true _ _).mp h
  obtain ⟨s, hs, h⟩ := (Option.any_eq_true _ _).mp h
  rw [Bool.and_eq_true, decide_eq_true_iff] at h
  obtain ⟨r, hr, hstatus⟩ := (Option.any_eq_true _ _).mp h.2
  rw [decide_eq_true_iff] at hstatus
  refine ⟨s₁, s, r, _, hs₁, rfl, by decide, by decide, hs, h.1, hr, ?_⟩
  rw [hstatus]
  decide

/-- What an asynchronous ping without a ping tree does, if the insertion runs first. -/
def asyncFailedRun : List Action := [.effect 0 true, .take 1, .apply true, .effect 0 true]

theorem reported_status_stored_async :
    ∃ s₁ s r res, step Sys.init (.submit (ping true) new noTreeEnv timing) = some s₁ ∧
      (((ping true).router new Sys.init.now).route noTreeEnv).result = .ok res ∧
      Transition.run step s₁ asyncFailedRun = some s ∧ s.leads.find 7 = some r ∧
      r.status.asStr = res.status := by
  have h : (step Sys.init (.submit (ping true) new noTreeEnv timing)).any (fun s₁ =>
      decide (Transition.Along step (FindsRow 7) s₁ asyncFailedRun) &&
      (Transition.run step s₁ asyncFailedRun).any fun s => decide (s.Drained 0)) = true := by
    decide
  obtain ⟨s₁, hs₁, h⟩ := (Option.any_eq_true _ _).mp h
  rw [Bool.and_eq_true, decide_eq_true_iff] at h
  obtain ⟨s, hs, hdrained⟩ := (Option.any_eq_true _ _).mp h.2
  obtain ⟨r, hr, hstatus⟩ := reported_status_stored (Transition.run_nil Sys.init)
    (Or.inl (by decide)) hs₁ rfl (by decide) rfl (fun _ => rfl) asyncFailedRun s
    h.1 hs (of_decide_eq_true hdrained)
  exact ⟨s₁, s, r, _, hs₁, rfl, hs, hr, hstatus⟩

end LeadsNebula
