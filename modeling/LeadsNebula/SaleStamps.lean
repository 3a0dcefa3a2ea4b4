/-
A sold post is never recorded.

By `recorded_iff` the row of a sold post could record the sale only if it had all that
the lost write brings before the post came, with it the `verbose` entry that the post
computes.  That entry holds the time at which the post made it, and what a row holds was
made by an earlier request.  So the time stamp of a post, taken from a clock that does
not show a time twice, is in no row, no copy and no pending statement (`Unstamped`).

* `unstamped_run` — a time stamp that no action of a run has is nowhere in its last state;
* `sale_never_recorded` — in every run, whatever the buyers answer, the row of a sold post
  does not record the sale.
-/
import LeadsNebula.KnownLeads
import LeadsNebula.SaleRecord

namespace LeadsNebula

/-! ### Data with another time stamp -/

/-- No `verbose` entry of a lead's data has the time stamp `t`. -/
def Unstamped (t : String) : Json → Prop
  | .obj m => ∀ verbose, ("verbose", verbose) ∈ m → verbose.get "timestamp" ≠ some (.str t)
  | _ => True

/-- What a statement brings into `vertical_data`. -/
def LeadStatement.data : LeadStatement → Option Json
  | .insertLead c => some c.verticalData
  | .updateSold u | .updateStandard u => u.verticalData
  | .setStatus _ _ vd => some vd
  | .resetToken _ _ | .setPost _ _ | .setFullpostWinner _ _ _ _ _ | .claim _ _ _ => none

/-- The data of a statement does not have the time stamp `t`. -/
def LeadStatement.Unstamped (t : String) (st : LeadStatement) : Prop :=
  ∀ data, st.data = some data → LeadsNebula.Unstamped t data

/-- None of the statements that an effect leads to has data with the time stamp `t`. -/
def Effect.Unstamped (t : String) (e : Effect) : Prop := ∀ st ∈ e.statements, st.Unstamped t

variable {t : String}

theorem Unstamped.get {data : Json} (h : Unstamped t data) {verbose : Json}
    (hv : data.get "verbose" = some verbose) : verbose.get "timestamp" ≠ some (.str t) := by
  cases data with
  | obj m =>
    obtain ⟨before, after, hm, -⟩ := List.lookup_eq_some_iff.mp hv
    refine h verbose ?_
    rw [hm]
    exact List.mem_append_right _ List.mem_cons_self
  | _ => cases hv

theorem unstamped_merge {m₁ m₂ : List (String × Json)} (h₁ : Unstamped t (.obj m₁))
    (h₂ : Unstamped t (.obj m₂)) : Unstamped t (.obj (Json.mergeFields m₁ m₂)) := by
  intro verbose hv
  exact (Json.mem_mergeFields hv).elim (h₁ verbose) (h₂ verbose)

theorem Unstamped.concat {a b : Json} (ha : Unstamped t a) (hb : Unstamped t b) :
    Unstamped t (a.concat b) := by
  cases a with
  | obj m₁ =>
    cases b with
    | obj m₂ => exact unstamped_merge ha hb
    | _ => trivial
  | _ => trivial

/-- A request made at another time makes data with another time stamp. -/
theorem unstamped_timingData {auctionTiming verbose : List (String × Json)} {stamp : String}
    (hstamp : verbose.lookup "timestamp" = some (.str stamp)) (hne : stamp ≠ t) :
    Unstamped t (.obj (timingData auctionTiming verbose)) := by
  intro v hv
  simp only [timingData, List.mem_cons, Prod.mk.injEq, String.reduceEq, false_and, true_and,
    false_or, List.not_mem_nil, or_false] at hv
  subst hv
  rw [Json.get, hstamp]
  intro h
  exact hne (Json.str.inj (Option.some_inj.mp h))

/-! ### Statements and effects -/

theorem unstamped_applyRow {st : LeadStatement} (hst : st.Unstamped t) (now : Timestamp) {r : Lead}
    (hr : Unstamped t r.verticalData) : Unstamped t (st.applyRow now r).verticalData := by
  rw [LeadStatement.applyRow]
  split
  · cases st with
    | updateSold u =>
      cases hu : u.verticalData with
      | none => simpa only [LeadStatement.setRow, hu, Option.getD_none] using hr
      | some data => simpa only [LeadStatement.setRow, hu, Option.getD_some] using hst data hu
    | updateStandard u =>
      cases hu : u.verticalData with
      | none => simpa only [LeadStatement.setRow, hu] using hr
      | some data => simpa only [LeadStatement.setRow, hu] using hr.concat (hst data hu)
    | setStatus l status vd => exact hst vd rfl
    | _ => exact hr
  · exact hr

theorem unstamped_leadUpdate {u : LeadUpdate}
    (h : ∀ data, u.verticalData = some data → Unstamped t data) :
    Effect.Unstamped t (.enqueue (.leadUpdate u)) := by
  intro st hst data hdata
  have hmem : st ∈ u.statements := hst
  rw [LeadUpdate.statements, List.mem_append] at hmem
  rcases hmem with hmem | hmem
  · split at hmem
    · rw [List.mem_singleton.mp hmem] at hdata
      exact h data hdata
    · cases hmem
  · split at hmem
    · rw [List.mem_singleton.mp hmem] at hdata
      cases hdata
    · rw [List.mem_singleton.mp hmem] at hdata
      exact h data hdata

/-- A record that is no statement on `leads`. -/
theorem unstamped_enqueue {task : BackgroundTask} (h : task.statements = []) :
    Effect.Unstamped t (.enqueue task) := by
  intro st hst
  rw [Effect.statements, h] at hst
  cases hst

theorem unstamped_of_data {st : LeadStatement} (h : st.data = none) : st.Unstamped t := by
  intro data hdata
  rw [h] at hdata
  cases hdata

theorem unstamped_exec {st : LeadStatement} (h : st.Unstamped t) :
    Effect.Unstamped t (.exec st) := by
  intro st' hst'
  rwa [List.mem_singleton.mp hst']

namespace PingTreeRouter

variable {r : PingTreeRouter} {env : RouteEnv} {priority : Uuid → Option ℤ}
  {campaigns : List Campaign} {e : Effect}

/-- The router writes the data of its copy back, with an entry of its own. -/
theorem unstamped_updateLeadStatus (hr : Unstamped t r.lead.verticalData) {status : LeadStatus}
    {error : Option String} (he : e ∈ r.updateLeadStatus env status error) : e.Unstamped t := by
  rw [updateLeadStatus] at he
  split at he
  · rw [List.mem_singleton.mp he]
    refine unstamped_exec fun data hdata => ?_
    obtain rfl := Option.some.inj hdata
    split
    · next err fields _ hfields =>
      rw [hfields] at hr
      intro verbose hv
      rcases Json.mem_insertField hv with heq | hv
      · exact absurd (Prod.mk.inj heq).1 (by decide)
      · exact hr verbose hv
    · exact hr
  · cases he

theorem unstamped_pingAudit {responses : List Attributed}
    (he : e ∈ r.pingAudit env campaigns responses) : e.Unstamped t := by
  obtain ⟨x, -, rfl⟩ := List.mem_map.mp he
  exact unstamped_enqueue rfl

/-- The winner's update only brings the bid. -/
theorem unstamped_winnerUpdate (winner : BuyerResponse) (c : Campaign) :
    Effect.Unstamped t (.enqueue (.leadUpdate (r.winnerUpdate winner c))) := by
  refine unstamped_leadUpdate fun data hdata => ?_
  obtain ⟨bid, -, rfl⟩ := Option.map_eq_some_iff.mp hdata
  intro verbose hv
  exact absurd (Prod.mk.inj (List.mem_singleton.mp hv)).1 (by decide)

variable [StdText]

theorem unstamped_routePingAuction (hr : Unstamped t r.lead.verticalData)
    (he : e ∈ (r.routePingAuction env priority campaigns).effects) : e.Unstamped t := by
  simp only [routePingAuction] at he
  split at he
  · rcases List.mem_append.mp he with he | he
    · exact unstamped_pingAudit he
    · exact unstamped_updateLeadStatus hr he
  · split at he
    · exact unstamped_pingAudit he
    · split at he
      · exact unstamped_pingAudit he
      · rcases List.mem_append.mp he with he | he
        · exact unstamped_pingAudit he
        · rw [List.mem_singleton.mp he]
          exact unstamped_winnerUpdate _ _

theorem unstamped_routePost (hr : Unstamped t r.lead.verticalData)
    (he : e ∈ (r.routePost env campaigns).effects) : e.Unstamped t := by
  rw [routePost] at he
  split at he
  · exact unstamped_updateLeadStatus hr he
  · split at he
    · exact unstamped_updateLeadStatus hr he
    · split at he
      · rw [postAnswered] at he
        split at he
        · rcases List.mem_cons.mp he with rfl | he
          · exact unstamped_enqueue rfl
          · rw [List.mem_singleton.mp he]
            exact unstamped_exec (unstamped_of_data rfl)
        · rcases List.mem_cons.mp he with rfl | he
          · exact unstamped_enqueue rfl
          · exact unstamped_updateLeadStatus hr he
      · exact unstamped_updateLeadStatus hr he

theorem unstamped_routeFullpostDirect (hr : Unstamped t r.lead.verticalData)
    (he : e ∈ (r.routeFullpostDirect env priority campaigns).effects) : e.Unstamped t := by
  simp only [routeFullpostDirect] at he
  split at he
  · exact unstamped_updateLeadStatus hr he
  · split at he
    · cases he
    · rcases List.mem_cons.mp he with rfl | he
      · exact unstamped_exec (unstamped_of_data rfl)
      · obtain ⟨x, -, rfl⟩ := List.mem_map.mp he
        exact unstamped_enqueue rfl

theorem unstamped_routeFullpostSplit (hr : Unstamped t r.lead.verticalData)
    (he : e ∈ (r.routeFullpostSplit env priority campaigns).effects) : e.Unstamped t := by
  simp only [routeFullpostSplit] at he
  split at he
  · exact unstamped_routePingAuction (r := { r with requestType := .ping }) hr he
  · split at he
    · exact unstamped_routePingAuction (r := { r with requestType := .ping }) hr he
    · rcases List.mem_append.mp he with he | he
      · exact unstamped_routePingAuction (r := { r with requestType := .ping }) hr he
      · exact unstamped_routePost (r := r.postRouter _) hr he

/-- A call brings no time stamp that its copy of the lead does not have. -/
theorem unstamped_route (hr : Unstamped t r.lead.verticalData) (he : e ∈ (r.route env).effects) :
    e.Unstamped t := by
  rcases r.route_cases env with ⟨-, -, err, h⟩ | ⟨-, logged, reported, h⟩ | ⟨tree, ptcs, -, h⟩
  · rw [h] at he
    cases he
  · rw [h] at he
    exact unstamped_updateLeadStatus hr he
  · rw [h] at he
    split at he
    · exact unstamped_routePingAuction hr he
    · exact unstamped_routePost hr he
    · rw [routeFullpost] at he
      split at he
      · exact unstamped_routeFullpostSplit hr he
      · exact unstamped_routeFullpostDirect hr he
    · exact unstamped_updateLeadStatus hr he

end PingTreeRouter

namespace LeadRequest

variable {req : LeadRequest} {new : NewLead} {lead : Lead} {token : String} {now : Timestamp}
  {env : RouteEnv} {timing : AuctionTiming} {res : RoutingResult} {e : Effect}

variable [StdText]

theorem unstamped_auctionTimingData (h : timing.timestamp ≠ t) :
    Unstamped t (.obj (req.auctionTimingData new timing res)) :=
  unstamped_timingData rfl h

omit [StdText] in
theorem unstamped_postVerticalData (hlead : Unstamped t lead.verticalData)
    (h : timing.timestamp ≠ t) : Unstamped t (req.postVerticalData lead now timing res) := by
  have hdata : Unstamped t (.obj (req.postTimingData lead now timing res)) :=
    unstamped_timingData rfl h
  simp only [postVerticalData]
  split
  · next fields hfields =>
    rw [hfields] at hlead
    exact unstamped_merge hlead hdata
  · exact hdata

theorem unstamped_createEffects (h : timing.timestamp ≠ t)
    (he : e ∈ req.createEffects new now env timing) : e.Unstamped t := by
  have hempty : Unstamped t (.obj []) := nofun
  simp only [createEffects, List.cons_append, List.mem_cons, List.mem_append] at he
  -- the INSERT, what the router does, and what the handler records of its result
  rcases he with rfl | he | he
  · intro st hst data hdata
    rw [List.mem_singleton.mp hst] at hdata
    obtain rfl := Option.some.inj hdata
    exact hempty
  · exact PingTreeRouter.unstamped_route (r := req.router new now) hempty he
  · rw [afterRouting.eq_def] at he
    split at he
    · cases he
    · split at he
      · next res _ =>
        -- the timing data of this request hold no other timestamp than its own
        have hupdate : ∀ data, (req.finalUpdate new timing res).verticalData = some data →
            Unstamped t data := by
          intro data hdata
          obtain rfl := Option.some.inj hdata
          exact unstamped_auctionTimingData h
        simp only [recordResult, payloadTasks, List.mem_append, List.mem_ite_nil_right,
          List.mem_singleton] at he
        rcases he with ((⟨-, rfl⟩ | ⟨-, rfl⟩) | ⟨-, rfl⟩) | rfl
        · exact unstamped_enqueue rfl
        · exact unstamped_enqueue rfl
        · intro st hst
          rw [List.mem_singleton.mp hst]
          exact hupdate
        · exact unstamped_leadUpdate hupdate
      · cases he

theorem unstamped_postEffects (hlead : Unstamped t lead.verticalData) (h : timing.timestamp ≠ t)
    (he : e ∈ req.postEffects lead token now env timing) : e.Unstamped t := by
  rw [postEffects, List.mem_append] at he
  rcases he with he | he
  · exact PingTreeRouter.unstamped_route (r := req.postRouter lead) hlead he
  · rw [recordPost.eq_def] at he
    split at he
    · next res _ =>
      rw [List.mem_cons, List.mem_singleton] at he
      rcases he with rfl | rfl
      · exact unstamped_enqueue rfl
      · refine unstamped_leadUpdate fun data hdata => ?_
        rw [postUpdate] at hdata
        split at hdata
        · obtain rfl := Option.some.inj hdata
          exact unstamped_postVerticalData hlead h
        · obtain rfl := Option.some.inj hdata
          exact unstamped_postVerticalData hlead h
    · cases he

end LeadRequest

/-! ### Runs -/

/-- The time stamp of the request that the action routes. -/
def Action.stamp : Action → Option String
  | .submit _ _ _ timing | .route _ _ timing => some timing.timestamp
  | _ => none

/-- The time stamp `t` is in no row, in no copy of a row and in no pending statement. -/
structure Sys.Unstamped (t : String) (s : Sys) : Prop where
  rows : ∀ l r, s.leads.find l = some r → LeadsNebula.Unstamped t r.verticalData
  copies : ∀ lead, s.Copy lead → LeadsNebula.Unstamped t lead.verticalData
  pending : ∀ st, s.Pending st → st.Unstamped t

theorem unstamped_init (t : String) : Sys.init.Unstamped t where
  rows l r hr := by cases hr
  copies lead hc := by
    cases hc with
    | cached h => cases h
    | post hth h => cases hth
  pending st hst := absurd hst (not_pending_init st)

section Runs

variable [StdText] {s s' : Sys} {a : Action}

theorem unstamped_rows_step (hs : s.Unstamped t) (h : Step s a s') :
    ∀ l r, s'.leads.find l = some r → Unstamped t r.verticalData := by
  intro l r hr
  rcases step_exec h with ⟨-, hleads, -⟩ | ⟨st, hex, hleads, -⟩
  · exact hs.rows l r (hleads ▸ hr)
  · -- what an action runs was pending, or is a claim
    have hst : st.Unstamped t := by
      have hpending : s.Pending st ∨ _ := pending_of_executed hex
      rcases hpending with hp | hp | ⟨-, _, _, _, rfl⟩
      · exact hs.pending st hp
      · cases hp
      · exact unstamped_of_data rfl
    rw [hleads] at hr
    rcases LeadStatement.find_exec s.now st s.leads l with hx | ⟨c, rfl, hx⟩
    · rw [hx] at hr
      obtain ⟨r₀, hr₀, rfl⟩ := Option.map_eq_some_iff.mp hr
      exact unstamped_applyRow hst s.now (hs.rows l r₀ hr₀)
    · rw [hx] at hr
      rcases Option.or_eq_some_iff.mp hr with hr | ⟨-, hr⟩
      · exact hs.rows l r hr
      · split at hr
        · obtain rfl := Option.some.inj hr
          exact hst c.verticalData rfl
        · cases hr

theorem unstamped_pending_step (hs : s.Unstamped t) (ha : a.stamp ≠ some t) (h : Step s a s') :
    ∀ st, s'.Pending st → st.Unstamped t := by
  intro st hst
  rcases step_pending h hst with hp | ⟨e, he, hmem⟩
  · exact hs.pending st hp
  · cases h with
    | submit htype hnew =>
      exact LeadRequest.unstamped_createEffects (fun heq => ha (congrArg some heq)) he st hmem
    | route hi =>
      simp only [Sys.newEffects, hi] at he
      exact LeadRequest.unstamped_postEffects
        (hs.copies _ (.post (List.mem_of_getElem? hi) rfl))
          (fun heq => ha (congrArg some heq)) he st
        hmem
    | _ => cases he

theorem unstamped_step (hs : s.Unstamped t) (ha : a.stamp ≠ some t) (h : step s a = some s') :
    s'.Unstamped t := by
  have h := step_cases h
  refine ⟨unstamped_rows_step hs h, fun lead hc => ?_, unstamped_pending_step hs ha h⟩
  rcases step_copy h hc with hc | ⟨-, hrow⟩
  · exact hs.copies lead hc
  · exact hs.rows _ _ hrow

/-- A time stamp that no action of a run has is nowhere in its last state. -/
theorem unstamped_run {actions : List Action} (hclock : ∀ a ∈ actions, a.stamp ≠ some t)
    (h : Transition.run step Sys.init actions = some s) : s.Unstamped t :=
  Transition.inv_of_run (P := fun _ a => True ∧ a.stamp ≠ some t)
    (fun hs ha hstep => unstamped_step hs ha.2 hstep) (unstamped_init t)
    (Transition.along_and (Transition.along_true _ _) hclock) h

/-- In every run of requests: the row of a post that is sold does not record the sale, if the clock
has not shown the time of the post before. -/
theorem sale_never_recorded {actions : List Action} {i : ℕ} {p : ClaimedPost} {env : RouteEnv}
    {timing : AuctionTiming} {res : RoutingResult} {s₀ : Sys} {r₀ : Lead}
    (hrun : Transition.run step Sys.init actions = some s₀)
    (hclock : ∀ a ∈ actions, a.stamp ≠ some timing.timestamp)
    (h : SoldPostRun i p env timing res s₀ s) (hrow : s₀.leads.find p.lead.uuid = some r₀) :
    ∃ r, s.leads.find p.lead.uuid = some r ∧
      ¬ r.Records res (p.req.postTimingData p.lead s₀.now timing res) := by
  obtain ⟨r, hr, hiff⟩ := recorded_iff h hrow
  refine ⟨r, hr, fun hrec => ?_⟩
  obtain ⟨-, hdata⟩ := hiff.mp hrec
  -- the row had the `verbose` entry of the post, with its time stamp, before the post was routed
  have hverbose := hdata.verticalData _ (List.mem_cons_of_mem _ List.mem_cons_self)
  exact ((unstamped_run hclock hrun).rows _ _ hrow).get hverbose rfl

end Runs

open Sample in
/-- The post of `claimedRun` and `soldRun`. -/
theorem sale_never_recorded_claimed :
    ∃ s₀ s p res r, Transition.run step Sys.init claimedRun = some s₀ ∧
      SoldPostRun 1 p env postTiming res s₀ s ∧ s.leads.find p.lead.uuid = some r ∧
      ¬ r.Records res (p.req.postTimingData p.lead s₀.now postTiming res) := by
  obtain ⟨s₀, s, p, res, hs₀, hsold, ⟨r₀, hr₀, -⟩, -⟩ := soldPostRun_sample
  obtain ⟨r, hr, hrec⟩ := sale_never_recorded hs₀ (by decide) hsold hr₀
  exact ⟨s₀, s, p, res, r, hs₀, hsold, hr, hrec⟩

end LeadsNebula
