/-
The outcomes of routing a new lead.

A call of the router for a ping or a fullpost fails with an error, or reaches no
valid response and writes a failure status (`Failed`), or has a winner.  For a
ping, `auctionWinner` says which: the choice of the auction, as a function of
what the call reads.

* `selectWinnerIn_mem` — the winner is one of the responses;
* `route_ping_cases` — what a ping does with a winner and without one;
* `failed_of_reported` — a call that reports a failure status has failed, unless
  it is a ping whose winner has a status that reads as a failure.
-/
import LeadsNebula.PingTreeRouter

namespace LeadsNebula

/-! ### The winner is one of the responses -/

theorem minByPriority_mem {l : List Attributed} {w : Attributed} (h : minByPriority l = some w) :
    w ∈ l := by
  induction l with
  | nil => cases h
  | cons a l ih =>
    rw [minByPriority] at h
    split at h
    · rw [← Option.some_inj.mp h]
      exact List.mem_cons_self
    · next b hb =>
      split at h
      · rw [← Option.some_inj.mp h]
        exact List.mem_cons_self
      · rw [Option.some_inj] at h
        subst h
        exact List.mem_cons_of_mem _ (ih hb)

theorem selectWinnerIn_mem {rd : ℚ → ℚ} {responses : List Attributed} {tieBreak : ℕ}
    {w : Attributed} (h : selectWinnerIn rd responses tieBreak = some w) : w ∈ responses := by
  simp only [selectWinnerIn] at h
  split at h
  · exact List.mem_of_head? h
  · next best rest hsort =>
    -- every candidate is a response with a bid
    have hsub : ∀ {p : Attributed → Bool} {x : Attributed}, x ∈ (best :: rest).takeWhile p →
        x ∈ responses := by
      intro p x hx
      have hx := (List.takeWhile_prefix p).subset hx
      rw [← hsort, sortOffers, List.mem_mergeSort] at hx
      exact List.mem_of_mem_filter hx
    split at h
    · next only honly =>
      rw [Option.some_inj] at h
      subst h
      exact hsub (honly ▸ List.mem_singleton_self _)
    · split at h
      · next winner hmin =>
        rw [Option.some_inj] at h
        subst h
        exact hsub (List.mem_of_mem_filter (minByPriority_mem hmin))
      · exact hsub (List.mem_of_getElem? h)

namespace PingTreeRouter

variable [StdText] {r : PingTreeRouter} {env : RouteEnv}

/-- The winner of an auction among campaigns, with its campaign. -/
def winnerAmong (r : PingTreeRouter) (env : RouteEnv) (priority : Uuid → Option ℤ)
    (campaigns : List Campaign) : Option (BuyerResponse × Campaign) :=
  (selectWinnerF64 ((r.pingResponses env priority campaigns).filter fun x => validPing x.1)
    env.tieBreak).bind fun w =>
      (campaigns.find? fun c => c.id = w.2.1).map fun c => (w.1, c)

/-- The winner of the auction for a ping, if the call comes to an auction and it has one. -/
def auctionWinner (r : PingTreeRouter) (env : RouteEnv) : Option (BuyerResponse × Campaign) :=
  env.callable.bind fun (_, ptcs) =>
    r.winnerAmong env (priorityOf ptcs) (activeCampaigns env ptcs)

/-- Audit records only. -/
def IsAudit (es : List Effect) : Prop := ∀ e ∈ es, ∃ t, e = .enqueue (.buyerResponse t)

/-- No valid response: the router writes a failure status and reports it. -/
inductive Failed (r : PingTreeRouter) (env : RouteEnv) : Routed → Prop
  | mk {audit : List Effect} {status : LeadStatus} {err msg : String} {timings : Option (List Json)}
      (haudit : IsAudit audit) (hstatus : status ∈ [.timeout, .rejected, .error]) :
      Failed r env ⟨audit ++ r.updateLeadStatus env status (some err),
        .ok { RoutingResult.failed status.asStr msg with perBuyerTimings := timings }⟩

omit [StdText] in
theorem isAudit_nil : IsAudit [] := by
  intro e he
  cases he

omit [StdText] in
theorem isAudit_statements {es : List Effect} (h : IsAudit es) :
    es.flatMap Effect.statements = [] := by
  rw [List.flatMap_eq_nil_iff]
  intro e he
  obtain ⟨t, rfl⟩ := h e he
  rfl

omit [StdText] in
theorem isAudit_pingAudit (r : PingTreeRouter) (env : RouteEnv) (campaigns : List Campaign)
    (responses : List Attributed) : IsAudit (r.pingAudit env campaigns responses) := by
  intro e he
  obtain ⟨x, -, rfl⟩ := List.mem_map.mp he
  exact ⟨_, rfl⟩

omit [StdText] in
theorem failed_failWith (logged reported : String) :
    Failed r env (r.failWith env logged reported) :=
  .mk isAudit_nil (by decide)

omit [StdText] in
theorem failureStatus_mem (responses : List Attributed) (rejected : BuyerResponse → Bool) :
    failureStatus responses rejected ∈ [.timeout, .rejected, .error] := by
  rw [failureStatus]
  split
  · decide
  · split <;> decide

omit [StdText] in
theorem selectWinnerF64_nil (tieBreak : ℕ) : selectWinnerF64 [] tieBreak = none := by
  have hsort : ∀ value, sortOffers value [] = [] := fun _ => List.mergeSort_nil ..
  rw [selectWinnerF64, selectWinnerIn, List.filter_nil, hsort]
  rfl

theorem winnerAmong_valid {priority : Uuid → Option ℤ} {campaigns : List Campaign}
    {winner : BuyerResponse} {c : Campaign}
    (h : r.winnerAmong env priority campaigns = some (winner, c)) : validPing winner = true := by
  obtain ⟨w, hw, hc⟩ := Option.bind_eq_some_iff.mp h
  obtain ⟨c', -, hpair⟩ := Option.map_eq_some_iff.mp hc
  have hvalid := List.of_mem_filter (selectWinnerIn_mem hw)
  rw [(Prod.mk.inj hpair).1] at hvalid
  exact hvalid

theorem winnerAmong_nil (r : PingTreeRouter) (env : RouteEnv) (priority : Uuid → Option ℤ) :
    r.winnerAmong env priority [] = none := by
  have hnil : r.pingResponses env priority [] = [] := by
    rw [pingResponses, List.map_eq_nil_iff, Completion.inOrder, List.filterMap_eq_nil_iff]
    intro n _
    rfl
  rw [winnerAmong, hnil, List.filter_nil, selectWinnerF64_nil]
  rfl

/-- An auction with a winner records it; one without fails. -/
theorem routePingAuction_cases (r : PingTreeRouter) (env : RouteEnv) (priority : Uuid → Option ℤ)
    (campaigns : List Campaign) :
    (∃ winner c audit timings, r.winnerAmong env priority campaigns = some (winner, c) ∧
      IsAudit audit ∧ r.routePingAuction env priority campaigns =
        ⟨audit ++ [.enqueue (.leadUpdate (r.winnerUpdate winner c))],
          .ok (winnerResult winner c timings)⟩) ∨
    r.winnerAmong env priority campaigns = none ∧
      ((∃ audit e, IsAudit audit ∧
        r.routePingAuction env priority campaigns = ⟨audit, .error e⟩) ∨
      Failed r env (r.routePingAuction env priority campaigns)) := by
  have haudit := isAudit_pingAudit r env campaigns (r.pingResponses env priority campaigns)
  simp only [routePingAuction, winnerAmong]
  by_cases hempty : ((r.pingResponses env priority campaigns).filter
      fun x => validPing x.1).isEmpty = true
  · -- no valid answer
    rw [if_pos hempty, List.isEmpty_iff.mp hempty, selectWinnerF64_nil]
    exact Or.inr ⟨rfl, Or.inr (.mk haudit (failureStatus_mem _ _))⟩
  · rw [if_neg hempty]
    split
    · next hnone =>
      -- the choice has no result
      rw [hnone]
      exact Or.inr ⟨rfl, Or.inl ⟨_, _, haudit, rfl⟩⟩
    · next winner winnerId prio hwin =>
      rw [hwin, Option.bind_some]
      split
      · next hnone =>
        -- the winner is of no campaign of the tree
        simp only [hnone]
        exact Or.inr ⟨rfl, Or.inl ⟨_, _, haudit, rfl⟩⟩
      · next c hc =>
        simp only [hc]
        exact Or.inl ⟨winner, c, _, _, rfl, haudit, rfl⟩

theorem auctionWinner_of_callable {tree : PingTree} {ptcs : List PingTreeCampaign}
    (h : env.callable = some (tree, ptcs)) :
    r.auctionWinner env = r.winnerAmong env (priorityOf ptcs) (activeCampaigns env ptcs) := by
  rw [auctionWinner, h]
  rfl

/-- The winner is the response of its campaign. -/
theorem auctionWinner_response {winner : BuyerResponse} {c : Campaign}
    (h : r.auctionWinner env = some (winner, c)) :
    validPing winner = true ∧ winner = r.pingResponse env c := by
  obtain ⟨⟨tree, ptcs⟩, hcall, -⟩ := Option.bind_eq_some_iff.mp h
  rw [auctionWinner_of_callable hcall] at h
  refine ⟨winnerAmong_valid h, ?_⟩
  obtain ⟨w, hw, hc⟩ := Option.bind_eq_some_iff.mp h
  obtain ⟨c', hfind, hpair⟩ := Option.map_eq_some_iff.mp hc
  obtain ⟨rfl, rfl⟩ := Prod.mk.inj hpair
  obtain ⟨c₀, hc₀, rfl⟩ := List.mem_map.mp (List.mem_of_mem_filter (selectWinnerIn_mem hw))
  have hid := List.find?_some hfind
  rw [decide_eq_true_iff] at hid
  rw [activeCampaigns_inj (List.mem_of_find?_eq_some hfind)
    (Completion.inOrder_subset _ _ hc₀) hid]

theorem auctionWinner_eq_none
    (h : ∀ tree ptcs, env.callable = some (tree, ptcs) → activeCampaigns env ptcs = []) :
    r.auctionWinner env = none := by
  rcases hcall : env.callable with _ | ⟨tree, ptcs⟩
  · rw [auctionWinner, hcall]
    rfl
  · rw [auctionWinner_of_callable hcall, h tree ptcs hcall, winnerAmong_nil]

/-- What a ping does with a winner, and without one. -/
theorem route_ping_cases (hr : r.requestType = .ping) (env : RouteEnv) :
    (∃ winner c audit timings, r.auctionWinner env = some (winner, c) ∧ validPing winner = true ∧
      IsAudit audit ∧ r.route env =
        ⟨audit ++ [.enqueue (.leadUpdate (r.winnerUpdate winner c))],
          .ok (winnerResult winner c timings)⟩) ∨
    r.auctionWinner env = none ∧
      ((∃ audit e, IsAudit audit ∧ r.route env = ⟨audit, .error e⟩) ∨
        Failed r env (r.route env)) := by
  rcases r.route_cases env with ⟨hcall, -, e, h⟩ | ⟨hempty, logged, reported, h⟩ |
    ⟨tree, ptcs, hcall, h⟩
  · refine Or.inr ⟨auctionWinner_eq_none ?_, Or.inl ⟨[], e, isAudit_nil, h⟩⟩
    intro tree ptcs hsome
    rw [hcall] at hsome
    cases hsome
  · rw [h]
    exact Or.inr ⟨auctionWinner_eq_none hempty, Or.inr (failed_failWith logged reported)⟩
  · simp only [hr] at h
    rw [h, auctionWinner_of_callable hcall]
    rcases r.routePingAuction_cases env (priorityOf ptcs) (activeCampaigns env ptcs) with
      ⟨winner, c, audit, timings, hwin, haudit, hauction⟩ | hnone
    · exact Or.inl ⟨winner, c, audit, timings, hwin, winnerAmong_valid hwin, haudit, hauction⟩
    · exact Or.inr hnone

/-! ### Reported failures -/

/-- A status that reports a failure. -/
def reportsFailure (status : String) : Bool :=
  status = "rejected" || status = "timeout" || status = "error"

omit [StdText] in
theorem failed_congr {r' : PingTreeRouter} {routed : Routed} (h : Failed r' env routed)
    (hlead : r'.lead = r.lead) : Failed r env routed := by
  cases h with
  | @mk audit status err msg timings haudit hstatus =>
    have hsame : r'.updateLeadStatus env status (some err) =
        r.updateLeadStatus env status (some err) := by
      rw [updateLeadStatus, updateLeadStatus, hlead]
    rw [hsame]
    exact .mk haudit hstatus

omit [StdText] in
/-- A ping that succeeded leaves a fullpost sold or accepted. -/
theorem mergeResults_status {ping post : RoutingResult} (h : ping.success = true) :
    reportsFailure (mergeResults ping post).status = false := by
  simp only [mergeResults, h, if_true]
  split <;> rfl

theorem failed_of_routeFullpostSplit {priority : Uuid → Option ℤ} {campaigns : List Campaign}
    {res : RoutingResult} (hres : (r.routeFullpostSplit env priority campaigns).result = .ok res)
    (hfail : reportsFailure res.status = true) :
    Failed r env (r.routeFullpostSplit env priority campaigns) := by
  rw [routeFullpostSplit] at hres ⊢
  rcases routePingAuction_cases { r with requestType := .ping } env priority campaigns with
    ⟨winner, c, audit, timings, hwin, haudit, hping⟩ | ⟨-, ⟨audit, e, haudit, hping⟩ | hping⟩
  · -- with a winner the fullpost goes on to the post, and does not report a failure
    have hsuccess : (winnerResult winner c timings).success = true := by
      have hvalid := winnerAmong_valid hwin
      rw [validPing, Bool.and_eq_true, Bool.and_eq_true, Bool.and_eq_true] at hvalid
      exact hvalid.1.1.1
    simp only [hping, hsuccess, Bool.not_true, Bool.false_eq_true, if_false] at hres
    rcases hpost : ((r.postRouter (winnerResult winner c timings)).routePost env campaigns).result
      with e | post
    · rw [hpost] at hres
      cases hres
    · rw [hpost] at hres
      rw [← Except.ok.inj hres, mergeResults_status hsuccess] at hfail
      cases hfail
  · simp only [hping] at hres
    cases hres
  · generalize { r with requestType := .ping }.routePingAuction env priority campaigns = routed
      at hping hres ⊢
    have hfailed : Failed r env routed := failed_congr hping rfl
    cases hping with
    | mk haudit hstatus =>
      simp only [RoutingResult.failed, Bool.not_false, if_true]
      exact hfailed

theorem failed_of_routeFullpostDirect {priority : Uuid → Option ℤ} {campaigns : List Campaign}
    {res : RoutingResult} (hres : (r.routeFullpostDirect env priority campaigns).result = .ok res)
    (hfail : reportsFailure res.status = true) :
    Failed r env (r.routeFullpostDirect env priority campaigns) := by
  simp only [routeFullpostDirect] at hres ⊢
  split at hres
  · exact .mk isAudit_nil (failureStatus_mem _ _)
  · split at hres
    · cases hres
    · rw [← Except.ok.inj hres] at hfail
      cases hfail

/-- A call that reports a failure status has failed, unless it is a ping whose winner has a
status that reads as a failure. -/
theorem failed_of_reported (hr : r.requestType = .ping ∨ r.requestType = .fullpost)
    {res : RoutingResult} (hres : (r.route env).result = .ok res)
    (hfail : reportsFailure res.status = true) :
    Failed r env (r.route env) ∨ r.requestType = .ping ∧
      ∃ winner c, r.auctionWinner env = some (winner, c) ∧
        reportsFailure (mapPingStatusToLeadStatus winner.status winner.success) = true := by
  -- the auction of a ping, or the fullpost
  rcases hr with hr | hr
  · rcases route_ping_cases hr env with ⟨winner, c, audit, timings, hwin, -, -, h⟩ |
      ⟨-, ⟨audit, e, -, h⟩ | h⟩
    · rw [h] at hres
      rw [← Except.ok.inj hres] at hfail
      exact Or.inr ⟨hr, winner, c, hwin, hfail⟩
    · rw [h] at hres
      cases hres
    · exact Or.inl h
  · left
    rcases r.route_cases env with ⟨-, -, e, h⟩ | ⟨-, logged, reported, h⟩ | ⟨tree, ptcs, -, h⟩
    · rw [h] at hres
      cases hres
    · rw [h]
      exact failed_failWith logged reported
    · simp only [hr, routeFullpost] at h
      -- the fullpost is split or goes to the buyers at once
      split at h
      · rw [h] at hres ⊢
        exact failed_of_routeFullpostSplit hres hfail
      · rw [h] at hres ⊢
        exact failed_of_routeFullpostDirect hres hfail

end PingTreeRouter

end LeadsNebula
