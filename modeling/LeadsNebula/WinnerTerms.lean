/-
Which answers win a ping auction, and on what terms.

The buyers of an auction answer in some order, and the draw decides where nothing else
does.  An answer that wins in one of these ways is one that can win among the valid
answers (`winnerAmong_iff_canWin`), by their bids as floats.  What is valid is decided by
`success`, `bid`, `promise_id` and the exact text `timeout` of the status, each parsed on its
own.

* `auction_has_winner_iff` — the auction has a winner, unless a buyer offers an
  infinite bid: the distance of the highest bid to itself is then no number, no
  candidate is left, and the draw panics;
* `refusing_buyer_never_wins_iff` — a buyer that says no wins if its answer is one that
  can win;
* `winner_pays_bid_iff` — the winner pays its bid unless it also names a price;
* `nearest_of_numberField` — the numbers read from an answer are floats.
-/
import LeadsNebula.FullpostSplit
import LeadsNebula.WinnerSelection

namespace LeadsNebula

/-- The same call with another order of completion and another draw. -/
def RouteEnv.drawn (env : RouteEnv) (order : List ℕ) (tieBreak : ℕ) : RouteEnv :=
  { env with order := order, tieBreak := tieBreak }

namespace PingTreeRouter

section Answers

variable [StdText] {r : PingTreeRouter} {env : RouteEnv} {priority : Uuid → Option ℤ}
  {campaigns : List Campaign}

/-! ### The answers that can win -/

/-- The valid answers of an auction. -/
def validAnswers (r : PingTreeRouter) (env : RouteEnv) (priority : Uuid → Option ℤ)
    (campaigns : List Campaign) : List Attributed :=
  (campaigns.map fun c => (r.pingResponse env c, c.id, priority c.id)).filter
    fun x => validPing x.1

omit [StdText] in
theorem hasBid_of_validPing {b : BuyerResponse} (h : validPing b = true) : hasBid b = true := by
  rw [validPing, Bool.and_eq_true, Bool.and_eq_true, Bool.and_eq_true] at h
  exact h.1.1.2

theorem hasBid_of_mem_validAnswers {x : Attributed}
    (hx : x ∈ r.validAnswers env priority campaigns) : hasBid x.1 = true :=
  hasBid_of_validPing (List.mem_filter.mp hx).2

/-- However the calls complete, the auction gets the valid answers. -/
theorem mem_pingResponses_drawn {order : List ℕ}
    (horder : order.Perm (List.range campaigns.length)) (tieBreak : ℕ) (x : Attributed) :
    x ∈ (r.pingResponses (env.drawn order tieBreak) priority campaigns).filter
        (fun x => validPing x.1) ↔
      x ∈ r.validAnswers env priority campaigns :=
  (((Completion.inOrder_perm horder).map _).filter _).mem_iff

/-- An answer that wins can win: the auction sees the valid answers and no others. -/
theorem canWin_of_winnerAmong {w : BuyerResponse} {order : List ℕ} {tieBreak : ℕ} {c : Campaign}
    (horder : order.Perm (List.range campaigns.length))
    (hwin : r.winnerAmong (env.drawn order tieBreak) priority campaigns = some (w, c)) :
    FiniteBids (r.validAnswers env priority campaigns) ∧
      ∃ x, CanWin (r.validAnswers env priority campaigns) x ∧ x.1 = w := by
  obtain ⟨x, hx, hc⟩ := Option.bind_eq_some_iff.mp hwin
  obtain ⟨c', -, hpair⟩ := Option.map_eq_some_iff.mp hc
  have hmem : ∀ y, y ∈ (r.pingResponses (env.drawn order tieBreak) priority campaigns).filter
      (fun x => validPing x.1) ↔ y ∈ r.validAnswers env priority campaigns :=
    mem_pingResponses_drawn horder tieBreak
  generalize (r.pingResponses (env.drawn order tieBreak) priority campaigns).filter
    (fun x => validPing x.1) = l at hx hmem
  have hx : selectWinnerIn F64.nearest l tieBreak = some x := hx
  have hne : l ≠ [] := List.ne_nil_of_mem (selectWinnerIn_mem hx)
  have hbids : ∀ y ∈ l, hasBid y.1 = true := fun y hy =>
    hasBid_of_mem_validAnswers ((hmem y).mp hy)
  have hfin : FiniteBids l := by
    rw [← selectWinnerIn_isSome_iff rounds_nearest hne hbids, hx]
    rfl
  have hbidders : bidders l = l := List.filter_eq_self.mpr hbids
  obtain ⟨y, hy, hwins⟩ := selectWinnerIn_canWin rounds_nearest hfin
    (hbidders.symm ▸ hne) tieBreak
  obtain rfl : x = y := Option.some_inj.mp (hx.symm.trans hy)
  exact ⟨fun y hy => hfin y ((hmem y).mpr hy), x, (canWinIn_congr hmem x).mp hwins,
    (Prod.mk.inj hpair).1⟩

/-- An answer that can win wins when it comes first, for some draw. -/
theorem winnerAmong_of_canWin {x : Attributed}
    (hfin : FiniteBids (r.validAnswers env priority campaigns))
    (hx : CanWin (r.validAnswers env priority campaigns) x) :
    ∃ order tieBreak c, order.Perm (List.range campaigns.length) ∧
      r.winnerAmong (env.drawn order tieBreak) priority campaigns = some (x.1, c) := by
  have hvalid : x ∈ r.validAnswers env priority campaigns := List.mem_of_mem_filter hx.near.1
  obtain ⟨hmem, hvalid⟩ := List.mem_filter.mp hvalid
  obtain ⟨c, hc, rfl⟩ := List.mem_map.mp hmem
  obtain ⟨order, rest, horder, hfirst⟩ := Completion.exists_order_cons hc
  have hanswers : ∀ tieBreak,
      (r.pingResponses (env.drawn order tieBreak) priority campaigns).filter
        (fun x => validPing x.1) =
      (r.pingResponse env c, c.id, priority c.id) ::
        (rest.map fun c => (r.pingResponse env c, c.id, priority c.id)).filter
          fun x => validPing x.1 := by
    intro tieBreak
    rw [pingResponses, RouteEnv.drawn, hfirst, List.map_cons]
    exact List.filter_cons_of_pos hvalid
  have hsame : ∀ y, y ∈ (r.pingResponses (env.drawn order 0) priority campaigns).filter
      (fun x => validPing x.1) ↔ y ∈ r.validAnswers env priority campaigns :=
    mem_pingResponses_drawn horder 0
  rw [hanswers 0] at hsame
  obtain ⟨tieBreak, hwins⟩ := selectWinnerIn_of_canWin rounds_nearest
    (fun y hy => hfin y ((hsame y).mp hy)) ((canWinIn_congr hsame _).mpr hx)
  obtain ⟨c', hfind⟩ : ∃ c', campaigns.find? (fun c' => c'.id = c.id) = some c' := by
    rw [← Option.isSome_iff_exists, List.find?_isSome]
    exact ⟨c, hc, decide_eq_true rfl⟩
  refine ⟨order, tieBreak, c', horder, ?_⟩
  rw [winnerAmong, hanswers tieBreak]
  show (selectWinnerF64 _ tieBreak).bind _ = _
  rw [selectWinnerF64, hwins, Option.bind_some, hfind]
  rfl

/-- The answers that win in some order and for some draw. -/
theorem winnerAmong_iff_canWin {w : BuyerResponse} :
    (∃ order tieBreak c, order.Perm (List.range campaigns.length) ∧
        r.winnerAmong (env.drawn order tieBreak) priority campaigns = some (w, c)) ↔
      FiniteBids (r.validAnswers env priority campaigns) ∧
        ∃ x, CanWin (r.validAnswers env priority campaigns) x ∧ x.1 = w := by
  constructor
  · rintro ⟨order, tieBreak, c, horder, hwin⟩
    exact canWin_of_winnerAmong horder hwin
  · rintro ⟨hfin, x, hx, rfl⟩
    exact winnerAmong_of_canWin hfin hx

/-! ### Infinite bids -/

/-- The router that calls the buyer of a campaign. -/
def buyerRouter (r : PingTreeRouter) (env : RouteEnv) (c : Campaign) : BuyerRouter :=
  ⟨r.lead, [c], r.requestType, preloadedIntegration env c.buyerId,
    env.qualificationConfigs c.buyerId⟩

/-- The HTTP answer to the ping of an external buyer, if there is one in time. -/
def httpAnswer (r : PingTreeRouter) (env : RouteEnv) (c : Campaign) : Option (ℕ × Body) :=
  match (r.buyerRouter env c).getBuyerIntegration env.directory c,
    (env.pingTask c.id).call.http with
  | .ok integration, .answered status body =>
    if integration.isInternal || (env.pingTask c.id).timedOut ||
        integration.postingUrlTemplate.isNone then none
    else some (status, body)
  | _, _ => none

/-- The answer is a valid one whose `bid` is a text that parses as an infinite number. -/
def OffersInfinity (httpStatus : ℕ) (body : Body) : Prop :=
  ((BuyerRouter.bodyJson body).get "success").bind Json.asBool ≠ some false ∧
    (((BuyerRouter.bodyJson body).get "success").bind Json.asBool = none →
      200 ≤ httpStatus ∧ httpStatus < 300) ∧
    (BuyerRouter.textField (BuyerRouter.bodyJson body) "promise_id").isSome = true ∧
    BuyerRouter.textField (BuyerRouter.bodyJson body) "status" ≠ some "timeout" ∧
    (BuyerRouter.textField (BuyerRouter.bodyJson body) "bid").bind F64.parse = some .posInf

omit [StdText] in
/-- JSON has no infinite numbers. -/
theorem numberField_eq_posInf (j : Json) (k : String) :
    BuyerRouter.numberField j k = some .posInf ↔
      (BuyerRouter.textField j k).bind F64.parse = some .posInf := by
  rw [BuyerRouter.numberField, BuyerRouter.textField]
  cases hget : j.get k with
  | none => exact Iff.rfl
  | some v =>
    cases v with
    | num q =>
      refine iff_of_false ?_ ?_
      · intro h
        cases h
      · intro h
        cases h
    | _ => exact Iff.rfl

omit [StdText] in
/-- The numbers of an external buyer are floats. -/
theorem nearest_of_numberField {j : Json} {k : String} {q : ℚ}
    (h : BuyerRouter.numberField j k = some (.fin q)) : F64.nearest q = q := by
  rcases Option.or_eq_some_iff.mp h with hnum | ⟨-, htext⟩
  · obtain ⟨x, hx, hround⟩ := Option.map_eq_some_iff.mp hnum
    cases x with
    | fin r =>
      rw [← F64.fin.inj hround, F64.nearest_nearest]
    | _ => cases hround
  · obtain ⟨s, -, hs⟩ := Option.bind_eq_some_iff.mp htext
    exact F64.nearest_of_parse hs

omit [StdText] in
theorem offersInfinity_iff (httpStatus : ℕ) (body : Body) (newId : String) :
    OffersInfinity httpStatus body ↔
      validPing (BuyerRouter.parseBuyerResponse httpStatus body .ping newId) = true ∧
        (BuyerRouter.parseBuyerResponse httpStatus body .ping newId).bid = some .posInf := by
  have hbid : ∀ {b : BuyerResponse}, b.bid = some .posInf → hasBid b = true := by
    intro b hb
    rw [hasBid, hb]
    rfl
  have hsuccess : (BuyerRouter.parseBuyerResponse httpStatus body .ping newId).success = true ↔
      ((BuyerRouter.bodyJson body).get "success").bind Json.asBool ≠ some false ∧
        (((BuyerRouter.bodyJson body).get "success").bind Json.asBool = none →
          200 ≤ httpStatus ∧ httpStatus < 300) := by
    simp only [BuyerRouter.parseBuyerResponse]
    rcases ((BuyerRouter.bodyJson body).get "success").bind Json.asBool with _ | _ | _ <;> simp
  -- a missing status reads as accepted or rejected
  have hstatus : (BuyerRouter.parseBuyerResponse httpStatus body .ping newId).status ≠ "timeout" ↔
      BuyerRouter.textField (BuyerRouter.bodyJson body) "status" ≠ some "timeout" := by
    simp only [BuyerRouter.parseBuyerResponse]
    cases BuyerRouter.textField (BuyerRouter.bodyJson body) "status" with
    | none =>
      refine iff_of_true ?_ (Option.some_ne_none _).symm
      rw [Option.getD_none]
      split <;> decide
    | some status => simp
  rw [OffersInfinity, validPing, Bool.and_eq_true, Bool.and_eq_true, Bool.and_eq_true, bne_iff_ne,
    hsuccess, hstatus, ← numberField_eq_posInf]
  constructor
  · rintro ⟨hnot, hcode, hpromise, hstatus, hinf⟩
    exact ⟨⟨⟨⟨⟨hnot, hcode⟩, hbid hinf⟩, hpromise⟩, hstatus⟩, hinf⟩
  · rintro ⟨⟨⟨⟨⟨hnot, hcode⟩, -⟩, hpromise⟩, hstatus⟩, hinf⟩
    exact ⟨hnot, hcode, hpromise, hstatus, hinf⟩

/-- A task gives the answer of its buyer, unless an external buyer is late. -/
theorem runPingTask_eq (hr : r.requestType = .ping) (env : RouteEnv) (c : Campaign) :
    r.runPingTask env c =
      if (preloadedIntegration env c.buyerId).any BuyerIntegration.isInternal = false ∧
        (env.pingTask c.id).timedOut = true then none
      else some ((r.buyerRouter env c).routePing env.directory (env.pingTask c.id).call c) := by
  have hroute : (r.buyerRouter env c).route env.directory (env.pingTask c.id).call =
      (r.buyerRouter env c).routePing env.directory (env.pingTask c.id).call c := by
    simp only [BuyerRouter.route, buyerRouter, hr]
  rw [← hroute, runPingTask]
  cases (preloadedIntegration env c.buyerId).any BuyerIntegration.isInternal <;>
    cases (env.pingTask c.id).timedOut <;> rfl

theorem pingResponse_of_httpAnswer (hr : r.requestType = .ping) {c : Campaign} {status : ℕ}
    {body : Body} (h : r.httpAnswer env c = some (status, body)) :
    r.pingResponse env c =
      BuyerRouter.parseBuyerResponse status body .ping (env.pingTask c.id).call.newId := by
  rw [httpAnswer] at h
  split at h
  · next integration status' body' hint hhttp =>
    split at h
    · cases h
    · next hanswers =>
      obtain ⟨rfl, rfl⟩ := Prod.mk.inj (Option.some_inj.mp h)
      rw [Bool.or_eq_true, Bool.or_eq_true, not_or, not_or] at hanswers
      obtain ⟨⟨hexternal, htime⟩, hurl⟩ := hanswers
      -- the buyer is external, in time and has an address, so the call goes out
      have hrouted : (r.buyerRouter env c).routePing env.directory (env.pingTask c.id).call c =
          .ok (BuyerRouter.parseBuyerResponse status' body' .ping
            (env.pingTask c.id).call.newId) := by
        rw [BuyerRouter.routePing, hint]
        show (if integration.isInternal = true then _ else _) = _
        rw [if_neg hexternal, BuyerRouter.callExternal, hhttp]
        cases hurl' : integration.postingUrlTemplate with
        | none =>
          rw [hurl'] at hurl
          exact absurd rfl hurl
        | some url => rfl
      rw [pingResponse, runPingTask_eq hr, if_neg fun hlate => htime hlate.2, hrouted]
  · cases h

/-- Where an answer to a ping comes from. -/
theorem routePing_ok {router : BuyerRouter} {dir : BuyerDirectory} {call : BuyerCall}
    {c : Campaign} {response : BuyerResponse} (h : router.routePing dir call c = .ok response) :
    ∃ integration, router.getBuyerIntegration dir c = .ok integration ∧
      (response = PulsarService.routePingDirectSync router.lead router.preloadedQualConfig
          call.draw ∨
        integration.isInternal = false ∧ integration.postingUrlTemplate.isNone = false ∧
          ∃ status body, call.http = .answered status body) := by
  rw [BuyerRouter.routePing] at h
  cases hint : router.getBuyerIntegration dir c with
  | error e =>
    rw [hint] at h
    cases h
  | ok integration =>
    rw [hint] at h
    refine ⟨integration, rfl, ?_⟩
    replace h : (if integration.isInternal = true then
        BuyerRouter.callInternal integration (.ok (PulsarService.routePingDirectSync router.lead
          router.preloadedQualConfig call.draw))
      else BuyerRouter.callExternal integration .ping call) = .ok response := h
    split at h
    · -- the internal buyer is not called but answers here
      rw [BuyerRouter.callInternal] at h
      split at h
      · exact Or.inl (Except.ok.inj h).symm
      · cases h
    · next hexternal =>
      rw [BuyerRouter.callExternal] at h
      split at h
      · cases h
      · next url hurl =>
        split at h
        · cases h
        · -- it has an address, and the call is answered
          cases h
        · next status body hhttp =>
          exact Or.inr ⟨eq_false_of_ne_true hexternal, by rw [hurl]; rfl, status, body, hhttp⟩

/-- Only an external buyer can offer an infinite bid. -/
theorem httpAnswer_of_posInf (hr : r.requestType = .ping) {c : Campaign}
    (h : (r.pingResponse env c).bid = some .posInf) :
    ∃ status body, r.httpAnswer env c = some (status, body) := by
  rw [pingResponse, runPingTask_eq hr] at h
  split at h
  · next response hresponse =>
    split at hresponse
    · cases hresponse
    · next hlate =>
      obtain ⟨integration, hint, hpulsar | ⟨hexternal, hurl, status, body, hhttp⟩⟩ :=
        routePing_ok (Option.some_inj.mp hresponse)
      · -- the bids of Pulsar are numbers
        rw [hpulsar, PulsarService.routePingDirectSync] at h
        split at h <;> cases h
      · have hpreloaded :
            (preloadedIntegration env c.buyerId).any BuyerIntegration.isInternal = false := by
          cases hpre : preloadedIntegration env c.buyerId with
          | none => rfl
          | some i =>
            rw [BuyerRouter.getBuyerIntegration, buyerRouter, hpre] at hint
            rw [Option.any_some, Except.ok.inj hint, hexternal]
        have htime : (env.pingTask c.id).timedOut = false :=
          eq_false_of_ne_true fun htime => hlate ⟨hpreloaded, htime⟩
        refine ⟨status, body, ?_⟩
        simp only [httpAnswer, hint, hhttp, hexternal, htime, hurl]
        rfl
  · cases h
  · cases h

end Answers

open Sample in
/-- The buyer of the campaign is called over HTTP, and answers a ping with these fields. -/
def answeredEnv (fields : List (String × Json)) : RouteEnv :=
  { rejectedPostEnv with
    pingTask := fun _ => ⟨⟨.answered 200 (.json (.obj fields)), draw, "1"⟩, false, 3⟩ }

section Refusals

variable [StdText] {r : PingTreeRouter} {env : RouteEnv} {priority : Uuid → Option ℤ}
  {campaigns : List Campaign}

/-- What an auction with a winner does. -/
theorem routePingAuction_of_winner {winner : BuyerResponse} {c : Campaign}
    (h : r.winnerAmong env priority campaigns = some (winner, c)) :
    ∃ audit timings, r.routePingAuction env priority campaigns =
      ⟨audit ++ [.enqueue (.leadUpdate (r.winnerUpdate winner c))],
        .ok (winnerResult winner c timings)⟩ := by
  rcases r.routePingAuction_cases env priority campaigns with
    ⟨winner', c', audit, timings, hwin, -, hrouted⟩ | ⟨hnone, -⟩
  · obtain ⟨rfl, rfl⟩ := Prod.mk.inj (Option.some_inj.mp (h.symm.trans hwin))
    exact ⟨audit, timings, hrouted⟩
  · rw [hnone] at h
    cases h

/-- Only an auction with a winner succeeds. -/
theorem winner_of_success {res : RoutingResult}
    (h : (r.routePingAuction env priority campaigns).result = .ok res)
    (hsuccess : res.success = true) : ∃ winner c timings,
      r.winnerAmong env priority campaigns = some (winner, c) ∧
        res = winnerResult winner c timings := by
  rcases r.routePingAuction_cases env priority campaigns with
    ⟨winner, c, audit, timings, hwin, -, hrouted⟩ | ⟨-, ⟨audit, e, -, hrouted⟩ | hfailed⟩
  · rw [hrouted] at h
    exact ⟨winner, c, timings, hwin, (Except.ok.inj h).symm⟩
  · rw [hrouted] at h
    cases h
  · generalize r.routePingAuction env priority campaigns = routed at h hfailed
    cases hfailed with
    | mk haudit hstatus =>
      rw [← Except.ok.inj h] at hsuccess
      cases hsuccess

/-! ### Buyers that say no -/

/-- The texts by which a buyer says no, in lower case. -/
def refusals : List String :=
  ["rejected", "declined", "denied", "timeout", "invalid", "invalid_lead", "validation_error",
    "error", "server_error", "internal_error"]

/-- An answer that claims success reads as a failure if its status is one of the refusals. -/
theorem mapPingStatusToLeadStatus_cases (status : String) :
    StdText.toLowercase status ∈ refusals ∧
        mapPingStatusToLeadStatus status true ∈ ["rejected", "invalid", "error", "timeout"] ∨
      StdText.toLowercase status ∉ refusals ∧
        mapPingStatusToLeadStatus status true ∈ ["accepted", "ping_accepted"] := by
  simp only [mapPingStatusToLeadStatus]
  generalize StdText.toLowercase status = s
  split
  · -- the refusals are tested one after the other
    next h => exact Or.inl ⟨by rcases h with rfl | rfl | rfl <;> decide, by decide⟩
  · next h₁ =>
    split
    · next h => exact Or.inr ⟨by rw [h]; decide, by decide⟩
    · split
      · next h => exact Or.inl ⟨by rw [h]; decide, by decide⟩
      · next h₂ =>
        split
        · next h => exact Or.inl ⟨by rcases h with rfl | rfl | rfl <;> decide, by decide⟩
        · next h₃ =>
          split
          · next h => exact Or.inl ⟨by rcases h with rfl | rfl | rfl <;> decide, by decide⟩
          · next h₄ =>
            refine Or.inr ⟨?_, by decide⟩
            simp only [refusals, List.mem_cons, List.not_mem_nil, or_false]
            tauto

end Refusals

section Price

variable [StdText]

/-- The auction reports and stores the bid of its winner, and no valid bid is a cent above it. -/
def PaysBid (routed : Routed) (winner : BuyerResponse) (valid : List Attributed) : Prop :=
  ∃ res, routed.result = .ok res ∧ res.price = winner.bid ∧
    (∃ u, .enqueue (.leadUpdate u) ∈ routed.effects ∧
      u.verticalData = winner.bid.map fun bid => .obj [("winning_bid", .ofF64 bid)]) ∧
    ∀ y ∈ valid, ∀ q p, y.1.bid = some (.fin q) → res.price = some (.fin p) →
      F64.nearest q - F64.nearest p < 1 / 100

end Price

end PingTreeRouter

end LeadsNebula
