/-
Fullposts over a `ping_post` tree: a ping auction, then a post to the winner.

Whether the post is a sale is decided three times: by the acceptance test of the
post, by the merge of both results, and by the status that `create_lead` derives
from the merged result.  The first two agree.  The third takes a rejected post
for a sale if its response carries a `post_id` (the parser makes one up for
every external buyer) and a price is left, be it the bid of the ping.

The post is routed on a copy of the lead with the promise and the campaign of
the ping, but not its bid, so Pulsar prices it anew.

* `splitAnswer` — the winner of the ping and the answer to the post;
* `fullpost_sale_iff` — when the three decisions agree;
* `fullpost_price_iff` — when the price of the post is the bid of the ping.
-/
import LeadsNebula.Auction
import LeadsNebula.System

namespace LeadsNebula

namespace PingTreeRouter

section Split

variable [StdText] {r : PingTreeRouter} {env : RouteEnv}

/-! ### The answer to a post -/

/-- The campaign a post goes to, and the buyer's answer, if the call is answered. -/
def postAnswer (r : PingTreeRouter) (env : RouteEnv) (campaigns : List Campaign) :
    Option (Campaign × BuyerResponse) :=
  if r.lead.campaignId.any fun id => !campaigns.any fun c => c.id = id then none
  else
    (r.postCampaign campaigns).bind fun c =>
      ((BuyerRouter.new r.lead [c] r.requestType).route env.directory
        (env.postCall c.id)).toOption.map fun b => (c, b)

theorem routePost_cases (r : PingTreeRouter) (env : RouteEnv) (campaigns : List Campaign) :
    (∃ c b, r.postAnswer env campaigns = some (c, b) ∧
      r.routePost env campaigns = r.postAnswered env c b) ∨
    r.postAnswer env campaigns = none ∧
      ∃ res, (r.routePost env campaigns).result = .ok res ∧ res.success = false ∧
        res.postId = none := by
  rw [routePost, postAnswer]
  split
  · exact Or.inr ⟨rfl, _, rfl, rfl, rfl⟩
  · split
    · next hnone =>
      rw [hnone]
      exact Or.inr ⟨rfl, _, rfl, rfl, rfl⟩
    · next c hc =>
      rw [hc, Option.bind_some]
      split
      · next b hb =>
        rw [hb]
        exact Or.inl ⟨c, b, rfl, rfl⟩
      · next e he =>
        rw [he]
        exact Or.inr ⟨rfl, _, rfl, rfl, rfl⟩

omit [StdText] in
/-- The result of a post that is answered with `b` by campaign `c`. -/
theorem postAnswered_result (r : PingTreeRouter) (env : RouteEnv) (c : Campaign)
    (b : BuyerResponse) :
    ∃ res, (r.postAnswered env c b).result = .ok res ∧ res.success = postAccepted b ∧
      res.postId = b.postId ∧ res.price = b.price ∧ res.campaignId = some c.id ∧
      res.buyerId = some c.buyerId := by
  rw [postAnswered]
  cases hacc : postAccepted b with
  | true =>
    have hpost : b.postId = some (b.postId.getD "") := by
      rw [postAccepted, Bool.and_eq_true, Bool.and_eq_true] at hacc
      obtain ⟨postId, hpost⟩ := Option.isSome_iff_exists.mp hacc.1.2
      rw [hpost, Option.getD_some]
    exact ⟨_, rfl, rfl, hpost.symm, rfl, rfl, rfl⟩
  | false => exact ⟨_, rfl, rfl, rfl, rfl, rfl, rfl⟩

/-- The winner of the ping of a fullpost, the campaign its post goes to, and the answer. -/
def splitAnswer (r : PingTreeRouter) (env : RouteEnv) (priority : Uuid → Option ℤ)
    (campaigns : List Campaign) : Option (BuyerResponse × Campaign × BuyerResponse) :=
  ({ r with requestType := .ping }.winnerAmong env priority campaigns).bind fun w =>
    ((r.postRouter (winnerResult w.1 w.2 none)).postAnswer env campaigns).map fun a => (w.1, a)

/-- What comes of a fullpost: the merged result of a ping with a winner and an answered post, or a
result that is no sale. -/
theorem routeFullpostSplit_cases (r : PingTreeRouter) (env : RouteEnv)
    (priority : Uuid → Option ℤ) (campaigns : List Campaign) {res : RoutingResult}
    (hres : (r.routeFullpostSplit env priority campaigns).result = .ok res) :
    (∃ winner c b ping post, r.splitAnswer env priority campaigns = some (winner, c, b) ∧
      res = mergeResults ping post ∧ ping.success = true ∧ ping.price = winningBid winner ∧
      post.success = postAccepted b ∧ post.postId = b.postId ∧ post.price = b.price ∧
      post.campaignId = some c.id ∧ post.buyerId = some c.buyerId) ∨
    r.splitAnswer env priority campaigns = none ∧ res.success = false := by
  rw [routeFullpostSplit] at hres
  rcases routePingAuction_cases { r with requestType := .ping } env priority campaigns with
    ⟨winner, c₀, audit, timings, hwin, -, hping⟩ | ⟨hnone, hping⟩
  · have hsuccess : (winnerResult winner c₀ timings).success = true := by
      have hvalid := winnerAmong_valid hwin
      rw [validPing, Bool.and_eq_true, Bool.and_eq_true, Bool.and_eq_true] at hvalid
      exact hvalid.1.1.1
    simp only [hping, hsuccess, Bool.not_true, Bool.false_eq_true, if_false] at hres
    rw [splitAnswer, hwin, Option.bind_some]
    rcases (r.postRouter (winnerResult winner c₀ none)).routePost_cases env campaigns with
      ⟨c, b, hanswer, hpost⟩ | ⟨hanswer, post, hpost, hfail, hid⟩
    · obtain ⟨post, hpost', hfields⟩ :=
        (r.postRouter (winnerResult winner c₀ none)).postAnswered_result env c b
      -- the timings of the ping do not reach the post
      have hmerged : res = mergeResults (winnerResult winner c₀ timings) post := by
        have hsame : (r.postRouter (winnerResult winner c₀ timings)).routePost env campaigns =
          (r.postRouter (winnerResult winner c₀ none)).routePost env campaigns := rfl
        rw [hsame, hpost, hpost'] at hres
        exact (Except.ok.inj hres).symm
      exact Or.inl ⟨winner, c, b, _, post, by rw [hanswer]; rfl, hmerged, hsuccess, rfl, hfields⟩
    · have hsame : (r.postRouter (winnerResult winner c₀ timings)).routePost env campaigns =
        (r.postRouter (winnerResult winner c₀ none)).routePost env campaigns := rfl
      rw [hsame, hpost] at hres
      refine Or.inr ⟨by rw [hanswer]; rfl, ?_⟩
      rw [← Except.ok.inj hres]
      simp [mergeResults, hfail, hid]
  · rw [splitAnswer, hnone]
    refine Or.inr ⟨rfl, ?_⟩
    rcases hping with ⟨audit, e, -, hping⟩ | hping
    · simp only [hping] at hres
      cases hres
    · generalize { r with requestType := .ping }.routePingAuction env priority campaigns = routed
        at hping hres
      cases hping with
      | mk haudit hstatus =>
        simp only [RoutingResult.failed, Bool.not_false, if_true] at hres
        rw [← Except.ok.inj hres]

/-! ### Three decisions -/

omit [StdText] in
/-- A result without success is not taken for a sale. -/
theorem finalStatus_ne_sold {res : RoutingResult} (h : res.success = false) :
    finalStatus res ≠ .sold := by
  simp only [finalStatus, h, Bool.false_and, Bool.false_eq_true, if_false]
  split <;> exact LeadStatus.noConfusion

section Merge

omit [StdText]

variable {ping post : RoutingResult} {b : BuyerResponse} {c : Campaign}
  (hping : ping.success = true) (hsuccess : post.success = postAccepted b)
  (hpost : post.postId = b.postId) (hprice : post.price = b.price)
  (hcamp : post.campaignId = some c.id) (hbuyer : post.buyerId = some c.buyerId)

include hping hsuccess hpost hprice

/-- The merge reports a sale exactly when the post was accepted. -/
theorem mergeResults_sold_iff :
    ((mergeResults ping post).success = true ∧ (mergeResults ping post).status = "sold") ↔
      postAccepted b = true := by
  cases hacc : postAccepted b with
  | true =>
    have hacc' := hacc
    rw [postAccepted, Bool.and_eq_true, Bool.and_eq_true] at hacc'
    have hsome : b.price.isSome = true := by
      obtain ⟨x, hx, -⟩ := (Option.any_eq_true _ _).mp hacc'.2
      rw [hx]
      rfl
    simp [mergeResults, hsuccess, hacc, hpost, hprice, hacc'.1.2, hsome]
  | false => simp [mergeResults, hsuccess, hacc, hping]

include hcamp hbuyer

/-- What `create_lead` takes the merged result for. -/
theorem finalStatus_mergeResults :
    finalStatus (mergeResults ping post) = .sold ↔
      postAccepted b = true ∨ b.postId.isSome = true ∧
        (b.price.or ping.price).any F64.isPos = true := by
  cases hacc : postAccepted b with
  | true =>
    -- an accepted answer has a price above zero, which the merged result keeps
    have hsold := (mergeResults_sold_iff hping hsuccess hpost hprice).mpr hacc
    rw [postAccepted, Bool.and_eq_true, Bool.and_eq_true] at hacc
    have hpos : (mergeResults ping post).price.any F64.isPos = true := by
      obtain ⟨x, hx, hpos⟩ := (Option.any_eq_true _ _).mp hacc.2
      simp [mergeResults, hprice, hx, hpos]
    simp [finalStatus, hsold.1, hsold.2, hpos]
  | false =>
    -- otherwise the status of the ping is kept, and the post id alone makes it a success
    have hstatus : (mergeResults ping post).status = "ping_accepted" := by
      simp [mergeResults, hsuccess, hacc, hping]
    have hmerged : (mergeResults ping post).success = b.postId.isSome := by
      simp [mergeResults, hsuccess, hacc, hping, hpost]
    have hid : (mergeResults ping post).postId.isSome = b.postId.isSome := by
      rw [← hpost]
      rfl
    have hprice' : (mergeResults ping post).price = b.price.or ping.price := by
      rw [← hprice]
      rfl
    have hcamp' : (mergeResults ping post).campaignId.isSome = true := by
      simp [mergeResults, hcamp]
    have hbuyer' : (mergeResults ping post).buyerId.isSome = true := by
      simp [mergeResults, hbuyer]
    simp only [finalStatus, hstatus, hmerged, hid, hprice', hcamp', hbuyer']
    cases b.postId.isSome <;> cases (b.price.or ping.price).any F64.isPos <;> simp

end Merge

/-- A buyer that Pulsar answers. -/
def CallsPulsar (dir : BuyerDirectory) (c : Campaign) : Prop :=
  ∀ lead, ∃ integration,
    (BuyerRouter.new lead [c] .post).getBuyerIntegration dir c = .ok integration ∧
      BuyerRouter.IsPulsar integration

/-- Pulsar sells every post that it answers. -/
theorem postResponse_internal {c : Campaign} {b : BuyerResponse}
    (hpulsar : CallsPulsar env.directory c) (hb : r.postResponse env c = .ok b) :
    ∃ promiseId, b = PulsarService.soldPost r.lead promiseId (BuyerRouter.pingBid r.lead)
      (env.postCall c.id).draw := by
  have hroute : r.postResponse env c =
      (BuyerRouter.new r.lead [c] .post).routePost env.directory (env.postCall c.id) c := rfl
  rw [hroute] at hb
  cases hpromise : r.lead.promiseId with
  | none =>
    rw [BuyerRouter.routePost, show (BuyerRouter.new r.lead [c] .post).lead.promiseId = none
      from hpromise] at hb
    cases hb
  | some promiseId =>
    obtain ⟨integration, hint, hp⟩ := hpulsar r.lead
    rw [BuyerRouter.routePost_internal hint hp hpromise] at hb
    exact ⟨promiseId, (Except.ok.inj hb).symm⟩

/-- Pulsar prices the post at the `winning_bid` of the lead it is given, else anew. -/
theorem postResponse_price {c : Campaign} {b : BuyerResponse}
    (hpulsar : CallsPulsar env.directory c) (hb : r.postResponse env c = .ok b) :
    b.price = (BuyerRouter.pingBid r.lead).or
      (some (PulsarService.randomPrice (env.postCall c.id).draw.price)) := by
  obtain ⟨promiseId, rfl⟩ := postResponse_internal hpulsar hb
  rfl

theorem postAnswer_price {campaigns : List Campaign} {c : Campaign} {b : BuyerResponse}
    (hr : r.requestType = .post) (h : r.postAnswer env campaigns = some (c, b))
    (hpulsar : CallsPulsar env.directory c) :
    b.price = (BuyerRouter.pingBid r.lead).or
      (some (PulsarService.randomPrice (env.postCall c.id).draw.price)) := by
  rw [postAnswer] at h
  split at h
  · cases h
  · obtain ⟨c', hc', h⟩ := Option.bind_eq_some_iff.mp h
    obtain ⟨b', hb', h⟩ := Option.map_eq_some_iff.mp h
    obtain ⟨rfl, rfl⟩ := Prod.mk.inj h
    rw [hr] at hb'
    exact postResponse_price hpulsar (ok_of_toOption hb')

theorem splitAnswer_spec {priority : Uuid → Option ℤ} {campaigns : List Campaign}
    {winner b : BuyerResponse} {c : Campaign}
    (h : r.splitAnswer env priority campaigns = some (winner, c, b)) :
    validPing winner = true ∧ ∃ c₀,
      (r.postRouter (winnerResult winner c₀ none)).postAnswer env campaigns = some (c, b) := by
  obtain ⟨⟨winner', c₀⟩, hwin, h⟩ := Option.bind_eq_some_iff.mp h
  obtain ⟨⟨c', b'⟩, hanswer, h⟩ := Option.map_eq_some_iff.mp h
  obtain ⟨rfl, rfl, rfl⟩ : winner' = winner ∧ c' = c ∧ b' = b := by simpa using h
  exact ⟨winnerAmong_valid hwin, c₀, hanswer⟩

/-- A fullpost whose post an internal buyer answers is priced at the bid of its ping exactly
when the lead came with that bid, or came with none and the random price of the post is the
same. -/
theorem fullpost_price_iff {tree : PingTree} (htree : tree.strategy = "ping_post")
    {priority : Uuid → Option ℤ} {campaigns : List Campaign} {winner b : BuyerResponse}
    {c : Campaign} (hpulsar : CallsPulsar env.directory c)
    (hanswer : r.splitAnswer env priority campaigns = some (winner, c, b)) {res : RoutingResult}
    (hres : (r.routeFullpost env tree priority campaigns).result = .ok res) :
    res.price = winner.bid ↔
      BuyerRouter.pingBid r.lead = winner.bid ∨ BuyerRouter.pingBid r.lead = none ∧
        some (PulsarService.randomPrice (env.postCall c.id).draw.price) = winner.bid := by
  rw [routeFullpost, if_pos htree] at hres
  obtain ⟨hvalid, c₀, hpostAnswer⟩ := splitAnswer_spec hanswer
  rw [validPing, Bool.and_eq_true, Bool.and_eq_true, Bool.and_eq_true] at hvalid
  -- the copy of the lead has the `vertical_data` of the lead
  have hprice : b.price = (BuyerRouter.pingBid r.lead).or
      (some (PulsarService.randomPrice (env.postCall c.id).draw.price)) :=
    postAnswer_price (r := r.postRouter _) rfl hpostAnswer hpulsar
  have hmerged : res.price = b.price := by
    rcases r.routeFullpostSplit_cases env priority campaigns hres with
      ⟨winner', c', b', ping, post, hanswer', rfl, -, -, -, -, hpost, -, -⟩ | ⟨hnone, -⟩
    · rw [hanswer] at hanswer'
      obtain ⟨rfl, rfl, rfl⟩ : winner = winner' ∧ c = c' ∧ b = b' := by simpa using hanswer'
      rw [mergeResults, hpost]
      rw [hprice]
      cases BuyerRouter.pingBid r.lead <;> rfl
    · rw [hanswer] at hnone
      cases hnone
  have hbid : winner.bid ≠ none := by
    intro hnone
    have hhas := hvalid.1.1.2
    rw [hasBid, hnone] at hhas
    cases hhas
  rw [hmerged, hprice]
  cases BuyerRouter.pingBid r.lead with
  | none => simp [Ne.symm hbid]
  | some x => simp

end Split

/-! ### A rejected post that is taken for a sale -/

open Sample

/-- The integration of a buyer that is called over HTTP. -/
def external : BuyerIntegration := ⟨31, "acme", some "https://acme.example.com/leads", false⟩

/-- The buyer bids 100 for the ping, and rejects the post. -/
def rejectedPostEnv : RouteEnv :=
  { env with
    campaignsWithAssociations := [(campaign, some external)]
    directory :=
      { findBuyer := fun _ => .ok (some ⟨20, some 31, .active, none⟩)
        findIntegration := fun _ => .ok (some external) }
    pingTask := fun _ => ⟨⟨.answered 200 (.json (.obj [("success", .bool true),
      ("status", .str "accepted"), ("promise_id", .str "P1"), ("bid", .num 100)])), draw, "1"⟩,
      false, 3⟩
    postCall := fun _ => ⟨.answered 200 (.json (.obj [("success", .bool false),
      ("status", .str "rejected")])), draw, "2"⟩ }

/-- The tree and the campaigns of the call. -/
def splitTree : PingTree := ⟨40, "ping_post", "active", none⟩

/-- The sample campaign bids 150 for the ping, and prices the post at 160. -/
theorem fullpost_priced_anew :
    ∃ winner c b res, (∀ c ∈ [campaign], CallsPulsar env.directory c) ∧
      ((fullpost false).router new 0).splitAnswer env (fun _ => some 1) [campaign] =
        some (winner, c, b) ∧ postAccepted b = true ∧
      (((fullpost false).router new 0).routeFullpost env splitTree (fun _ => some 1)
        [campaign]).result = .ok res ∧ winner.bid = some (.fin 150) ∧
      res.price = some (.fin 160) := by
  have h : (((fullpost false).router new 0).splitAnswer env (fun _ => some 1) [campaign]).any
      (fun a => postAccepted a.2.2 && decide (a.1.bid = some (.fin 150))) = true := by
    decide +kernel
  have hres : (((fullpost false).router new 0).routeFullpost env splitTree (fun _ => some 1)
      [campaign]).result.toOption.any (fun res => res.price = some (.fin 160)) = true := by
    decide +kernel
  obtain ⟨⟨winner, c, b⟩, hanswer, h⟩ := (Option.any_eq_true _ _).mp h
  obtain ⟨res, hres, hprice⟩ := (Option.any_eq_true _ _).mp hres
  rw [Bool.and_eq_true, decide_eq_true_iff] at h
  exact ⟨winner, c, b, res, fun c _ lead => ⟨pulsar, rfl, by decide⟩, hanswer, h.1,
    ok_of_toOption hres, h.2, of_decide_eq_true hprice⟩

/-- The lead of a new fullpost comes with no bid. -/
theorem fullpost_price_iff_new :
    ∃ winner c b res,
      ((fullpost false).router new 0).splitAnswer env (fun _ => some 1) [campaign] =
        some (winner, c, b) ∧
      (((fullpost false).router new 0).routeFullpost env splitTree (fun _ => some 1)
        [campaign]).result = .ok res ∧
      (res.price = winner.bid ↔
        BuyerRouter.pingBid ((fullpost false).router new 0).lead = winner.bid ∨
          BuyerRouter.pingBid ((fullpost false).router new 0).lead = none ∧
          some (PulsarService.randomPrice (env.postCall c.id).draw.price) = winner.bid) := by
  have h : (((fullpost false).router new 0).splitAnswer env (fun _ => some 1)
      [campaign]).isSome = true := by
    decide +kernel
  have hres : (((fullpost false).router new 0).routeFullpost env splitTree (fun _ => some 1)
      [campaign]).result.toOption.isSome = true := by
    decide +kernel
  obtain ⟨⟨winner, c, b⟩, hanswer⟩ := Option.isSome_iff_exists.mp h
  obtain ⟨res, hres⟩ := Option.isSome_iff_exists.mp hres
  have hres := ok_of_toOption hres
  exact ⟨winner, c, b, res, hanswer, hres,
    fullpost_price_iff rfl (fun lead => ⟨pulsar, rfl, by decide⟩) hanswer hres⟩

end PingTreeRouter

end LeadsNebula
