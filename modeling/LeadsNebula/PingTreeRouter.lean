/-
The ping tree router (`services/ping_tree_router.rs`).

`route` finds the ping tree and its campaigns, and then runs a ping auction, a
post, or a fullpost.  What it does to the outside is a list of `Effect`s, in
order: a statement it runs itself, a task it enqueues; a statement that fails
ends the call, so the effects after it do not happen.  What the call reads
(caches, database, buyers, clock, random numbers) is a `RouteEnv`.

Buyers are called concurrently.  `RouteEnv.order` lists the positions of the
campaigns in the order in which their calls complete.
-/
import LeadsNebula.BuyerRouter
import LeadsNebula.Completion
import LeadsNebula.WriteBehindQueue

namespace LeadsNebula

open Completion (inOrder)

/-- One thing a request does to the outside. -/
inductive Effect where
  /-- Runs a statement and waits for it. -/
  | exec (st : LeadStatement)
  /-- Puts a task on the write-behind queue. -/
  | enqueue (t : BackgroundTask)
  /-- Spawns a task that runs a statement on its own. -/
  | spawn (st : LeadStatement)

/-- The statements on the `leads` table that an effect leads to. -/
def Effect.statements : Effect → List LeadStatement
  | exec st => [st]
  | enqueue t => t.statements
  | spawn st => [st]

/-- The effects of a call and its result. -/
structure Routed where
  effects : List Effect
  result : Except String RoutingResult

/-- One buyer's part of a ping auction. -/
structure PingTask where
  call : BuyerCall
  timedOut : Bool
  processingTimeMs : ℕ

structure RouteEnv where
  pingTree : Except String (Option PingTree)
  pingTreeCampaigns : Except String (List PingTreeCampaign)
  campaignsWithAssociations : List (Campaign × Option BuyerIntegration)
  qualificationConfigs : Uuid → Option BuyerQualificationConfig
  directory : BuyerDirectory
  order : List ℕ
  pingTask : Uuid → PingTask
  postCall : Uuid → BuyerCall
  tieBreak : ℕ
  timestamp : String
  promiseBytes : List UInt8

/-- The lookup of the ping tree fails, or that of its campaigns where it is reached. -/
def RouteEnv.lookupsFail (env : RouteEnv) : Bool :=
  match env.pingTree, env.pingTreeCampaigns with
  | .error _, _ => true
  | .ok (some t), .error _ => t.isActive
  | _, _ => false

/-- The active ping tree and its campaigns, if the lookups find them. -/
def RouteEnv.callable (env : RouteEnv) : Option (PingTree × List PingTreeCampaign) :=
  match env.pingTree, env.pingTreeCampaigns with
  | .ok (some tree), .ok ptcs => if tree.isActive then some (tree, ptcs) else none
  | _, _ => none

structure PingTreeRouter where
  lead : Lead
  vertical : String
  requestType : RequestType

/-- A response with the campaign it is attributed to and the campaign's priority. -/
abbrev Attributed := BuyerResponse × Uuid × Option ℤ

/-! ### Selecting a winner -/

/-- The value of a missing priority. -/
def i32Max : ℤ := 2 ^ 31 - 1

/-- Highest value first, then lowest priority number; the comparison of both sorts. -/
def compareOffers (value : BuyerResponse → Option F64) (a b : Attributed) : Ordering :=
  match ((value b.1).getD (.fin 0)).partialCmp ((value a.1).getD (.fin 0)) with
  | some .eq => compare (a.2.2.getD i32Max) (b.2.2.getD i32Max)
  | some o => o
  | none => .eq

/-- The stable sort by `compareOffers`. -/
def sortOffers (value : BuyerResponse → Option F64) (l : List Attributed) : List Attributed :=
  l.mergeSort fun a b => compareOffers value a b != .gt

/-- Bids closer than this are taken for equal. -/
def priceEpsilon : F64 := .fin (1 / 100)

/-- The first element with the least priority. -/
def minByPriority : List Attributed → Option Attributed
  | [] => none
  | a :: l =>
    match minByPriority l with
    | none => some a
    | some b => if a.2.2.getD i32Max ≤ b.2.2.getD i32Max then some a else some b

/-- `resp.bid.is_some() && resp.bid.unwrap_or(0.0) > 0.0`. -/
def hasBid (r : BuyerResponse) : Bool := r.bid.any F64.isPos

/-- `resp.price.is_some() && resp.price.unwrap_or(0.0) > 0.0`. -/
def hasPrice (r : BuyerResponse) : Bool := r.price.any F64.isPos

/-- The bid in the arithmetic that `rd` rounds to. -/
def bidIn (rd : ℚ → ℚ) (r : BuyerResponse) : Option F64 := r.bid.map (F64.map rd)

/-- The winner of a ping auction, whose numbers are rounded by `rd`; `none` where the code
panics. -/
def selectWinnerIn (rd : ℚ → ℚ) (responses : List Attributed) (tieBreak : ℕ) :
    Option Attributed :=
  match sortOffers (bidIn rd) (responses.filter fun r => hasBid r.1) with
  -- no bid is above zero: the first response is taken
  | [] => responses.head?
  | best :: rest =>
    let highestBid := (bidIn rd best.1).getD (.fin 0)
    let candidates := (best :: rest).takeWhile fun r =>
      ((((bidIn rd r.1).getD (.fin 0)).sub highestBid).map rd).abs.lt (priceEpsilon.map rd)
    -- the bids next to the highest one count as equal to it
    match candidates with
    | [only] => some only
    | candidates =>
      match minByPriority (candidates.filter fun r => r.2.2.isSome) with
      | some winner => some winner
      | none => candidates[tieBreak % candidates.length]?

/-- The winner if bids are exact numbers. -/
def selectWinner : List Attributed → ℕ → Option Attributed := selectWinnerIn id

/-- The winner in the arithmetic of floats, which the router calls. -/
def selectWinnerF64 : List Attributed → ℕ → Option Attributed := selectWinnerIn F64.nearest

namespace PingTreeRouter

/-! ### Direct updates -/

/-- `update_lead_status`: only a lead that is still being processed is changed. -/
def updateLeadStatus (r : PingTreeRouter) (env : RouteEnv) (status : LeadStatus)
    (error : Option String) : List Effect :=
  if r.lead.status = .processing ∨ r.lead.status = .test then
    let errorLog (err : String) : Json :=
      .obj [("timestamp", .str env.timestamp), ("error", .str err),
        ("component", .str "ping_tree_router")]
    -- the data of the copy is written back as a whole
    let verticalData := match error, r.lead.verticalData with
      | some err, .obj fields => .obj (Json.insertField "error_log" (errorLog err) fields)
      | _, vd => vd
    [.exec (.setStatus r.lead.uuid status verticalData)]
  else []

/-- A call that fails before it reaches a buyer. -/
def failWith (r : PingTreeRouter) (env : RouteEnv) (logged reported : String) : Routed where
  effects := r.updateLeadStatus env .error (some logged)
  result := .ok (.failed "error" reported)

/-! ### The ping auction -/

variable [StdText]

/-- The integration that was loaded with the campaigns of a buyer. -/
def preloadedIntegration (env : RouteEnv) (buyerId : Uuid) : Option BuyerIntegration :=
  ((env.campaignsWithAssociations.reverse.find? fun p => p.1.buyerId = buyerId).bind Prod.snd)

/-- What one buyer's task gives; `none` is a timeout.  Only external buyers can time out. -/
def runPingTask (r : PingTreeRouter) (env : RouteEnv) (c : Campaign) :
    Option (Except String BuyerResponse) :=
  let integration := preloadedIntegration env c.buyerId
  let task := env.pingTask c.id
  let router : BuyerRouter :=
    ⟨r.lead, [c], r.requestType, integration, env.qualificationConfigs c.buyerId⟩
  if integration.any BuyerIntegration.isInternal then some (router.route env.directory task.call)
  else if task.timedOut then none
  else some (router.route env.directory task.call)

/-- The response recorded for a buyer whose task failed. -/
def failedPing (r : PingTreeRouter) (status pingPrefix error newId : String) : BuyerResponse where
  success := false
  status := status
  error := some error
  message := none
  promiseId := none
  pingId := if r.requestType = .ping then some (pingPrefix ++ newId) else none
  postId := none
  price := none
  bid := none

def pingResponse (r : PingTreeRouter) (env : RouteEnv) (c : Campaign) : BuyerResponse :=
  match r.runPingTask env c with
  | some (.ok response) => response
  | some (.error e) => r.failedPing "error" "ping_error_" e (env.pingTask c.id).call.newId
  | none =>
    r.failedPing "timeout" "ping_timeout_" "Buyer did not respond within timeout period"
      (env.pingTask c.id).call.newId

/-- The entry of a buyer in `per_buyer_timings`. -/
def perBuyerTiming (r : PingTreeRouter) (env : RouteEnv) (c : Campaign) : Json :=
  let base (status : String) (bid : Option F64) (success : Bool) : List (String × Json) :=
    [("campaign_id", .str c.id.toString), ("buyer_id", .str c.buyerId.toString),
      ("processing_time_ms", .ofNat (env.pingTask c.id).processingTimeMs),
      ("status", .str status), ("bid", .ofOption .ofF64 bid), ("success", .bool success)]
  match r.runPingTask env c with
  | some (.ok response) => .obj (base response.status response.bid response.success)
  | some (.error e) => .obj (base "error" none false ++ [("error", .str e)])
  | none =>
    .obj (base "timeout" none false ++
      [("error", .str "Buyer did not respond within timeout period")])

/-- The responses of an auction, in completion order. -/
def pingResponses (r : PingTreeRouter) (env : RouteEnv) (priority : Uuid → Option ℤ)
    (campaigns : List Campaign) : List Attributed :=
  (inOrder env.order campaigns).map fun c => (r.pingResponse env c, c.id, priority c.id)

/-- The identifier stored for a ping: unique per campaign, as `_C` and eight digits are
appended unless the text already has a `_C`. -/
def storedPingId (r : PingTreeRouter) (response : BuyerResponse) (campaignId : Uuid)
    (newId : String) : Option String :=
  (response.pingId.or (if r.requestType = .ping then some ("ping_" ++ newId) else none)).map
    fun pingId =>
      if "_C".toList <:+: pingId.toList then pingId
      else pingId ++ "_C" ++
        String.ofList ((campaignId.toString.toList.filter fun ch => ch ≠ '-').take 8)

/-- The buyer of a campaign of the list. -/
def buyerOf (campaigns : List Campaign) (campaignId : Uuid) : Option Uuid :=
  (campaigns.find? fun c => c.id = campaignId).map Campaign.buyerId

/-- The audit records of an auction. -/
def pingAudit (r : PingTreeRouter) (env : RouteEnv) (campaigns : List Campaign)
    (responses : List Attributed) : List Effect :=
  responses.map fun (response, campaignId, _) =>
    .enqueue (.buyerResponse
      { leadId := r.lead.uuid
        campaignId := campaignId
        pingId := r.storedPingId response campaignId (env.pingTask campaignId).call.newId
        postId := none
        buyerId := buyerOf campaigns campaignId
        payload := response.toJson
        leadIdStr := r.lead.leadId })

/-- A ping response that takes part in the auction. -/
def validPing (r : BuyerResponse) : Bool :=
  r.success && hasBid r && r.promiseId.isSome && r.status != "timeout"

/-- The status of a request that got no valid response. -/
def failureStatus (responses : List Attributed) (rejected : BuyerResponse → Bool) : LeadStatus :=
  if (responses.filter fun r => r.1.status = "timeout").length = responses.length then .timeout
  else if 0 < (responses.filter fun r => rejected r.1).length then .rejected
  else .error

/-- The message of a request that got no valid response. -/
def failureMessage (responses : List Attributed) (rejected : BuyerResponse → Bool) : String :=
  "No valid buyer responses (" ++
    toString (responses.filter fun r => r.1.status = "timeout").length ++ " timeouts, " ++
    toString (responses.filter fun r => rejected r.1).length ++ " rejected)"

def mapPingStatusToLeadStatus (buyerStatus : String) (success : Bool) : String :=
  let s := toLowercase buyerStatus
  if s = "rejected" ∨ s = "declined" ∨ s = "denied" then "rejected"
  else if s = "accepted" then (if success then "accepted" else "error")
  else if s = "timeout" then "timeout"
  else if s = "invalid" ∨ s = "invalid_lead" ∨ s = "validation_error" then "invalid"
  else if s = "error" ∨ s = "server_error" ∨ s = "internal_error" then "error"
  else if success then "ping_accepted"
  else "error"

/-- The bid stored for the post: the winner's price, or its bid where it gave no price. -/
def winningBid (winner : BuyerResponse) : Option F64 := winner.price.or winner.bid

/-- The update that records the winner of an auction. -/
def winnerUpdate (r : PingTreeRouter) (winner : BuyerResponse) (c : Campaign) : LeadUpdate where
  leadId := r.lead.uuid
  status := .pingAccepted
  campaignId := some c.id
  buyerId := some c.buyerId
  promiseId := winner.promiseId
  pingId := winner.pingId
  postId := none
  soldAt := false
  inprogToken := none
  verticalData := (winningBid winner).map fun bid => .obj [("winning_bid", .ofF64 bid)]

/-- The result of an auction that has a winner. -/
def winnerResult (winner : BuyerResponse) (c : Campaign) (timings : Option (List Json)) :
    RoutingResult where
  success := winner.success
  status := mapPingStatusToLeadStatus winner.status winner.success
  error := winner.error
  promiseId := winner.promiseId
  pingId := winner.pingId
  postId := winner.postId
  price := winningBid winner
  campaignId := some c.id
  buyerId := some c.buyerId
  perBuyerTimings := timings

def routePingAuction (r : PingTreeRouter) (env : RouteEnv) (priority : Uuid → Option ℤ)
    (campaigns : List Campaign) : Routed :=
  let responses := r.pingResponses env priority campaigns
  let timings := (inOrder env.order campaigns).map (r.perBuyerTiming env)
  let timings := if timings.isEmpty then none else some timings
  let audit := r.pingAudit env campaigns responses
  let validResponses := responses.filter fun x => validPing x.1
  if validResponses.isEmpty then
    let rejected := fun x : BuyerResponse => x.status = "rejected"
    let finalStatus := failureStatus responses rejected
    { effects := audit ++ r.updateLeadStatus env finalStatus (some "No valid buyer responses")
      result := .ok { RoutingResult.failed finalStatus.asStr (failureMessage responses rejected)
        with perBuyerTimings := timings } }
  else
    match selectWinnerF64 validResponses env.tieBreak with
    | none => ⟨audit, .error "panic in select_winner"⟩
    | some (winner, winnerId, _) =>
      match campaigns.find? fun c => c.id = winnerId with
      | none => ⟨audit, .error "Winner campaign not found"⟩
      | some c =>
        { effects := audit ++ [.enqueue (.leadUpdate (r.winnerUpdate winner c))]
          result := .ok (winnerResult winner c timings) }

/-! ### Posts -/

/-- The acceptance test of a post: `success`, a `post_id`, and a price above zero. -/
def postAccepted (b : BuyerResponse) : Bool :=
  b.success && b.postId.isSome && hasPrice b

/-- The lead status of a post that was not accepted. -/
def postFailureStatus (b : BuyerResponse) : LeadStatus :=
  if b.status = "rejected" then .rejected
  else if b.status = "timeout" then .timeout
  else .error

/-- What follows a buyer's answer to a post. -/
def postAnswered (r : PingTreeRouter) (env : RouteEnv) (c : Campaign) (b : BuyerResponse) :
    Routed :=
  let audit : Effect := .enqueue (.buyerResponse
    { leadId := r.lead.uuid
      campaignId := c.id
      pingId := none
      postId := b.postId
      buyerId := some c.buyerId
      payload := b.toJson
      leadIdStr := r.lead.leadId })
  if postAccepted b then
    -- the lead is marked as sold by the router itself, with what the buyer calls the post
    let postId := b.postId.getD ""
    { effects := [audit, .exec (.setPost r.lead.uuid postId)]
      result := .ok
        { success := true
          status := "sold"
          error := none
          promiseId := b.promiseId
          pingId := b.pingId
          postId := some postId
          price := b.price
          campaignId := some c.id
          buyerId := some c.buyerId
          perBuyerTimings := none } }
  else
    { effects := audit :: r.updateLeadStatus env (postFailureStatus b) b.error
      result := .ok
        { success := false
          status := (postFailureStatus b).asStr
          error := b.error
          promiseId := b.promiseId
          pingId := b.pingId
          postId := b.postId
          price := b.price
          campaignId := some c.id
          buyerId := some c.buyerId
          perBuyerTimings := none } }

/-- The campaign a post goes to: the one of the lead, else the first of the tree. -/
def postCampaign (r : PingTreeRouter) (campaigns : List Campaign) : Option Campaign :=
  match r.lead.campaignId with
  | some id => campaigns.find? fun c => c.id = id
  | none => campaigns.head?

def routePost (r : PingTreeRouter) (env : RouteEnv) (campaigns : List Campaign) : Routed :=
  if r.lead.campaignId.any fun id => !campaigns.any fun c => c.id = id then
    r.failWith env "Campaign from ping not found in ping tree"
      "Campaign from ping not found in ping tree"
  else
    match r.postCampaign campaigns with
    | none => r.failWith env "No campaign found for post" "No campaign found for post"
    | some c =>
      match (BuyerRouter.new r.lead [c] r.requestType).route env.directory (env.postCall c.id) with
      | .ok b => r.postAnswered env c b
      | .error e =>
        { effects := r.updateLeadStatus env .error (some "Buyer routing failed")
          result := .ok { RoutingResult.failed "error" e with
            campaignId := some c.id, buyerId := some c.buyerId } }

/-! ### Fullposts -/

/-- The result of a ping that was followed by a post. -/
def mergeResults (ping post : RoutingResult) : RoutingResult where
  success := post.success || (ping.success && post.postId.isSome)
  status :=
    if post.success && post.postId.isSome && post.price.isSome then "sold"
    else if ping.success then "ping_accepted"
    else post.status
  error := post.error.or ping.error
  promiseId := ping.promiseId.or post.promiseId
  pingId := ping.pingId.or post.pingId
  postId := post.postId
  price := post.price.or ping.price
  campaignId := post.campaignId.or ping.campaignId
  buyerId := post.buyerId.or ping.buyerId
  perBuyerTimings := ping.perBuyerTimings.or post.perBuyerTimings

/-- The router of the post phase: the lead with the promise and the campaign of the ping. -/
def postRouter (r : PingTreeRouter) (ping : RoutingResult) : PingTreeRouter where
  lead := { r.lead with
    promiseId := ping.promiseId.or r.lead.promiseId
    campaignId := ping.campaignId.or r.lead.campaignId }
  vertical := r.vertical
  requestType := .post

/-- A fullpost over a `ping_post` tree: a ping auction, then a post to the winner. -/
def routeFullpostSplit (r : PingTreeRouter) (env : RouteEnv) (priority : Uuid → Option ℤ)
    (campaigns : List Campaign) : Routed :=
  let pingRouted := { r with requestType := .ping }.routePingAuction env priority campaigns
  match pingRouted.result with
  | .error e => ⟨pingRouted.effects, .error e⟩
  | .ok ping =>
    if !ping.success then ⟨pingRouted.effects, .ok ping⟩
    else
      let postRouted := (r.postRouter ping).routePost env campaigns
      { effects := pingRouted.effects ++ postRouted.effects
        result := postRouted.result.map (mergeResults ping) }

/-- One buyer's answer to a direct fullpost. -/
def fullpostOutcome (r : PingTreeRouter) (env : RouteEnv) (c : Campaign) :
    Except String BuyerResponse :=
  (BuyerRouter.new r.lead [c] .fullpost).route env.directory (env.postCall c.id)

/-- The responses of a direct fullpost.  The ids are in submission order, the results in
completion order, and they are paired by position. -/
def fullpostResponses (r : PingTreeRouter) (env : RouteEnv) (priority : Uuid → Option ℤ)
    (campaigns : List Campaign) : List Attributed :=
  ((campaigns.map Campaign.id).zip
    ((inOrder env.order campaigns).map (r.fullpostOutcome env))).filterMap
    fun (campaignId, result) =>
      match result with
      | .ok b => some (b, campaignId, priority campaignId)
      | .error _ => none

/-- A fullpost response that can win. -/
def validFullpost (r : BuyerResponse) : Bool :=
  r.success && hasPrice r && r.status != "timeout"

/-- The audit records of a direct fullpost. -/
def fullpostAudit (r : PingTreeRouter) (campaigns : List Campaign)
    (responses : List Attributed) : List Effect :=
  responses.map fun (response, campaignId, _) =>
    .enqueue (.buyerResponse
      { leadId := r.lead.uuid
        campaignId := campaignId
        pingId := none
        postId := response.postId
        buyerId := buyerOf campaigns campaignId
        payload := response.toJson
        leadIdStr := r.lead.leadId })

/-- A fullpost to all campaigns at once. -/
def routeFullpostDirect (r : PingTreeRouter) (env : RouteEnv) (priority : Uuid → Option ℤ)
    (campaigns : List Campaign) : Routed :=
  let responses := r.fullpostResponses env priority campaigns
  match sortOffers BuyerResponse.price (responses.filter fun x => validFullpost x.1) with
  | [] =>
    let rejected := fun x : BuyerResponse => !x.success && x.status != "timeout"
    let finalStatus := failureStatus responses rejected
    { effects := r.updateLeadStatus env finalStatus (some "No valid buyer responses")
      result := .ok (.failed finalStatus.asStr (failureMessage responses rejected)) }
  | (winner, winnerId, _) :: _ =>
    match campaigns.find? fun c => c.id = winnerId with
    | none => ⟨[], .error "Winner campaign not found"⟩
    | some c =>
      -- a promise is made up for a buyer that gave none
      let promiseId := winner.promiseId.or
        (some ("PROMISE_" ++ Encoding.hexUpper env.promiseBytes))
      { effects :=
          .exec (.setFullpostWinner r.lead.uuid winnerId c.buyerId promiseId winner.postId) ::
            r.fullpostAudit campaigns responses
        result := .ok
          { success := true
            status := "sold"
            error := none
            promiseId := promiseId
            pingId := none
            postId := winner.postId
            price := winner.price
            campaignId := some winnerId
            buyerId := some c.buyerId
            perBuyerTimings := none } }

def routeFullpost (r : PingTreeRouter) (env : RouteEnv) (pingTree : PingTree)
    (priority : Uuid → Option ℤ) (campaigns : List Campaign) : Routed :=
  if pingTree.strategy = "ping_post" then r.routeFullpostSplit env priority campaigns
  else r.routeFullpostDirect env priority campaigns

/-! ### Routing -/

/-- The active campaigns of a ping tree. -/
def activeCampaigns (env : RouteEnv) (ptcs : List PingTreeCampaign) : List Campaign :=
  ptcs.filterMap fun ptc =>
    ((env.campaignsWithAssociations.map Prod.fst).find? fun c => c.id = ptc.campaignId).filter
      Campaign.active

/-- The priorities of a ping tree; the last entry of a campaign counts. -/
def priorityOf (ptcs : List PingTreeCampaign) (id : Uuid) : Option ℤ :=
  (ptcs.reverse.find? fun ptc => ptc.campaignId = id).bind PingTreeCampaign.priority

def route (r : PingTreeRouter) (env : RouteEnv) : Routed :=
  match env.pingTree with
  -- an error of the lookup is returned without an update of the lead
  | .error e => ⟨[], .error e⟩
  | .ok none =>
    r.failWith env "Publisher not assigned to any ping tree"
      ("Publisher not assigned to any ping tree for vertical: " ++ r.vertical)
  | .ok (some pingTree) =>
    if !pingTree.isActive then
      r.failWith env ("Ping tree is " ++ pingTree.status)
        ("Ping tree is " ++ pingTree.status ++ ". Only active ping trees accept requests.")
    else
      match env.pingTreeCampaigns with
      | .error e => ⟨[], .error e⟩
      | .ok ptcs =>
        if ptcs.isEmpty then
          r.failWith env "No active campaigns found in ping tree"
            "No active campaigns found in ping tree"
        else
          let campaigns := activeCampaigns env ptcs
          let priority := priorityOf ptcs
          if campaigns.isEmpty then
            r.failWith env "No valid campaigns found" "No valid campaigns found"
          else
            match r.requestType with
            | .ping => r.routePingAuction env priority campaigns
            | .post => r.routePost env campaigns
            | .fullpost => r.routeFullpost env pingTree priority campaigns
            | .other s =>
              r.failWith env ("Unknown request_type: " ++ s) ("Unknown request_type: " ++ s)

/-! ### What comes of a post -/

/-- The call to the buyer of a post's campaign. -/
def postResponse (r : PingTreeRouter) (env : RouteEnv) (c : Campaign) :
    Except String BuyerResponse :=
  (BuyerRouter.new r.lead [c] .post).route env.directory (env.postCall c.id)

/-- Routing fails with a lookup, or finds no campaign to call, or goes on with the campaigns of an
active ping tree. -/
theorem route_cases (r : PingTreeRouter) (env : RouteEnv) :
    (env.callable = none ∧ env.lookupsFail = true ∧ ∃ e, r.route env = ⟨[], .error e⟩) ∨
    ((∀ tree ptcs, env.callable = some (tree, ptcs) → activeCampaigns env ptcs = []) ∧
      ∃ logged reported, r.route env = r.failWith env logged reported) ∨
    ∃ tree ptcs, env.callable = some (tree, ptcs) ∧
      r.route env = match r.requestType with
        | .ping => r.routePingAuction env (priorityOf ptcs) (activeCampaigns env ptcs)
        | .post => r.routePost env (activeCampaigns env ptcs)
        | .fullpost => r.routeFullpost env tree (priorityOf ptcs) (activeCampaigns env ptcs)
        | .other s =>
          r.failWith env ("Unknown request_type: " ++ s) ("Unknown request_type: " ++ s) := by
  rw [route, RouteEnv.callable.eq_def, RouteEnv.lookupsFail.eq_def]
  rcases htree : env.pingTree with e | _ | tree
  · exact Or.inl ⟨rfl, rfl, e, rfl⟩
  · -- no ping tree
    refine Or.inr (Or.inl ⟨?_, _, _, rfl⟩)
    intro tree ptcs h
    cases h
  · by_cases hactive : tree.isActive = true
    · rcases hptcs : env.pingTreeCampaigns with e | ptcs
      · left
        simp [hactive]
      · simp only [hactive, Bool.not_true, Bool.false_eq_true, if_false, if_true]
        by_cases hempty : activeCampaigns env ptcs = []
        · refine Or.inr (Or.inl ⟨?_, ?_⟩)
          · intro tree' ptcs' h
            rw [Option.some_inj, Prod.mk.injEq] at h
            rw [← h.2]
            exact hempty
          · -- the links are none, or none of their campaigns is active
            split
            · exact ⟨_, _, rfl⟩
            · rw [if_pos (List.isEmpty_iff.mpr hempty)]
              exact ⟨_, _, rfl⟩
        · have hptcs' : ¬ ptcs.isEmpty = true := by
            intro h
            rw [List.isEmpty_iff.mp h] at hempty
            exact hempty rfl
          refine Or.inr (Or.inr ⟨tree, ptcs, rfl, ?_⟩)
          rw [if_neg hptcs', if_neg (fun h => hempty (List.isEmpty_iff.mp h))]
    · refine Or.inr (Or.inl ⟨?_, ?_⟩)
      · -- the tree is not active
        intro tree' ptcs' h
        cases hptcs : env.pingTreeCampaigns <;> simp [hptcs, hactive] at h
      · simp [hactive]

omit [StdText] in
theorem mem_activeCampaigns {env : RouteEnv} {ptcs : List PingTreeCampaign} {c : Campaign}
    (h : c ∈ activeCampaigns env ptcs) : c ∈ env.campaignsWithAssociations.map Prod.fst := by
  obtain ⟨ptc, -, hptc⟩ := List.mem_filterMap.mp h
  exact List.mem_of_find?_eq_some (Option.filter_eq_some_iff.mp hptc).1

omit [StdText] in
/-- The id of a campaign of the tree says which one it is. -/
theorem activeCampaigns_inj {env : RouteEnv} {ptcs : List PingTreeCampaign} {c c' : Campaign}
    (hc : c ∈ activeCampaigns env ptcs) (hc' : c' ∈ activeCampaigns env ptcs)
    (h : c.id = c'.id) : c = c' := by
  have hfind : ∀ {c : Campaign}, c ∈ activeCampaigns env ptcs →
      (env.campaignsWithAssociations.map Prod.fst).find? (fun x => x.id = c.id) = some c := by
    intro c hc
    obtain ⟨ptc, -, hptc⟩ := List.mem_filterMap.mp hc
    obtain ⟨hptc, -⟩ := Option.filter_eq_some_iff.mp hptc
    have hid := List.find?_some hptc
    rw [decide_eq_true_iff] at hid
    rw [hid]
    exact hptc
  have hfound := hfind hc
  rw [h, hfind hc', Option.some_inj] at hfound
  exact hfound.symm

/-- Routing a post fails, or ends without reaching a buyer, or brings a buyer's answer. -/
theorem route_post_cases {r : PingTreeRouter} (hr : r.requestType = .post) (env : RouteEnv) :
    (∃ e, r.route env = ⟨[], .error e⟩ ∧ env.lookupsFail = true) ∨
    (∃ err res, r.route env = ⟨r.updateLeadStatus env .error (some err), .ok res⟩ ∧
      res.success = false) ∨
    ∃ c b, c ∈ env.campaignsWithAssociations.map Prod.fst ∧
      r.lead.campaignId.all (fun id => id = c.id) = true ∧ r.postResponse env c = .ok b ∧
      r.route env = r.postAnswered env c b := by
  rcases r.route_cases env with ⟨-, hfail, e, h⟩ | ⟨-, logged, reported, h⟩ | ⟨tree, ptcs, -, h⟩
  · exact Or.inl ⟨e, h, hfail⟩
  · exact Or.inr (Or.inl ⟨logged, _, h, rfl⟩)
  · simp only [hr] at h
    rw [h, routePost]
    split
    · exact Or.inr (Or.inl ⟨_, _, rfl, rfl⟩)
    · split
      · exact Or.inr (Or.inl ⟨_, _, rfl, rfl⟩)
      · next c hc =>
        -- the campaign is the one of the lead, if the lead has one
        have hid : r.lead.campaignId.all (fun id => id = c.id) = true := by
          rw [postCampaign] at hc
          split at hc
          · next id hid =>
            have hfound := List.find?_some hc
            rw [decide_eq_true_iff] at hfound
            rw [hid, Option.all_some, decide_eq_true_iff]
            exact hfound.symm
          · next hid => rw [hid]; rfl
        have hmem : c ∈ activeCampaigns env ptcs := by
          rw [postCampaign] at hc
          split at hc
          · exact List.mem_of_find?_eq_some hc
          · exact List.mem_of_head? hc
        rw [hr]
        split
        · next b hb => exact Or.inr (Or.inr ⟨c, b, mem_activeCampaigns hmem, hid, hb, rfl⟩)
        · exact Or.inr (Or.inl ⟨_, _, rfl, rfl⟩)

/-- Routing a post fails exactly if the lookups of the router do. -/
theorem route_post_error_iff {r : PingTreeRouter} (hr : r.requestType = .post)
    (env : RouteEnv) : (∃ e, (r.route env).result = .error e) ↔ env.lookupsFail = true := by
  constructor
  · rintro ⟨e, he⟩
    rcases route_post_cases hr env with ⟨-, -, hfail⟩ | ⟨err, res, h, -⟩ | ⟨c, b, -, -, -, h⟩
    · exact hfail
    · rw [h] at he
      cases he
    · rw [h, postAnswered] at he
      split at he <;> cases he
  · intro hfail
    rw [RouteEnv.lookupsFail.eq_def] at hfail
    rw [route]
    split at hfail
    · next e htree =>
      rw [htree]
      exact ⟨e, rfl⟩
    · next tree e htree hptcs =>
      simp only [htree, hptcs, hfail, Bool.not_true, Bool.false_eq_true, if_false]
      exact ⟨e, rfl⟩
    · cases hfail

/-! ### The statements of a call -/

omit [StdText] in
/-- A direct status update only changes the lead's own status, and only while the lead is being
processed. -/
theorem mem_updateLeadStatus {r : PingTreeRouter} {env : RouteEnv} {status : LeadStatus}
    {error : Option String} {e : Effect} (he : e ∈ r.updateLeadStatus env status error) :
    ∃ vd, e = .exec (.setStatus r.lead.uuid status vd) ∧
      (r.lead.status = .processing ∨ r.lead.status = .test) := by
  rw [updateLeadStatus] at he
  split at he
  · next hopen => exact ⟨_, List.mem_singleton.mp he, hopen⟩
  · cases he

/-- An effect that only leads to statements for lead `l` that are not conditional on a token;
none of them is a claim. -/
def OnLead (l : Uuid) (e : Effect) : Prop :=
  ∀ st ∈ e.statements, st.leadId = l ∧ st.token = none ∧ st.isClaim = false

omit [StdText] in
theorem onLead_buyerResponse (l : Uuid) (t : BuyerResponseTask) :
    OnLead l (.enqueue (.buyerResponse t)) := by
  intro st hst
  cases hst

omit [StdText] in
theorem onLead_exec {l : Uuid} {st : LeadStatement} (hl : st.leadId = l) (h : st.token = none)
    (hc : st.isClaim = false) : OnLead l (.exec st) := by
  intro st' hst'
  rw [List.mem_singleton.mp hst']
  exact ⟨hl, h, hc⟩

omit [StdText] in
theorem onLead_leadUpdate {l : Uuid} {u : LeadUpdate} (hl : u.leadId = l)
    (h : u.inprogToken = none) : OnLead l (.enqueue (.leadUpdate u)) := by
  intro st hst
  have hmem : st ∈ u.statements := hst
  rw [LeadUpdate.statements, h, List.mem_append] at hmem
  rcases hmem with hmem | hmem
  · split at hmem
    · rw [List.mem_singleton.mp hmem]
      exact ⟨hl, h, rfl⟩
    · cases hmem
  · rw [List.mem_singleton.mp hmem]
    exact ⟨hl, rfl, rfl⟩

omit [StdText] in
theorem onLead_updateLeadStatus {r : PingTreeRouter} {env : RouteEnv} {status : LeadStatus}
    {error : Option String} {e : Effect} (he : e ∈ r.updateLeadStatus env status error) :
    OnLead r.lead.uuid e := by
  obtain ⟨vd, rfl, -⟩ := mem_updateLeadStatus he
  exact onLead_exec rfl rfl rfl

omit [StdText] in
theorem onLead_pingAudit {r : PingTreeRouter} {env : RouteEnv} {campaigns : List Campaign}
    {responses : List Attributed} {e : Effect} (he : e ∈ r.pingAudit env campaigns responses)
    (l : Uuid) : OnLead l e := by
  obtain ⟨x, -, rfl⟩ := List.mem_map.mp he
  exact onLead_buyerResponse l _

theorem onLead_routePingAuction {r : PingTreeRouter} {env : RouteEnv} {priority : Uuid → Option ℤ}
    {campaigns : List Campaign} {e : Effect}
    (he : e ∈ (r.routePingAuction env priority campaigns).effects) : OnLead r.lead.uuid e := by
  simp only [routePingAuction] at he
  split at he
  · rcases List.mem_append.mp he with he | he
    · exact onLead_pingAudit he _
    · exact onLead_updateLeadStatus he
  · split at he
    · exact onLead_pingAudit he _
    · split at he
      · exact onLead_pingAudit he _
      · rcases List.mem_append.mp he with he | he
        · exact onLead_pingAudit he _
        · rw [List.mem_singleton.mp he]
          exact onLead_leadUpdate rfl rfl

theorem onLead_routePost {r : PingTreeRouter} {env : RouteEnv} {campaigns : List Campaign}
    {e : Effect} (he : e ∈ (r.routePost env campaigns).effects) : OnLead r.lead.uuid e := by
  rw [routePost] at he
  split at he
  · exact onLead_updateLeadStatus he
  · split at he
    · exact onLead_updateLeadStatus he
    · split at he
      · rw [postAnswered] at he
        split at he
        · rcases List.mem_cons.mp he with rfl | he
          · exact onLead_buyerResponse _ _
          · rw [List.mem_singleton.mp he]
            exact onLead_exec rfl rfl rfl
        · rcases List.mem_cons.mp he with rfl | he
          · exact onLead_buyerResponse _ _
          · exact onLead_updateLeadStatus he
      · exact onLead_updateLeadStatus he

theorem onLead_routeFullpostDirect {r : PingTreeRouter} {env : RouteEnv}
    {priority : Uuid → Option ℤ} {campaigns : List Campaign} {e : Effect}
    (he : e ∈ (r.routeFullpostDirect env priority campaigns).effects) :
    OnLead r.lead.uuid e := by
  simp only [routeFullpostDirect] at he
  split at he
  · exact onLead_updateLeadStatus he
  · split at he
    · cases he
    · rcases List.mem_cons.mp he with rfl | he
      · exact onLead_exec rfl rfl rfl
      · obtain ⟨x, -, rfl⟩ := List.mem_map.mp he
        exact onLead_buyerResponse _ _

theorem onLead_routeFullpostSplit {r : PingTreeRouter} {env : RouteEnv}
    {priority : Uuid → Option ℤ} {campaigns : List Campaign} {e : Effect}
    (he : e ∈ (r.routeFullpostSplit env priority campaigns).effects) :
    OnLead r.lead.uuid e := by
  simp only [routeFullpostSplit] at he
  split at he
  · exact onLead_routePingAuction (r := { r with requestType := .ping }) he
  · split at he
    · exact onLead_routePingAuction (r := { r with requestType := .ping }) he
    · rcases List.mem_append.mp he with he | he
      · exact onLead_routePingAuction (r := { r with requestType := .ping }) he
      · exact onLead_routePost (r := r.postRouter _) he

/-- A call only leads to unconditional statements for its own lead. -/
theorem onLead_route {r : PingTreeRouter} {env : RouteEnv} {e : Effect}
    (he : e ∈ (r.route env).effects) : OnLead r.lead.uuid e := by
  rcases r.route_cases env with ⟨-, -, err, h⟩ | ⟨-, logged, reported, h⟩ | ⟨tree, ptcs, -, h⟩
  · rw [h] at he
    cases he
  · rw [h] at he
    exact onLead_updateLeadStatus he
  · rw [h] at he
    split at he
    · exact onLead_routePingAuction he
    · exact onLead_routePost he
    · rw [routeFullpost] at he
      split at he
      · exact onLead_routeFullpostSplit he
      · exact onLead_routeFullpostDirect he
    · exact onLead_updateLeadStatus he

end PingTreeRouter

end LeadsNebula
