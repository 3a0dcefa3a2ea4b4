/-
Lead submission (`create_lead` of `routes/leads.rs`).

A ping or a fullpost makes a new lead: it enqueues the insertion, routes the
lead, and, in synchronous mode, records what came of it (`recordResult`).  The
status it records is worked out again from the routing result (`finalStatus`).
In asynchronous mode the routing runs in the background and nothing more is
recorded.

A post works on a lead that exists: it looks the lead up, claims it by writing
a token of its own into `post_id`, routes it, and enqueues an update that is
conditional on the token (`recordPost`).

What the request draws at random and the clocks it reads are arguments.
-/
import LeadsNebula.PingTreeRouter

namespace LeadsNebula

/-- The headers of a request; the value of a header is `none` when it is not text. -/
abbrev Headers := String → Option (Option String)

structure LeadRequest where
  data : LeadData
  publisherId : Uuid
  vertical : Vertical
  asyncMode : Bool
  headers : Headers

/-- What `create_lead` makes up for a new lead, with the campaign and the buyer that the
pre-checks found. -/
structure NewLead where
  uuid : Uuid
  leadIdChars : List Char
  eventUuid : Uuid
  sessionUuid : Uuid
  promiseBytes : List UInt8
  campaignId : Uuid
  buyerId : Uuid

/-- The durations and the other readings that go into the stored timing data. -/
structure AuctionTiming where
  preChecksMs : ℕ
  pingAuctionMs : ℕ
  qualificationMs : ℕ
  postMs : ℕ
  totalMs : ℕ
  dbOperationsMs : ℕ
  newRequestId : String
  timestamp : String

/-! ### Required fields -/

/-- The fields a request of a type has to carry, in the order they are checked, and whether
the body has them. -/
def requiredFields (d : LeadData) : RequestType → List (String × Bool)
  | .post =>
    [("promise_id", d.promiseId.isSome), ("publisher_id", d.publisherId.isSome),
      ("request_type", d.requestType.isSome), ("first_name", d.firstName.isSome),
      ("last_name", d.lastName.isSome), ("email", d.email.isSome),
      ("cell_phone", d.cellPhone.isSome), ("street_address", d.streetAddress.isSome),
      ("city", d.city.isSome), ("state", d.state.isSome), ("zip", d.zip.isSome),
      ("ip_address", d.ipAddress.isSome), ("monthly_bill", d.monthlyBill.isSome),
      ("own_home", d.ownHome.isSome), ("roof_shade", d.roofShade.isSome),
      ("utility_provider", d.utilityProvider.isSome), ("property_type", d.propertyType.isSome),
      ("tcpa_consent", d.tcpaConsent.isSome), ("tcpa_language", d.tcpaLanguage.isSome),
      ("credit_rating", d.creditRating.isSome), ("trusted_form_url", d.trustedFormUrl.isSome)]
  | .fullpost =>
    [("publisher_id", d.publisherId.isSome), ("request_type", d.requestType.isSome),
      ("first_name", d.firstName.isSome), ("last_name", d.lastName.isSome),
      ("email", d.email.isSome), ("cell_phone", d.cellPhone.isSome),
      ("street_address", d.streetAddress.isSome), ("city", d.city.isSome),
      ("state", d.state.isSome), ("zip", d.zip.isSome), ("ip_address", d.ipAddress.isSome),
      ("monthly_bill", d.monthlyBill.isSome), ("own_home", d.ownHome.isSome),
      ("roof_shade", d.roofShade.isSome), ("utility_provider", d.utilityProvider.isSome),
      ("credit_rating", d.creditRating.isSome), ("tcpa_consent", d.tcpaConsent.isSome),
      ("tcpa_language", d.tcpaLanguage.isSome), ("trusted_form_url", d.trustedFormUrl.isSome)]
  | _ =>
    [("publisher_id", d.publisherId.isSome), ("request_type", d.requestType.isSome),
      ("zip", d.zip.isSome), ("ip_address", d.ipAddress.isSome),
      ("monthly_bill", d.monthlyBill.isSome), ("own_home", d.ownHome.isSome),
      ("roof_shade", d.roofShade.isSome), ("credit_rating", d.creditRating.isSome),
      ("tcpa_consent", d.tcpaConsent.isSome), ("tcpa_language", d.tcpaLanguage.isSome),
      ("trusted_form_url", d.trustedFormUrl.isSome)]

def missingRequiredLeadField (d : LeadData) (requestType : RequestType) : Option String :=
  ((requiredFields d requestType).find? fun field => !field.2).map Prod.fst

/-! ### Timing data -/

/-- The text of a header. -/
def Headers.text (h : Headers) (name : String) : Option String := (h name).join

/-- The value of the first of two headers that is present. -/
def Headers.textOr (h : Headers) (name name' : String) : Option String :=
  ((h name).or (h name')).join

/-- `str::trim` of a header text. -/
def trimText (s : String) : String :=
  String.ofList ((s.toList.dropWhile Char.isWhitespace).reverse.dropWhile Char.isWhitespace).reverse

def requestContextFromHeaders (h : Headers)
    (endpoint method reason source outcome targetType targetId action : String)
    (timing : AuctionTiming) : List (String × Json) :=
  let ipAddress := (h.textOr "x-forwarded-for" "x-real-ip").map fun s =>
    trimText (String.ofList (s.toList.takeWhile (· ≠ ',')))
  let ipAddressV4 := (h.text "x-client-ipv4").map trimText
  let ipAddressV6 := (h.text "x-client-ipv6").map trimText
  let requestId := (h.textOr "x-request-id" "x-correlation-id").getD timing.newRequestId
  let context : List (String × Json) :=
    [("endpoint", .str endpoint), ("method", .str method), ("reason", .str reason),
      ("source", .str source), ("request_id", .str requestId),
      ("ip_address", .ofOption .str ipAddress)] ++
    (if ipAddressV4.isSome || ipAddressV6.isSome then
      [("ip_address_v4", .ofOption .str ipAddressV4),
        ("ip_address_v6", .ofOption .str ipAddressV6)]
    else []) ++
    [("user_agent", .ofOption .str (h.text "user-agent")),
      ("referer", .ofOption .str (h.text "referer")),
      ("session_id", .ofOption .str (h.text "x-session-id"))]
  [("context", .obj context),
    ("compliance", .obj [("standard", .str "ISO_27001_SOC2_NIST"), ("version", .str "2024")]),
    ("outcome", .str outcome), ("timestamp", .str timing.timestamp),
    ("target_type", .str targetType), ("target_id", .str targetId), ("target_name", .null),
    ("action", .str action)]

/-- `auction_timing` and `verbose`, the data stored about a request. -/
def timingData (auctionTiming verbose : List (String × Json)) : List (String × Json) :=
  [("auction_timing", .obj auctionTiming), ("verbose", .obj verbose)]

/-- The stored per-buyer timings of an auction, if there are any. -/
def perBuyerField (r : RoutingResult) : List (String × Json) :=
  match r.perBuyerTimings with
  | some l => [("per_buyer_timings", .arr l)]
  | none => []

/-- A routing result as it is stored with a payload. -/
def routingResultJson (r : RoutingResult) : Json :=
  let price : Json := match r.price with
    | some (.fin q) => .num q
    | some _ => .num 0
    | none => .null
  .obj [("routing_result", .obj
    [("status", .str r.status), ("success", .bool r.success), ("error", .ofOption .str r.error),
      ("price", price), ("buyer_id", .ofOption (.str ∘ Uuid.toString) r.buyerId),
      ("campaign_id", .ofOption (.str ∘ Uuid.toString) r.campaignId),
      ("ping_id", .ofOption .str r.pingId), ("post_id", .ofOption .str r.postId),
      ("promise_id", .ofOption .str r.promiseId)])]

/-! ### Pings and fullposts -/

/-- The status that `create_lead` records for a routing result. -/
def finalStatus (r : RoutingResult) : LeadStatus :=
  if r.success && r.status = "sold" && r.price.any F64.isPos then .sold
  else if r.success && r.postId.isSome && r.price.any F64.isPos then .sold
  else if r.success && r.campaignId.isSome && r.buyerId.isSome && r.price.any F64.isPos then .sold
  else if r.success && (r.status = "accepted" || r.status = "ping_accepted") then .pingAccepted
  else if r.campaignId.isSome && r.buyerId.isSome then .pingAccepted
  else .processing

namespace LeadRequest

variable [StdText]

def requestType (req : LeadRequest) : RequestType := req.data.type

def strategy (req : LeadRequest) : String :=
  match req.requestType with
  | .fullpost => "fullPost"
  | _ => "pingPost"

/-- The promise of a new lead; only pings and fullposts get one. -/
def newPromiseId (req : LeadRequest) (new : NewLead) : Option String :=
  match req.requestType with
  | .ping | .fullpost => some ("PROMISE_" ++ Encoding.hexUpper new.promiseBytes)
  | _ => none

/-- The `lead_id` of a new lead. -/
def newLeadId (req : LeadRequest) (new : NewLead) : String :=
  toUppercase req.vertical.slug ++ "-" ++ String.ofList (new.leadIdChars.map Char.toUpper)

/-- The copy of the new lead that is routed.  Its `vertical_data` is empty. -/
def newLead (req : LeadRequest) (new : NewLead) (now : Timestamp) : Lead where
  uuid := new.uuid
  eventId := "evt_" ++ new.eventUuid.toString
  leadId := some (req.newLeadId new)
  publisherId := some req.publisherId
  verticalId := req.vertical.id
  campaignId := some new.campaignId
  buyerId := some new.buyerId
  requestType := req.requestType
  strategy := req.strategy
  status := if req.data.isTest.getD false then .test else .processing
  promiseId := req.newPromiseId new
  pingId := none
  postId := none
  sessionId := some ("sess_" ++ new.sessionUuid.toString)
  tcpaConsent := req.data.tcpaConsent.getD false
  tcpaLanguage := req.data.tcpaLanguage.getD ""
  isTest := req.data.isTest.getD false
  userAgent := req.data.userAgent.or (Headers.text req.headers "user-agent")
  websiteUrl := req.data.source
  submittedAt := some now
  soldAt := none
  verticalData := .obj []
  createdAt := now
  updatedAt := now

/-- The insertion of the new lead. -/
def leadCreation (req : LeadRequest) (new : NewLead) : LeadCreation where
  uuid := new.uuid
  eventId := "evt_" ++ new.eventUuid.toString
  leadId := some (req.newLeadId new)
  publisherId := req.publisherId
  verticalId := req.vertical.id
  requestType := req.requestType
  strategy := req.strategy
  promiseId := req.newPromiseId new
  buyerId := new.buyerId
  campaignId := new.campaignId
  tcpaConsent := req.data.tcpaConsent.getD false
  tcpaLanguage := req.data.tcpaLanguage.getD ""
  isTest := req.data.isTest.getD false
  sessionId := "sess_" ++ new.sessionUuid.toString
  verticalData := .obj []

/-- The router of the new lead. -/
def router (req : LeadRequest) (new : NewLead) (now : Timestamp) : PingTreeRouter :=
  ⟨req.newLead new now, req.vertical.slug, req.requestType⟩

/-- The timing data of a ping or a fullpost. -/
def auctionTimingData (req : LeadRequest) (new : NewLead) (timing : AuctionTiming)
    (r : RoutingResult) : List (String × Json) :=
  let verbose := requestContextFromHeaders req.headers "/api/v1/leads" "POST"
    "Lead submission (auction processing)" "carina_api" (if r.success then "success" else "failure")
    "Lead" new.uuid.toString req.requestType.asStr timing
  let processingTimes : List (String × Json) :=
    [("pre_checks_ms", .ofNat timing.preChecksMs),
      ("ping_auction_ms", .ofNat timing.pingAuctionMs),
      ("qualification_ms", .ofNat timing.qualificationMs), ("post_ms", .ofNat timing.postMs),
      ("db_operations_ms", .ofNat timing.dbOperationsMs), ("total_ms", .ofNat timing.totalMs)] ++
    perBuyerField r
  timingData
    ([("request_type", .str req.requestType.asStr), ("pre_checks_ms", .ofNat timing.preChecksMs),
      ("ping_auction_ms", .ofNat timing.pingAuctionMs),
      ("qualification_ms", .ofNat timing.qualificationMs), ("post_ms", .ofNat timing.postMs),
      ("total_ms", .ofNat timing.totalMs)] ++ perBuyerField r ++
      [("db_operations_ms", .ofNat timing.dbOperationsMs)])
    (verbose ++ [("processing_times", .obj processingTimes)])

/-- The payload records of a fullpost. -/
def payloadTasks (req : LeadRequest) (new : NewLead) (r : RoutingResult) : List Effect :=
  (if req.requestType = .fullpost ∧ r.pingId.isSome then
    [.enqueue (.payloadUpdate
      ⟨new.uuid, "ping", routingResultJson r, none, some new.uuid, r.pingId⟩)]
  else []) ++
  (if req.requestType = .fullpost ∧ r.postId.isSome then
    [.enqueue (.payloadUpdate ⟨new.uuid, "post", req.data.toJson, r.postId, none, none⟩)]
  else [])

/-- The update that `create_lead` makes of its own; for a sold lead it is both spawned as a
statement and enqueued. -/
def finalUpdate (req : LeadRequest) (new : NewLead) (timing : AuctionTiming)
    (r : RoutingResult) : LeadUpdate where
  leadId := new.uuid
  status := finalStatus r
  campaignId := r.campaignId
  buyerId := r.buyerId
  promiseId := r.promiseId
  pingId := r.pingId
  postId := r.postId
  soldAt := finalStatus r = .sold
  inprogToken := none
  verticalData := some (.obj (req.auctionTimingData new timing r))

/-- What follows the routing of a new lead in synchronous mode. -/
def recordResult (req : LeadRequest) (new : NewLead) (timing : AuctionTiming)
    (r : RoutingResult) : List Effect :=
  let update := req.finalUpdate new timing r
  req.payloadTasks new r ++
    (if finalStatus r = .sold then [.spawn (.updateSold update)] else []) ++
    [.enqueue (.leadUpdate update)]

/-- What follows the routing of a new lead. -/
def afterRouting (req : LeadRequest) (new : NewLead) (timing : AuctionTiming)
    (result : Except String RoutingResult) : List Effect :=
  if req.asyncMode then []
  else
    match result with
    | .ok r => req.recordResult new timing r
    | .error _ => []

/-- All that a ping or a fullpost does, in order. -/
def createEffects (req : LeadRequest) (new : NewLead) (now : Timestamp) (env : RouteEnv)
    (timing : AuctionTiming) : List Effect :=
  let routed := (req.router new now).route env
  .enqueue (.leadCreation (req.leadCreation new)) :: routed.effects ++
    req.afterRouting new timing routed.result

/-! ### Posts -/

/-- The token that claims a lead. -/
def inprogToken (id : Uuid) : String := "INPROG_" ++ id.toString

omit [StdText] in
theorem inprogToken_ne_empty (id : Uuid) : inprogToken id ≠ "" := by
  intro h
  have hlist := congrArg String.toList h
  simp [inprogToken] at hlist

/-- The router of a post on a lead. -/
def postRouter (req : LeadRequest) (lead : Lead) : PingTreeRouter :=
  ⟨lead, req.vertical.slug, .post⟩

/-- A result that `create_lead` takes for a sale. -/
def isSale (r : RoutingResult) : Bool := r.success && r.status = "sold"

/-- The timing data of a post. -/
def postTimingData (req : LeadRequest) (lead : Lead) (now : Timestamp) (timing : AuctionTiming)
    (r : RoutingResult) : List (String × Json) :=
  let verbose := requestContextFromHeaders req.headers "/api/v1/leads" "POST"
    "Lead post (buyer post)" "carina_api" (if isSale r then "success" else "failure")
    "Lead" lead.uuid.toString "post" timing
  let times : List (String × Json) :=
    [("pre_checks_ms", .ofNat timing.preChecksMs), ("post_ms", .ofNat timing.postMs),
      ("db_operations_ms", .ofNat timing.dbOperationsMs),
      ("total_ms", .ofNat (now - lead.createdAt))]
  timingData (("request_type", .str "post") :: times)
    (verbose ++ [("processing_times", .obj times)])

/-- The `vertical_data` that a post stores: the timing data over the copy it has read. -/
def postVerticalData (req : LeadRequest) (lead : Lead) (now : Timestamp) (timing : AuctionTiming)
    (r : RoutingResult) : Json :=
  let data := req.postTimingData lead now timing r
  match lead.verticalData with
  | .obj fields => .obj (Json.mergeFields fields data)
  | _ => .obj data

/-- The update that ends a post: the sale, or the release of the claim. -/
def postUpdate (req : LeadRequest) (lead : Lead) (token : String) (now : Timestamp)
    (timing : AuctionTiming) (r : RoutingResult) : LeadUpdate :=
  let verticalData := some (req.postVerticalData lead now timing r)
  if isSale r then
    { leadId := lead.uuid, status := .sold, campaignId := r.campaignId, buyerId := r.buyerId
      promiseId := none, pingId := none, postId := r.postId, soldAt := true
      inprogToken := some token, verticalData := verticalData }
  else
    { leadId := lead.uuid, status := lead.status, campaignId := none, buyerId := none
      promiseId := none, pingId := none, postId := some "", soldAt := false
      inprogToken := some token, verticalData := verticalData }

/-- What follows the routing of a post.  An error of the router ends the request. -/
def recordPost (req : LeadRequest) (lead : Lead) (token : String) (now : Timestamp)
    (timing : AuctionTiming) : Except String RoutingResult → List Effect
  | .ok r =>
    [.enqueue (.payloadUpdate ⟨lead.uuid, "post", req.data.toJson, r.postId, none, none⟩),
      .enqueue (.leadUpdate (req.postUpdate lead token now timing r))]
  | .error _ => []

/-- All that a post does after its claim, in order. -/
def postEffects (req : LeadRequest) (lead : Lead) (token : String) (now : Timestamp)
    (env : RouteEnv) (timing : AuctionTiming) : List Effect :=
  let routed := (req.postRouter lead).route env
  routed.effects ++ req.recordPost lead token now timing routed.result

/-- What can come of a post: its result and its effects. -/
inductive PostOutcome (req : LeadRequest) (lead : Lead) (token : String) (now : Timestamp)
    (env : RouteEnv) (timing : AuctionTiming) : Except String RoutingResult → List Effect → Prop
  /-- The router fails: nothing is recorded. -/
  | failed (e : String) (hfail : env.lookupsFail = true) :
      PostOutcome req lead token now env timing (.error e) []
  /-- A buyer accepts. -/
  | sale {c : Campaign} {b : BuyerResponse} {r : RoutingResult} {postId : String}
      {audit : BuyerResponseTask} {payload : PayloadUpdate}
      (hmem : c ∈ env.campaignsWithAssociations.map Prod.fst)
      (hid : lead.campaignId.all (fun id => id = c.id) = true)
      (hb : (req.postRouter lead).postResponse env c = .ok b)
      (hacc : PingTreeRouter.postAccepted b = true) (hpost : b.postId = some postId)
      (hsale : isSale r = true) (hrpost : r.postId = some postId) (hprice : r.price = b.price)
      (hcamp : r.campaignId = some c.id) (hbuyer : r.buyerId = some c.buyerId) :
      PostOutcome req lead token now env timing (.ok r)
        [.enqueue (.buyerResponse audit), .exec (.setPost lead.uuid postId),
          .enqueue (.payloadUpdate payload),
          .enqueue (.leadUpdate (req.postUpdate lead token now timing r))]
  /-- No buyer accepts: the status may be written, and the claim is released. -/
  | noSale {r : RoutingResult} {before : List Effect} {payload : PayloadUpdate}
      (hsale : isSale r = false)
      (hbefore : ∀ e ∈ before, (∃ t, e = .enqueue (.buyerResponse t)) ∨
        ∃ status vd, e = .exec (.setStatus lead.uuid status vd) ∧
          (lead.status = .processing ∨ lead.status = .test)) :
      PostOutcome req lead token now env timing (.ok r)
        (before ++ [.enqueue (.payloadUpdate payload),
          .enqueue (.leadUpdate (req.postUpdate lead token now timing r))])

theorem postOutcome (req : LeadRequest) (lead : Lead) (token : String) (now : Timestamp)
    (env : RouteEnv) (timing : AuctionTiming) :
    PostOutcome req lead token now env timing ((req.postRouter lead).route env).result
      (req.postEffects lead token now env timing) := by
  have hnosale : ∀ {r : RoutingResult}, r.success = false → isSale r = false := by
    intro r hr
    rw [isSale, hr, Bool.false_and]
  rw [postEffects]
  rcases PingTreeRouter.route_post_cases (r := req.postRouter lead) rfl env with
    ⟨e, h, hfail⟩ | ⟨err, res, h, hres⟩ | ⟨c, b, hmem, hid, hb, h⟩
  · -- the routing fails, sells nothing, or is answered by the buyer of the ping
    rw [h]
    exact .failed e hfail
  · rw [h]
    refine .noSale (hnosale hres) ?_
    intro e he
    obtain ⟨vd, rfl, hopen⟩ := PingTreeRouter.mem_updateLeadStatus he
    exact Or.inr ⟨_, vd, rfl, hopen⟩
  · rw [h, PingTreeRouter.postAnswered]
    by_cases hacc : PingTreeRouter.postAccepted b = true
    · -- an accepted answer has a post id
      have hpost : b.postId = some (b.postId.getD "") := by
        rw [PingTreeRouter.postAccepted, Bool.and_eq_true, Bool.and_eq_true] at hacc
        obtain ⟨postId, hpost⟩ := Option.isSome_iff_exists.mp hacc.1.2
        rw [hpost, Option.getD_some]
      rw [if_pos hacc]
      exact .sale hmem hid hb hacc hpost rfl rfl rfl rfl rfl
    · rw [if_neg hacc]
      refine .noSale (hnosale rfl) ?_
      intro e he
      rcases List.mem_cons.mp he with rfl | he
      · exact Or.inl ⟨_, rfl⟩
      · obtain ⟨vd, rfl, hopen⟩ := PingTreeRouter.mem_updateLeadStatus he
        exact Or.inr ⟨_, vd, rfl, hopen⟩

/-! ### The statements of a request -/

open PingTreeRouter (OnLead onLead_leadUpdate onLead_route)

omit [StdText] in
theorem onLead_payloadUpdate (l : Uuid) (t : PayloadUpdate) :
    OnLead l (.enqueue (.payloadUpdate t)) := by
  intro st hst
  cases hst

theorem onLead_recordResult {req : LeadRequest} {new : NewLead} {timing : AuctionTiming}
    {r : RoutingResult} {e : Effect} (he : e ∈ req.recordResult new timing r) :
    OnLead new.uuid e := by
  simp only [recordResult, payloadTasks, List.mem_append] at he
  rcases he with ((he | he) | he) | he
  · split at he
    · rw [List.mem_singleton.mp he]
      exact onLead_payloadUpdate _ _
    · cases he
  · split at he
    · rw [List.mem_singleton.mp he]
      exact onLead_payloadUpdate _ _
    · cases he
  · split at he
    · rw [List.mem_singleton.mp he]
      intro st hst
      rw [List.mem_singleton.mp hst]
      exact ⟨rfl, rfl, rfl⟩
    · cases he
  · rw [List.mem_singleton.mp he]
    exact onLead_leadUpdate rfl rfl

/-- A ping or a fullpost only leads to unconditional statements for its own lead. -/
theorem onLead_createEffects {req : LeadRequest} {new : NewLead} {now : Timestamp}
    {env : RouteEnv} {timing : AuctionTiming} {e : Effect}
    (he : e ∈ req.createEffects new now env timing) : OnLead new.uuid e := by
  simp only [createEffects, List.cons_append, List.mem_cons, List.mem_append] at he
  rcases he with rfl | he | he
  · intro st hst
    rw [List.mem_singleton.mp hst]
    exact ⟨rfl, rfl, rfl⟩
  · exact onLead_route (r := req.router new now) he
  · rw [afterRouting.eq_def] at he
    split at he
    · cases he
    · split at he
      · exact onLead_recordResult he
      · cases he

omit [StdText] in
theorem postUpdate_leadId (req : LeadRequest) (lead : Lead) (token : String) (now : Timestamp)
    (timing : AuctionTiming) (r : RoutingResult) :
    (req.postUpdate lead token now timing r).leadId = lead.uuid := by
  simp only [postUpdate]
  split <;> rfl

omit [StdText] in
theorem postUpdate_inprogToken (req : LeadRequest) (lead : Lead) (token : String)
    (now : Timestamp) (timing : AuctionTiming) (r : RoutingResult) :
    (req.postUpdate lead token now timing r).inprogToken = some token := by
  simp only [postUpdate]
  split <;> rfl

/-- A post only leads to statements for its lead; they are conditional on its token, or not
conditional, and none is a claim. -/
theorem postEffects_statements {req : LeadRequest} {lead : Lead} {token : String}
    {now : Timestamp} {env : RouteEnv} {timing : AuctionTiming} {e : Effect} {st : LeadStatement}
    (he : e ∈ req.postEffects lead token now env timing) (hst : st ∈ e.statements) :
    st.leadId = lead.uuid ∧ (∀ t, st.token = some t → t = token) ∧ st.isClaim = false := by
  rw [postEffects, List.mem_append] at he
  -- the statements of the router are unconditional
  rcases he with he | he
  · obtain ⟨hl, htok, hc⟩ := onLead_route (r := req.postRouter lead) he st hst
    refine ⟨hl, ?_, hc⟩
    intro t ht
    rw [htok] at ht
    cases ht
  · -- the handler's own update carries the token of the claim
    cases hres : ((req.postRouter lead).route env).result with
    | error e' =>
      rw [hres] at he
      cases he
    | ok r =>
      rw [hres, recordPost, List.mem_cons, List.mem_singleton] at he
      rcases he with rfl | rfl
      · cases hst
      · have hmem : st ∈ (req.postUpdate lead token now timing r).statements := hst
        simp only [LeadUpdate.statements, postUpdate_inprogToken, postUpdate_leadId,
          List.mem_append, List.mem_singleton] at hmem
        rcases hmem with hmem | rfl
        · split at hmem
          · rw [List.mem_singleton.mp hmem]
            refine ⟨postUpdate_leadId .., ?_, rfl⟩
            intro t ht
            simp only [LeadStatement.token, postUpdate_inprogToken, Option.some_inj] at ht
            exact ht.symm
          · cases hmem
        · exact ⟨rfl, fun t ht => (Option.some_inj.mp ht).symm, rfl⟩

end LeadRequest

end LeadsNebula
