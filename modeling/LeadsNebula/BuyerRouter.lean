/-
The buyer router (`services/buyer_router.rs`): one campaign, one call.

An internal buyer is answered by Pulsar in the process; an external buyer is
called over HTTP and its answer is parsed (`parseBuyerResponse`).  The buyer
and integration lookups are a `BuyerDirectory`, and what the outside world does
during one call is a `BuyerCall`.

* `routePing_internal`, `routePost_internal` — an internal campaign is answered
  by Pulsar;
* `parseBuyerResponse_postId_isSome` — a parsed answer to a post always carries
  a `post_id`.
-/
import LeadsNebula.Pulsar

namespace LeadsNebula

theorem ok_of_toOption {ε α : Type} {e : Except ε α} {a : α} (h : e.toOption = some a) :
    e = .ok a := by
  cases e with
  | error x => cases h
  | ok x => exact congrArg Except.ok (Option.some_inj.mp h)

/-- The buyer and integration lookups, through the cache or from the database. -/
structure BuyerDirectory where
  findBuyer : Uuid → Except String (Option Buyer)
  findIntegration : Uuid → Except String (Option BuyerIntegration)

/-- The body of an HTTP answer: JSON, or text that does not parse as JSON. -/
inductive Body where
  | json (j : Json)
  | text (raw : String)

/-- What comes of sending an HTTP request. -/
inductive HttpOutcome where
  | sendFailed (e : String)
  | bodyFailed (e : String)
  | answered (status : ℕ) (body : Body)

/-- The world as one call to a buyer meets it: the HTTP outcome for an external buyer, the
draws of Pulsar, and the identifier the parser makes up. -/
structure BuyerCall where
  http : HttpOutcome
  draw : PulsarDraw
  newId : String

structure BuyerRouter where
  lead : Lead
  campaigns : List Campaign
  requestType : RequestType
  preloadedIntegration : Option BuyerIntegration
  preloadedQualConfig : Option BuyerQualificationConfig

namespace BuyerRouter

def new (lead : Lead) (campaigns : List Campaign) (requestType : RequestType) : BuyerRouter :=
  ⟨lead, campaigns, requestType, none, none⟩

/-- The text of a field. -/
def textField (j : Json) (k : String) : Option String := (j.get k).bind Json.asStr

/-- A number, or a text that parses as one; `as_f64` takes a number to the nearest float. -/
def numberField (j : Json) (k : String) : Option F64 :=
  (((j.get k).bind Json.asF64).map (F64.map F64.nearest)).or ((textField j k).bind F64.parse)

/-- The JSON that an answer stands for. -/
def bodyJson : Body → Json
  | .json j => j
  | .text raw =>
    .obj [("success", .bool false), ("status", .str "error"),
      ("error", .str ("Invalid JSON response: " ++ raw))]

def parseBuyerResponse (httpStatus : ℕ) (body : Body) (requestType : RequestType)
    (newId : String) : BuyerResponse :=
  let json := bodyJson body
  -- without a `success` of its own, the answer is judged by its HTTP status
  let success := ((json.get "success").bind Json.asBool).getD
    (200 ≤ httpStatus && httpStatus < 300)
  { success := success
    status := (textField json "status").getD (if success then "accepted" else "rejected")
    error := textField json "error"
    message := textField json "message"
    promiseId := textField json "promise_id"
    pingId := (textField json "ping_id").or
      (if requestType = .ping then some ("ping_" ++ newId) else none)
    postId := (textField json "post_id").or
      (if requestType = .post then some ("post_" ++ newId) else none)
    price := numberField json "price"
    bid := numberField json "bid" }

/-- The integration of a campaign's buyer. -/
def getBuyerIntegration (r : BuyerRouter) (dir : BuyerDirectory) (campaign : Campaign) :
    Except String BuyerIntegration :=
  match r.preloadedIntegration with
  | some integration => .ok integration
  | none => do
    let some buyer ← dir.findBuyer campaign.buyerId
      | .error ("Buyer not found: " ++ campaign.buyerId.toString)
    if !buyer.active then
      .error ("Buyer " ++ buyer.id.toString ++ " is not active (status: " ++
        buyer.status.asStr ++ ")")
    else do
      let some integrationId := buyer.buyerIntegrationId
        | .error "Buyer has no integration configured"
      let some integration ← dir.findIntegration integrationId
        | .error ("Buyer integration not found: " ++ integrationId.toString)
      .ok integration

/-- A call to an internal buyer: its integration has to be one of Pulsar's. -/
def callInternal (integration : BuyerIntegration) (answer : Except String BuyerResponse) :
    Except String BuyerResponse :=
  if "pulsar".toList.isPrefixOf integration.slug.toList then answer
  else .error ("Invalid internal buyer configuration: " ++ integration.slug ++
    " (must start with 'pulsar')")

/-- A call to an external buyer. -/
def callExternal (integration : BuyerIntegration) (requestType : RequestType)
    (call : BuyerCall) : Except String BuyerResponse :=
  match integration.postingUrlTemplate with
  | none => .error "Missing endpoint for external buyer integration"
  | some _ =>
    match call.http with
    | .sendFailed e => .error ("HTTP request failed: " ++ e)
    | .bodyFailed e => .error ("Failed to read response body: " ++ e)
    | .answered status body => .ok (parseBuyerResponse status body requestType call.newId)

/-- The bid of the ping, as a post finds it in the lead. -/
def pingBid (lead : Lead) : Option F64 := (lead.verticalData.get "winning_bid").bind Json.asF64

variable [StdText]

def routePing (r : BuyerRouter) (dir : BuyerDirectory) (call : BuyerCall) (campaign : Campaign) :
    Except String BuyerResponse := do
  let integration ← r.getBuyerIntegration dir campaign
  if integration.isInternal then
    callInternal integration
      (.ok (PulsarService.routePingDirectSync r.lead r.preloadedQualConfig call.draw))
  else callExternal integration .ping call

def routePost (r : BuyerRouter) (dir : BuyerDirectory) (call : BuyerCall) (campaign : Campaign) :
    Except String BuyerResponse := do
  -- this check comes before the lookup of the integration
  let some promiseId := r.lead.promiseId | .error "Missing promise_id for post request"
  let integration ← r.getBuyerIntegration dir campaign
  if integration.isInternal then
    callInternal integration
      (.ok (PulsarService.routePostDirectSync r.lead promiseId r.preloadedQualConfig
        (pingBid r.lead) call.draw))
  else callExternal integration .post call

def routeFullpost (r : BuyerRouter) (dir : BuyerDirectory) (call : BuyerCall)
    (campaign : Campaign) : Except String BuyerResponse := do
  let integration ← r.getBuyerIntegration dir campaign
  if integration.isInternal then
    callInternal integration
      (PulsarService.routeFullpostDirectSync r.lead r.preloadedQualConfig call.draw)
  else callExternal integration .fullpost call

def route (r : BuyerRouter) (dir : BuyerDirectory) (call : BuyerCall) :
    Except String BuyerResponse :=
  match r.campaigns with
  | [] => .error "No campaign provided to BuyerRouter"
  | campaign :: _ =>
    match r.requestType with
    | .ping => r.routePing dir call campaign
    | .post => r.routePost dir call campaign
    | .fullpost => r.routeFullpost dir call campaign
    | .other s =>
      .ok { success := false, status := "error",
            error := some ("Unknown request_type: " ++ s),
            message := none, promiseId := none, pingId := none, postId := none,
            price := none, bid := none }

omit [StdText] in
/-- The parser makes up a `post_id` for a post that came back without one. -/
theorem parseBuyerResponse_postId_isSome (httpStatus : ℕ) (body : Body) (newId : String) :
    (parseBuyerResponse httpStatus body .post newId).postId.isSome = true := by
  simp only [parseBuyerResponse, if_true]
  cases textField (bodyJson body) "post_id" <;> rfl

/-- An integration that Pulsar answers. -/
def IsPulsar (integration : BuyerIntegration) : Prop :=
  integration.isInternal = true ∧ "pulsar".toList.isPrefixOf integration.slug.toList = true

instance (integration : BuyerIntegration) : Decidable (IsPulsar integration) :=
  inferInstanceAs (Decidable (_ ∧ _))

omit [StdText] in
theorem callInternal_of_isPulsar {integration : BuyerIntegration} (h : IsPulsar integration)
    (answer : Except String BuyerResponse) : callInternal integration answer = answer :=
  if_pos h.2

theorem routePing_internal {r : BuyerRouter} {dir : BuyerDirectory} {campaign : Campaign}
    {integration : BuyerIntegration}
    (hint : r.getBuyerIntegration dir campaign = .ok integration) (h : IsPulsar integration)
    (call : BuyerCall) : r.routePing dir call campaign =
      .ok (PulsarService.routePingDirectSync r.lead r.preloadedQualConfig call.draw) := by
  rw [routePing, hint]
  show (if integration.isInternal = true then _ else _) = _
  rw [if_pos h.1, callInternal_of_isPulsar h]

theorem routePost_internal {r : BuyerRouter} {dir : BuyerDirectory} {campaign : Campaign}
    {integration : BuyerIntegration} {promiseId : String}
    (hint : r.getBuyerIntegration dir campaign = .ok integration) (h : IsPulsar integration)
    (hp : r.lead.promiseId = some promiseId) (call : BuyerCall) :
    r.routePost dir call campaign =
      .ok (PulsarService.routePostDirectSync r.lead promiseId r.preloadedQualConfig
        (pingBid r.lead) call.draw) := by
  rw [routePost, hp]
  show (r.getBuyerIntegration dir campaign >>= _) = _
  rw [hint]
  show (if integration.isInternal = true then _ else _) = _
  rw [if_pos h.1, callInternal_of_isPulsar h]

end BuyerRouter

end LeadsNebula
