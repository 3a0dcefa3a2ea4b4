/-
The responses of `create_lead` (`leads.rs`).

The handler returns an HTTP code together with a body that has an `http_status` of its
own.  `LeadSubmission.createLead` is the handler from the request to the response, return
by return in the order of the source.  What the lookups in the cache and in the tables
give is an argument, the routing is that of `CreateLead`, and a panic is `none`.

* `createPost_agrees_iff` — the responses to posts;
* `createNew_agrees` — the responses to the other requests that pass the checks agree;
* `response_agrees_iff` — the code of a response is the `http_status` of its body
  exactly when none of four returns is taken (`LeadSubmission.Diverges`);
* `sold_post_is_bad_request` — a sold post is returned with the code 400.
-/
import LeadsNebula.Auth
import LeadsNebula.PublisherIsolation
import LeadsNebula.RateLimit
import LeadsNebula.RouterStatement

namespace LeadsNebula

/-! ### Requests and responses -/

/-- The `status` part of a response. -/
structure StatusNode where
  success : Bool
  status : String
  message : Option String
  error : Option String

structure LeadResponse where
  status : StatusNode
  lead : LeadNode
  verbose : Option Json
  httpStatus : Option ℕ

/-- What the handler returns: the code and the body. -/
structure LeadReply where
  code : ℕ
  body : LeadResponse

namespace LeadReply

/-- The code is the `http_status` of the body, if it has one. -/
def Agrees (r : LeadReply) : Prop := ∀ n, r.body.httpStatus = some n → r.code = n

theorem agrees_iff_of_status {r : LeadReply} {n : ℕ} (h : r.body.httpStatus = some n) :
    r.Agrees ↔ r.code = n := by
  constructor
  · intro hagrees
    exact hagrees n h
  · intro hcode m hm
    rw [h, Option.some_inj] at hm
    rw [hcode, hm]

end LeadReply

/-- A call of `create_lead`. -/
structure LeadSubmission where
  verbose : Option Bool
  data : LeadData
  publisherId : Uuid
  params : String → Option String
  headers : Headers

/-- A row of the pre-check query. -/
structure PreChecks where
  campaignId : Option Uuid
  effectiveBuyerId : Option Uuid
  hasPingTree : Bool

/-- What a submission meets: the buckets of the rate limit (`none` if their lock is poisoned), what
the cache and the tables give, the outcomes of the claim and of the statement that the router runs,
what is drawn for a new lead, and the buyers.  A cache that is not there gives `none`. -/
structure SubmissionEnv where
  buckets : Option (String → Option RateBucket)
  clock : ℕ
  timestamp : String
  cachedVertical : Option (Except String (Option Vertical))
  dbVertical : Except String (Option Vertical)
  leadByPromise : Except String (Option Lead)
  leadByLeadId : Except String (Option Lead)
  claim : Except String Bool
  cachedPreChecks : Option (Except String (Option PreChecks))
  dbPreChecks : Except String (Option PreChecks)
  buyerOfVertical : Except String (Option Uuid)
  new : NewLead
  now : Timestamp
  buyerName : Uuid → Option String
  campaignName : Uuid → Option String
  route : RouteEnv
  routerStatement : Except String Unit

/-- A lookup through the cache; if the cache fails, the table is read. -/
def throughCache {α : Type} (cached : Option (Except String α)) (db : Except String α) :
    Except String α :=
  match cached with
  | some (.ok v) => .ok v
  | _ => db

/-- `{:.2}` of a price in whole cents. -/
def F64.toFixed2 : F64 → String
  | .nan => "NaN"
  | .negInf => "-inf"
  | .posInf => "inf"
  | .fin q =>
    let cents := (|q| * 100 + 1 / 2).floor.toNat
    let digits := toString (cents % 100)
    (if q < 0 then "-" else "") ++ toString (cents / 100) ++ "." ++
      (if digits.length < 2 then "0" ++ digits else digits)

/-- `str::contains`. -/
def containsText (s pattern : String) : Bool := decide (pattern.toList <:+: s.toList)

/-! ### The texts -/

section Texts

variable [StdText]

/-- The problems that `map_error_to_user` finds in the text of an error. -/
def userProblems (errText : String) : List String :=
  let has := containsText (toLowercase errText)
  let specific :=
    (if has "submitted_at" then ["Server misconfiguration: required lead timestamp is missing. " ++
      "Contact the site administrator."] else []) ++
    (if has "buyer_id" then ["No buyer configured for this publisher/vertical"] else []) ++
    (if has "campaign_id" then ["No campaign configured for this publisher/vertical"] else []) ++
    (if has "post_id" then ["Post could not be created: required post identifier missing"]
      else []) ++
    (if has "permission denied" || has "permission" then
      ["Server permission error. Contact the administrator."] else []) ++
    (if has "column" && has "publisher_id" && has "does not exist" then
      ["Server configuration error: database schema mismatch. Contact the administrator."]
      else [])
  if !specific.isEmpty then specific
  else if has "violates not-null constraint" || has "null value" then
    ["Required data missing for this operation. Contact support or try again later."]
  else ["An internal server error occurred. Contact support if the problem persists."]

/-- The friendly and the technical message of an error. -/
def mapErrorToUser (errText : String) : String × String :=
  ("\n".intercalate (userProblems errText), "error returned from database: " ++ errText)

/-- The message about a routed post. -/
def postMessage (buyerName : Option String) (r : RoutingResult) : Option String :=
  let price := r.price.map F64.roundCents
  if r.status = "sold" then
    match buyerName, price with
    | some name, some p => some ("Lead sold to " ++ name ++ " for $" ++ f64ToString p)
    | some name, none => some ("Lead sold to " ++ name)
    | none, some p => some ("Lead sold for $" ++ f64ToString p)
    | none, none => some "Lead sold"
  else r.error.or (some r.status)

/-- The message about a routed ping or fullpost. -/
def newMessage (bid price : Option F64) (r : RoutingResult) : Option String :=
  if r.status = "accepted" then
    let base := match bid with
      | some b => "Ping Accepted with a bid of $" ++ F64.toFixed2 b
      | none => "Ping Accepted"
    some (base ++ " Include the same lead_id and promise_id from this response in your POST " ++
      "request to complete the lead.")
  else if r.status = "sold" then
    match price with
    | some p => some ("Lead Sold for $" ++ f64ToString p)
    | none => some "Lead Sold"
  else if r.success then some "Lead routed successfully"
  else none

omit [StdText] in
/-- `transform_per_buyer_timings_for_verbose`. -/
def transformPerBuyerTimingsForVerbose (timings : List Json) (mainStatus : String)
    (isFullpost : Bool) : List Json :=
  timings.map fun t =>
    match t with
    | .obj fields =>
      let kept := if isFullpost then fields.filter fun f => f.1 ≠ "bid" else fields
      .obj (Json.insertField "status" (.str mainStatus) kept)
    | t => t

end Texts

namespace LeadSubmission

/-! ### The checks -/

section Checks

variable (sub : LeadSubmission) (env : SubmissionEnv)

def minimalMode : Bool := sub.params "minimal" = some "true"

def asyncMode : Bool := sub.params "async" = some "true"

/-- The top-level `verbose` goes before the one of the lead. -/
def verboseRequested : Bool :=
  match sub.verbose with
  | some v => if sub.minimalMode then false else v
  | none => sub.data.verbose.getD false

/-- The `verbose` part that goes with a status. -/
def verboseError (n : ℕ) (more : List (String × Json)) : Option Json :=
  if sub.verboseRequested then
    some (.obj ([("error_code", .str ("ERR_" ++ toString n)), ("timestamp", .str env.timestamp),
      ("endpoint", .str "POST /api/v1/leads"), ("status_code", .ofNat n)] ++ more))
  else none

/-- An error without identifiers. -/
def failed (code httpStatus : ℕ) (message error : Option String)
    (more : List (String × Json)) : LeadReply :=
  ⟨code, ⟨⟨false, "error", message, error⟩, .empty, sub.verboseError env httpStatus more,
    some httpStatus⟩⟩

/-- An error of the database or of the router. -/
def failedWith [StdText] (code httpStatus : ℕ) (e : String) : LeadReply :=
  sub.failed env code httpStatus (some (mapErrorToUser e).1) (some (mapErrorToUser e).2) []

/-- The seconds after which a call over the rate limit may be tried again. -/
def retryAfter : Option ℕ :=
  env.buckets.bind fun buckets => (checkRate buckets sub.publisherId env.clock).2.retryAfter

def tooManyRequests (retryAfter : ℕ) : LeadReply :=
  ⟨429, ⟨⟨false, "error",
    some ("Rate limit exceeded: max " ++ toString rateLimitPerHour ++ " requests per hour"),
    some "Too many requests"⟩,
    ⟨some "", some "", some "", some "", some (.fin 0), some "", some (.fin 0)⟩,
    some (.obj [("status_code", .ofNat 429), ("rate_limit_per_hour", .ofNat rateLimitPerHour),
      ("remaining", .ofNat 0), ("retry_after_seconds", .ofNat retryAfter)]),
    some 429⟩⟩

def findVertical : Except String (Option Vertical) :=
  throughCache env.cachedVertical env.dbVertical

/-- The rate limit and the vertical. -/
def admission [StdText] : Except LeadReply Vertical :=
  match sub.retryAfter env with
  | some retryAfter => .error (tooManyRequests retryAfter)
  | none =>
    match findVertical env with
    | .ok (some v) => .ok v
    | .ok none => .error (sub.failed env 400 400
        (some ("Invalid vertical: " ++ sub.data.vertical))
        (some ("Invalid vertical slug: " ++ sub.data.vertical)) [])
    | .error e => .error (sub.failedWith env 500 500 e)

/-- The `publisher_id` of the body, if there is one. -/
def checkPublisher : Except LeadReply Unit :=
  match sub.data.publisherId with
  | none => .ok ()
  | some text =>
    match Uuid.parseStr text with
    | some id =>
      if id = sub.publisherId then .ok ()
      else .error (sub.failed env 400 401
        (some "Publisher ID mismatch. Your API key is associated with a different publisher.")
        (some ("Publisher ID mismatch: provided=" ++ text ++ ", authenticated=" ++
          sub.publisherId.toString))
        [("provided_publisher_id", .str text),
          ("authenticated_publisher_id", .str sub.publisherId.toString)])
    | none => .error (sub.failed env 400 400
        (some ("Invalid publisher_id format: " ++ text))
        (some ("Invalid UUID format for publisher_id: " ++ text)) [])

def checkFields [StdText] : Except LeadReply Unit :=
  match missingRequiredLeadField sub.data sub.data.type with
  | some field =>
    let message := "Missing required field: " ++ field
    .error (sub.failed env 400 400 (some message) (some message) [])
  | none => .ok ()

end Checks

/-! ### Posts -/

section Posts

variable [StdText] (sub : LeadSubmission) (env : SubmissionEnv)

/-- The submission with its vertical, as `CreateLead` has it. -/
def request (vertical : Vertical) : LeadRequest :=
  ⟨sub.data, sub.publisherId, vertical, sub.asyncMode, sub.headers⟩

/-- The lookup of the lead by its promise, and then by a `lead_id` that is not empty. -/
def findLead : Except LeadReply Lead :=
  let notFound := sub.failed env 404 404 none (some "Lead not found") []
  match env.leadByPromise with
  | .ok (some lead) => .ok lead
  | .ok none =>
    match sub.data.leadId.filter (· ≠ "") with
    | some _ =>
      match env.leadByLeadId with
      | .ok (some lead) => .ok lead
      | _ => .error notFound
    | none => .error notFound
  | .error e => .error (sub.failedWith env 400 500 e)

/-- The claim that keeps a lead from being sold twice. -/
def claimLead (lead : Lead) : Except LeadReply Unit :=
  match env.claim with
  | .ok true => .ok ()
  | .ok false => .error ⟨400, ⟨⟨false, "error",
      some ("The lead_id or promise_id have already been posted, or do not match your ping " ++
        "response. Use the lead_id and promise_id from your ping response."),
      some "duplicate_or_expired_promise"⟩, .ofRefused lead,
      sub.verboseError env 400 [("note", .str ("lead_id or promise_id already posted or " ++
        "mismatch; use lead_id and promise_id from ping response"))], some 400⟩⟩
  | .error e => .error (sub.failedWith env 400 500 e)

/-- The response to a post that was routed. -/
def routedPost (lead : Lead) (r : RoutingResult) : LeadReply :=
  let buyerName := r.buyerId.bind env.buyerName
  let campaignName := r.campaignId.bind env.campaignName
  let n := if r.success then 200 else 500
  ⟨400, ⟨⟨r.success, r.status, postMessage buyerName r, r.error⟩, .ofRouted lead (.ok r),
    sub.verboseError env n [("routing", .obj [("buyer_name", .ofOption .str buyerName),
      ("buyer_id", .ofOption (.str ∘ Uuid.toString) r.buyerId),
      ("campaign_name", .ofOption .str campaignName),
      ("campaign_id", .ofOption (.str ∘ Uuid.toString) r.campaignId)])],
    some n⟩⟩

def createPost (vertical : Vertical) : LeadReply :=
  match sub.findLead env with
  | .error reply => reply
  | .ok lead =>
    match sub.claimLead env lead with
    | .error reply => reply
    | .ok () =>
      match (((sub.request vertical).postRouter lead).route env.route).returns
          env.routerStatement with
      | .ok r => sub.routedPost env lead r
      | .error e => sub.failedWith env 500 500 e

end Posts

/-! ### Pings and fullposts -/

section New

variable [StdText] (sub : LeadSubmission) (env : SubmissionEnv)

/-- What stands against a row of the pre-check query. -/
def rowProblems (row : PreChecks) : List String :=
  (if !row.hasPingTree && row.campaignId.isSome && sub.data.campaignToken.all (fun s => trim s = "")
    then ["This campaign is not in a ping tree (ronin). campaign_token is required when " ++
      "submitting leads to a ronin campaign."] else []) ++
  (if row.campaignId.isNone && sub.data.campaignToken.isSome then
    ["No campaign configured for this publisher/vertical"] else []) ++
  (if row.effectiveBuyerId.isNone then ["No buyer configured for this publisher/vertical"]
    else [])

/-- The pre-checks: the campaign, the buyer and the problems. -/
def preChecks : Option Uuid × Option Uuid × List String :=
  match throughCache env.cachedPreChecks env.dbPreChecks with
  | .ok (some row) => (row.campaignId, row.effectiveBuyerId, sub.rowProblems row)
  | .ok none =>
    let noCampaign := if sub.data.campaignToken.isSome then
      ["No campaign configured for this publisher/vertical"] else []
    match env.buyerOfVertical with
    | .ok (some id) => (none, some id, noCampaign)
    | .ok none => (none, none, "No buyer configured for this publisher/vertical" :: noCampaign)
    | .error _ => (none, none, "Failed to verify buyers due to server error" :: noCampaign)
  | .error _ => (none, none, ["Failed to verify configuration due to server error"])

def preCheckFailure (problems : List String) : LeadReply :=
  sub.failed env 400 400 (some ("\n".intercalate problems))
    (some ("pre-check failures: " ++ ", ".intercalate problems)) []

/-- The response in asynchronous mode, before the routing. -/
def accepted (req : LeadRequest) (new : NewLead) : LeadReply :=
  ⟨202, ⟨⟨true, "processing", some "Lead accepted for processing. Routing in progress.", none⟩,
    { LeadNode.empty with
      promiseId := if req.requestType = .fullpost then none else req.newPromiseId new
      leadId := some (req.newLeadId new)
      leadUuid := some new.uuid.toString },
    if sub.verboseRequested then
      some (.obj [("async_mode", .bool true),
        ("message", .str ("Lead accepted for asynchronous processing. Use lead_uuid to check " ++
          "status.")),
        ("lead_uuid", .str new.uuid.toString), ("timestamp", .str env.timestamp)])
    else none,
    some 202⟩⟩

/-- The `verbose` part about a routed ping or fullpost. -/
def verboseRouting (req : LeadRequest) (r : RoutingResult) : Option Json :=
  if sub.minimalMode then none
  else sub.verboseError env 200
    (("routing", .obj
      [("buyer_name", .str ((r.buyerId.bind env.buyerName).getD "")),
        ("buyer_id", .ofOption (.str ∘ Uuid.toString) r.buyerId),
        ("campaign_name", .str ((r.campaignId.bind env.campaignName).getD "")),
        ("campaign_id", .ofOption (.str ∘ Uuid.toString) r.campaignId)]) ::
      match r.perBuyerTimings with
      | some timings => [("per_buyer_timings", .arr (transformPerBuyerTimingsForVerbose timings
          r.status (req.requestType = .fullpost)))]
      | none => [])

/-- The response to a ping or a fullpost that was routed. -/
def routedNew (req : LeadRequest) (new : NewLead) (r : RoutingResult) : LeadReply :=
  let bid := if r.status = "accepted" then r.price.map F64.roundCents else none
  let price := if r.status = "sold" then r.price.map F64.roundCents else none
  ⟨200, ⟨⟨r.success, r.status, newMessage bid price r, r.error⟩,
    { LeadNode.empty with
      promiseId := if req.requestType = .fullpost then none else r.promiseId
      leadId := some (req.newLeadId new)
      leadUuid := some new.uuid.toString
      bid := if req.requestType = .fullpost then none else bid
      postId := r.postId
      price := price },
    sub.verboseRouting env req r, some 200⟩⟩

/-- The handler panics if the pre-checks pass without a buyer or a campaign. -/
def createNew (vertical : Vertical) : Option LeadReply :=
  match sub.preChecks env with
  | (campaignId, buyerId, []) => do
    let buyerId ← buyerId
    let campaignId ← campaignId
    let req := sub.request vertical
    let new := { env.new with campaignId := campaignId, buyerId := buyerId }
    if sub.asyncMode then return sub.accepted env req new
    else
      match ((req.router new env.now).route env.route).returns env.routerStatement with
      | .ok r => return sub.routedNew env req new r
      | .error e => return sub.failedWith env 500 500 e
  | (_, _, problems) => return sub.preCheckFailure env problems

end New

def createLead [StdText] (sub : LeadSubmission) (env : SubmissionEnv) : Option LeadReply :=
  match sub.admission env with
  | .error reply => some reply
  | .ok vertical =>
    match sub.checkPublisher env with
    | .error reply => some reply
    | .ok () =>
      match sub.checkFields env with
      | .error reply => some reply
      | .ok () =>
        if sub.data.type = .post then some (sub.createPost env vertical)
        else sub.createNew env vertical

/-! ### The two codes -/

/-- The rate limit admits the call, and the vertical is found. -/
structure Admitted (sub : LeadSubmission) (env : SubmissionEnv) (vertical : Vertical) : Prop where
  rate : sub.retryAfter env = none
  vertical : findVertical env = .ok (some vertical)

/-- The body names another publisher. -/
def NamesOther (sub : LeadSubmission) : Prop :=
  ∃ text id, sub.data.publisherId = some text ∧ Uuid.parseStr text = some id ∧ id ≠ sub.publisherId

/-- The `publisher_id` of the body, if there is one, is that of the caller. -/
def NamesCaller (sub : LeadSubmission) : Prop :=
  ∀ text, sub.data.publisherId = some text → Uuid.parseStr text = some sub.publisherId

/-- The lookups give a lead. -/
def Finds (sub : LeadSubmission) (env : SubmissionEnv) (lead : Lead) : Prop :=
  env.leadByPromise = .ok (some lead) ∨
    env.leadByPromise = .ok none ∧ (∃ id, sub.data.leadId = some id ∧ id ≠ "") ∧
      env.leadByLeadId = .ok (some lead)

/-- The returns of a post whose codes differ. -/
inductive PostDiverges [StdText] (sub : LeadSubmission) (env : SubmissionEnv)
    (vertical : Vertical) : Prop
  /-- The lookup by the promise fails. -/
  | lookup {e : String} (h : env.leadByPromise = .error e)
  /-- The statement of the claim fails. -/
  | claim {lead : Lead} {e : String} (hlead : sub.Finds env lead) (h : env.claim = .error e)
  /-- The lead is claimed, and neither the lookups of the router fail nor, if the lead is being
  processed or a buyer accepts, the statement that the router then runs. -/
  | routed {lead : Lead} (hlead : sub.Finds env lead) (h : env.claim = .ok true)
      (hroute : env.route.lookupsFail = false)
      (hstatement : ((sub.request vertical).postRouter lead).WritesPost env.route →
        env.routerStatement = .ok ())

/-- The returns of `create_lead` whose codes differ. -/
inductive Diverges [StdText] (sub : LeadSubmission) (env : SubmissionEnv) : Prop
  | publisher {vertical : Vertical} (hadm : sub.Admitted env vertical) (h : sub.NamesOther)
  | post {vertical : Vertical} (hadm : sub.Admitted env vertical) (hpub : sub.NamesCaller)
      (hfields : missingRequiredLeadField sub.data sub.data.type = none)
      (htype : sub.data.type = .post) (h : sub.PostDiverges env vertical)

section Agreement

variable {sub : LeadSubmission} {env : SubmissionEnv}

theorem failed_agrees_iff {code n : ℕ} {message error : Option String}
    {more : List (String × Json)} :
    (sub.failed env code n message error more).Agrees ↔ code = n :=
  LeadReply.agrees_iff_of_status rfl

variable [StdText]

theorem failedWith_agrees_iff {code n : ℕ} {e : String} :
    (sub.failedWith env code n e).Agrees ↔ code = n :=
  failed_agrees_iff

theorem admission_error {reply : LeadReply} (h : sub.admission env = .error reply) :
    reply.Agrees := by
  rw [admission] at h
  split at h
  · obtain rfl := Except.error.inj h
    exact (LeadReply.agrees_iff_of_status rfl).mpr rfl
  · split at h
    · cases h
    · obtain rfl := Except.error.inj h
      exact failed_agrees_iff.mpr rfl
    · obtain rfl := Except.error.inj h
      exact failedWith_agrees_iff.mpr rfl

theorem admission_ok {vertical : Vertical} (h : sub.admission env = .ok vertical) :
    sub.Admitted env vertical := by
  rw [admission] at h
  split at h
  · cases h
  · next hrate =>
    split at h
    · next v hv =>
      obtain rfl := Except.ok.inj h
      exact ⟨hrate, hv⟩
    · cases h
    · cases h

theorem Admitted.admission_eq {vertical : Vertical} (h : sub.Admitted env vertical) :
    sub.admission env = .ok vertical := by
  rw [admission, h.rate]
  simp only [h.vertical]

omit [StdText] in
theorem Admitted.unique {vertical vertical' : Vertical} (h : sub.Admitted env vertical)
    (h' : sub.Admitted env vertical') : vertical' = vertical := by
  have hv := h'.vertical
  rw [h.vertical, Except.ok.injEq, Option.some_inj] at hv
  exact hv.symm

omit [StdText] in
theorem checkPublisher_ok_iff : sub.checkPublisher env = .ok () ↔ sub.NamesCaller := by
  rw [checkPublisher, NamesCaller]
  cases sub.data.publisherId with
  | none => simp
  | some text =>
    cases hid : Uuid.parseStr text with
    | none => simp [hid]
    | some id =>
      by_cases heq : id = sub.publisherId
      · simp [hid, heq]
      · simp [hid, heq]

omit [StdText] in
theorem checkPublisher_error {reply : LeadReply} (h : sub.checkPublisher env = .error reply) :
    reply.Agrees ↔ ¬ sub.NamesOther := by
  rw [checkPublisher] at h
  split at h
  · cases h
  · next text htext =>
    split at h
    · next id hid =>
      split at h
      · cases h
      · next hne =>
        -- the body says 401
        obtain rfl := Except.error.inj h
        rw [failed_agrees_iff]
        exact iff_of_false (by decide) (fun hother => hother ⟨text, id, htext, hid, hne⟩)
    · next hid =>
      obtain rfl := Except.error.inj h
      refine iff_of_true (failed_agrees_iff.mpr rfl) ?_
      rintro ⟨text', id, htext', hid', -⟩
      obtain rfl := Option.some_inj.mp (htext.symm.trans htext')
      rw [hid] at hid'
      cases hid'

omit [StdText] in
theorem NamesCaller.not_namesOther (h : sub.NamesCaller) : ¬ sub.NamesOther := by
  rintro ⟨text, id, htext, hid, hne⟩
  rw [h text htext, Option.some_inj] at hid
  exact hne hid.symm

theorem checkFields_error {reply : LeadReply} (h : sub.checkFields env = .error reply) :
    reply.Agrees ∧ missingRequiredLeadField sub.data sub.data.type ≠ none := by
  rw [checkFields] at h
  split at h
  · next field hfield =>
    obtain rfl := Except.error.inj h
    rw [hfield]
    exact ⟨failed_agrees_iff.mpr rfl, nofun⟩
  · cases h

theorem checkFields_ok (h : sub.checkFields env = .ok ()) :
    missingRequiredLeadField sub.data sub.data.type = none := by
  rw [checkFields] at h
  split at h
  · cases h
  · assumption

/-! ### Posts -/

theorem findLead_ok_iff {lead : Lead} : sub.findLead env = .ok lead ↔ sub.Finds env lead := by
  rw [findLead, Finds]
  rcases env.leadByPromise with e | _ | l
  · simp
  · cases hid : sub.data.leadId with
    | none => simp
    | some id =>
      by_cases hempty : id = ""
      · simp [Option.filter, hempty]
      · rcases env.leadByLeadId with e | _ | l <;> simp [Option.filter, hempty]
  · simp

theorem findLead_error {reply : LeadReply} (h : sub.findLead env = .error reply) :
    reply.Agrees ↔ ∀ e, env.leadByPromise ≠ .error e := by
  rw [findLead] at h
  have hfound : ∀ {code : ℕ} {message error : Option String},
      (sub.failed env code code message error []).Agrees := failed_agrees_iff.mpr rfl
  split at h
  · cases h
  · next hnone =>
    refine iff_of_true ?_ (fun e he => ?_)
    · split at h
      · split at h
        · cases h
        · obtain rfl := Except.error.inj h
          exact hfound
      · obtain rfl := Except.error.inj h
        exact hfound
    · rw [hnone] at he
      cases he
  · next e he =>
    -- the body says 500
    obtain rfl := Except.error.inj h
    rw [failedWith_agrees_iff]
    exact iff_of_false (by decide) (fun hno => hno e he)

theorem claimLead_error {lead : Lead} {reply : LeadReply}
    (h : sub.claimLead env lead = .error reply) :
    env.claim ≠ .ok true ∧ (reply.Agrees ↔ ∀ e, env.claim ≠ .error e) := by
  rw [claimLead] at h
  split at h
  · cases h
  · next hclaim =>
    obtain rfl := Except.error.inj h
    rw [hclaim]
    exact ⟨nofun, iff_of_true ((LeadReply.agrees_iff_of_status rfl).mpr rfl) nofun⟩
  · next e hclaim =>
    -- the body says 500
    obtain rfl := Except.error.inj h
    rw [hclaim, failedWith_agrees_iff]
    exact ⟨nofun, iff_of_false (by decide) (fun hno => hno e rfl)⟩

theorem claimLead_ok {lead : Lead} (h : sub.claimLead env lead = .ok ()) :
    env.claim = .ok true := by
  rw [claimLead] at h
  split at h
  · assumption
  · cases h
  · cases h

/-- A routed post says 200 or 500, and is returned with 400. -/
theorem routedPost_not_agrees (lead : Lead) (r : RoutingResult) :
    ¬ (sub.routedPost env lead r).Agrees := by
  rw [LeadReply.agrees_iff_of_status rfl]
  show ¬ 400 = if r.success then 200 else 500
  split <;> decide

/-- If no lead is found, only the lookup can have failed. -/
theorem postDiverges_iff_of_not_finds {vertical : Vertical} (h : ∀ lead, ¬ sub.Finds env lead) :
    sub.PostDiverges env vertical ↔ ∃ e, env.leadByPromise = .error e := by
  constructor
  · intro hdiv
    cases hdiv with
    | lookup he => exact ⟨_, he⟩
    | claim hlead he => exact absurd hlead (h _)
    | routed hlead hclaim hroute hstatement => exact absurd hlead (h _)
  · rintro ⟨e, he⟩
    exact .lookup he

omit [StdText] in
theorem Finds.unique {lead lead' : Lead} (h : sub.Finds env lead) (h' : sub.Finds env lead') :
    lead' = lead := by
  rcases h with h | ⟨hnone, -, h⟩ <;> rcases h' with h' | ⟨hnone', -, h'⟩
  · rw [h, Except.ok.injEq, Option.some_inj] at h'
    exact h'.symm
  · rw [h] at hnone'
    cases hnone'
  · rw [h'] at hnone
    cases hnone
  · rw [h, Except.ok.injEq, Option.some_inj] at h'
    exact h'.symm

theorem postDiverges_iff_of_finds {vertical : Vertical} {lead : Lead} (h : sub.Finds env lead) :
    sub.PostDiverges env vertical ↔ (∃ e, env.claim = .error e) ∨
      env.claim = .ok true ∧ env.route.lookupsFail = false ∧
        (((sub.request vertical).postRouter lead).WritesPost env.route →
          env.routerStatement = .ok ()) := by
  constructor
  · intro hdiv
    cases hdiv with
    | lookup he =>
      rcases h with hfound | ⟨hnone, -⟩
      · rw [hfound] at he
        cases he
      · rw [hnone] at he
        cases he
    | claim hlead he => exact Or.inl ⟨_, he⟩
    | routed hlead hclaim hroute hstatement =>
      obtain rfl := h.unique hlead
      exact Or.inr ⟨hclaim, hroute, hstatement⟩
  · rintro (⟨e, he⟩ | ⟨hclaim, hroute, hstatement⟩)
    · exact .claim h he
    · exact .routed h hclaim hroute hstatement

theorem createPost_agrees_iff (vertical : Vertical) :
    (sub.createPost env vertical).Agrees ↔ ¬ sub.PostDiverges env vertical := by
  cases hfind : sub.findLead env with
  | error reply =>
    -- no lead, and so no divergence
    have hnone : ∀ lead, ¬ sub.Finds env lead := by
      intro lead hlead
      rw [findLead_ok_iff.mpr hlead] at hfind
      cases hfind
    rw [postDiverges_iff_of_not_finds hnone, not_exists, createPost, hfind]
    exact findLead_error hfind
  | ok lead =>
    rw [postDiverges_iff_of_finds (findLead_ok_iff.mp hfind)]
    cases hclaim : sub.claimLead env lead with
    | error reply =>
      -- the claim of the lead fails or finds it taken
      obtain ⟨hnot, hiff⟩ := claimLead_error hclaim
      simp only [createPost, hfind, hclaim, hnot, false_and, or_false, not_exists]
      exact hiff
    | ok =>
      have hclaimed : env.claim = .ok true := claimLead_ok hclaim
      -- the router fails only by its own statement or its lookups
      have hrouter := PingTreeRouter.returns_post_error_iff
        (r := (sub.request vertical).postRouter lead) rfl env.route env.routerStatement
      have hfails : ¬ (env.claim = .ok true ∧ env.route.lookupsFail = false ∧
          (((sub.request vertical).postRouter lead).WritesPost env.route →
            env.routerStatement = .ok ())) ↔
          ∃ e, (((sub.request vertical).postRouter lead).route env.route).returns
            env.routerStatement = .error e := by
        rw [hrouter, hclaimed, and_iff_right rfl, not_and_or, Bool.not_eq_false, Classical.not_imp]
      rw [not_or, hfails, and_iff_right (by rw [hclaimed]; exact nofun)]
      cases hresult : (((sub.request vertical).postRouter lead).route env.route).returns
          env.routerStatement with
      | ok r =>
        simp only [createPost, hfind, hclaim, hresult, reduceCtorEq, exists_false, iff_false]
        exact routedPost_not_agrees lead r
      | error e =>
        simp only [createPost, hfind, hclaim, hresult]
        exact iff_of_true (failedWith_agrees_iff.mpr rfl) ⟨e, rfl⟩

/-! ### All the responses -/

/-- The responses to pings and fullposts that pass the first checks agree. -/
theorem createNew_agrees {vertical : Vertical} {reply : LeadReply}
    (h : sub.createNew env vertical = some reply) : reply.Agrees := by
  rw [createNew] at h
  split at h
  · simp only [Option.bind_eq_bind, Option.bind_eq_some_iff] at h
    obtain ⟨buyerId, -, campaignId, -, h⟩ := h
    split at h
    · obtain rfl := Option.some_inj.mp h
      exact (LeadReply.agrees_iff_of_status rfl).mpr rfl
    · split at h
      · obtain rfl := Option.some_inj.mp h
        exact (LeadReply.agrees_iff_of_status rfl).mpr rfl
      · obtain rfl := Option.some_inj.mp h
        exact failedWith_agrees_iff.mpr rfl
  · obtain rfl := Option.some_inj.mp h
    exact failed_agrees_iff.mpr rfl

theorem not_diverges_of_not_admitted (h : ∀ vertical, ¬ sub.Admitted env vertical) :
    ¬ sub.Diverges env := by
  intro hdiv
  cases hdiv with
  | publisher hadm hother => exact h _ hadm
  | post hadm hpub hfields htype hpost => exact h _ hadm

/-- Before the fields are checked, only the publisher matters. -/
theorem diverges_iff_of_not_caller {vertical : Vertical} (hadm : sub.Admitted env vertical)
    (hcaller : ¬ sub.NamesCaller) : sub.Diverges env ↔ sub.NamesOther := by
  constructor
  · intro hdiv
    cases hdiv with
    | publisher hadm hother => exact hother
    | post hadm hpub hfields htype hpost => exact absurd hpub hcaller
  · intro hother
    exact .publisher hadm hother

/-- After the check of the publisher, only complete posts matter. -/
theorem diverges_iff_of_caller {vertical : Vertical} (hadm : sub.Admitted env vertical)
    (hcaller : sub.NamesCaller) :
    sub.Diverges env ↔ missingRequiredLeadField sub.data sub.data.type = none ∧
      sub.data.type = .post ∧ sub.PostDiverges env vertical := by
  constructor
  · intro hdiv
    cases hdiv with
    | publisher hadm hother => exact absurd hother hcaller.not_namesOther
    | post hadm' hpub hfields htype hpost =>
      obtain rfl := hadm.unique hadm'
      exact ⟨hfields, htype, hpost⟩
  · rintro ⟨hfields, htype, hpost⟩
    exact .post hadm hcaller hfields htype hpost

/-- Whatever a request meets: its response has the code that the body says exactly when none of the
four diverging returns is taken. -/
theorem response_agrees_iff {reply : LeadReply} (h : sub.createLead env = some reply) :
    reply.Agrees ↔ ¬ sub.Diverges env := by
  -- a return is compared with `Diverges` in the stage that takes it
  rw [createLead] at h
  cases hadmission : sub.admission env with
  | error reply' =>
    rw [hadmission] at h
    obtain rfl := Option.some_inj.mp h
    refine iff_of_true (admission_error hadmission) (not_diverges_of_not_admitted ?_)
    intro vertical hadm
    rw [hadm.admission_eq] at hadmission
    cases hadmission
  | ok vertical =>
    have hadm := admission_ok hadmission
    simp only [hadmission] at h
    cases hpub : sub.checkPublisher env with
    | error reply' =>
      rw [hpub] at h
      obtain rfl := Option.some_inj.mp h
      have hcaller : ¬ sub.NamesCaller := by
        intro hcaller
        rw [checkPublisher_ok_iff.mpr hcaller] at hpub
        cases hpub
      rw [diverges_iff_of_not_caller hadm hcaller]
      exact checkPublisher_error hpub
    | ok =>
      rw [diverges_iff_of_caller hadm (checkPublisher_ok_iff.mp hpub)]
      simp only [hpub] at h
      cases hcheck : sub.checkFields env with
      | error reply' =>
        rw [hcheck] at h
        obtain rfl := Option.some_inj.mp h
        obtain ⟨hagrees, hmissing⟩ := checkFields_error hcheck
        exact iff_of_true hagrees (fun hdiv => hmissing hdiv.1)
      | ok =>
        have hfields := checkFields_ok hcheck
        simp only [hcheck] at h
        by_cases htype : sub.data.type = .post
        · rw [if_pos htype, Option.some_inj] at h
          subst h
          rw [and_iff_right hfields, and_iff_right htype]
          exact createPost_agrees_iff vertical
        · -- pings and fullposts have no diverging return
          rw [if_neg htype] at h
          exact iff_of_true (createNew_agrees h) (fun hdiv => htype hdiv.2.1)

end Agreement

end LeadSubmission

namespace Sample

def submission (requestType : String) (promiseId : Option String) : LeadSubmission :=
  ⟨none, body requestType promiseId, 1, fun _ => none, fun _ => none⟩

/-- All lookups succeed, the claim is got, and the buyer is the one of `env`. -/
def submissionEnv : SubmissionEnv where
  buckets := some fun _ => none
  clock := 0
  timestamp := "2024-01-01T00:00:00+00:00"
  cachedVertical := none
  dbVertical := .ok (some ⟨2, "solar"⟩)
  leadByPromise := .ok (some { (ping false).newLead new 0 with
    status := .pingAccepted
    promiseId := post.data.promiseId })
  leadByLeadId := .ok none
  claim := .ok true
  cachedPreChecks := none
  dbPreChecks := .ok (some ⟨some 10, some 20, true⟩)
  buyerOfVertical := .ok none
  new := new
  now := 0
  buyerName _ := some "Pulsar"
  campaignName _ := some "Solar"
  route := env
  routerStatement := .ok ()

end Sample

open Sample in
/-- The response to a ping says 200 and is returned with 200, and the response to a post that a
buyer accepts while the router's own statement fails says 500 and is returned with 500: no diverging
return is taken. -/
theorem ping_and_failed_post_agree :
    (∃ reply, (submission "ping" none).createLead submissionEnv = some reply ∧ reply.code = 200 ∧
      reply.body.httpStatus = some 200 ∧ ¬ (submission "ping" none).Diverges submissionEnv) ∧
    ∃ reply, (submission "post" post.data.promiseId).createLead
        { submissionEnv with routerStatement := .error "connection closed" } = some reply ∧
      reply.code = 500 ∧ reply.body.httpStatus = some 500 ∧
      ¬ (submission "post" post.data.promiseId).Diverges
        { submissionEnv with routerStatement := .error "connection closed" } := by
  -- both replies are computed
  have hping : ((submission "ping" none).createLead submissionEnv).map
      (fun r => (r.code, r.body.httpStatus)) = some (200, some 200) := by
    decide +kernel
  have hpost : ((submission "post" post.data.promiseId).createLead
      { submissionEnv with routerStatement := .error "connection closed" }).map
        (fun r => (r.code, r.body.httpStatus)) = some (500, some 500) := by
    decide +kernel
  obtain ⟨reply, hreply, heq⟩ := Option.map_eq_some_iff.mp hping
  obtain ⟨hcode, hstatus⟩ := Prod.mk.inj heq
  obtain ⟨reply', hreply', heq'⟩ := Option.map_eq_some_iff.mp hpost
  obtain ⟨hcode', hstatus'⟩ := Prod.mk.inj heq'
  refine ⟨⟨reply, hreply, hcode, hstatus, ?_⟩, reply', hreply', hcode', hstatus', ?_⟩
  · refine (LeadSubmission.response_agrees_iff hreply).mp ?_
    exact (LeadReply.agrees_iff_of_status hstatus).mpr hcode
  · refine (LeadSubmission.response_agrees_iff hreply').mp ?_
    exact (LeadReply.agrees_iff_of_status hstatus').mpr hcode'

open Sample in
/-- A post that has sold the lead says so, with 200, and is returned with 400. -/
theorem sold_post_is_bad_request :
    ∃ reply, (submission "post" post.data.promiseId).createLead submissionEnv = some reply ∧
      reply.body.status.success = true ∧ reply.body.status.status = "sold" ∧
      reply.body.httpStatus = some 200 ∧ reply.code = 400 ∧ ¬ reply.Agrees := by
  have heval : ((submission "post" post.data.promiseId).createLead submissionEnv).map
      (fun r => (r.code, r.body.httpStatus, r.body.status.success, r.body.status.status)) =
        some (400, some 200, true, "sold") := by
    decide
  obtain ⟨reply, hreply, heq⟩ := Option.map_eq_some_iff.mp heval
  simp only [Prod.mk.injEq] at heq
  obtain ⟨hcode, hstatus, hsuccess, hsold⟩ := heq
  refine ⟨reply, hreply, hsuccess, hsold, hstatus, hcode, fun hagrees => ?_⟩
  have hbad := hagrees 200 hstatus
  rw [hcode] at hbad
  cases hbad

end LeadsNebula
