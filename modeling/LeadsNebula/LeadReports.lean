/-
What the dashboard shows of a sold lead (`list_leads` and `get_lead_details` of
`routes/dashboard.rs`).

A post or a fullpost stores a record in `post_payloads`: the request as `payload`,
and the routing result, encrypted, as `response_payload_encrypted`.  `list_leads`
looks for the price in `payload`.  `get_lead_details` looks for it in the decrypted
response, and compares ping responses with two columns of the lead that its
statement does not select.

`ReportDb` is the `Db` of a batch together with the columns that the dashboard
reads; what it stores is what `Db.flush` stores.

* `mem_posts_run` — every record comes from a queued task;
* `listPrice_eq_none`, `isWinner_eq_false` — the list shows no price and no ping
  response is a winner, in any run;
* `recordPrice_of_stored` — the details find the price of the routing result, not
  rounded to cents, if both payloads were encrypted and can be decrypted;
* `dashboard_agrees_iff` — when the dashboard agrees with a sale.
-/
import LeadsNebula.FullpostSplit
import LeadsNebula.PublisherIsolation
import LeadsNebula.Resubmission

namespace LeadsNebula

/-! ### Records of posts -/

/-- A record of `post_payloads`, with the columns that the dashboard reads. -/
structure PostRecord extends PostPayload where
  responsePayloadEncrypted : Option String
  createdAt : Timestamp

/-- A task with the encrypted request and response of a payload update. -/
structure QueuedTask where
  task : BackgroundTask
  requestPayloadEncrypted : Option String
  responsePayloadEncrypted : Option String

namespace QueuedTask

/-- The encrypted response that is stored: none unless the request is encrypted too. -/
def storedResponse (q : QueuedTask) : Option String :=
  if q.requestPayloadEncrypted.isSome then q.responsePayloadEncrypted else none

/-- The records that a task adds, if it has written for the leads `written`. -/
def storedPosts (now : Timestamp) (q : QueuedTask) (written : List Uuid) : List PostRecord :=
  match q.task with
  | .payloadUpdate p =>
    if p.payloadType = "post" ∧ written ≠ [] then
      [⟨⟨p.leadId, p.postId, p.payload⟩, q.storedResponse, now⟩]
    else []
  | _ => []

/-- The tasks that follow the creations, as `Db.following`. -/
def following (batch : List QueuedTask) : List QueuedTask :=
  batch.filter (fun q => q.task matches .buyerResponse _) ++
    batch.filter (fun q => q.task matches .leadUpdate _) ++
    batch.filter (fun q => q.task matches .payloadUpdate _)

theorem map_following (batch : List QueuedTask) :
    (following batch).map task = Db.following (batch.map task) := by
  simp only [following, Db.following, List.map_append, List.filter_map]
  rfl

theorem mem_of_mem_following {batch : List QueuedTask} {q : QueuedTask} (h : q ∈ following batch) :
    q ∈ batch := by
  simp only [following, List.mem_append, List.mem_filter] at h
  rcases h with (h | h) | h <;> exact h.1

end QueuedTask

namespace Db

theorem createLead_postPayloads (env : FlushEnv) (acc : Db × UuidMap) (c : LeadCreation) :
    (createLead env acc c).1.postPayloads = acc.1.postPayloads := by
  rw [createLead]
  split
  · rfl
  · cases env.ping c with
    | none => rfl
    | some p =>
      simp only [insertPingPayload]
      split <;> rfl

theorem createLeads_postPayloads (env : FlushEnv) (cs : List LeadCreation) (acc : Db × UuidMap) :
    (createLeads env cs acc).1.postPayloads = acc.1.postPayloads := by
  induction cs generalizing acc with
  | nil => rfl
  | cons c cs ih => exact (ih _).trans (createLead_postPayloads env acc c)

/-- What a task adds to `post_payloads`. -/
theorem applyTask_postPayloads (env : FlushEnv) (m : UuidMap) (db : Db) (q : QueuedTask) :
    (db.applyTask env m q.task).1.postPayloads = db.postPayloads ++
      (q.storedPosts env.now (db.applyTask env m q.task).2).map PostRecord.toPostPayload := by
  rw [QueuedTask.storedPosts]
  cases q.task with
  | buyerResponse t =>
    simp only [applyTask, insertBuyerResponse]
    split
    · split <;> simp
    · simp
  | leadUpdate u =>
    simp only [List.map_nil, List.append_nil]
    exact updateLead_keeps (fun _ _ => rfl) u db
  | payloadUpdate p =>
    simp only [applyTask, updatePayload]
    by_cases hping : p.payloadType = "ping"
    · -- a ping payload goes to another table
      have hpost : ¬ p.payloadType = "post" := by
        rw [hping]
        decide
      simp only [if_pos hping, hpost, false_and, if_false, List.map_nil, List.append_nil]
      split
      · rw [updatePingPayload]
        split <;> rfl
      · rw [insertPingPayload]
        split <;> rfl
    · by_cases hpost : p.payloadType = "post"
      · simp only [if_neg hping, if_pos hpost]
        split <;> simp [hpost]
      · simp [hping, hpost]
  | _ => simp [applyTask]

end Db

/-! ### The tables that the dashboard reads -/

structure ReportDb where
  db : Db
  posts : List PostRecord
  posts_eq : posts.map PostRecord.toPostPayload = db.postPayloads

namespace ReportDb

def applyTask (env : FlushEnv) (m : UuidMap) (d : ReportDb) (q : QueuedTask) : ReportDb where
  db := (d.db.applyTask env m q.task).1
  posts := d.posts ++ q.storedPosts env.now (d.db.applyTask env m q.task).2
  posts_eq := by rw [List.map_append, d.posts_eq, Db.applyTask_postPayloads]

def applyTasks (env : FlushEnv) (m : UuidMap) (qs : List QueuedTask) (d : ReportDb) : ReportDb :=
  qs.foldl (applyTask env m) d

/-- Runs a batch. -/
def flush (env : FlushEnv) (batch : List QueuedTask) (d : ReportDb) : ReportDb :=
  let created := Db.createLeads env (creationsOf (batch.map QueuedTask.task)) (d.db, [])
  applyTasks env created.2 (QueuedTask.following batch)
    { db := created.1
      posts := d.posts
      posts_eq := by rw [d.posts_eq, Db.createLeads_postPayloads] }

/-- A step of a run: a statement that a request runs on `leads` itself, or a batch. -/
inductive Step where
  | statement (now : Timestamp) (st : LeadStatement)
  | batch (env : FlushEnv) (tasks : List QueuedTask)

def step (d : ReportDb) : Step → ReportDb
  | .statement now st => ⟨d.db.exec now st, d.posts, d.posts_eq⟩
  | .batch env tasks => d.flush env tasks

def run (d : ReportDb) (steps : List Step) : ReportDb := steps.foldl step d

theorem applyTasks_db (env : FlushEnv) (m : UuidMap) (qs : List QueuedTask) (d : ReportDb) :
    (applyTasks env m qs d).db = (Db.applyTasks env m (qs.map QueuedTask.task) d.db).1 := by
  induction qs generalizing d with
  | nil => rfl
  | cons q qs ih => exact ih _

/-- A batch writes what `Db.flush` writes. -/
theorem flush_db (env : FlushEnv) (batch : List QueuedTask) (d : ReportDb) :
    (d.flush env batch).db = (d.db.flush env (batch.map QueuedTask.task)).1 := by
  rw [flush, applyTasks_db, QueuedTask.map_following, Db.flush]

/-- The record was added by task `q` of a batch. -/
def StoredBy (env : FlushEnv) (q : QueuedTask) (r : PostRecord) : Prop :=
  ∃ p, q.task = .payloadUpdate p ∧ p.payloadType = "post" ∧
    r = ⟨⟨p.leadId, p.postId, p.payload⟩, q.storedResponse, env.now⟩

theorem mem_posts_applyTasks {env : FlushEnv} {m : UuidMap} {qs : List QueuedTask} {d : ReportDb}
    {r : PostRecord} (h : r ∈ (applyTasks env m qs d).posts) :
    r ∈ d.posts ∨ ∃ q ∈ qs, StoredBy env q r := by
  induction qs generalizing d with
  | nil => exact Or.inl h
  | cons q qs ih =>
    rcases ih h with h | ⟨q', hq', hst⟩
    · rcases List.mem_append.mp h with h | h
      · exact Or.inl h
      · rw [QueuedTask.storedPosts] at h
        split at h
        · next p hp =>
          split at h
          · next hpost =>
            exact Or.inr ⟨q, List.mem_cons_self, p, hp, hpost.1, List.mem_singleton.mp h⟩
          · cases h
        · cases h
    · exact Or.inr ⟨q', List.mem_cons_of_mem q hq', hst⟩

theorem mem_posts_step {a : Step} {d : ReportDb} {r : PostRecord} (h : r ∈ (d.step a).posts) :
    r ∈ d.posts ∨ ∃ env tasks, a = .batch env tasks ∧ ∃ q ∈ tasks, StoredBy env q r := by
  cases a with
  | statement now st => exact Or.inl h
  | batch env tasks =>
    rcases mem_posts_applyTasks h with h | ⟨q, hq, hst⟩
    · exact Or.inl h
    · exact Or.inr ⟨env, tasks, rfl, q, QueuedTask.mem_of_mem_following hq, hst⟩

/-- Every record that a run adds comes from a task of one of its batches. -/
theorem mem_posts_run {steps : List Step} {d : ReportDb} {r : PostRecord}
    (h : r ∈ (d.run steps).posts) :
    r ∈ d.posts ∨ ∃ env tasks, .batch env tasks ∈ steps ∧ ∃ q ∈ tasks, StoredBy env q r := by
  induction steps generalizing d with
  | nil => exact Or.inl h
  | cons a steps ih =>
    rcases ih h with h | ⟨env, tasks, hb, hst⟩
    · rcases mem_posts_step h with h | ⟨env, tasks, rfl, hst⟩
      · exact Or.inl h
      · exact Or.inr ⟨env, tasks, List.mem_cons_self, hst⟩
    · exact Or.inr ⟨env, tasks, List.mem_cons_of_mem a hb, hst⟩

end ReportDb

/-! ### The tasks of `create_lead` -/

/-- The payload update that an effect enqueues. -/
def Effect.payload? : Effect → Option PayloadUpdate
  | enqueue (.payloadUpdate p) => some p
  | _ => none

namespace PingTreeRouter

variable [StdText] {r : PingTreeRouter} {env : RouteEnv}

omit [StdText] in
theorem payload?_updateLeadStatus {status : LeadStatus} {error : Option String} {e : Effect}
    (he : e ∈ r.updateLeadStatus env status error) : e.payload? = none := by
  obtain ⟨vd, rfl, -⟩ := mem_updateLeadStatus he
  rfl

omit [StdText] in
theorem IsAudit.payload? {es : List Effect} (h : IsAudit es) {e : Effect} (he : e ∈ es) :
    e.payload? = none := by
  obtain ⟨t, rfl⟩ := h e he
  rfl

omit [StdText] in
theorem Failed.payload? {routed : Routed} (h : Failed r env routed) {e : Effect}
    (he : e ∈ routed.effects) : e.payload? = none := by
  cases h with
  | mk haudit hstatus =>
    rcases List.mem_append.mp he with he | he
    · exact haudit.payload? he
    · exact payload?_updateLeadStatus he

theorem payload?_routePingAuction {priority : Uuid → Option ℤ} {campaigns : List Campaign}
    {e : Effect} (he : e ∈ (r.routePingAuction env priority campaigns).effects) :
    e.payload? = none := by
  rcases routePingAuction_cases r env priority campaigns with
    ⟨winner, c, audit, timings, -, haudit, h⟩ | ⟨-, ⟨audit, err, haudit, h⟩ | h⟩
  · rw [h] at he
    rcases List.mem_append.mp he with he | he
    · exact haudit.payload? he
    · rw [List.mem_singleton.mp he]
      rfl
  · rw [h] at he
    exact haudit.payload? he
  · exact h.payload? he

theorem payload?_routePost {campaigns : List Campaign} {e : Effect}
    (he : e ∈ (r.routePost env campaigns).effects) : e.payload? = none := by
  rw [routePost] at he
  split at he
  · exact payload?_updateLeadStatus he
  · split at he
    · exact payload?_updateLeadStatus he
    · split at he
      · rw [postAnswered] at he
        split at he
        · rcases List.mem_cons.mp he with rfl | he
          · rfl
          · rw [List.mem_singleton.mp he]
            rfl
        · rcases List.mem_cons.mp he with rfl | he
          · rfl
          · exact payload?_updateLeadStatus he
      · exact payload?_updateLeadStatus he

theorem payload?_routeFullpost {tree : PingTree} {priority : Uuid → Option ℤ}
    {campaigns : List Campaign} {e : Effect}
    (he : e ∈ (r.routeFullpost env tree priority campaigns).effects) : e.payload? = none := by
  rw [routeFullpost] at he
  split at he
  · simp only [routeFullpostSplit] at he
    split at he
    · exact payload?_routePingAuction he
    · split at he
      · exact payload?_routePingAuction he
      · rcases List.mem_append.mp he with he | he
        · exact payload?_routePingAuction he
        · exact payload?_routePost he
  · simp only [routeFullpostDirect] at he
    split at he
    · exact payload?_updateLeadStatus he
    · split at he
      · cases he
      · rcases List.mem_cons.mp he with rfl | he
        · rfl
        · obtain ⟨x, -, rfl⟩ := List.mem_map.mp he
          rfl

/-- The router stores no payloads. -/
theorem payload?_route {e : Effect} (he : e ∈ (r.route env).effects) : e.payload? = none := by
  rcases r.route_cases env with ⟨-, -, err, h⟩ | ⟨-, logged, reported, h⟩ | ⟨tree, ptcs, -, h⟩
  · rw [h] at he
    cases he
  · rw [h] at he
    exact payload?_updateLeadStatus he
  · rw [h] at he
    split at he
    · exact payload?_routePingAuction he
    · exact payload?_routePost he
    · exact payload?_routeFullpost he
    · exact payload?_updateLeadStatus he

end PingTreeRouter

/-- The task as `create_lead` enqueues it; `encrypt` gives nothing while there is no key. -/
def queuedTask (encrypt : Json → Option String) (result : Except String RoutingResult)
    (t : BackgroundTask) : QueuedTask :=
  match t, result with
  | .payloadUpdate p, .ok r =>
    ⟨t, if p.payloadType = "post" then encrypt p.payload else none, encrypt (routingResultJson r)⟩
  | _, _ => ⟨t, none, none⟩

section Enqueued

variable [StdText]

/-- The tasks that requests leave on the queue. -/
inductive Enqueued : QueuedTask → Prop
  | create {req : LeadRequest} {new : NewLead} {now : Timestamp} {env : RouteEnv}
      {timing : AuctionTiming} {t : BackgroundTask}
      (h : .enqueue t ∈ req.createEffects new now env timing) (encrypt : Json → Option String) :
      Enqueued (queuedTask encrypt ((req.router new now).route env).result t)
  | post {req : LeadRequest} {lead : Lead} {token : String} {now : Timestamp} {env : RouteEnv}
      {timing : AuctionTiming} {t : BackgroundTask}
      (h : .enqueue t ∈ req.postEffects lead token now env timing)
      (encrypt : Json → Option String) :
      Enqueued (queuedTask encrypt ((req.postRouter lead).route env).result t)

omit [StdText] in
@[simp] theorem queuedTask_task (encrypt : Json → Option String)
    (result : Except String RoutingResult) (t : BackgroundTask) :
    (queuedTask encrypt result t).task = t := by
  rw [queuedTask.eq_def]
  split <;> rfl

theorem payload_of_createEffects {req : LeadRequest} {new : NewLead} {now : Timestamp}
    {env : RouteEnv} {timing : AuctionTiming} {p : PayloadUpdate}
    (h : .enqueue (.payloadUpdate p) ∈ req.createEffects new now env timing)
    (hpost : p.payloadType = "post") : p.payload = req.data.toJson := by
  simp only [LeadRequest.createEffects, List.cons_append, List.mem_cons, List.mem_append,
    Effect.enqueue.injEq, reduceCtorEq, false_or] at h
  -- the routing updates no payload
  rcases h with h | h
  · cases PingTreeRouter.payload?_route h
  · rw [LeadRequest.afterRouting.eq_def] at h
    split at h
    · cases h
    · split at h
      · simp only [LeadRequest.recordResult, LeadRequest.payloadTasks, List.mem_append] at h
        rcases h with ((h | h) | h) | h
        · -- the record of a ping has another type
          split at h
          · simp only [List.mem_singleton, Effect.enqueue.injEq,
              BackgroundTask.payloadUpdate.injEq] at h
            rw [h] at hpost
            simp at hpost
          · cases h
        · split at h
          · simp only [List.mem_singleton, Effect.enqueue.injEq,
              BackgroundTask.payloadUpdate.injEq] at h
            rw [h]
          · cases h
        · split at h
          · simp at h
          · cases h
        · simp at h
      · cases h

theorem payload_of_postEffects {req : LeadRequest} {lead : Lead} {token : String}
    {now : Timestamp} {env : RouteEnv} {timing : AuctionTiming} {p : PayloadUpdate}
    (h : .enqueue (.payloadUpdate p) ∈ req.postEffects lead token now env timing) :
    p.payload = req.data.toJson := by
  rw [LeadRequest.postEffects, List.mem_append] at h
  rcases h with h | h
  · cases PingTreeRouter.payload?_route h
  · rw [LeadRequest.recordPost.eq_def] at h
    split at h
    · simp only [List.mem_cons, Effect.enqueue.injEq, BackgroundTask.payloadUpdate.injEq,
        reduceCtorEq, List.not_mem_nil, or_false] at h
      rw [h]
    · cases h

/-- The payload of a post record is a request. -/
theorem Enqueued.payload {q : QueuedTask} (h : Enqueued q) {p : PayloadUpdate}
    (hp : q.task = .payloadUpdate p) (hpost : p.payloadType = "post") :
    ∃ d : LeadData, p.payload = d.toJson := by
  cases h with
  | create h encrypt =>
    rw [queuedTask_task] at hp
    exact ⟨_, payload_of_createEffects (hp ▸ h) hpost⟩
  | post h encrypt =>
    rw [queuedTask_task] at hp
    exact ⟨_, payload_of_postEffects (hp ▸ h)⟩

end Enqueued

/-! ### The price in the list -/

/-- `payload::jsonb ? key`. -/
def Json.existsKey (key : String) : Json → Bool
  | .obj m => (m.lookup key).isSome
  | .arr l => l.any fun j => j.asStr = some key
  | .str s => s = key
  | _ => false

/-- `(… ->> key)::float`, of a value.  A cast that fails ends the query, and nothing is shown. -/
def Json.sqlFloat : Json → Option F64
  | .num q => some (.fin q)
  | .str s => F64.parse s
  | _ => none

/-- The `price` column of `list_leads`, from the payload of a record. -/
def payloadPrice (payload : Json) : Option F64 :=
  if Json.existsKey "routing_result" payload then
    ((payload.get "routing_result").bind fun r => r.get "price").bind Json.sqlFloat
  else if Json.existsKey "price" payload then (payload.get "price").bind Json.sqlFloat
  else none

/-- `ORDER BY created_at DESC LIMIT 1`. -/
def newestPost (rows : List PostRecord) : Option PostRecord := rows.argmax PostRecord.createdAt

theorem newestPost_mem {rows : List PostRecord} {r : PostRecord} (h : newestPost rows = some r) :
    r ∈ rows :=
  List.argmax_mem (Option.mem_def.mpr h)

/-- A request has no price. -/
theorem payloadPrice_toJson (d : LeadData) : payloadPrice d.toJson = none := by
  have hresult : Json.existsKey "routing_result" d.toJson = false := rfl
  have hprice : Json.existsKey "price" d.toJson = false := rfl
  rw [payloadPrice, hresult, hprice]
  rfl

namespace ReportDb

def listPrice (d : ReportDb) (l : Lead) : Option F64 :=
  (newestPost (d.posts.filter fun r =>
    r.leadId = l.uuid && (l.postId.isNone || r.postId = l.postId))).bind
      fun r => payloadPrice r.payload

/-! ### The price and the winners in the details -/

/-- The price in the stored response of a record. -/
def recordPrice (decrypt : String → Option Json) (r : PostRecord) : Option F64 :=
  ((((r.responsePayloadEncrypted.bind decrypt).bind fun j => j.get "routing_result").bind
    fun j => j.get "price").bind Json.asF64)

/-- The record that the details show: that of the `post_id` of the lead, or of the first buyer
response that has one, or the newest. -/
def detailsRecord (d : ReportDb) (l : Lead) : Option PostRecord :=
  let responses := d.db.buyerResponses.filter fun b => b.leadId = l.uuid
  match l.postId.or (responses.findSome? BuyerResponseRow.postId) with
  | some postId => d.posts.find? fun r => r.leadId = l.uuid && r.postId = some postId
  | none => newestPost (d.posts.filter fun r => r.leadId = l.uuid)

/-- The price in the details; `decrypt` gives nothing while there is no key. -/
def detailsPrice (decrypt : String → Option Json) (d : ReportDb) (l : Lead) : Option F64 :=
  (d.detailsRecord l).bind (recordPrice decrypt)

/-- The ping responses of a lead. -/
def pingResponses (d : ReportDb) (l : Lead) : List BuyerResponseRow :=
  d.db.buyerResponses.filter fun b => b.leadId = l.uuid && b.pingId.isSome

end ReportDb

/-- The columns that `get_lead_details` selects of a lead. -/
def leadDetailsColumns : List String :=
  ["uuid", "lead_id", "status", "submitted_at", "sold_at", "created_at", "updated_at",
    "vertical_data", "first_name_encrypted", "last_name_encrypted", "email_encrypted",
    "street_address_encrypted", "zip_encrypted", "ip_address_encrypted", "ping_id", "post_id",
    "vertical_id", "publisher_name", "buyer_name", "processing_time_ms"]

namespace Lead

/-- The columns of a lead that hold an identifier. -/
def uuidColumn (l : Lead) (name : String) : Option Uuid :=
  if name = "uuid" then some l.uuid
  else if name = "publisher_id" then l.publisherId
  else if name = "vertical_id" then some l.verticalId
  else if name = "buyer_id" then l.buyerId
  else if name = "campaign_id" then l.campaignId
  else none

/-- `try_get` of a column of the selected row; a column that was not selected reads as none. -/
def tryGet (columns : List String) (l : Lead) (name : String) : Option Uuid :=
  if name ∈ columns then l.uuidColumn name else none

/-- The winner mark of a ping response in the details. -/
def isWinner (l : Lead) (b : BuyerResponseRow) : Bool :=
  let winningBuyerId := l.tryGet leadDetailsColumns "buyer_id"
  let winningCampaignId := l.tryGet leadDetailsColumns "campaign_id"
  winningBuyerId.isSome && winningCampaignId.isSome && b.buyerId = winningBuyerId &&
    some b.campaignId = winningCampaignId

/-- The response is that of the buyer and the campaign of the lead. -/
def Won (l : Lead) (b : BuyerResponseRow) : Prop :=
  l.buyerId.isSome = true ∧ b.buyerId = l.buyerId ∧ some b.campaignId = l.campaignId

theorem isWinner_eq_false (l : Lead) (b : BuyerResponseRow) : l.isWinner b = false := by
  -- the mark reads a column that the query does not select
  have hcol : "buyer_id" ∉ leadDetailsColumns := by decide
  simp [isWinner, tryGet, hcol]

end Lead

/-- The dashboard shows of a lead what a sale has returned: the price in both views, and as winners
the ping responses of its buyer and campaign. -/
structure ViewsAgree (decrypt : String → Option Json) (d : ReportDb) (l : Lead)
    (returned : Option F64) : Prop where
  list : d.listPrice l = returned
  details : d.detailsPrice decrypt l = returned
  winners : ∀ b ∈ d.pingResponses l, l.isWinner b = true ↔ l.Won b

/-! ### Sales -/

/-- The price that a fullpost returns.  In asynchronous mode it is answered before the routing. -/
def LeadRequest.returnedPrice (req : LeadRequest) : Except String RoutingResult → Option F64
  | .ok r =>
    if req.asyncMode then none
    else if r.status = "sold" then r.price.map F64.roundCents
    else none
  | .error _ => none

section Sales

variable [StdText]

/-- A lead that a post or a fullpost has sold; whether the request was asynchronous, and the price
that was returned. -/
inductive SoldThrough : Uuid → Bool → Option F64 → Prop
  | post {req : LeadRequest} {lead : Lead} {env : RouteEnv} {r : RoutingResult}
      (hroute : ((req.postRouter lead).route env).result = .ok r)
      (hsale : LeadRequest.isSale r = true) :
      SoldThrough lead.uuid false (LeadNode.ofRouted lead (.ok r)).price
  | fullpost {req : LeadRequest} {new : NewLead} {now : Timestamp} {env : RouteEnv}
      {r : RoutingResult} (hreq : req.requestType = .fullpost)
      (hroute : ((req.router new now).route env).result = .ok r)
      (hsale : LeadRequest.isSale r = true) :
      SoldThrough new.uuid req.asyncMode (req.returnedPrice (.ok r))

omit [StdText] in
theorem price_isSome_of_hasPrice {b : BuyerResponse} (h : hasPrice b = true) :
    b.price.isSome = true := by
  obtain ⟨x, hx, -⟩ := (Option.any_eq_true _ _).mp h
  rw [hx]
  rfl

/-- A post is sold at a price. -/
theorem post_sale_price {req : LeadRequest} {lead : Lead} {env : RouteEnv} {r : RoutingResult}
    (hroute : ((req.postRouter lead).route env).result = .ok r)
    (hsale : LeadRequest.isSale r = true) : r.price.isSome = true := by
  have hout := LeadRequest.postOutcome req lead "" 0 env ⟨0, 0, 0, 0, 0, 0, "", ""⟩
  rw [hroute] at hout
  revert hout
  generalize req.postEffects lead "" 0 env ⟨0, 0, 0, 0, 0, 0, "", ""⟩ = effects
  intro hout
  cases hout with
  | sale hmem hid hb hacc hpost _ hrpost hprice hcamp hbuyer =>
    rw [PingTreeRouter.postAccepted, Bool.and_eq_true] at hacc
    rw [hprice]
    exact price_isSome_of_hasPrice hacc.2
  | noSale hno hbefore =>
    rw [hsale] at hno
    cases hno

/-- A fullpost is sold at a price. -/
theorem fullpost_sale_price {r : PingTreeRouter} {env : RouteEnv} {res : RoutingResult}
    (hr : r.requestType = .fullpost) (hroute : (r.route env).result = .ok res)
    (hsale : LeadRequest.isSale res = true) : res.price.isSome = true := by
  rw [LeadRequest.isSale, Bool.and_eq_true, decide_eq_true_iff] at hsale
  rcases r.route_cases env with ⟨-, -, e, h⟩ | ⟨-, logged, reported, h⟩ | ⟨tree, ptcs, -, h⟩
  · rw [h] at hroute
    cases hroute
  · rw [h] at hroute
    rw [← Except.ok.inj hroute] at hsale
    cases hsale.1
  · simp only [hr, PingTreeRouter.routeFullpost] at h
    split at h
    · rw [h] at hroute
      rcases PingTreeRouter.routeFullpostSplit_cases r env _ _ hroute with
        ⟨winner, c, b, ping, post, -, rfl, hping, -, hsuccess, hpost, hprice, -⟩ | ⟨-, hfail⟩
      · -- the merged result has the price of the post, which was accepted
        have hacc := (PingTreeRouter.mergeResults_sold_iff hping hsuccess hpost hprice).mp hsale
        rw [PingTreeRouter.postAccepted, Bool.and_eq_true] at hacc
        simp [PingTreeRouter.mergeResults, hprice, price_isSome_of_hasPrice hacc.2]
      · rw [hfail] at hsale
        cases hsale.1
    · rw [h] at hroute
      simp only [PingTreeRouter.routeFullpostDirect] at hroute
      split at hroute
      · rw [← Except.ok.inj hroute] at hsale
        cases hsale.1
      · next winner winnerId priority rest hsort =>
        split at hroute
        · cases hroute
        · -- the winner is one of the valid responses
          have hmem := List.mem_cons_self (a := (winner, winnerId, priority)) (l := rest)
          rw [← hsort, sortOffers, List.mem_mergeSort, List.mem_filter] at hmem
          have hvalid := hmem.2
          rw [PingTreeRouter.validFullpost, Bool.and_eq_true, Bool.and_eq_true] at hvalid
          rw [← Except.ok.inj hroute]
          exact price_isSome_of_hasPrice hvalid.1.2

/-- Only an asynchronous request returns no price for a sale. -/
theorem SoldThrough.returned_eq_none_iff {l : Uuid} {async : Bool} {returned : Option F64}
    (h : SoldThrough l async returned) : returned = none ↔ async = true := by
  cases h with
  | @post req lead env r hroute hsale =>
    obtain ⟨x, hx⟩ := Option.isSome_iff_exists.mp (post_sale_price hroute hsale)
    simp [LeadNode.ofRouted, hx]
  | @fullpost req new now env r hreq hroute hsale =>
    obtain ⟨x, hx⟩ := Option.isSome_iff_exists.mp (fullpost_sale_price hreq hroute hsale)
    rw [LeadRequest.isSale, Bool.and_eq_true, decide_eq_true_iff] at hsale
    simp [LeadRequest.returnedPrice, hsale.2, hx]

/-! ### The dashboard and the sale -/

/-- In a run of `create_lead`, the list shows no price. -/
theorem listPrice_eq_none {d : ReportDb} {steps : List ReportDb.Step} {l : Lead}
    (hstart : ∀ r ∈ d.posts, r.leadId = l.uuid → ∃ body : LeadData, r.payload = body.toJson)
    (hrun : ∀ env tasks, .batch env tasks ∈ steps → ∀ q ∈ tasks, Enqueued q) :
    (d.run steps).listPrice l = none := by
  rw [ReportDb.listPrice, Option.bind_eq_none_iff]
  intro r hr
  have hmem := newestPost_mem hr
  rw [List.mem_filter, Bool.and_eq_true, decide_eq_true_iff] at hmem
  -- the records hold what was requested, not what the routing made of it
  have hbody : ∃ body : LeadData, r.payload = body.toJson := by
    rcases ReportDb.mem_posts_run hmem.1 with h | ⟨env, tasks, hb, q, hq, p, hp, hpost, rfl⟩
    · exact hstart r h hmem.2.1
    · exact (hrun env tasks hb q hq).payload hp hpost
  obtain ⟨body, hbody⟩ := hbody
  rw [hbody]
  exact payloadPrice_toJson body

omit [StdText] in
/-- The record of a post holds the price of its result. -/
theorem recordPrice_of_stored {encrypt : Json → Option String} {decrypt : String → Option Json}
    (hdecrypt : ∀ j s, encrypt j = some s → decrypt s = some j) {r : RoutingResult}
    {t : BackgroundTask} {env : FlushEnv} {record : PostRecord} {x : ℚ}
    (hstored : ReportDb.StoredBy env (queuedTask encrypt (.ok r) t) record)
    (hrequest : (encrypt record.payload).isSome = true)
    (hresponse : (encrypt (routingResultJson r)).isSome = true) (hprice : r.price = some (.fin x)) :
    ReportDb.recordPrice decrypt record = some (.fin x) := by
  obtain ⟨p, hp, hpost, rfl⟩ := hstored
  rw [queuedTask_task] at hp
  subst hp
  obtain ⟨s, hs⟩ := Option.isSome_iff_exists.mp hresponse
  -- the response is stored only along with the request
  have hcolumn : (queuedTask encrypt (.ok r) (.payloadUpdate p)).storedResponse = some s := by
    simp only [queuedTask, QueuedTask.storedResponse, if_pos hpost]
    rw [if_pos hrequest, hs]
  rw [ReportDb.recordPrice, hcolumn, Option.bind_some, hdecrypt _ _ hs]
  simp [routingResultJson, hprice, List.lookup_cons, Json.asF64]

/-- The dashboard agrees with a sale exactly when the sale has returned no price, the record that
the details show has none, and no ping response is that of the buyer and the campaign. -/
theorem dashboard_agrees_iff {d : ReportDb} {steps : List ReportDb.Step} {l : Uuid} {lead : Lead}
    {async : Bool} {returned : Option F64}
    (hstart : ∀ r ∈ d.posts, r.leadId = l → ∃ body : LeadData, r.payload = body.toJson)
    (hrun : ∀ env tasks, .batch env tasks ∈ steps → ∀ q ∈ tasks, Enqueued q)
    (hrow : (d.run steps).db.leads.find l = some lead) (hsold : SoldThrough l async returned)
    (decrypt : String → Option Json) :
    ViewsAgree decrypt (d.run steps) lead returned ↔
      async = true ∧
        (∀ r, (d.run steps).detailsRecord lead = some r →
          ReportDb.recordPrice decrypt r = none) ∧
        ∀ b ∈ (d.run steps).pingResponses lead, ¬ lead.Won b := by
  obtain rfl : lead.uuid = l := Table.find_key hrow
  have hlist := listPrice_eq_none (d := d) (l := lead) hstart hrun
  -- no response is ever marked, so that the marks are right where there is nothing to mark
  have hwinners : (∀ b ∈ (d.run steps).pingResponses lead, lead.isWinner b = true ↔ lead.Won b) ↔
      ∀ b ∈ (d.run steps).pingResponses lead, ¬ lead.Won b := by
    simp [Lead.isWinner_eq_false]
  have hdetails : (d.run steps).detailsPrice decrypt lead = none ↔
      ∀ r, (d.run steps).detailsRecord lead = some r → ReportDb.recordPrice decrypt r = none := by
    rw [ReportDb.detailsPrice, Option.bind_eq_none_iff]
  constructor
  · rintro ⟨h₁, h₂, h₃⟩
    have hnone : returned = none := h₁.symm.trans hlist
    exact ⟨hsold.returned_eq_none_iff.mp hnone, hdetails.mp (h₂.trans hnone), hwinners.mp h₃⟩
  · rintro ⟨hasync, h₂, h₃⟩
    have hnone := hsold.returned_eq_none_iff.mpr hasync
    exact ⟨hlist.trans hnone.symm, (hdetails.mpr h₂).trans hnone.symm, hwinners.mpr h₃⟩

/-- The tasks of a list of effects, as `create_lead` enqueues them. -/
def queuedTasks (encrypt : Json → Option String) (result : Except String RoutingResult)
    (es : List Effect) : List QueuedTask :=
  es.filterMap fun e => match e with
    | .enqueue t => some (queuedTask encrypt result t)
    | _ => none

omit [StdText] in
theorem mem_queuedTasks {encrypt : Json → Option String} {result : Except String RoutingResult}
    {es : List Effect} {q : QueuedTask} (h : q ∈ queuedTasks encrypt result es) :
    ∃ t, .enqueue t ∈ es ∧ q = queuedTask encrypt result t := by
  obtain ⟨e, he, hq⟩ := List.mem_filterMap.mp h
  cases e with
  | enqueue t => exact ⟨t, he, (Option.some_inj.mp hq).symm⟩
  | _ => cases hq

end Sales

/-! ### A sale that the list does not show -/

namespace Sample

def noReports : ReportDb := ⟨noLeads, [], rfl⟩

/-- No key: nothing is encrypted. -/
def noKey : Json → Option String := fun _ => none

def pingTasks : List QueuedTask :=
  queuedTasks noKey (((ping true).router new 0).route env).result
    ((ping true).createEffects new 0 env timing)

/-- The row of the ping, when the post reads it. -/
def pingedLead : Lead :=
  (((noReports.run [.batch flushEnv pingTasks]).db.leads.find 7).getD ((ping true).newLead new 0))

def token : String := LeadRequest.inprogToken 100

def postTasks : List QueuedTask :=
  queuedTasks noKey ((post.postRouter pingedLead).route env).result
    (post.postEffects pingedLead token 1 env timing)

/-- The statements that the post runs itself. -/
def postStatements : List ReportDb.Step :=
  (post.postEffects pingedLead token 1 env timing).filterMap fun e => match e with
    | .exec st => some (.statement 1 st)
    | _ => none

/-- A ping, then a post that claims the lead and sells it; the queue is drained after each. -/
def soldSteps : List ReportDb.Step :=
  .batch flushEnv pingTasks :: .statement 1 (.claim 7 (pingedLead.promiseId.getD "") token) ::
    (postStatements ++ [.batch flushEnv postTasks])

theorem enqueued_soldSteps :
    ∀ env tasks, .batch env tasks ∈ soldSteps → ∀ q ∈ tasks, Enqueued q := by
  intro env' tasks hb q hq
  have hcases : tasks = pingTasks ∨ tasks = postTasks := by
    simp only [soldSteps, List.mem_cons, List.mem_append, ReportDb.Step.batch.injEq, reduceCtorEq,
      List.not_mem_nil, false_or, or_false] at hb
    rcases hb with hb | hb | hb
    · exact Or.inl hb.2
    · obtain ⟨e, -, he⟩ := List.mem_filterMap.mp hb
      cases e <;> cases he
    · exact Or.inr hb.2
  rcases hcases with rfl | rfl
  · obtain ⟨t, ht, rfl⟩ := mem_queuedTasks hq
    exact .create ht noKey
  · obtain ⟨t, ht, rfl⟩ := mem_queuedTasks hq
    exact .post ht noKey

/-- Lead 7 is sold by the post, and the row says so; one of its ping responses is that of the buyer
and the campaign. -/
theorem soldSteps_sold :
    ∃ lead price, (noReports.run soldSteps).db.leads.find 7 = some lead ∧ lead.status = .sold ∧
      SoldThrough 7 false (some price) ∧
      ∃ b ∈ (noReports.run soldSteps).pingResponses lead, lead.Won b := by
  have hrow : ((noReports.run soldSteps).db.leads.find 7).any (fun lead =>
      lead.status = .sold && ((noReports.run soldSteps).pingResponses lead).any fun b =>
        lead.buyerId.isSome && b.buyerId = lead.buyerId &&
          some b.campaignId = lead.campaignId) = true := by
    decide +kernel
  have hroute : (((post.postRouter pingedLead).route env).result.toOption.any
      LeadRequest.isSale) = true := by
    decide +kernel
  have huuid : pingedLead.uuid = 7 := by decide +kernel
  obtain ⟨lead, hlead, hrow⟩ := (Option.any_eq_true _ _).mp hrow
  rw [Bool.and_eq_true, decide_eq_true_iff, List.any_eq_true] at hrow
  obtain ⟨hsold, b, hb, hwon⟩ := hrow
  simp only [Bool.and_eq_true, decide_eq_true_iff] at hwon
  obtain ⟨r, hr, hsale⟩ := (Option.any_eq_true _ _).mp hroute
  have hr := ok_of_toOption hr
  obtain ⟨x, hx⟩ := Option.isSome_iff_exists.mp (post_sale_price hr hsale)
  have hthrough := SoldThrough.post hr hsale
  rw [huuid, LeadNode.ofRouted, hx] at hthrough
  exact ⟨lead, _, hlead, hsold, hthrough, b, hb, hwon.1.1, hwon.1.2, hwon.2⟩

/-- The lead is sold at a price that was returned; the list shows none, and the ping response of
its buyer is not marked. -/
theorem sold_lead_without_price :
    ∃ lead price, (noReports.run soldSteps).db.leads.find 7 = some lead ∧ lead.status = .sold ∧
      SoldThrough 7 false (some price) ∧ (noReports.run soldSteps).listPrice lead = none ∧
      (∃ b ∈ (noReports.run soldSteps).pingResponses lead,
        lead.Won b ∧ lead.isWinner b = false) ∧
      ¬ ViewsAgree (fun _ => none) (noReports.run soldSteps) lead (some price) := by
  obtain ⟨lead, price, hrow, hstatus, hsold, b, hb, hwon⟩ := soldSteps_sold
  have hlist : (noReports.run soldSteps).listPrice lead = none :=
    listPrice_eq_none (fun r hr => by cases hr) enqueued_soldSteps
  refine ⟨lead, price, hrow, hstatus, hsold, hlist, ⟨b, hb, hwon, lead.isWinner_eq_false b⟩, ?_⟩
  intro hagree
  rw [hagree.list] at hlist
  cases hlist

/-- A tree whose fullposts go to the buyers at once. -/
def directEnv : RouteEnv := { env with pingTree := .ok (some ⟨40, "fullpost", "active", none⟩) }

def asyncEffects : List Effect := (fullpost true).createEffects new 0 directEnv timing

def asyncTasks : List QueuedTask :=
  queuedTasks noKey (((fullpost true).router new 0).route directEnv).result asyncEffects

/-- A fullpost that is answered before it is routed, and sold without a ping; its lead is written
before the router records the buyer. -/
def asyncSteps : List ReportDb.Step :=
  .batch flushEnv (asyncTasks.take 1) ::
    ((asyncEffects.filterMap fun e => match e with
      | .exec st => some (.statement 1 st)
      | _ => none) ++ [.batch flushEnv (asyncTasks.drop 1)])

theorem enqueued_asyncSteps :
    ∀ env tasks, .batch env tasks ∈ asyncSteps → ∀ q ∈ tasks, Enqueued q := by
  intro env' tasks hb q hq
  have hmem : q ∈ asyncTasks := by
    simp only [asyncSteps, List.mem_cons, List.mem_append, ReportDb.Step.batch.injEq,
      List.not_mem_nil, or_false] at hb
    rcases hb with hb | hb | hb
    · rw [hb.2] at hq
      exact List.mem_of_mem_take hq
    · obtain ⟨e, -, he⟩ := List.mem_filterMap.mp hb
      cases e <;> cases he
    · rw [hb.2] at hq
      exact List.mem_of_mem_drop hq
  obtain ⟨t, ht, rfl⟩ := mem_queuedTasks hmem
  exact .create ht noKey

theorem asyncSteps_sold :
    ∃ lead, (noReports.run asyncSteps).db.leads.find 7 = some lead ∧ lead.status = .sold ∧
      SoldThrough 7 true none ∧ (noReports.run asyncSteps).pingResponses lead = [] := by
  have hrow : ((noReports.run asyncSteps).db.leads.find 7).any (fun lead =>
      lead.status = .sold && ((noReports.run asyncSteps).pingResponses lead).isEmpty) = true := by
    decide +kernel
  have hroute : (((fullpost true).router new 0).route directEnv).result.toOption.any
      LeadRequest.isSale = true := by
    decide +kernel
  obtain ⟨lead, hlead, hrow⟩ := (Option.any_eq_true _ _).mp hrow
  rw [Bool.and_eq_true, decide_eq_true_iff, List.isEmpty_iff] at hrow
  obtain ⟨r, hr, hsale⟩ := (Option.any_eq_true _ _).mp hroute
  exact ⟨lead, hlead, hrow.1, .fullpost (by decide) (ok_of_toOption hr) hsale, hrow.2⟩

/-- The dashboard does not agree with a sale that has returned its price; it does with one that was
answered before, without a ping. -/
theorem dashboard_agrees_iff_soldSteps :
    (∃ lead price, (noReports.run soldSteps).db.leads.find 7 = some lead ∧
      SoldThrough 7 false (some price) ∧
      ¬ViewsAgree (fun _ => none) (noReports.run soldSteps) lead (some price)) ∧
    ∃ lead, (noReports.run asyncSteps).db.leads.find 7 = some lead ∧ lead.status = .sold ∧
      SoldThrough 7 true none ∧ ViewsAgree (fun _ => none)
        (noReports.run asyncSteps) lead none := by
  constructor
  · obtain ⟨lead, price, hrow, -, hsold, -⟩ := soldSteps_sold
    have hiff := dashboard_agrees_iff (fun r hr => by cases hr) enqueued_soldSteps hrow hsold
      (fun _ => none)
    exact ⟨lead, price, hrow, hsold, fun hagree => absurd (hiff.mp hagree).1 Bool.false_ne_true⟩
  · obtain ⟨lead, hrow, hstatus, hsold, hnone⟩ := asyncSteps_sold
    refine ⟨lead, hrow, hstatus, hsold, (dashboard_agrees_iff (fun r hr => by cases hr)
      enqueued_asyncSteps hrow hsold _).mpr ⟨rfl, fun r _ => ?_, fun b hb => ?_⟩⟩
    · -- nothing was encrypted, and so nothing is read
      cases hresponse : r.responsePayloadEncrypted <;> simp [ReportDb.recordPrice, hresponse]
    · rw [hnone] at hb
      cases hb

end Sample

end LeadsNebula
