/-
A lead that is submitted again (`flush_batch` and the tables it writes).

The creation of a lead whose `lead_id` is taken gives the uuid of the row that is
there; `batch_create_leads` returns a map from the uuids of the requests to those
of the rows.  Later tasks still carry the uuid of the request.

`Db` holds the tables that a batch writes, with the constraints of the schema that
decide whether a write succeeds.  `Db.flush` runs a batch and records, for each
task, the leads whose records it wrote.

* `flush_leads` — on the `leads` table, `Db.flush` runs the statements of
  `flushBatch`;
* `resubmitted_applied_iff` — which tasks of a request reach the row.
-/
import LeadsNebula.Batching
import LeadsNebula.Encoding
import Mathlib.Data.List.MinMax

namespace LeadsNebula

/-! ### The tables of a batch -/

structure PingRow where
  pingId : String
  leadId : Uuid
  promiseId : Option String

structure PingPayload where
  id : ℕ
  leadId : Uuid
  payload : Json
  externalPingId : Option String
  createdAt : Timestamp

structure PostPayload where
  leadId : Uuid
  postId : Option String
  payload : Json

structure BuyerResponseRow where
  leadId : Uuid
  campaignId : Uuid
  pingId : Option String
  postId : Option String
  buyerId : Option Uuid
  payload : Json

structure Db where
  leads : Leads
  pings : List PingRow
  pingPayloads : List PingPayload
  postPayloads : List PostPayload
  buyerResponses : List BuyerResponseRow
  /-- `lead_id VARCHAR(100) UNIQUE`. -/
  leadId_unique : ∀ r ∈ leads.rows, ∀ r' ∈ leads.rows, r.leadId.isSome = true →
    r.leadId = r'.leadId → r = r'
  /-- `ping_payloads.lead_id UUID REFERENCES leads(uuid)`. -/
  pingPayloads_lead : ∀ p ∈ pingPayloads, (leads.find p.leadId).isSome = true

/-- The uuids of the rows, by the uuids of the requests; later entries come first. -/
abbrev UuidMap := List (Uuid × Uuid)

/-- What a batch takes from outside: the time, and for a creation the time stamp and the ping-only
payload of its ping records, unless their transaction fails. -/
structure FlushEnv where
  now : Timestamp
  ping : LeadCreation → Option (String × Json)

namespace LeadStatement

/-- `lead_id`s stay unique. -/
theorem exec_leadId_unique {t : Leads}
    (h : ∀ r ∈ t.rows, ∀ r' ∈ t.rows, r.leadId.isSome = true → r.leadId = r'.leadId → r = r')
    (now : Timestamp) (st : LeadStatement) :
    ∀ r ∈ (st.exec now t).rows, ∀ r' ∈ (st.exec now t).rows, r.leadId.isSome = true →
      r.leadId = r'.leadId → r = r' := by
  have hmap : ∀ r ∈ t.rows.map (st.applyRow now), ∀ r' ∈ t.rows.map (st.applyRow now),
      r.leadId.isSome = true → r.leadId = r'.leadId → r = r' := by
    intro r hr r' hr' hs heq
    obtain ⟨a, ha, rfl⟩ := List.mem_map.mp hr
    obtain ⟨b, hb, rfl⟩ := List.mem_map.mp hr'
    rw [applyRow_leadId] at hs heq
    rw [applyRow_leadId] at heq
    rw [h a ha b hb hs heq]
  cases st with
  | insertLead c =>
    rw [exec]
    split
    · exact hmap
    · next hc =>
      rw [Table.insert]
      split
      · exact h
      · -- the inserted row has a `lead_id` of its own
        have hfree : ∀ a ∈ t.rows, a.leadId.isSome = true → a.leadId ≠ c.leadId := by
          intro a ha hs heq
          refine hc (List.any_eq_true.mpr ⟨a, ha, ?_⟩)
          simp [matchesRow, ← heq, hs]
        intro r hr r' hr' hs heq
        rw [List.mem_append, List.mem_singleton] at hr hr'
        rcases hr with hr | rfl <;> rcases hr' with hr' | rfl
        · exact h r hr r' hr' hs heq
        · exact absurd heq (hfree r hr hs)
        · exact absurd heq.symm (hfree r' hr' (heq ▸ hs))
        · rfl
  | _ => exact hmap

theorem exec_isSome {t : Leads} {l : Uuid} (h : (t.find l).isSome = true) (now : Timestamp)
    (st : LeadStatement) : ((st.exec now t).find l).isSome = true := by
  obtain ⟨r, hr⟩ := Option.isSome_iff_exists.mp h
  rcases find_exec_of_find hr now st with h | ⟨-, h⟩
  · rw [h]
    rfl
  · rw [h]
    rfl

end LeadStatement

namespace Db

def hasLead (db : Db) (l : Uuid) : Bool := (db.leads.find l).isSome

/-- Runs a statement on `leads`. -/
def exec (now : Timestamp) (st : LeadStatement) (db : Db) : Db :=
  { db with
    leads := st.exec now db.leads
    leadId_unique := LeadStatement.exec_leadId_unique db.leadId_unique now st
    pingPayloads_lead := fun p hp => LeadStatement.exec_isSome (db.pingPayloads_lead p hp) now st }

/-- The leads whose rows a statement changes. -/
def matched (now : Timestamp) (st : LeadStatement) (db : Db) : List Uuid :=
  (db.leads.rows.filter (st.matchesRow now)).map Lead.uuid

/-- An insertion into `ping_payloads`; without its lead, or with an `external_ping_id` that is
taken, it fails. -/
def insertPingPayload (now : Timestamp) (l : Uuid) (payload : Json)
    (externalPingId : Option String) (db : Db) : Db × List Uuid :=
  if h : db.hasLead l = true ∧
      ¬ (externalPingId.isSome ∧ db.pingPayloads.any (·.externalPingId = externalPingId)) then
    ({ db with
        pingPayloads := db.pingPayloads ++ [⟨db.pingPayloads.length, l,
          payload, externalPingId, now⟩]
        pingPayloads_lead := by
          intro p hp
          rw [List.mem_append, List.mem_singleton] at hp
          rcases hp with hp | rfl
          · exact db.pingPayloads_lead p hp
          · exact h.1 }, [l])
  else (db, [])

/-! ### `batch_create_leads` -/

/-- The uuid that the insertion of a lead returns: that of the row with its `lead_id`, or its own
unless that is taken. -/
def returningUuid (now : Timestamp) (c : LeadCreation) (db : Db) : Option Uuid :=
  match db.leads.select ((LeadStatement.insertLead c).matchesRow now) with
  | some r => some r.uuid
  | none => if db.hasLead c.uuid then none else some c.uuid

/-- The `ping_id` of a new ping. -/
def pingIdText (l : Uuid) (stamp : String) : String :=
  "FP_" ++ Encoding.base64 (l.toString ++ "|" ++ stamp ++ "|pending")

def createLead (env : FlushEnv) (acc : Db × UuidMap) (c : LeadCreation) : Db × UuidMap :=
  match acc.1.returningUuid env.now c with
  | none => acc
  | some l =>
    let db := acc.1.exec env.now (.insertLead c)
    let stored := match env.ping c with
      | none => db
      | some (stamp, payload) =>
        { (db.insertPingPayload env.now l payload none).1 with
          pings := db.pings ++ [⟨pingIdText l stamp, l, c.promiseId⟩] }
    (stored, (c.uuid, l) :: acc.2)

/-- Creates leads one by one; the map is returned with the tables. -/
def createLeads (env : FlushEnv) (cs : List LeadCreation) (acc : Db × UuidMap) : Db × UuidMap :=
  cs.foldl (createLead env) acc

/-! ### The other tasks -/

/-- `resolve_lead_uuid_for_buyer_response`. -/
def resolveLeadUuid (db : Db) (requestUuid : Uuid) (pingId leadIdStr : Option String) :
    Option Uuid :=
  if db.hasLead requestUuid then some requestUuid
  else match pingId.bind fun pid => db.pings.find? (·.pingId = pid) with
    | some p => some p.leadId
    | none =>
      (leadIdStr.filter (fun lid => lid ≠ "")).bind fun lid =>
        (db.leads.select fun r => r.leadId = some lid).map Lead.uuid

/-- `batch_insert_buyer_responses`, one response.  An insertion that fails for want of its lead
is tried again and fails again, as nothing adds leads or pings in between. -/
def insertBuyerResponse (m : UuidMap) (t : BuyerResponseTask) (db : Db) : Db × List Uuid :=
  match (m.lookup t.leadId).or (db.resolveLeadUuid t.leadId t.pingId t.leadIdStr) with
  | some l =>
    if db.hasLead l then
      ({ db with
          buyerResponses := db.buyerResponses ++
            [⟨l, t.campaignId, t.pingId, t.postId, t.buyerId, t.payload⟩] }, [l])
    else (db, [])
  | none => (db, [])

/-- `batch_update_leads`, one update. -/
def updateLead (now : Timestamp) (u : LeadUpdate) (db : Db) : Db × List Uuid :=
  u.statements.foldl (fun acc st => (acc.1.exec now st, acc.2 ++ acc.1.matched now st)) (db, [])

/-- The newest payload record of a lead. -/
def latestPingPayload (db : Db) (l : Uuid) : Option PingPayload :=
  (db.pingPayloads.filter (·.leadId = l)).argmax PingPayload.createdAt

/-- The update of a payload record; it fails if another record has the `external_ping_id`. -/
def updatePingPayload (p : PayloadUpdate) (latest : PingPayload) (db : Db) : Db × List Uuid :=
  if p.externalPingId.isSome ∧
      db.pingPayloads.any (fun q => q.id ≠ latest.id ∧ q.externalPingId = p.externalPingId) then
    (db, [])
  else
    ({ db with
        pingPayloads := db.pingPayloads.map fun q =>
          if q.leadId = p.leadId ∧ q.id = latest.id then
            { q with
              payload := if p.pingPayloadsRowId.isSome then q.payload else p.payload
              externalPingId := p.externalPingId.or q.externalPingId }
          else q
        pingPayloads_lead := by
          intro q hq
          obtain ⟨q₀, hq₀, rfl⟩ := List.mem_map.mp hq
          have hlead := db.pingPayloads_lead q₀ hq₀
          split
          · exact hlead
          · exact hlead }, [p.leadId])

/-- `batch_update_payloads`, one update. -/
def updatePayload (now : Timestamp) (p : PayloadUpdate) (db : Db) : Db × List Uuid :=
  if p.payloadType = "ping" then
    match db.latestPingPayload p.leadId with
    | some latest => db.updatePingPayload p latest
    | none => db.insertPingPayload now p.leadId p.payload p.externalPingId
  else if p.payloadType = "post" then
    if db.hasLead p.leadId ∧
        ¬ (p.postId.isSome ∧ db.postPayloads.any (·.postId = p.postId)) then
      ({ db with postPayloads := db.postPayloads ++ [⟨p.leadId, p.postId, p.payload⟩] }, [p.leadId])
    else (db, [])
  else (db, [])

/-! ### `flush_batch` -/

/-- A task other than a creation, with the leads whose records it writes. -/
def applyTask (env : FlushEnv) (m : UuidMap) (db : Db) : BackgroundTask → Db × List Uuid
  | .buyerResponse t => db.insertBuyerResponse m t
  | .leadUpdate u => db.updateLead env.now u
  | .payloadUpdate p => db.updatePayload env.now p
  | .pulsarLog _ | .leadCreation _ => (db, [])

def applyTasks (env : FlushEnv) (m : UuidMap) : List BackgroundTask → Db →
    Db × List (BackgroundTask × List Uuid)
  | [], db => (db, [])
  | t :: ts, db =>
    let r := db.applyTask env m t
    let rest := applyTasks env m ts r.1
    (rest.1, (t, r.2) :: rest.2)

/-- The tasks that follow the creations.  The kinds write different tables, so it does not matter
that they run side by side. -/
def following (batch : List BackgroundTask) : List BackgroundTask :=
  batch.filter (fun t => t matches .buyerResponse _) ++
    batch.filter (fun t => t matches .leadUpdate _) ++
    batch.filter (fun t => t matches .payloadUpdate _)

/-- Runs a batch, and gives for each task the leads whose records it wrote. -/
def flush (env : FlushEnv) (batch : List BackgroundTask) (db : Db) :
    Db × List (BackgroundTask × List Uuid) :=
  let created := createLeads env (creationsOf batch) (db, [])
  applyTasks env created.2 (following batch) created.1

/-- Batches, one after the other. -/
def flushAll (batches : List (FlushEnv × List BackgroundTask)) (db : Db) : Db :=
  batches.foldl (fun db b => (db.flush b.1 b.2).1) db

/-! ### What a batch does to `leads` and `pings` -/

theorem createLead_leads (env : FlushEnv) (acc : Db × UuidMap) (c : LeadCreation) :
    (createLead env acc c).1.leads = (LeadStatement.insertLead c).exec env.now acc.1.leads := by
  rw [createLead]
  cases hret : acc.1.returningUuid env.now c with
  | none =>
    -- the uuid is taken, so that nothing is inserted
    rw [returningUuid] at hret
    split at hret
    · cases hret
    · next hsel =>
      split at hret
      · next hhas =>
        obtain ⟨r, hr⟩ := Option.isSome_iff_exists.mp hhas
        have hany : ¬ acc.1.leads.rows.any
            ((LeadStatement.insertLead c).matchesRow env.now) = true := by
          rw [List.any_eq_true]
          rintro ⟨a, ha, hm⟩
          exact List.find?_eq_none.mp hsel a ha hm
        have hmem : (c.row env.now).uuid ∈ acc.1.leads.rows.map Lead.uuid := by
          obtain ⟨hr', hk⟩ := Table.find_eq_some_iff.mp hr
          exact List.mem_map.mpr ⟨r, hr', hk⟩
        rw [LeadStatement.exec, if_neg hany, Table.insert, dif_pos hmem]
      · cases hret
  | some l =>
    cases env.ping c with
    | none => rfl
    | some p =>
      show (insertPingPayload env.now l p.2 none _).1.leads = _
      rw [insertPingPayload]
      split <;> rfl

theorem createLeads_leads (env : FlushEnv) (cs : List LeadCreation) (acc : Db × UuidMap) :
    (createLeads env cs acc).1.leads =
      Reorder.run (LeadStatement.exec env.now) (cs.map .insertLead) acc.1.leads := by
  induction cs generalizing acc with
  | nil => rfl
  | cons c cs ih =>
    rw [createLeads, List.foldl_cons, List.map_cons, Reorder.run_cons, ← createLead_leads]
    exact ih _

theorem updateLead_leads (now : Timestamp) (u : LeadUpdate) (db : Db) :
    (db.updateLead now u).1.leads =
      Reorder.run (LeadStatement.exec now) u.statements db.leads := by
  have key : ∀ (sts : List LeadStatement) (acc : Db × List Uuid),
      (sts.foldl (fun acc st => (acc.1.exec now st, acc.2 ++ acc.1.matched now st)) acc).1.leads =
        Reorder.run (LeadStatement.exec now) sts acc.1.leads := by
    intro sts
    induction sts with
    | nil => exact fun acc => rfl
    | cons st sts ih => exact fun acc => ih _
  exact key u.statements (db, [])

/-- What the statements on `leads` leave alone, an update leaves alone. -/
theorem updateLead_keeps {α : Type} {f : Db → α} {now : Timestamp}
    (h : ∀ st db, f (db.exec now st) = f db) (u : LeadUpdate) (db : Db) :
    f (db.updateLead now u).1 = f db := by
  have key : ∀ (sts : List LeadStatement) (acc : Db × List Uuid),
      f (sts.foldl (fun acc st => (acc.1.exec now st, acc.2 ++ acc.1.matched now st)) acc).1 =
        f acc.1 := by
    intro sts
    induction sts with
    | nil => exact fun acc => rfl
    | cons st sts ih => exact fun acc => (ih _).trans (h st acc.1)
  exact key u.statements (db, [])

theorem applyTask_leads (env : FlushEnv) (m : UuidMap) (db : Db) (t : BackgroundTask) :
    (db.applyTask env m t).1.leads =
        Reorder.run (LeadStatement.exec env.now) t.updates db.leads ∧
      (db.applyTask env m t).1.pings = db.pings := by
  cases t with
  | buyerResponse t =>
    rw [applyTask, insertBuyerResponse]
    split
    · split <;> exact ⟨rfl, rfl⟩
    · exact ⟨rfl, rfl⟩
  | leadUpdate u => exact ⟨updateLead_leads env.now u db, updateLead_keeps (fun _ _ => rfl) u db⟩
  | payloadUpdate p =>
    rw [applyTask, updatePayload]
    split
    · split
      · rw [updatePingPayload]
        split <;> exact ⟨rfl, rfl⟩
      · rw [insertPingPayload]
        split <;> exact ⟨rfl, rfl⟩
    · split
      · split <;> exact ⟨rfl, rfl⟩
      · exact ⟨rfl, rfl⟩
  | _ => exact ⟨rfl, rfl⟩

theorem applyTasks_leads (env : FlushEnv) (m : UuidMap) (ts : List BackgroundTask) (db : Db) :
    (applyTasks env m ts db).1.leads =
      Reorder.run (LeadStatement.exec env.now) (ts.flatMap BackgroundTask.updates) db.leads := by
  induction ts generalizing db with
  | nil => rfl
  | cons t ts ih =>
    rw [applyTasks, ih, (applyTask_leads env m db t).1, List.flatMap_cons, Reorder.run_append]

theorem following_updates (batch : List BackgroundTask) :
    (following batch).flatMap BackgroundTask.updates = batch.flatMap BackgroundTask.updates := by
  have hkeep : (batch.filter fun t => t matches .leadUpdate _).flatMap BackgroundTask.updates =
      batch.flatMap BackgroundTask.updates := by
    induction batch with
    | nil => rfl
    | cons t ts ih => cases t <;> simpa [List.filter_cons, BackgroundTask.updates] using ih
  have hskip : ∀ p : BackgroundTask → Bool, (∀ t, p t = true → t.updates = []) →
      (batch.filter p).flatMap BackgroundTask.updates = [] := by
    intro p hp
    rw [List.flatMap_eq_nil_iff]
    intro t ht
    exact hp t (List.mem_filter.mp ht).2
  rw [following, List.flatMap_append, List.flatMap_append, hkeep, hskip, hskip, List.nil_append,
    List.append_nil]
  · intro t ht
    cases t <;> first | rfl | cases ht
  · intro t ht
    cases t <;> first | rfl | cases ht

/-- On `leads`, a batch runs the statements of `flushBatch`. -/
theorem flush_leads (env : FlushEnv) (batch : List BackgroundTask) (db : Db) :
    (db.flush env batch).1.leads =
      Reorder.run (LeadStatement.exec env.now) (flushBatch batch) db.leads := by
  have hcreations : (creationsOf batch).map LeadStatement.insertLead =
      batch.flatMap BackgroundTask.creations := by
    induction batch with
    | nil => rfl
    | cons t ts ih =>
      cases t with
      | leadCreation c => exact congrArg (List.cons _) ih
      | _ => exact ih
  rw [flush, applyTasks_leads, createLeads_leads, following_updates, hcreations, flushBatch,
    Reorder.run_append]

end Db

/-! ### A creation that meets an existing row -/

/-- The `lead_id` of creation `c` is that of the row of lead `l`, and no row has the uuid of the
request. -/
structure Resubmitted (c : LeadCreation) (l : Uuid) (t : Leads) : Prop where
  row : ∃ e, t.find l = some e ∧ e.leadId = c.leadId
  absent : t.find c.uuid = none

/-- A creation that uses the uuid of `c` is for the same `lead_id`. -/
def SameRequest (c c' : LeadCreation) : Prop := c'.uuid = c.uuid → c'.leadId = c.leadId

namespace Resubmitted

variable {c : LeadCreation} {l : Uuid} {t : Leads}

/-- The row of `l` conflicts with a creation for the same `lead_id`. -/
theorem affects (h : Resubmitted c l t) (hid : c.leadId.isSome = true) {c' : LeadCreation}
    (hc' : c'.leadId = c.leadId) (now : Timestamp) :
    (LeadStatement.insertLead c').affects now t = true := by
  obtain ⟨e, he, heid⟩ := h.row
  refine List.any_eq_true.mpr ⟨e, (Table.find_eq_some_iff.mp he).1, ?_⟩
  simp [LeadStatement.matchesRow, hc', hid, heid]

theorem exec (h : Resubmitted c l t) (hid : c.leadId.isSome = true) {st : LeadStatement}
    (hst : ∀ c', st = .insertLead c' → SameRequest c c') (now : Timestamp) :
    Resubmitted c l (st.exec now t) := by
  obtain ⟨e, he, heid⟩ := h.row
  constructor
  · rcases LeadStatement.find_exec_of_find he now st with hf | ⟨-, hf⟩
    · exact ⟨_, hf, by rw [LeadStatement.applyRow_leadId, heid]⟩
    · exact ⟨e, hf, heid⟩
  · by_cases hup : st.IsUpdate
    · rw [LeadStatement.find_exec_of_isUpdate hup, h.absent]
      rfl
    · cases st with
      | insertLead c' =>
        rw [LeadStatement.find_exec_insertLead, h.absent]
        split
        · rfl
        · next hfree =>
          -- without a conflict, the creation is for another request
          have hne : c'.uuid ≠ c.uuid := fun heq => hfree (h.affects hid (hst c' rfl heq) now)
          rw [if_neg hne, Option.or_none]
      | _ => exact absurd trivial hup

theorem run (h : Resubmitted c l t) (hid : c.leadId.isSome = true) {sts : List LeadStatement}
    (hsts : ∀ st ∈ sts, ∀ c', st = .insertLead c' → SameRequest c c') (now : Timestamp) :
    Resubmitted c l (Reorder.run (LeadStatement.exec now) sts t) := by
  induction sts generalizing t with
  | nil => exact h
  | cons st sts ih =>
    rw [List.forall_mem_cons] at hsts
    exact ih (h.exec hid hsts.1 now) hsts.2

/-- Updates insert nothing. -/
theorem run_updates (h : Resubmitted c l t) (hid : c.leadId.isSome = true) (u : BackgroundTask)
    (now : Timestamp) :
    Resubmitted c l (Reorder.run (LeadStatement.exec now) u.updates t) := by
  refine h.run hid ?_ now
  rintro st hst c' rfl
  cases u with
  | leadUpdate u => exact (LeadUpdate.statements_spec hst).1.elim
  | _ => cases hst

end Resubmitted

namespace Db

variable {c : LeadCreation} {l : Uuid}

/-- A creation for the same request returns the uuid of the row. -/
theorem returningUuid_eq {db : Db} (h : Resubmitted c l db.leads) (hid : c.leadId.isSome = true)
    {c' : LeadCreation} (hc' : c'.leadId = c.leadId) (now : Timestamp) :
    db.returningUuid now c' = some l := by
  obtain ⟨e, he, heid⟩ := h.row
  obtain ⟨hemem, hek⟩ := Table.find_eq_some_iff.mp he
  rw [returningUuid]
  cases hsel : db.leads.select ((LeadStatement.insertLead c').matchesRow now) with
  | none =>
    refine absurd ?_ (List.find?_eq_none.mp hsel e hemem)
    simp [LeadStatement.matchesRow, hc', hid, heid]
  | some r =>
    obtain ⟨hrmem, hm⟩ := Table.select_mem hsel
    simp only [LeadStatement.matchesRow, Bool.and_eq_true, beq_iff_eq] at hm
    have heq : r = e :=
      db.leadId_unique r hrmem e hemem (hm.2 ▸ hm.1) (by rw [hm.2, hc', heid])
    simp only [heq, hek]

theorem createLead_lookup {acc : Db × UuidMap} (h : Resubmitted c l acc.1.leads)
    (hid : c.leadId.isSome = true) (env : FlushEnv) {c' : LeadCreation} (hc' : SameRequest c c') :
    (createLead env acc c').2.lookup c.uuid =
      if c'.uuid = c.uuid then some l else acc.2.lookup c.uuid := by
  rw [createLead]
  by_cases heq : c'.uuid = c.uuid
  · rw [if_pos heq, returningUuid_eq h hid (hc' heq)]
    simp [heq]
  · rw [if_neg heq]
    cases acc.1.returningUuid env.now c' with
    | none => rfl
    | some l' =>
      show List.lookup c.uuid ((c'.uuid, l') :: acc.2) = _
      rw [List.lookup_cons, beq_false_of_ne (Ne.symm heq)]

/-- The entry of the request in the map, after some creations. -/
theorem createLeads_lookup {acc : Db × UuidMap} (h : Resubmitted c l acc.1.leads)
    (hid : c.leadId.isSome = true) (env : FlushEnv) {cs : List LeadCreation}
    (hcs : ∀ c' ∈ cs, SameRequest c c') :
    Resubmitted c l (createLeads env cs acc).1.leads ∧
      (createLeads env cs acc).2.lookup c.uuid =
        if c.uuid ∈ cs.map LeadCreation.uuid then some l else acc.2.lookup c.uuid := by
  induction cs generalizing acc with
  | nil => exact ⟨h, rfl⟩
  | cons c' cs ih =>
    rw [List.forall_mem_cons] at hcs
    have hnext : Resubmitted c l (createLead env acc c').1.leads := by
      rw [createLead_leads]
      refine h.exec hid ?_ env.now
      rintro c'' heq
      cases heq
      exact hcs.1
    obtain ⟨hres, hlook⟩ := ih hnext hcs.2
    refine ⟨hres, ?_⟩
    rw [createLeads, List.foldl_cons]
    refine hlook.trans ?_
    rw [createLead_lookup h hid env hcs.1, List.map_cons]
    -- a later creation of the same request puts its entry in front
    by_cases hmem : c.uuid ∈ cs.map LeadCreation.uuid
    · rw [if_pos hmem, if_pos (List.mem_cons_of_mem _ hmem)]
    · by_cases heq : c'.uuid = c.uuid
      · rw [if_neg hmem, if_pos heq, if_pos (heq ▸ List.mem_cons_self)]
      · have hnot : c.uuid ∉ c'.uuid :: cs.map LeadCreation.uuid := by
          rw [List.mem_cons, not_or]
          exact ⟨Ne.symm heq, hmem⟩
        rw [if_neg hmem, if_neg heq, if_neg hnot]

/-- Each task of a batch runs in a state that has the rows of `leads` that matter here, and the
pings after the creations. -/
theorem applyTask_of_mem {env : FlushEnv} {m : UuidMap} {ts : List BackgroundTask} {db : Db}
    (h : Resubmitted c l db.leads) (hid : c.leadId.isSome = true) {t : BackgroundTask}
    {us : List Uuid} (hmem : (t, us) ∈ (applyTasks env m ts db).2) :
    ∃ db' : Db, Resubmitted c l db'.leads ∧ db'.pings = db.pings ∧
      us = (db'.applyTask env m t).2 := by
  induction ts generalizing db with
  | nil => cases hmem
  | cons t' ts ih =>
    obtain ⟨hleads, hpings⟩ := applyTask_leads env m db t'
    rw [applyTasks, List.mem_cons] at hmem
    rcases hmem with heq | hmem
    · cases heq
      exact ⟨db, h, rfl, rfl⟩
    · have hnext : Resubmitted c l (db.applyTask env m t').1.leads := by
        rw [hleads]
        exact h.run_updates hid t' env.now
      obtain ⟨db', hres, hp, hus⟩ := ih hnext hmem
      exact ⟨db', hres, hp.trans hpings, hus⟩

/-! ### Which tasks reach the row -/

/-- The uuid that a buyer response, a lead update or a payload update carries. -/
def requestUuid? : BackgroundTask → Option Uuid
  | .buyerResponse t => some t.leadId
  | .leadUpdate u => some u.leadId
  | .payloadUpdate p => some p.leadId
  | .pulsarLog _ | .leadCreation _ => none

/-- The database leads a response of the request to lead `l`: by the ping that has its `ping_id`,
or, without such a ping, by its `lead_id`. -/
def Resolves (pings : List PingRow) (c : LeadCreation) (l : Uuid) (t : BuyerResponseTask) : Prop :=
  match t.pingId.bind fun pid => pings.find? (·.pingId = pid) with
  | some p => p.leadId = l
  | none => t.leadIdStr = c.leadId ∧ t.leadIdStr ≠ some ""

theorem hasLead_request {db : Db} (h : Resubmitted c l db.leads) : db.hasLead c.uuid = false := by
  rw [hasLead, h.absent]
  rfl

/-- An update finds no row of the request's uuid. -/
theorem updateLead_request {db : Db} (h : Resubmitted c l db.leads)
    (hid : c.leadId.isSome = true) {u : LeadUpdate} (hu : u.leadId = c.uuid) (now : Timestamp) :
    (db.updateLead now u).2 = [] := by
  have key : ∀ (sts : List LeadStatement) (acc : Db × List Uuid), (∀ st ∈ sts, st ∈ u.statements) →
      Resubmitted c l acc.1.leads → acc.2 = [] →
      (sts.foldl (fun acc st => (acc.1.exec now st, acc.2 ++ acc.1.matched now st))
        acc).2 = [] := by
    -- the induction is over the statements of the update, none of which finds a row
    intro sts
    induction sts with
    | nil => exact fun acc _ _ hacc => hacc
    | cons st sts ih =>
      intro acc hsts hres hacc
      rw [List.forall_mem_cons] at hsts
      obtain ⟨hup, -, hlead⟩ := LeadUpdate.statements_spec hsts.1
      have hnone : acc.1.matched now st = [] := by
        rw [matched, List.map_eq_nil_iff, List.filter_eq_nil_iff]
        intro r hr hm
        refine absurd (hres.absent.symm.trans (Table.find_eq_some_iff.mpr ⟨hr, ?_⟩)) nofun
        by_contra hne
        rw [LeadStatement.matchesRow_eq_false_of_ne hup
          (by rw [hlead, hu]; exact Ne.symm hne)] at hm
        cases hm
      refine ih _ hsts.2 (hres.exec hid ?_ now)
        (show acc.2 ++ acc.1.matched now st = [] by rw [hacc, hnone]; rfl)
      rintro c' rfl
      exact hup.elim
  exact key u.statements (db, []) (fun _ hst => hst) h rfl

/-- A payload of the request is refused. -/
theorem updatePayload_request {db : Db} (h : Resubmitted c l db.leads) {p : PayloadUpdate}
    (hp : p.leadId = c.uuid) (now : Timestamp) : (db.updatePayload now p).2 = [] := by
  have hlead := hasLead_request h
  have hlatest : db.latestPingPayload p.leadId = none := by
    rw [latestPingPayload, List.argmax_eq_none, List.filter_eq_nil_iff]
    intro q hq hql
    have hsome := db.pingPayloads_lead q hq
    rw [of_decide_eq_true hql, hp, h.absent] at hsome
    cases hsome
  rw [updatePayload]
  split
  · rw [hlatest]
    simp [insertPingPayload, hp, hlead]
  · split
    · simp [hp, hlead]
    · rfl

theorem resolveLeadUuid_request {db : Db} (h : Resubmitted c l db.leads)
    (hid : c.leadId.isSome = true) (t : BuyerResponseTask) :
    db.resolveLeadUuid c.uuid t.pingId t.leadIdStr = some l ↔ Resolves db.pings c l t := by
  obtain ⟨e, he, heid⟩ := h.row
  obtain ⟨hemem, hek⟩ := Table.find_eq_some_iff.mp he
  rw [resolveLeadUuid, hasLead_request h, Resolves]
  simp only [Bool.false_eq_true, if_false]
  cases t.pingId.bind fun pid => db.pings.find? (·.pingId = pid) with
  | some p => exact Option.some_inj
  | none =>
    simp only [Option.bind_eq_some_iff, Option.filter_eq_some_iff, Option.map_eq_some_iff]
    constructor
    · -- the row that the `lead_id` finds has the id `l`, so it is the resubmitted row
      rintro ⟨lid, ⟨hlid, hne⟩, r, hr, hrl⟩
      obtain ⟨hrmem, hrid⟩ := Table.select_mem hr
      have hre : r = e := by
        have hr' := Table.find_eq_some_iff.mpr ⟨hrmem, hrl⟩
        rw [he] at hr'
        exact (Option.some_inj.mp hr').symm
      rw [hre, decide_eq_true_iff] at hrid
      refine ⟨by rw [hlid, ← hrid, heid], ?_⟩
      rw [hlid]
      intro heq
      exact of_decide_eq_true hne (Option.some_inj.mp heq)
    · -- and a `lead_id` finds no other row, because it is unique
      rintro ⟨hstr, hne⟩
      obtain ⟨lid, hlid⟩ := Option.isSome_iff_exists.mp hid
      rw [hlid] at hstr
      refine ⟨lid, ⟨hstr, ?_⟩, ?_⟩
      · rw [decide_eq_true_iff]
        rintro rfl
        exact hne hstr
      · obtain ⟨r, hr⟩ : ∃ r, db.leads.select (fun r => r.leadId = some lid) = some r := by
          refine Option.isSome_iff_exists.mp (List.find?_isSome.mpr ⟨e, hemem, ?_⟩)
          rw [decide_eq_true_iff, heid, hlid]
        obtain ⟨hrmem, hrid⟩ := Table.select_mem hr
        rw [decide_eq_true_iff] at hrid
        have hre : r = e :=
          db.leadId_unique r hrmem e hemem (by rw [hrid]; rfl) (by rw [hrid, heid, hlid])
        exact ⟨r, hr, hre ▸ hek⟩

theorem applyTask_request {db : Db} (h : Resubmitted c l db.leads) (hid : c.leadId.isSome = true)
    (env : FlushEnv) (m : UuidMap) {t : BackgroundTask} (ht : requestUuid? t = some c.uuid) :
    l ∈ (db.applyTask env m t).2 ↔ ∃ r, t = .buyerResponse r ∧
      (m.lookup c.uuid = some l ∨ m.lookup c.uuid = none ∧ Resolves db.pings c l r) := by
  cases t with
  | buyerResponse r =>
    have hr : r.leadId = c.uuid := Option.some_inj.mp ht
    have hl : db.hasLead l = true := by
      obtain ⟨e, he, -⟩ := h.row
      rw [hasLead, he]
      rfl
    have hin : l ∈ (db.insertBuyerResponse m r).2 ↔
        (m.lookup c.uuid).or (db.resolveLeadUuid c.uuid r.pingId r.leadIdStr) = some l := by
      rw [insertBuyerResponse, hr]
      cases (m.lookup c.uuid).or (db.resolveLeadUuid c.uuid r.pingId r.leadIdStr) with
      | none => simp
      | some l' =>
        -- the foreign key refuses a response for a lead that has no row
        by_cases hl' : db.hasLead l' = true
        · simp [hl', eq_comm]
        · have hne : l' ≠ l := fun heq => hl' (heq ▸ hl)
          simp [hl', hne]
    rw [applyTask, hin, Option.or_eq_some_iff, resolveLeadUuid_request h hid]
    constructor
    · exact fun hor => ⟨r, rfl, hor⟩
    · rintro ⟨r', heq, hor⟩
      cases heq
      exact hor
  | leadUpdate u =>
    rw [applyTask, updateLead_request h hid (Option.some_inj.mp ht)]
    exact iff_of_false nofun (by rintro ⟨r, hr, -⟩; cases hr)
  | payloadUpdate p =>
    rw [applyTask, updatePayload_request h (Option.some_inj.mp ht)]
    exact iff_of_false nofun (by rintro ⟨r, hr, -⟩; cases hr)
  | _ => cases ht

/-- A task of the request in a batch that starts in `db`. -/
theorem flush_request {db : Db} (h : Resubmitted c l db.leads) (hid : c.leadId.isSome = true)
    {env : FlushEnv} {batch : List BackgroundTask} (hb : ∀ c' ∈ creationsOf batch, SameRequest c c')
    {t : BackgroundTask} {us : List Uuid} (hmem : (t, us) ∈ (db.flush env batch).2)
    (ht : requestUuid? t = some c.uuid) :
    l ∈ us ↔ ∃ r, t = .buyerResponse r ∧ (c.uuid ∈ (creationsOf batch).map LeadCreation.uuid ∨
      Resolves (createLeads env (creationsOf batch) (db, [])).1.pings c l r) := by
  have hstart : Resubmitted c l ((db, []) : Db × UuidMap).1.leads := h
  obtain ⟨hres, hlook⟩ := createLeads_lookup hstart hid env hb
  obtain ⟨db', hres', hpings, rfl⟩ := applyTask_of_mem hres hid hmem
  rw [applyTask_request hres' hid env _ ht, hlook, hpings]
  by_cases hin : c.uuid ∈ (creationsOf batch).map LeadCreation.uuid
  · simp [hin]
  · simp [hin]

/-- Batches keep the situation. -/
theorem flush_resubmitted {db : Db} (h : Resubmitted c l db.leads) (hid : c.leadId.isSome = true)
    {env : FlushEnv} {batch : List BackgroundTask}
    (hb : ∀ c' ∈ creationsOf batch, SameRequest c c') :
    Resubmitted c l (db.flush env batch).1.leads := by
  rw [flush_leads]
  refine h.run hid ?_ env.now
  rintro st hst c' rfl
  obtain ⟨t, ht, hstt⟩ := mem_flushBatch.mp hst
  exact hb c' ((fromTasks_of_mem ht hstt).2 c' rfl)

theorem flushAll_resubmitted {batches : List (FlushEnv × List BackgroundTask)} {db : Db}
    (h : Resubmitted c l db.leads) (hid : c.leadId.isSome = true)
    (hb : ∀ b ∈ batches, ∀ c' ∈ creationsOf b.2, SameRequest c c') :
    Resubmitted c l (flushAll batches db).leads := by
  induction batches generalizing db with
  | nil => exact h
  | cons b batches ih =>
    rw [List.forall_mem_cons] at hb
    exact ih (flush_resubmitted h hid hb.1) hb.2

end Db

/-- A lead is submitted again: when creation `c` comes to be inserted, its `lead_id` is that of the
row of lead `l`.  Of the tasks that carry the uuid of the request, those of the same batch reach
the row exactly if they are buyer responses, and those of a later batch exactly if they are buyer
responses that the database leads to the row. -/
theorem resubmitted_applied_iff {db : Db} {env₀ : FlushEnv} {pre post : List BackgroundTask}
    {c : LeadCreation} {l : Uuid} (hid : c.leadId.isSome = true)
    (hfound : Resubmitted c l (Db.createLeads env₀ (creationsOf pre) (db, [])).1.leads)
    {later : List (FlushEnv × List BackgroundTask)}
    (hone : ∀ b ∈ (env₀, pre ++ .leadCreation c :: post) :: later, ∀ c' ∈ creationsOf b.2,
      SameRequest c c') :
    (∀ t us, (t, us) ∈ (db.flush env₀ (pre ++ .leadCreation c :: post)).2 →
      Db.requestUuid? t = some c.uuid → (l ∈ us ↔ ∃ r, t = .buyerResponse r)) ∧
    ∀ earlier env b rest, later = earlier ++ (env, b) :: rest →
      ∀ before, before = Db.flushAll earlier (db.flush env₀ (pre ++ .leadCreation c :: post)).1 →
      ∀ t us, (t, us) ∈ (before.flush env b).2 → Db.requestUuid? t = some c.uuid →
        (l ∈ us ↔ ∃ r, t = .buyerResponse r ∧
          (c.uuid ∈ (creationsOf b).map LeadCreation.uuid ∨
            Db.Resolves (Db.createLeads env (creationsOf b) (before, [])).1.pings c l r)) := by
  rw [List.forall_mem_cons] at hone
  have hcreations : creationsOf (pre ++ .leadCreation c :: post) =
      creationsOf pre ++ c :: creationsOf post := by
    rw [creationsOf, List.filterMap_append]
    rfl
  -- the creations of the first batch, from `c` on
  have hrest : ∀ c' ∈ c :: creationsOf post, SameRequest c c' := by
    intro c' hc'
    exact hone.1 c' (hcreations ▸ List.mem_append_right _ hc')
  obtain ⟨hres, hlook⟩ := Db.createLeads_lookup hfound hid env₀ hrest
  have hcreate : Db.createLeads env₀ (creationsOf (pre ++ .leadCreation c :: post)) (db, []) =
      Db.createLeads env₀ (c :: creationsOf post)
        (Db.createLeads env₀ (creationsOf pre) (db, [])) := by
    rw [hcreations, Db.createLeads, List.foldl_append]
    rfl
  rw [← hcreate] at hres hlook
  have hfirst : Resubmitted c l (db.flush env₀ (pre ++ .leadCreation c :: post)).1.leads := by
    rw [Db.flush, Db.applyTasks_leads]
    refine hres.run hid ?_ env₀.now
    rintro st hst c' rfl
    obtain ⟨t, -, hstt⟩ := List.mem_flatMap.mp hst
    cases t with
    | leadUpdate u => exact (LeadUpdate.statements_spec hstt).1.elim
    | _ => cases hstt
  constructor
  · intro t us hmem ht
    obtain ⟨db', hres', -, rfl⟩ := Db.applyTask_of_mem hres hid hmem
    rw [Db.applyTask_request hres' hid env₀ _ ht, hlook]
    simp
  · rintro earlier env b rest rfl before rfl t us hmem ht
    have hearlier : ∀ b' ∈ earlier, ∀ c' ∈ creationsOf b'.2, SameRequest c c' :=
      fun b' hb' => hone.2 b' (List.mem_append_left _ hb')
    have hb : ∀ c' ∈ creationsOf b, SameRequest c c' :=
      hone.2 (env, b) (List.mem_append_right _ List.mem_cons_self)
    exact Db.flush_request (Db.flushAll_resubmitted hfirst hid hearlier) hid hb hmem ht

namespace Sample

def responseOf (uuid : Uuid) (leadId : Option String) : BuyerResponseTask where
  leadId := uuid
  campaignId := 10
  pingId := some "PING"
  postId := none
  buyerId := some 20
  payload := .obj []
  leadIdStr := leadId

def payloadOf (uuid : Uuid) : PayloadUpdate where
  leadId := uuid
  payloadType := "post"
  payload := .obj []
  postId := some "POST"
  pingPayloadsRowId := none
  externalPingId := none

/-- A database without leads. -/
def noLeads : Db where
  leads := ⟨[], by decide⟩
  pings := []
  pingPayloads := []
  postPayloads := []
  buyerResponses := []
  leadId_unique := by
    intro r hr
    cases hr
  pingPayloads_lead := nofun

/-- A database with lead 7, whose `lead_id` is `a`. -/
def oneLead : Db where
  leads := ⟨[(creationOf 7 (some "a")).row 0], by decide⟩
  pings := []
  pingPayloads := []
  postPayloads := []
  buyerResponses := []
  leadId_unique := by
    intro r hr r' hr' _ _
    rw [List.mem_singleton] at hr hr'
    rw [hr, hr']
  pingPayloads_lead := nofun

def flushEnv : FlushEnv := ⟨1, fun _ => some ("20240101000000", .obj [])⟩

/-- Lead `a` submitted again under uuid 8, with the tasks of the request. -/
def resubmission : List BackgroundTask :=
  [.leadCreation (creationOf 8 (some "a")), .buyerResponse (responseOf 8 (some "a")),
    .leadUpdate (saleOf 8 none), .payloadUpdate (payloadOf 8)]

theorem oneLead_resubmitted : Resubmitted (creationOf 8 (some "a")) 7 oneLead.leads where
  row := ⟨_, rfl, rfl⟩
  absent := by decide

end Sample

/-- The response reaches row 7; the sale and the payload reach no row. -/
theorem resubmission_loses_sale :
    Resubmitted (Sample.creationOf 8 (some "a")) 7 Sample.oneLead.leads ∧
      Sample.resubmission.tail.map Db.requestUuid? = [some 8, some 8, some 8] ∧
      (Sample.oneLead.flush Sample.flushEnv Sample.resubmission).2.map Prod.snd =
        [[7], [], []] :=
  ⟨Sample.oneLead_resubmitted, by decide, by decide⟩

theorem resubmitted_applied_iff_resubmission :
    (∀ t us, (t, us) ∈ (Sample.oneLead.flush Sample.flushEnv Sample.resubmission).2 →
      Db.requestUuid? t = some 8 → (7 ∈ us ↔ ∃ r, t = .buyerResponse r)) ∧
    ∀ earlier env b rest, [(Sample.flushEnv, Sample.resubmission.tail)] =
        earlier ++ (env, b) :: rest →
      ∀ before, before = Db.flushAll earlier
        (Sample.oneLead.flush Sample.flushEnv Sample.resubmission).1 →
      ∀ t us, (t, us) ∈ (before.flush env b).2 → Db.requestUuid? t = some 8 →
        (7 ∈ us ↔ ∃ r, t = .buyerResponse r ∧
          ((8 : Uuid) ∈ (creationsOf b).map LeadCreation.uuid ∨
            Db.Resolves (Db.createLeads env (creationsOf b) (before, [])).1.pings
              (Sample.creationOf 8 (some "a")) 7 r)) := by
  refine @resubmitted_applied_iff Sample.oneLead Sample.flushEnv [] Sample.resubmission.tail
    (Sample.creationOf 8 (some "a")) 7 rfl Sample.oneLead_resubmitted _ ?_
  intro b hb c' hc'
  rw [List.mem_cons, List.mem_singleton] at hb
  rw [mem_creationsOf] at hc'
  rcases hb with rfl | rfl
  · simp only [Sample.resubmission, List.tail_cons, List.nil_append, List.mem_cons,
      BackgroundTask.leadCreation.injEq, reduceCtorEq, List.not_mem_nil, or_false] at hc'
    rw [hc']
    exact fun _ => rfl
  · simp [Sample.resubmission] at hc'

end LeadsNebula
