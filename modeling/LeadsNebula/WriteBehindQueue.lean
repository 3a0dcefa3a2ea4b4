/-
The write-behind queue (`services/write_behind_queue.rs`) and the statements
that change the `leads` table.

Requests enqueue `BackgroundTask`s; a batcher takes tasks from the queue in
order and turns each batch into SQL statements (`flushBatch`): the lead
creations of the batch first, then its lead updates in order.  A lead update
gives one or two statements (`LeadUpdate.statements`).

`LeadStatement` lists every statement of the program on the table, the claim of
`create_lead` and the direct updates of the routers included.  Its meaning is a
`WHERE` part and a `SET` part.

* `find_exec` — what a statement does to the row of one lead;
* `find_exec_of_not_targets` — a statement leaves the other rows alone.
-/
import LeadsNebula.Models
import LeadsNebula.Table

namespace LeadsNebula

/-- The tuple of a lead insertion. -/
structure LeadCreation where
  uuid : Uuid
  eventId : String
  leadId : Option String
  publisherId : Uuid
  verticalId : Uuid
  requestType : RequestType
  strategy : String
  promiseId : Option String
  buyerId : Uuid
  campaignId : Uuid
  tcpaConsent : Bool
  tcpaLanguage : String
  isTest : Bool
  sessionId : String
  verticalData : Json

/-- The tuple of a lead update. -/
structure LeadUpdate where
  leadId : Uuid
  status : LeadStatus
  campaignId : Option Uuid
  buyerId : Option Uuid
  promiseId : Option String
  pingId : Option String
  postId : Option String
  soldAt : Bool
  inprogToken : Option String
  verticalData : Option Json

/-- The tuple of a stored buyer response. -/
structure BuyerResponseTask where
  leadId : Uuid
  campaignId : Uuid
  pingId : Option String
  postId : Option String
  buyerId : Option Uuid
  payload : Json
  leadIdStr : Option String

/-- The tuple of a stored payload. -/
structure PayloadUpdate where
  leadId : Uuid
  payloadType : String
  payload : Json
  postId : Option String
  pingPayloadsRowId : Option Uuid
  externalPingId : Option String

/-- The tuple of a Pulsar decision log entry. -/
structure PulsarLog where
  leadId : Uuid
  pingId : Option String
  buyerId : Uuid
  accepted : Bool
  finalBidPrice : ℚ

inductive BackgroundTask where
  | pulsarLog (t : PulsarLog)
  | leadUpdate (u : LeadUpdate)
  | buyerResponse (t : BuyerResponseTask)
  | payloadUpdate (t : PayloadUpdate)
  | leadCreation (c : LeadCreation)

/-! ### Statements on the `leads` table -/

/-- `leads`, keyed by `uuid`. -/
abbrev Leads := Table Lead.uuid

inductive LeadStatement where
  /-- `batch_create_leads`: `INSERT … ON CONFLICT (lead_id) DO UPDATE`. -/
  | insertLead (c : LeadCreation)
  /-- `batch_update_leads`, sold; also the update that `create_lead` spawns. -/
  | updateSold (u : LeadUpdate)
  /-- `batch_update_leads`, token reset. -/
  | resetToken (leadId : Uuid) (token : String)
  /-- `batch_update_leads`, standard update. -/
  | updateStandard (u : LeadUpdate)
  /-- `update_lead_status`. -/
  | setStatus (leadId : Uuid) (status : LeadStatus) (verticalData : Json)
  /-- `update_lead_with_post`. -/
  | setPost (leadId : Uuid) (postId : String)
  /-- The winner update of a direct fullpost. -/
  | setFullpostWinner (leadId campaignId buyerId : Uuid) (promiseId postId : Option String)
  /-- The claim of `create_lead`. -/
  | claim (leadId : Uuid) (promiseId token : String)

/-- The window in which a post may claim a lead, ten minutes. -/
def claimWindow : ℕ := 10 * 60 * 1000

namespace LeadStatement

/-- The lead a statement is for. -/
def leadId : LeadStatement → Uuid
  | insertLead c => c.uuid
  | updateSold u => u.leadId
  | resetToken l _ => l
  | updateStandard u => u.leadId
  | setStatus l _ _ => l
  | setPost l _ => l
  | setFullpostWinner l _ _ _ _ => l
  | claim l _ _ => l

/-- The `WHERE` part; for an insertion, the rows it conflicts with. -/
def matchesRow (now : Timestamp) : LeadStatement → Lead → Bool
  | insertLead c, r => c.leadId.isSome && r.leadId == c.leadId
  | updateSold u, r =>
    r.uuid = u.leadId && (u.inprogToken.isNone || r.postId == u.inprogToken)
  | resetToken l token, r => r.uuid = l && r.postId == some token
  | updateStandard u, r => r.uuid = u.leadId
  | setStatus l _ _, r => r.uuid = l
  | setPost l _, r => r.uuid = l
  | setFullpostWinner l _ _ _ _, r => r.uuid = l
  | claim l promiseId _, r =>
    r.uuid = l && (r.postId == none || r.postId == some "") && r.promiseId == some promiseId &&
      now ≤ r.createdAt + claimWindow

/-- The `SET` part.  `post_id` is bound as `post_id.unwrap_or("")`, so its `COALESCE` never
falls back to the column. -/
def setRow (now : Timestamp) : LeadStatement → Lead → Lead
  | insertLead c, r => { r with promiseId := c.promiseId, updatedAt := now }
  | updateSold u, r =>
    { r with
      status := u.status
      campaignId := u.campaignId.or r.campaignId
      buyerId := u.buyerId.or r.buyerId
      promiseId := u.promiseId.or r.promiseId
      pingId := u.pingId.or r.pingId
      -- `post_id` is bound as the empty text if there is none, so the column is not kept
      postId := some (u.postId.getD "")
      soldAt := some now
      verticalData := u.verticalData.getD r.verticalData
      updatedAt := now }
  | resetToken _ _, r => { r with postId := some "" }
  | updateStandard u, r =>
    { r with
      status := u.status
      campaignId := u.campaignId.or r.campaignId
      buyerId := u.buyerId.or r.buyerId
      promiseId := u.promiseId.or r.promiseId
      pingId := u.pingId.or r.pingId
      postId := some (u.postId.getD "")
      verticalData := match u.verticalData with
        | some vd => r.verticalData.concat vd
        | none => r.verticalData
      updatedAt := now }
  | setStatus _ status vd, r => { r with status := status, verticalData := vd, updatedAt := now }
  | setPost _ postId, r => { r with status := .sold, postId := some postId, updatedAt := now }
  | setFullpostWinner _ campaignId buyerId promiseId postId, r =>
    { r with
      campaignId := some campaignId
      buyerId := some buyerId
      promiseId := promiseId.or r.promiseId
      postId := some (postId.getD "")
      status := .sold
      updatedAt := now }
  | claim _ _ token, r => { r with postId := some token }

/-- What a statement does to a row that is there. -/
def applyRow (now : Timestamp) (st : LeadStatement) (r : Lead) : Lead :=
  if st.matchesRow now r then st.setRow now r else r

@[simp] theorem setRow_uuid (now : Timestamp) (st : LeadStatement) (r : Lead) :
    (st.setRow now r).uuid = r.uuid := by
  cases st <;> rfl

end LeadStatement

/-- The row of an insertion. -/
def LeadCreation.row (now : Timestamp) (c : LeadCreation) : Lead where
  uuid := c.uuid
  eventId := c.eventId
  leadId := c.leadId
  publisherId := some c.publisherId
  verticalId := c.verticalId
  campaignId := some c.campaignId
  buyerId := some c.buyerId
  requestType := c.requestType
  strategy := c.strategy
  status := if c.isTest then .test else .processing
  promiseId := c.promiseId
  pingId := none
  -- the INSERT gives the empty text for it
  postId := some ""
  sessionId := some c.sessionId
  tcpaConsent := c.tcpaConsent
  tcpaLanguage := c.tcpaLanguage
  isTest := c.isTest
  userAgent := none
  websiteUrl := none
  submittedAt := some now
  soldAt := none
  verticalData := c.verticalData
  createdAt := now
  updatedAt := now

namespace LeadStatement

/-- Runs a statement at time `now`. -/
def exec (now : Timestamp) (st : LeadStatement) (t : Leads) : Leads :=
  match st with
  | insertLead c =>
    if t.rows.any ((insertLead c).matchesRow now) then
      t.update ((insertLead c).matchesRow now) ((insertLead c).setRow now) (setRow_uuid now _)
    else t.insert (c.row now)
  | st => t.update (st.matchesRow now) (st.setRow now) (setRow_uuid now st)

/-- The number of rows a statement changes is not zero (`rows_affected`, `RETURNING`). -/
def affects (now : Timestamp) (st : LeadStatement) (t : Leads) : Bool :=
  t.rows.any (st.matchesRow now)

/-- A statement other than an insertion. -/
def IsUpdate : LeadStatement → Prop
  | insertLead _ => False
  | _ => True

instance (st : LeadStatement) : Decidable st.IsUpdate :=
  match st with
  | insertLead _ => inferInstanceAs (Decidable False)
  | updateSold _ | resetToken _ _ | updateStandard _ | setStatus _ _ _ | setPost _ _
  | setFullpostWinner _ _ _ _ _ | claim _ _ _ => inferInstanceAs (Decidable True)

theorem find_exec_of_isUpdate {st : LeadStatement} (h : st.IsUpdate) (now : Timestamp)
    (t : Leads) (l : Uuid) : (st.exec now t).find l = (t.find l).map (st.applyRow now) := by
  cases st with
  | insertLead c => exact h.elim
  | _ => exact Table.find_update t _ _ (setRow_uuid now _) l

/-- The row of a lead after a statement: the row that was there, changed by the statement,
or the inserted row where there was none. -/
theorem find_exec (now : Timestamp) (st : LeadStatement) (t : Leads) (l : Uuid) :
    (st.exec now t).find l = (t.find l).map (st.applyRow now) ∨
      ∃ c, st = insertLead c ∧
        (st.exec now t).find l = (t.find l).or (if c.uuid = l then some (c.row now) else none) := by
  cases st with
  | insertLead c =>
    by_cases hc : t.rows.any ((insertLead c).matchesRow now) = true
    · left
      rw [exec, if_pos hc]
      exact Table.find_update t _ _ (setRow_uuid now _) l
    · right
      refine ⟨c, rfl, ?_⟩
      rw [exec, if_neg hc]
      exact Table.find_insert t (c.row now) l
  | _ => exact Or.inl (Table.find_update t _ _ (setRow_uuid now _) l)

/-- An update for another lead does not match the row. -/
theorem matchesRow_eq_false_of_ne {st : LeadStatement} (h : st.IsUpdate) {r : Lead}
    (hne : st.leadId ≠ r.uuid) (now : Timestamp) : st.matchesRow now r = false := by
  cases st with
  | insertLead c => exact h.elim
  | _ =>
    have hne' := Ne.symm hne
    simp only [leadId] at hne'
    simp [matchesRow, hne']

/-- An update that changes a row changes that of its lead. -/
theorem find_of_affects {st : LeadStatement} (h : st.IsUpdate) {now : Timestamp} {t : Leads}
    (haff : st.affects now t = true) :
    ∃ r, t.find st.leadId = some r ∧ st.matchesRow now r = true := by
  rw [affects, List.any_eq_true] at haff
  obtain ⟨r, hmem, hm⟩ := haff
  refine ⟨r, Table.find_eq_some_iff.mpr ⟨hmem, ?_⟩, hm⟩
  by_contra hne
  rw [matchesRow_eq_false_of_ne h (Ne.symm hne)] at hm
  cases hm

/-- A statement that may change the row of lead `l`: one for `l`, or an insertion (which
renews the promise of a row with the same `lead_id`). -/
def Targets (st : LeadStatement) (l : Uuid) : Prop :=
  ¬ st.IsUpdate ∨ st.leadId = l

theorem find_exec_of_not_targets {st : LeadStatement} {l : Uuid} (h : ¬ st.Targets l)
    (now : Timestamp) (t : Leads) : (st.exec now t).find l = t.find l := by
  rw [Targets, not_or, not_not] at h
  rw [find_exec_of_isUpdate h.1]
  cases hr : t.find l with
  | none => rfl
  | some r =>
    have hne : st.leadId ≠ r.uuid := by
      rw [Table.find_key hr]
      exact h.2
    rw [Option.map_some, applyRow, matchesRow_eq_false_of_ne h.1 hne]
    simp

/-- The row of a lead stays there; it may be changed by the statement. -/
theorem find_exec_of_find {t : Leads} {l : Uuid} {r : Lead} (hr : t.find l = some r)
    (now : Timestamp) (st : LeadStatement) :
    (st.exec now t).find l = some (st.applyRow now r) ∨
      (∃ c, st = insertLead c) ∧ (st.exec now t).find l = some r := by
  rcases find_exec now st t l with h | ⟨c, rfl, h⟩
  · rw [h, hr]
    exact Or.inl rfl
  · rw [h, hr]
    exact Or.inr ⟨⟨c, rfl⟩, rfl⟩

/-! ### Who writes `post_id` -/

def isClaim : LeadStatement → Bool
  | claim _ _ _ => true
  | _ => false

/-- The token a statement is conditional on. -/
def token : LeadStatement → Option String
  | updateSold u => u.inprogToken
  | resetToken _ token => some token
  | _ => none

/-- The `post_id` of a buyer that a statement binds. -/
def boundPostId : LeadStatement → Option String
  | updateSold u => some (u.postId.getD "")
  | updateStandard u => some (u.postId.getD "")
  | setPost _ postId => some postId
  | setFullpostWinner _ _ _ _ postId => some (postId.getD "")
  | _ => none

/-- The `post_id` of a buyer that a statement binds without looking at the token. -/
def unconditionalPostId (st : LeadStatement) : Option String :=
  if st.token.isNone then st.boundPostId else none

/-- The value that a statement gives `post_id`, if it sets the column. -/
def newPostId : LeadStatement → Option String
  | resetToken _ _ => some ""
  | claim _ _ token => some token
  | st => st.boundPostId

theorem setRow_postId (now : Timestamp) (st : LeadStatement) (r : Lead) :
    (st.setRow now r).postId = st.newPostId.or r.postId := by
  cases st <;> rfl

/-- A row matches a conditional statement only while it holds the token. -/
theorem matchesRow_token {st : LeadStatement} {token : String} (h : st.token = some token)
    {now : Timestamp} {r : Lead} (hm : st.matchesRow now r = true) : r.postId = some token := by
  cases st with
  | updateSold u =>
    simp only [LeadStatement.token] at h
    simp only [matchesRow, h, Option.isNone_some, Bool.false_or, Bool.and_eq_true,
      beq_iff_eq] at hm
    exact hm.2
  | resetToken l t =>
    simp only [LeadStatement.token, Option.some_inj] at h
    subst h
    simp only [matchesRow, Bool.and_eq_true, beq_iff_eq] at hm
    exact hm.2
  | _ => cases h

/-- After a statement, the row of a lead holds the `post_id` it held, or the one that the
statement has set. -/
theorem exec_postId {t : Leads} {l : Uuid} {r : Lead} (hr : t.find l = some r) (now : Timestamp)
    (st : LeadStatement) :
    ∃ r', (st.exec now t).find l = some r' ∧ (r'.postId = r.postId ∨
      st.leadId = l ∧ st.matchesRow now r = true ∧ st.newPostId.isSome = true ∧
        r'.postId = st.newPostId) := by
  rcases find_exec_of_find hr now st with h | ⟨-, h⟩
  · refine ⟨_, h, ?_⟩
    by_cases hm : st.matchesRow now r = true
    · rw [applyRow, if_pos hm, setRow_postId]
      cases hnew : st.newPostId with
      | none => exact Or.inl rfl
      | some x =>
        refine Or.inr ⟨?_, hm, rfl, rfl⟩
        by_contra hne
        have hup : st.IsUpdate := by
          cases st with
          | insertLead c => cases hnew
          | _ => trivial
        rw [matchesRow_eq_false_of_ne hup (Table.find_key hr ▸ hne)] at hm
        cases hm
    · rw [applyRow, if_neg hm]
      exact Or.inl rfl
  · exact ⟨r, h, Or.inl rfl⟩

end LeadStatement

/-- A row that can be claimed: its `post_id` is empty. -/
def Lead.unclaimed (r : Lead) : Bool := r.postId == none || r.postId == some ""

/-- A claim takes an unclaimed row. -/
theorem LeadStatement.matchesRow_claim {l : Uuid} {promiseId token : String} {now : Timestamp}
    {r : Lead} (h : (claim l promiseId token).matchesRow now r = true) :
    r.uuid = l ∧ r.unclaimed = true := by
  simp only [matchesRow, Bool.and_eq_true, decide_eq_true_iff] at h
  exact ⟨h.1.1.1, h.1.1.2⟩

/-! ### Batches -/

/-- The `should_update_as_sold` of a lead update. -/
def LeadUpdate.shouldUpdateAsSold (u : LeadUpdate) : Bool :=
  (u.soldAt && u.status = .sold) ||
    (u.campaignId.isSome && u.buyerId.isSome && u.status = .sold)

/-- The statements of a lead update. -/
def LeadUpdate.statements (u : LeadUpdate) : List LeadStatement :=
  (if u.shouldUpdateAsSold then [.updateSold u] else []) ++
    match u.inprogToken with
    | some token => [.resetToken u.leadId token]
    | none => [.updateStandard u]

namespace BackgroundTask

/-- The insertions of a task. -/
def creations : BackgroundTask → List LeadStatement
  | leadCreation c => [.insertLead c]
  | _ => []

/-- The updates of a task. -/
def updates : BackgroundTask → List LeadStatement
  | leadUpdate u => u.statements
  | _ => []

/-- The statements of a task on the `leads` table. -/
def statements (t : BackgroundTask) : List LeadStatement := t.creations ++ t.updates

end BackgroundTask

/-- The statements on the `leads` table that one batch runs: creations first, then updates. -/
def flushBatch (batch : List BackgroundTask) : List LeadStatement :=
  batch.flatMap BackgroundTask.creations ++ batch.flatMap BackgroundTask.updates

theorem mem_flushBatch {batch : List BackgroundTask} {st : LeadStatement} :
    st ∈ flushBatch batch ↔ ∃ t ∈ batch, st ∈ t.statements := by
  simp only [flushBatch, BackgroundTask.statements, List.mem_append, List.mem_flatMap]
  constructor
  · rintro (⟨t, ht, hst⟩ | ⟨t, ht, hst⟩)
    · exact ⟨t, ht, Or.inl hst⟩
    · exact ⟨t, ht, Or.inr hst⟩
  · rintro ⟨t, ht, hst | hst⟩
    · exact Or.inl ⟨t, ht, hst⟩
    · exact Or.inr ⟨t, ht, hst⟩

end LeadsNebula
