/-
Buyer responses inserted in a batch (`batch_insert_buyer_responses`).

A response whose lead is not known, or not yet in the database, is put aside and tried again
after the others, where its insertion is repeated.  A `Pool` says what the database does at each
statement: the tables that the statement sees, and whether it fails.

* `settled_batchInsertBuyerResponses` — for every pool, each response ends once, as inserted or as
  failed, and the two counters count these; it is tried again three times at most, and inserted
  under a lead that the map or the database gives;
* `sum_slept_le` — how long a batch keeps the queue waiting with its sleeps;
* `buyerResponses_quiet` — if nothing fails and nobody else writes, the rows inserted are those of
  `Db.insertBuyerResponse`.
-/
import LeadsNebula.Resubmission
import LeadsNebula.LeadResponses

namespace LeadsNebula.ResponseBatch

/-! ### What the database does -/

/-- What happens at the `n`-th statement: the tables that it sees, which others may have changed
since the last one, and the error with which it fails for a reason of its own. -/
structure Pool where
  tables : ℕ → Db
  fault : ℕ → Option String

/-- The constraint `lead_id UUID REFERENCES leads(uuid)`. -/
def leadFkey : String := "buyer_responses_lead_id_fkey"

def leadFkeyError : String :=
  "error returned from database: insert or update on table \"buyer_responses\" " ++
    "violates foreign key constraint \"" ++ leadFkey ++ "\""

/-- `SELECT uuid FROM leads WHERE uuid = $1`. -/
def uuidOfUuid (requestUuid : Uuid) (db : Db) : Option Uuid :=
  if db.hasLead requestUuid then some requestUuid else none

/-- `SELECT lead_id FROM pings WHERE ping_id = $1`. -/
def leadOfPing (pingId : String) (db : Db) : Option Uuid :=
  (db.pings.find? (·.pingId = pingId)).map PingRow.leadId

/-- `SELECT uuid FROM leads WHERE lead_id = $1`. -/
def uuidOfLeadId (leadId : String) (db : Db) : Option Uuid :=
  (db.leads.select fun r => r.leadId = some leadId).map Lead.uuid

namespace Pool

variable (pool : Pool)

def fetchOptional (n : ℕ) (query : Db → Option Uuid) : Except String (Option Uuid) :=
  match pool.fault n with
  | some e => .error e
  | none => .ok (query (pool.tables n))

/-- `INSERT INTO buyer_responses … ON CONFLICT DO NOTHING`. -/
def insertResponse (n : ℕ) (l : Uuid) : Except String Unit :=
  match pool.fault n with
  | some e => .error e
  | none => if (pool.tables n).hasLead l then .ok () else .error leadFkeyError

/-! ### `resolve_lead_uuid_for_buyer_response` -/

/-- From statement `n` on; the number of the next statement comes with the result.  A query that
fails finds nothing. -/
def resolveByLeadId (n : ℕ) (leadIdStr : Option String) : Option Uuid × ℕ :=
  match leadIdStr.filter (· ≠ "") with
  | none => (none, n)
  | some lid =>
    match pool.fetchOptional n (uuidOfLeadId lid) with
    | .ok (some u) => (some u, n + 1)
    | _ => (none, n + 1)

def resolveByPing (n : ℕ) (pingId leadIdStr : Option String) : Option Uuid × ℕ :=
  match pingId with
  | none => pool.resolveByLeadId n leadIdStr
  | some pid =>
    match pool.fetchOptional n (leadOfPing pid) with
    | .ok (some u) => (some u, n + 1)
    | _ => pool.resolveByLeadId (n + 1) leadIdStr

def resolveLeadUuid (n : ℕ) (requestUuid : Uuid) (pingId leadIdStr : Option String) :
    Option Uuid × ℕ :=
  match pool.fetchOptional n (uuidOfUuid requestUuid) with
  | .ok (some u) => (some u, n + 1)
  | _ => pool.resolveByPing (n + 1) pingId leadIdStr

/-- `actual_lead_id`: what the map has, or else the database. -/
def actualLeadId (m : UuidMap) (n : ℕ) (t : BuyerResponseTask) : Option Uuid × ℕ :=
  match m.lookup t.leadId with
  | some u => (some u, n)
  | none => pool.resolveLeadUuid n t.leadId t.pingId t.leadIdStr

end Pool

/-! ### The batch -/

def row (t : BuyerResponseTask) (l : Uuid) : BuyerResponseRow :=
  ⟨l, t.campaignId, t.pingId, t.postId, t.buyerId, t.payload⟩

/-- An insertion that was executed: the number of the statement, the position of its response in
the batch, whether it was in the second pass, the row, and what the database said. -/
structure Insert where
  statement : ℕ
  index : ℕ
  isRetry : Bool
  row : BuyerResponseRow
  result : Except String Unit

def Insert.succeeded (x : Insert) : Bool := x.result matches .ok ()

/-- How a response ends. -/
inductive Fate where
  | inserted
  | failed
  deriving DecidableEq

/-- The variables of the function, with what it has done: `inserts`, what became of which response,
and how many milliseconds it slept each time.  A batch has ten tasks at most, so that the
counters do not overflow. -/
structure State where
  statement : ℕ
  successCount : ℕ
  errorCount : ℕ
  retryNeeded : List (BuyerResponseTask × ℕ)
  inserts : List Insert
  ended : List (ℕ × Fate)
  slept : List ℕ

namespace State

def start : State := ⟨0, 0, 0, [], [], [], []⟩

def sleep (ms : ℕ) (s : State) : State := { s with slept := s.slept ++ [ms] }

/-- `success_count += 1`, for the response at position `i`. -/
def succeed (i : ℕ) (s : State) : State :=
  { s with successCount := s.successCount + 1, ended := s.ended ++ [(i, .inserted)] }

/-- `error_count += 1`. -/
def fail (i : ℕ) (s : State) : State :=
  { s with errorCount := s.errorCount + 1, ended := s.ended ++ [(i, .failed)] }

def retryLater (r : BuyerResponseTask × ℕ) (s : State) : State :=
  { s with retryNeeded := s.retryNeeded ++ [r] }

/-- The insertion of response `r` under lead `l`. -/
def execute (pool : Pool) (isRetry : Bool) (r : BuyerResponseTask × ℕ) (l : Uuid) (s : State) :
    State :=
  { s with
    statement := s.statement + 1
    inserts := s.inserts ++
      [⟨s.statement, r.2, isRetry, row r.1 l, pool.insertResponse s.statement l⟩] }

end State

variable (pool : Pool) (m : UuidMap)

/-- A response in the first pass. -/
def firstAttempt (s : State) (r : BuyerResponseTask × ℕ) : State :=
  match pool.actualLeadId m s.statement r.1 with
  | (none, n) => { s with statement := n }.retryLater r
  | (some l, n) =>
    let s := { s with statement := n }
    match pool.insertResponse n l with
    | .ok () => (s.execute pool false r l).succeed r.2
    | .error e =>
      if containsText e leadFkey then (s.execute pool false r l).retryLater r
      else (s.execute pool false r l).fail r.2

/-- `while retry_count < 3 && !inserted`. -/
def retryInsert (r : BuyerResponseTask × ℕ) (l : Uuid) (retryCount : ℕ) (s : State) : State :=
  if retryCount < 3 then
    match pool.insertResponse s.statement l with
    | .ok () => (s.execute pool true r l).succeed r.2
    | .error _ =>
      retryInsert r l (retryCount + 1)
        (if retryCount + 1 < 3 then (s.execute pool true r l).sleep (200 * 2 ^ retryCount)
          else (s.execute pool true r l).fail r.2)
  else s
termination_by 3 - retryCount

/-- A response in the second pass. -/
def secondAttempt (s : State) (r : BuyerResponseTask × ℕ) : State :=
  match pool.actualLeadId m s.statement r.1 with
  | (none, n) => { s with statement := n }.fail r.2
  | (some l, n) => retryInsert pool r l 0 { s with statement := n }

def firstPass (responses : List BuyerResponseTask) : State :=
  responses.zipIdx.foldl (firstAttempt pool m)
    (if m.isEmpty then State.start.sleep 250 else State.start)

/-- `batch_insert_buyer_responses`, which always returns `Ok(())`. -/
def batchInsertBuyerResponses (responses : List BuyerResponseTask) : State :=
  if responses.isEmpty then .start
  else
    let s := firstPass pool m responses
    if s.retryNeeded.isEmpty then s
    else s.retryNeeded.foldl (secondAttempt pool m) (s.sleep 100)

/-- How a batch ends: at once, after the first pass, or after the second. -/
theorem batchInsertBuyerResponses_cases (responses : List BuyerResponseTask) :
    (responses = [] ∧ batchInsertBuyerResponses pool m responses = .start) ∨
      ((firstPass pool m responses).retryNeeded = [] ∧
        batchInsertBuyerResponses pool m responses = firstPass pool m responses) ∨
      batchInsertBuyerResponses pool m responses =
        (firstPass pool m responses).retryNeeded.foldl (secondAttempt pool m)
          ((firstPass pool m responses).sleep 100) := by
  rw [batchInsertBuyerResponses]
  split
  · next hempty => exact Or.inl ⟨List.isEmpty_iff.mp hempty, rfl⟩
  · dsimp only
    split
    · next hnone => exact Or.inr (Or.inl ⟨List.isEmpty_iff.mp hnone, rfl⟩)
    · exact Or.inr (Or.inr rfl)

/-! ### Where a lead comes from -/

/-- The tables lead a response to lead `l`: by the uuid of its request, by its `ping_id`, or by its
`lead_id`. -/
def Found (db : Db) (t : BuyerResponseTask) (l : Uuid) : Prop :=
  (l = t.leadId ∧ db.hasLead l = true) ∨
    (∃ p ∈ db.pings, t.pingId = some p.pingId ∧ p.leadId = l) ∨
    ∃ r ∈ db.leads.rows, r.leadId.isSome = true ∧ r.leadId = t.leadIdStr ∧ r.uuid = l

/-- The map gives `l` for a response, or a query has found it before statement `n`. -/
def Known (t : BuyerResponseTask) (n : ℕ) (l : Uuid) : Prop :=
  m.lookup t.leadId = some l ∨
    m.lookup t.leadId = none ∧ ∃ k < n, pool.fault k = none ∧ Found (pool.tables k) t l

variable {pool m}

theorem Known.mono {t : BuyerResponseTask} {n n' : ℕ} {l : Uuid} (h : Known pool m t n l)
    (hn : n ≤ n') : Known pool m t n' l := by
  obtain h | ⟨hnone, k, hk, hfound⟩ := h
  · exact Or.inl h
  · exact Or.inr ⟨hnone, k, hk.trans_le hn, hfound⟩

theorem fetchOptional_eq_ok_iff {n : ℕ} {query : Db → Option Uuid} {u : Option Uuid} :
    pool.fetchOptional n query = .ok u ↔ pool.fault n = none ∧ query (pool.tables n) = u := by
  rw [Pool.fetchOptional]
  cases pool.fault n <;> simp

theorem found_of_uuidOfUuid {db : Db} {t : BuyerResponseTask} {l : Uuid}
    (h : uuidOfUuid t.leadId db = some l) : Found db t l := by
  rw [uuidOfUuid] at h
  split at h
  · next hlead =>
    obtain rfl := Option.some_inj.mp h
    exact Or.inl ⟨rfl, hlead⟩
  · cases h

theorem found_of_leadOfPing {db : Db} {t : BuyerResponseTask} {pid : String} {l : Uuid}
    (ht : t.pingId = some pid) (h : leadOfPing pid db = some l) : Found db t l := by
  obtain ⟨p, hp, hl⟩ := Option.map_eq_some_iff.mp h
  have hpid : p.pingId = pid := by simpa using List.find?_some hp
  exact Or.inr (Or.inl ⟨p, List.mem_of_find?_eq_some hp, by rw [ht, hpid], hl⟩)

theorem found_of_uuidOfLeadId {db : Db} {t : BuyerResponseTask} {lid : String} {l : Uuid}
    (ht : t.leadIdStr = some lid) (h : uuidOfLeadId lid db = some l) : Found db t l := by
  obtain ⟨r, hr, hl⟩ := Option.map_eq_some_iff.mp h
  obtain ⟨hmem, hid⟩ := Table.select_mem hr
  have hid : r.leadId = some lid := of_decide_eq_true hid
  exact Or.inr (Or.inr ⟨r, hmem, by rw [hid]; rfl, by rw [hid, ht], hl⟩)

/-- What a search from statement `n` on gives for response `t`. -/
def Search (pool : Pool) (t : BuyerResponseTask) (n : ℕ) (r : Option Uuid × ℕ) : Prop :=
  n ≤ r.2 ∧ ∀ l, r.1 = some l → ∃ k < r.2, pool.fault k = none ∧ Found (pool.tables k) t l

/-- A query is the last one if it finds a lead; otherwise the search goes on. -/
theorem Search.query {t : BuyerResponseTask} {n : ℕ} {query : Db → Option Uuid}
    {next : Option Uuid × ℕ} (hquery : ∀ db l, query db = some l → Found db t l)
    (hnext : Search pool t (n + 1) next) :
    Search pool t n
      (match pool.fetchOptional n query with
        | .ok (some u) => (some u, n + 1)
        | _ => next) := by
  split
  · next u hok =>
    obtain ⟨hfault, hu⟩ := fetchOptional_eq_ok_iff.mp hok
    refine ⟨Nat.le_succ n, ?_⟩
    intro l hl
    obtain rfl := Option.some_inj.mp hl
    exact ⟨n, Nat.lt_succ_self n, hfault, hquery _ _ hu⟩
  · exact ⟨(Nat.le_succ n).trans hnext.1, hnext.2⟩

theorem search_nothing (t : BuyerResponseTask) (n : ℕ) : Search pool t n (none, n) :=
  ⟨le_rfl, nofun⟩

theorem search_resolveByLeadId (t : BuyerResponseTask) (n : ℕ) :
    Search pool t n (pool.resolveByLeadId n t.leadIdStr) := by
  rw [Pool.resolveByLeadId]
  cases hid : t.leadIdStr.filter (· ≠ "") with
  | none => exact search_nothing t n
  | some lid =>
    have ht : t.leadIdStr = some lid := (Option.filter_eq_some_iff.mp hid).1
    exact Search.query (fun _ _ => found_of_uuidOfLeadId ht) (search_nothing t (n + 1))

theorem search_resolveByPing (t : BuyerResponseTask) (n : ℕ) :
    Search pool t n (pool.resolveByPing n t.pingId t.leadIdStr) := by
  cases ht : t.pingId with
  | none => exact search_resolveByLeadId t n
  | some pid => exact Search.query (fun _ _ => found_of_leadOfPing ht) (search_resolveByLeadId t _)

theorem search_resolveLeadUuid (t : BuyerResponseTask) (n : ℕ) :
    Search pool t n (pool.resolveLeadUuid n t.leadId t.pingId t.leadIdStr) :=
  Search.query (fun _ _ => found_of_uuidOfUuid) (search_resolveByPing t _)

/-- The lead of a response comes from the map or from the database. -/
theorem known_of_actualLeadId {t : BuyerResponseTask} {n n' : ℕ} {l : Uuid}
    (h : pool.actualLeadId m n t = (some l, n')) : Known pool m t n' l := by
  rw [Pool.actualLeadId] at h
  cases hm : m.lookup t.leadId with
  | some u =>
    rw [hm] at h
    cases h
    exact Or.inl hm
  | none =>
    rw [hm] at h
    have hsearch : Search pool t n (some l, n') := h ▸ search_resolveLeadUuid t n
    exact Or.inr ⟨hm, hsearch.2 l rfl⟩

/-! ### What has been counted -/

/-- An insertion is for a response of the batch, under a lead that was known for it. -/
def Sourced (pool : Pool) (m : UuidMap) (responses : List BuyerResponseTask) (x : Insert) : Prop :=
  ∃ t l, responses[x.index]? = some t ∧ x.row = row t l ∧ Known pool m t x.statement l

/-- The counters and the record of the insertions, when the responses of `todo` have not ended. -/
structure Accounted (pool : Pool) (m : UuidMap) (responses : List BuyerResponseTask)
    (todo : List (BuyerResponseTask × ℕ)) (s : State) : Prop where
  /-- Each response has ended once or is still to be done. -/
  ends : (s.ended.map Prod.fst ++ todo.map Prod.snd).Perm (List.range responses.length)
  todo_mem : ∀ r ∈ todo, responses[r.2]? = some r.1
  successCount_eq : s.successCount = s.ended.countP (·.2 = .inserted)
  errorCount_eq : s.errorCount = s.ended.countP (·.2 = .failed)
  /-- One insertion has succeeded for each response that has ended so, and for no other. -/
  inserted_eq : (s.inserts.filter Insert.succeeded).map Insert.index =
    (s.ended.filter (·.2 = .inserted)).map Prod.fst
  sourced : ∀ x ∈ s.inserts, Sourced pool m responses x

namespace Accounted

variable {responses : List BuyerResponseTask} {todo todo' : List (BuyerResponseTask × ℕ)}
  {s : State} {r : BuyerResponseTask × ℕ} {l : Uuid} {isRetry : Bool}

/-- The other variables do not matter. -/
theorem congr {s' : State} (h : Accounted pool m responses todo s)
    (hsuccess : s'.successCount = s.successCount) (herror : s'.errorCount = s.errorCount)
    (hinserts : s'.inserts = s.inserts) (hended : s'.ended = s.ended) :
    Accounted pool m responses todo s' where
  ends := hended ▸ h.ends
  todo_mem := h.todo_mem
  successCount_eq := by rw [hsuccess, hended, h.successCount_eq]
  errorCount_eq := by rw [herror, hended, h.errorCount_eq]
  inserted_eq := by rw [hinserts, hended, h.inserted_eq]
  sourced := hinserts ▸ h.sourced

theorem perm (h : Accounted pool m responses todo s) (htodo : todo.Perm todo') :
    Accounted pool m responses todo' s :=
  { h with
    ends := ((htodo.map Prod.snd).symm.append_left _).trans h.ends
    todo_mem := fun r hr => h.todo_mem r (htodo.mem_iff.mpr hr) }

/-- A response that ends is counted, and no longer to be done. -/
theorem perm_ended (h : Accounted pool m responses (r :: todo) s) (f : Fate) :
    ((s.ended ++ [(r.2, f)]).map Prod.fst ++ todo.map Prod.snd).Perm
      (List.range responses.length) := by
  have heq : (s.ended ++ [(r.2, f)]).map Prod.fst ++ todo.map Prod.snd =
      s.ended.map Prod.fst ++ (r :: todo).map Prod.snd := by simp
  rw [heq]
  exact h.ends

theorem fail (h : Accounted pool m responses (r :: todo) s) :
    Accounted pool m responses todo (s.fail r.2) where
  ends := h.perm_ended .failed
  todo_mem := fun r' hr' => h.todo_mem r' (List.mem_cons_of_mem _ hr')
  successCount_eq := by simp [State.fail, h.successCount_eq]
  errorCount_eq := by simp [State.fail, h.errorCount_eq]
  inserted_eq := by simp [State.fail, h.inserted_eq]
  sourced := h.sourced

theorem sourced_execute (h : Accounted pool m responses (r :: todo) s)
    (hl : Known pool m r.1 s.statement l) :
    ∀ x ∈ (s.execute pool isRetry r l).inserts, Sourced pool m responses x := by
  intro x hx
  rw [State.execute, List.mem_append, List.mem_singleton] at hx
  obtain hx | rfl := hx
  · exact h.sourced x hx
  · exact ⟨r.1, l, h.todo_mem r List.mem_cons_self, rfl, hl⟩

/-- An insertion that fails changes no count. -/
theorem execute_error (isRetry : Bool) (h : Accounted pool m responses (r :: todo) s)
    (hl : Known pool m r.1 s.statement l) {e : String}
    (hinsert : pool.insertResponse s.statement l = .error e) :
    Accounted pool m responses (r :: todo) (s.execute pool isRetry r l) :=
  { h with
    inserted_eq := by
      rw [State.execute, List.filter_append, hinsert]
      simp [Insert.succeeded, ← h.inserted_eq]
    sourced := h.sourced_execute hl }

/-- One that succeeds ends its response. -/
theorem execute_ok (h : Accounted pool m responses (r :: todo) s)
    (hl : Known pool m r.1 s.statement l) (hinsert : pool.insertResponse s.statement l = .ok ()) :
    Accounted pool m responses todo ((s.execute pool isRetry r l).succeed r.2) where
  ends := h.perm_ended .inserted
  todo_mem := fun r' hr' => h.todo_mem r' (List.mem_cons_of_mem _ hr')
  successCount_eq := by simp [State.succeed, State.execute, h.successCount_eq]
  errorCount_eq := by simp [State.succeed, State.execute, h.errorCount_eq]
  inserted_eq := by
    rw [State.succeed, State.execute, List.filter_append, List.filter_append, hinsert,
      List.map_append, List.map_append, h.inserted_eq]
    rfl
  sourced := h.sourced_execute hl

/-! ### The two passes -/

/-- The first pass ends a response or puts it aside. -/
theorem firstAttempt (h : Accounted pool m responses (r :: (s.retryNeeded ++ todo)) s) :
    Accounted pool m responses ((firstAttempt pool m s r).retryNeeded ++ todo)
      (firstAttempt pool m s r) := by
  have hlater : (r :: (s.retryNeeded ++ todo)).Perm ((s.retryNeeded ++ [r]) ++ todo) := by
    rw [List.append_assoc]
    exact List.perm_middle.symm
  rw [ResponseBatch.firstAttempt]
  split
  · exact (h.perm hlater).congr rfl rfl rfl rfl
  · next l n hactual =>
    have hl := known_of_actualLeadId hactual
    have hnow : Accounted pool m responses (r :: (s.retryNeeded ++ todo))
        { s with statement := n } := h.congr rfl rfl rfl rfl
    dsimp only
    split
    · next hok => exact hnow.execute_ok hl hok
    · next e herror =>
      have hdone := hnow.execute_error false hl herror
      split
      · exact (hdone.perm hlater).congr rfl rfl rfl rfl
      · exact hdone.fail

theorem firstAttempts (h : Accounted pool m responses (s.retryNeeded ++ todo) s) :
    Accounted pool m responses (todo.foldl (ResponseBatch.firstAttempt pool m) s).retryNeeded
      (todo.foldl (ResponseBatch.firstAttempt pool m) s) := by
  induction todo generalizing s with
  | nil => simpa using h
  | cons r todo ih => exact ih (h.perm List.perm_middle).firstAttempt

/-- The loop goes on until its response ends. -/
theorem retryInsert {s : State} {retryCount : ℕ} (hcount : retryCount < 3)
    (h : Accounted pool m responses (r :: todo) s) (hl : Known pool m r.1 s.statement l) :
    Accounted pool m responses todo (retryInsert pool r l retryCount s) := by
  rw [ResponseBatch.retryInsert, if_pos hcount]
  split
  · next hok => exact h.execute_ok hl hok
  · next e herror =>
    have hdone := h.execute_error true hl herror
    split
    · next hnext =>
      exact retryInsert hnext (hdone.congr rfl rfl rfl rfl) (hl.mono (Nat.le_succ _))
    · next hlast =>
      rw [ResponseBatch.retryInsert, if_neg hlast]
      exact hdone.fail
termination_by 3 - retryCount

theorem secondAttempt (h : Accounted pool m responses (r :: todo) s) :
    Accounted pool m responses todo (secondAttempt pool m s r) := by
  have hnow : ∀ n, Accounted pool m responses (r :: todo) { s with statement := n } :=
    fun n => h.congr rfl rfl rfl rfl
  rw [ResponseBatch.secondAttempt]
  split
  · next n _ => exact (hnow n).fail
  · next l n hactual => exact (hnow n).retryInsert (by omega) (known_of_actualLeadId hactual)

theorem secondAttempts (h : Accounted pool m responses todo s) :
    Accounted pool m responses [] (todo.foldl (ResponseBatch.secondAttempt pool m) s) := by
  induction todo generalizing s with
  | nil => exact h
  | cons r todo ih => exact ih h.secondAttempt

end Accounted

theorem accounted_start (responses : List BuyerResponseTask) :
    Accounted pool m responses responses.zipIdx .start where
  ends := by
    show (responses.zipIdx.map Prod.snd).Perm _
    rw [List.zipIdx_map_snd, ← List.range_eq_range']
  todo_mem := by
    rintro ⟨t, i⟩ hr
    exact List.mem_zipIdx_iff_getElem?.mp hr
  successCount_eq := rfl
  errorCount_eq := rfl
  inserted_eq := rfl
  sourced := nofun

theorem accounted_firstPass (responses : List BuyerResponseTask) :
    Accounted pool m responses (firstPass pool m responses).retryNeeded
      (firstPass pool m responses) := by
  rw [firstPass]
  split
  · exact Accounted.firstAttempts ((accounted_start responses).congr rfl rfl rfl rfl)
  · exact Accounted.firstAttempts (accounted_start responses)

theorem accounted (responses : List BuyerResponseTask) :
    Accounted pool m responses [] (batchInsertBuyerResponses pool m responses) := by
  have hfirst : Accounted pool m responses _ _ := accounted_firstPass responses
  obtain ⟨rfl, heq⟩ | ⟨hnone, heq⟩ | heq :=
    batchInsertBuyerResponses_cases pool m responses
  · rw [heq]
    exact accounted_start []
  · rw [heq]
    rwa [hnone] at hfirst
  · rw [heq]
    exact Accounted.secondAttempts (hfirst.congr rfl rfl rfl rfl)

/-! ### How often a response is tried -/

/-- The first pass keeps what each of its attempts keeps. -/
theorem firstAttempts_keep {β : Type} {f : State → β}
    (hf : ∀ s r, f (firstAttempt pool m s r) = f s) (todo : List (BuyerResponseTask × ℕ))
    (s : State) : f (todo.foldl (firstAttempt pool m) s) = f s := by
  induction todo generalizing s with
  | nil => rfl
  | cons r todo ih => exact (ih _).trans (hf s r)

/-- The insertions of the second pass for the response at position `i`. -/
def State.retries (i : ℕ) (s : State) : ℕ := s.inserts.countP fun x => x.isRetry ∧ x.index = i

theorem retries_execute (isRetry : Bool) (r : BuyerResponseTask × ℕ) (l : Uuid) (i : ℕ)
    (s : State) :
    (s.execute pool isRetry r l).retries i =
      s.retries i + if isRetry = true ∧ r.2 = i then 1 else 0 := by
  rw [State.retries, State.execute, List.countP_append, List.countP_singleton]
  simp only [decide_eq_true_eq]
  rfl

/-- The first pass tries nothing again. -/
theorem retries_firstAttempt (i : ℕ) (s : State) (r : BuyerResponseTask × ℕ) :
    (firstAttempt pool m s r).retries i = s.retries i := by
  rw [firstAttempt]
  split
  · rfl
  · next l n _ =>
    have hexecute : (({ s with statement := n } : State).execute pool false r l).retries i =
        s.retries i := by
      rw [retries_execute]
      rfl
    dsimp only
    split
    · exact hexecute
    · split
      · exact hexecute
      · exact hexecute

theorem retries_firstPass (i : ℕ) (responses : List BuyerResponseTask) :
    (firstPass pool m responses).retries i = 0 := by
  rw [firstPass, firstAttempts_keep (retries_firstAttempt i)]
  split <;> rfl

theorem retries_retryInsert (i : ℕ) (r : BuyerResponseTask × ℕ) (l : Uuid) (retryCount : ℕ)
    (s : State) :
    (retryInsert pool r l retryCount s).retries i ≤
      s.retries i + if r.2 = i then 3 - retryCount else 0 := by
  rw [retryInsert]
  split
  · -- the next attempt counts as one retry
    next hcount =>
    have hexecute : (s.execute pool true r l).retries i =
        s.retries i + if r.2 = i then 1 else 0 := by
      rw [retries_execute]
      simp
    split
    · refine hexecute.le.trans ?_
      split <;> omega
    · refine (retries_retryInsert i r l (retryCount + 1) _).trans ?_
      have hnext : (if retryCount + 1 < 3 then
          (s.execute pool true r l).sleep (200 * 2 ^ retryCount)
          else (s.execute pool true r l).fail r.2).retries i =
            (s.execute pool true r l).retries i := by
        split <;> rfl
      rw [hnext, hexecute]
      split <;> omega
  · exact Nat.le_add_right _ _
termination_by 3 - retryCount

theorem retries_secondAttempt (i : ℕ) (s : State) (r : BuyerResponseTask × ℕ) :
    (secondAttempt pool m s r).retries i ≤ s.retries i + if r.2 = i then 3 else 0 := by
  rw [secondAttempt]
  split
  · exact Nat.le_add_right _ _
  · next l n _ => exact retries_retryInsert i r l 0 { s with statement := n }

theorem retries_secondAttempts (i : ℕ) (todo : List (BuyerResponseTask × ℕ)) (s : State) :
    (todo.foldl (secondAttempt pool m) s).retries i ≤
      s.retries i + 3 * (todo.map Prod.snd).count i := by
  induction todo generalizing s with
  | nil => exact Nat.le_add_right _ _
  | cons r todo ih =>
    have hr : (secondAttempt pool m s r).retries i ≤ _ := retries_secondAttempt i s r
    have hrest := ih (secondAttempt pool m s r)
    rw [List.foldl_cons, List.map_cons, List.count_cons]
    by_cases hi : r.2 = i
    · rw [if_pos hi] at hr
      rw [if_pos (beq_iff_eq.mpr hi)]
      omega
    · rw [if_neg hi] at hr
      rw [if_neg (fun h => hi (beq_iff_eq.mp h))]
      omega

/-- A response is tried again three times at most. -/
theorem retries_le (i : ℕ) (responses : List BuyerResponseTask) :
    (batchInsertBuyerResponses pool m responses).retries i ≤ 3 := by
  obtain ⟨-, heq⟩ | ⟨-, heq⟩ | heq := batchInsertBuyerResponses_cases pool m responses
  · rw [heq]
    exact Nat.zero_le 3
  · rw [heq, retries_firstPass]
    exact Nat.zero_le 3
  · have hpass : (List.foldl (secondAttempt pool m) _ _).retries i ≤ _ :=
      retries_secondAttempts i (firstPass pool m responses).retryNeeded
        ((firstPass pool m responses).sleep 100)
    have hstart : ((firstPass pool m responses).sleep 100).retries i = 0 :=
      retries_firstPass i responses
    -- a response is put aside once
    have hnodup : ((firstPass pool m responses).retryNeeded.map Prod.snd).Nodup :=
      ((accounted_firstPass responses).ends.nodup_iff.mpr List.nodup_range).of_append_right
    have hcount := List.nodup_iff_count_le_one.mp hnodup i
    rw [heq]
    omega

/-! ### The accounting -/

/-- What a batch leaves when it returns. -/
structure Settled (pool : Pool) (m : UuidMap) (responses : List BuyerResponseTask) (s : State) :
    Prop where
  /-- At most one insertion of a response succeeds. -/
  succeeded_le : ∀ i, (s.inserts.countP fun x => x.index = i ∧ x.succeeded) ≤ 1
  /-- Each response ends once, as inserted or as failed. -/
  ended_perm : (s.ended.map Prod.fst).Perm (List.range responses.length)
  inserted_iff : ∀ i, (i, Fate.inserted) ∈ s.ended ↔ ∃ x ∈ s.inserts, x.index = i ∧ x.succeeded
  successCount_eq : s.successCount = s.ended.countP (·.2 = .inserted)
  errorCount_eq : s.errorCount = s.ended.countP (·.2 = .failed)
  counts_add : s.successCount + s.errorCount = responses.length
  retries_le : ∀ i, s.retries i ≤ 3
  sourced : ∀ x ∈ s.inserts, Sourced pool m responses x

/-- Nothing ends in a third way. -/
theorem countP_inserted_add_countP_failed (ended : List (ℕ × Fate)) :
    ended.countP (·.2 = .inserted) + ended.countP (·.2 = .failed) = ended.length := by
  induction ended with
  | nil => rfl
  | cons e ended ih =>
    obtain ⟨i, f⟩ := e
    rw [List.countP_cons, List.countP_cons, List.length_cons, ← ih]
    cases f with
    | inserted =>
      show _ + 1 + (_ + 0) = _
      omega
    | failed => exact (Nat.add_assoc _ _ _).symm

namespace Accounted

variable {responses : List BuyerResponseTask} {s : State}

theorem ended_perm (h : Accounted pool m responses [] s) :
    (s.ended.map Prod.fst).Perm (List.range responses.length) := by
  simpa using h.ends

theorem succeeded_le (h : Accounted pool m responses [] s) (i : ℕ) :
    (s.inserts.countP fun x => x.index = i ∧ x.succeeded) ≤ 1 := by
  have hsub : ((s.ended.filter (·.2 = .inserted)).map Prod.fst).Nodup :=
    (h.ended_perm.nodup_iff.mpr List.nodup_range).sublist (List.filter_sublist.map Prod.fst)
  rw [← h.inserted_eq] at hsub
  have hcount := List.nodup_iff_count_le_one.mp hsub i
  rw [List.count_eq_countP, List.countP_map, List.countP_filter] at hcount
  refine le_trans (List.countP_mono_left ?_) hcount
  intro x _ hx
  simpa using hx

theorem inserted_iff (h : Accounted pool m responses [] s) (i : ℕ) :
    (i, Fate.inserted) ∈ s.ended ↔ ∃ x ∈ s.inserts, x.index = i ∧ x.succeeded := by
  have hmem : (i, Fate.inserted) ∈ s.ended ↔
      i ∈ (s.ended.filter (·.2 = .inserted)).map Prod.fst := by simp
  rw [hmem, ← h.inserted_eq, List.mem_map]
  constructor
  · rintro ⟨x, hx, hi⟩
    obtain ⟨hx, hok⟩ := List.mem_filter.mp hx
    exact ⟨x, hx, hi, hok⟩
  · rintro ⟨x, hx, hi, hok⟩
    exact ⟨x, List.mem_filter.mpr ⟨hx, hok⟩, hi⟩

theorem counts_add (h : Accounted pool m responses [] s) :
    s.successCount + s.errorCount = responses.length := by
  have hlength := h.ended_perm.length_eq
  rw [List.length_map, List.length_range] at hlength
  rw [h.successCount_eq, h.errorCount_eq, countP_inserted_add_countP_failed, hlength]

end Accounted

/-- **Accounting.**  Whatever fails and whatever others write meanwhile, each response of a batch is
inserted once or counted as failed once, after three retries at most, and it is inserted under a
lead that the map or the database gives for it. -/
theorem settled_batchInsertBuyerResponses (pool : Pool) (m : UuidMap)
    (responses : List BuyerResponseTask) :
    Settled pool m responses (batchInsertBuyerResponses pool m responses) :=
  have h := accounted responses
  { succeeded_le := h.succeeded_le
    ended_perm := h.ended_perm
    inserted_iff := h.inserted_iff
    successCount_eq := h.successCount_eq
    errorCount_eq := h.errorCount_eq
    counts_add := h.counts_add
    retries_le := fun i => retries_le i responses
    sourced := h.sourced }

/-! ### How long a batch sleeps -/

theorem slept_firstAttempt (s : State) (r : BuyerResponseTask × ℕ) :
    (firstAttempt pool m s r).slept = s.slept := by
  rw [firstAttempt]
  split
  · rfl
  · dsimp only
    split
    · rfl
    · split <;> rfl

theorem slept_firstPass (responses : List BuyerResponseTask) :
    (firstPass pool m responses).slept.sum ≤ 250 := by
  rw [firstPass, firstAttempts_keep slept_firstAttempt]
  split
  · exact le_rfl
  · exact Nat.zero_le _

/-- The delays double, and there is none after the last insertion. -/
theorem slept_retryInsert (r : BuyerResponseTask × ℕ) (l : Uuid) (retryCount : ℕ) (s : State) :
    (retryInsert pool r l retryCount s).slept.sum ≤ s.slept.sum + 200 * (4 - 2 ^ retryCount) := by
  rw [retryInsert]
  split
  · next hcount =>
    have hcount : retryCount = 0 ∨ retryCount = 1 ∨ retryCount = 2 := by omega
    split
    · exact Nat.le_add_right _ _
    · refine (slept_retryInsert r l (retryCount + 1) _).trans ?_
      split
      · show (s.slept ++ [200 * 2 ^ retryCount]).sum + _ ≤ _
        rw [List.sum_append, List.sum_singleton]
        obtain rfl | rfl | rfl := hcount <;> omega
      · show s.slept.sum + _ ≤ _
        obtain rfl | rfl | rfl := hcount <;> omega
  · exact Nat.le_add_right _ _
termination_by 3 - retryCount

theorem slept_secondAttempt (s : State) (r : BuyerResponseTask × ℕ) :
    (secondAttempt pool m s r).slept.sum ≤ s.slept.sum + 600 := by
  rw [secondAttempt]
  split
  · exact Nat.le_add_right _ _
  · next l n _ => exact slept_retryInsert r l 0 { s with statement := n }

theorem slept_secondAttempts (todo : List (BuyerResponseTask × ℕ)) (s : State) :
    (todo.foldl (secondAttempt pool m) s).slept.sum ≤ s.slept.sum + 600 * todo.length := by
  induction todo generalizing s with
  | nil => exact Nat.le_add_right _ _
  | cons r todo ih =>
    have hr : (secondAttempt pool m s r).slept.sum ≤ _ := slept_secondAttempt s r
    have hrest := ih (secondAttempt pool m s r)
    rw [List.foldl_cons, List.length_cons]
    omega

/-- The queue waits for a batch, which sleeps six tenths of a second for each response at most. -/
theorem sum_slept_le (responses : List BuyerResponseTask) :
    (batchInsertBuyerResponses pool m responses).slept.sum ≤ 350 + 600 * responses.length := by
  have hfirst : (firstPass pool m responses).slept.sum ≤ 250 := slept_firstPass responses
  obtain ⟨-, heq⟩ | ⟨-, heq⟩ | heq := batchInsertBuyerResponses_cases pool m responses
  · rw [heq]
    exact Nat.zero_le _
  · rw [heq]
    omega
  · have hpass : (List.foldl (secondAttempt pool m) _ _).slept.sum ≤ _ :=
      slept_secondAttempts (firstPass pool m responses).retryNeeded
        ((firstPass pool m responses).sleep 100)
    have hstart : ((firstPass pool m responses).sleep 100).slept.sum =
        (firstPass pool m responses).slept.sum + 100 := by
      rw [State.sleep, List.sum_append, List.sum_singleton]
    have hends : (firstPass pool m responses).ended.length +
        (firstPass pool m responses).retryNeeded.length = responses.length := by
      have hfirst : Accounted pool m responses _ _ := accounted_firstPass responses
      simpa using hfirst.ends.length_eq
    rw [heq]
    omega

/-! ### A batch that nothing disturbs -/

/-- No statement fails for a reason of its own, and nobody else writes leads or pings. -/
structure Quiet (pool : Pool) (db : Db) : Prop where
  fault : ∀ n, pool.fault n = none
  leads : ∀ n, (pool.tables n).leads = db.leads
  pings : ∀ n, (pool.tables n).pings = db.pings

/-- The rows that the batch inserted. -/
def State.rows (s : State) : List BuyerResponseRow :=
  (s.inserts.filter Insert.succeeded).map Insert.row

/-- The lead of a response, if it is in the database. -/
def target (db : Db) (m : UuidMap) (t : BuyerResponseTask) : Option Uuid :=
  ((m.lookup t.leadId).or (db.resolveLeadUuid t.leadId t.pingId t.leadIdStr)).filter
    fun l => db.hasLead l

theorem insertBuyerResponse_rows (db : Db) (m : UuidMap) (t : BuyerResponseTask) :
    (db.insertBuyerResponse m t).1.buyerResponses =
      db.buyerResponses ++ ((target db m t).map (row t)).toList := by
  rw [Db.insertBuyerResponse, target]
  cases (m.lookup t.leadId).or (db.resolveLeadUuid t.leadId t.pingId t.leadIdStr) with
  | none => simp
  | some l =>
    by_cases hl : db.hasLead l = true
    · simp [hl, row, Option.filter]
    · simp [hl, Option.filter]

theorem target_congr {db db' : Db} (hleads : db'.leads = db.leads) (hpings : db'.pings = db.pings)
    (m : UuidMap) (t : BuyerResponseTask) : target db' m t = target db m t := by
  simp only [target, Db.resolveLeadUuid, Db.hasLead, hleads, hpings]
  rfl

/-- The rows that `applyTasks` writes for the responses. -/
theorem applyTasks_rows (env : FlushEnv) (m : UuidMap) (responses : List BuyerResponseTask)
    (db : Db) :
    (db.applyTasks env m (responses.map .buyerResponse)).1.buyerResponses =
      db.buyerResponses ++ responses.flatMap fun t => ((target db m t).map (row t)).toList := by
  induction responses generalizing db with
  | nil => simp [Db.applyTasks]
  | cons t responses ih =>
    obtain ⟨hleads, hpings⟩ := Db.applyTask_leads env m db (.buyerResponse t)
    rw [List.map_cons, Db.applyTasks, ih, List.flatMap_cons, ← List.append_assoc]
    have hsame : ∀ t', target (db.applyTask env m (.buyerResponse t)).1 m t' = target db m t' :=
      fun t' => target_congr hleads hpings m t'
    simp only [hsame]
    exact congrArg (· ++ _) (insertBuyerResponse_rows db m t)

theorem containsText_append (before s after : String) :
    containsText (before ++ s ++ after) s = true := by
  rw [containsText, decide_eq_true_iff, String.toList_append, String.toList_append]
  exact ⟨before.toList, after.toList, rfl⟩

theorem containsText_leadFkeyError : containsText leadFkeyError leadFkey = true :=
  containsText_append _ leadFkey _

namespace Quiet

variable {db : Db} (h : Quiet pool db)
include h

theorem fetchOptional_eq (n : ℕ) (query : Db → Option Uuid) :
    pool.fetchOptional n query = .ok (query (pool.tables n)) :=
  fetchOptional_eq_ok_iff.mpr ⟨h.fault n, rfl⟩

theorem insertResponse_eq (n : ℕ) (l : Uuid) :
    pool.insertResponse n l = if db.hasLead l then .ok () else .error leadFkeyError := by
  rw [Pool.insertResponse, h.fault n, Db.hasLead, h.leads n]
  rfl

theorem resolveByLeadId_eq (n : ℕ) (leadIdStr : Option String) :
    (pool.resolveByLeadId n leadIdStr).1 =
      (leadIdStr.filter (fun lid => lid ≠ "")).bind fun lid => uuidOfLeadId lid db := by
  rw [Pool.resolveByLeadId]
  cases leadIdStr.filter (· ≠ "") with
  | none => rfl
  | some lid =>
    have hquery : uuidOfLeadId lid (pool.tables n) = uuidOfLeadId lid db := by
      rw [uuidOfLeadId, h.leads n]
      rfl
    simp only [h.fetchOptional_eq, hquery, Option.bind_some]
    cases uuidOfLeadId lid db <;> rfl

theorem resolveLeadUuid_eq (n : ℕ) (t : BuyerResponseTask) :
    (pool.resolveLeadUuid n t.leadId t.pingId t.leadIdStr).1 =
      db.resolveLeadUuid t.leadId t.pingId t.leadIdStr := by
  rw [Pool.resolveLeadUuid, Db.resolveLeadUuid, h.fetchOptional_eq, uuidOfUuid, Db.hasLead,
    h.leads n]
  show _ = if db.hasLead t.leadId = true then _ else _
  by_cases hlead : db.hasLead t.leadId = true
  · rw [if_pos hlead, if_pos (show (db.leads.find t.leadId).isSome = true from hlead)]
  · rw [if_neg hlead, if_neg (show ¬ (db.leads.find t.leadId).isSome = true from hlead)]
    cases t.pingId with
    | none => exact h.resolveByLeadId_eq _ _
    | some pid =>
      simp only [Pool.resolveByPing, h.fetchOptional_eq, leadOfPing, h.pings, Option.bind_some]
      cases db.pings.find? (·.pingId = pid) with
      | none => exact h.resolveByLeadId_eq _ _
      | some p => rfl

/-- What the batch finds, if the lead is there. -/
theorem target_eq (n : ℕ) (t : BuyerResponseTask) :
    target db m t = (pool.actualLeadId m n t).1.filter fun l => db.hasLead l := by
  rw [target, Pool.actualLeadId]
  cases m.lookup t.leadId with
  | none =>
    rw [Option.none_or, ← h.resolveLeadUuid_eq n t]
  | some u => rfl

theorem execute_rows (isRetry : Bool) (r : BuyerResponseTask × ℕ) (l : Uuid) (s : State) :
    (s.execute pool isRetry r l).rows =
      s.rows ++ if db.hasLead l then [row r.1 l] else [] := by
  rw [State.rows, State.execute, List.filter_append, List.map_append, h.insertResponse_eq]
  by_cases hl : db.hasLead l = true
  · rw [if_pos hl, if_pos hl]
    rfl
  · rw [if_neg hl, if_neg hl]
    rfl

/-- The first pass inserts each response whose lead is there, and puts the others aside. -/
theorem firstAttempt_eq (s : State) (r : BuyerResponseTask × ℕ) :
    (firstAttempt pool m s r).rows = s.rows ++ ((target db m r.1).map (row r.1)).toList ∧
      (firstAttempt pool m s r).retryNeeded =
        s.retryNeeded ++ if target db m r.1 = none then [r] else [] := by
  rw [h.target_eq s.statement, firstAttempt]
  obtain ⟨l?, n⟩ := pool.actualLeadId m s.statement r.1
  cases l? with
  | none => exact ⟨(List.append_nil _).symm, rfl⟩
  | some l =>
    have hrows := h.execute_rows false r l { s with statement := n }
    simp only [h.insertResponse_eq]
    by_cases hl : db.hasLead l = true
    · have htarget : (some l).filter (fun l => db.hasLead l) = some l := by
        simp [Option.filter, hl]
      simp only [if_pos hl, htarget]
      rw [if_pos hl] at hrows
      exact ⟨hrows, (List.append_nil _).symm⟩
    · have htarget : (some l).filter (fun l => db.hasLead l) = none := by
        simp [Option.filter, hl]
      simp only [if_neg hl, containsText_leadFkeyError, if_true, htarget]
      rw [if_neg hl] at hrows
      exact ⟨hrows, rfl⟩

theorem retryInsert_rows {l : Uuid} (hl : ¬ db.hasLead l = true) (r : BuyerResponseTask × ℕ)
    (retryCount : ℕ) (s : State) : (retryInsert pool r l retryCount s).rows = s.rows := by
  rw [retryInsert]
  split
  · rw [h.insertResponse_eq, if_neg hl]
    have hrows := h.execute_rows true r l s
    rw [if_neg hl, List.append_nil] at hrows
    refine (retryInsert_rows hl r (retryCount + 1) _).trans ?_
    split
    · exact hrows
    · exact hrows
  · rfl
termination_by 3 - retryCount

/-- A response whose lead is not there is tried in vain. -/
theorem secondAttempt_rows {r : BuyerResponseTask × ℕ} (hr : target db m r.1 = none) (s : State) :
    (secondAttempt pool m s r).rows = s.rows := by
  rw [h.target_eq s.statement] at hr
  rw [secondAttempt]
  generalize pool.actualLeadId m s.statement r.1 = found at hr
  obtain ⟨l?, n⟩ := found
  cases l? with
  | none => rfl
  | some l =>
    have hl : ¬ db.hasLead l = true := by
      intro hl
      simp [Option.filter, hl] at hr
    exact h.retryInsert_rows hl r 0 { s with statement := n }

theorem firstAttempts_eq (todo : List (BuyerResponseTask × ℕ)) (s : State)
    (hs : ∀ r ∈ s.retryNeeded, target db m r.1 = none) :
    (todo.foldl (firstAttempt pool m) s).rows =
        s.rows ++ todo.flatMap (fun r => ((target db m r.1).map (row r.1)).toList) ∧
      ∀ r ∈ (todo.foldl (firstAttempt pool m) s).retryNeeded, target db m r.1 = none := by
  induction todo generalizing s with
  | nil => exact ⟨(List.append_nil _).symm, hs⟩
  | cons r todo ih =>
    obtain ⟨hrows, hretry⟩ : (firstAttempt pool m s r).rows = _ ∧ _ := h.firstAttempt_eq s r
    have hnext : ∀ r' ∈ (firstAttempt pool m s r).retryNeeded, target db m r'.1 = none := by
      intro r' hr'
      rw [hretry, List.mem_append] at hr'
      obtain hr' | hr' := hr'
      · exact hs r' hr'
      · split at hr'
        · next hnone => rwa [List.mem_singleton.mp hr']
        · cases hr'
    obtain ⟨hrest, hlast⟩ := ih (firstAttempt pool m s r) hnext
    refine ⟨?_, hlast⟩
    rw [List.foldl_cons, hrest, hrows, List.flatMap_cons, List.append_assoc]

theorem secondAttempts_rows (todo : List (BuyerResponseTask × ℕ)) (s : State)
    (htodo : ∀ r ∈ todo, target db m r.1 = none) :
    (todo.foldl (secondAttempt pool m) s).rows = s.rows := by
  induction todo generalizing s with
  | nil => rfl
  | cons r todo ih =>
    rw [List.forall_mem_cons] at htodo
    exact (ih _ htodo.2).trans (h.secondAttempt_rows htodo.1 s)

theorem rows_eq (responses : List BuyerResponseTask) :
    (batchInsertBuyerResponses pool m responses).rows =
      responses.flatMap fun t => ((target db m t).map (row t)).toList := by
  have hfirst : (firstPass pool m responses).rows =
        responses.zipIdx.flatMap (fun r => ((target db m r.1).map (row r.1)).toList) ∧
      ∀ r ∈ (firstPass pool m responses).retryNeeded, target db m r.1 = none := by
    rw [firstPass]
    split
    · exact h.firstAttempts_eq _ _ nofun
    · exact h.firstAttempts_eq _ _ nofun
  have hzip : responses.zipIdx.flatMap (fun r => ((target db m r.1).map (row r.1)).toList) =
      responses.flatMap fun t => ((target db m t).map (row t)).toList := by
    conv_rhs => rw [← List.zipIdx_map_fst 0 responses, List.flatMap_map]
  rw [← hzip]
  obtain ⟨rfl, heq⟩ | ⟨-, heq⟩ | heq :=
    batchInsertBuyerResponses_cases pool m responses
  · rw [heq]
    rfl
  · rw [heq]
    exact hfirst.1
  · rw [heq]
    exact (h.secondAttempts_rows _ _ hfirst.2).trans hfirst.1

end Quiet

/-- A batch that nothing disturbs inserts the rows that `applyTasks` writes for its responses. -/
theorem buyerResponses_quiet {db : Db} (h : Quiet pool db) (env : FlushEnv)
    (responses : List BuyerResponseTask) :
    (db.applyTasks env m (responses.map .buyerResponse)).1.buyerResponses =
      db.buyerResponses ++ (batchInsertBuyerResponses pool m responses).rows := by
  rw [applyTasks_rows, h.rows_eq]

end LeadsNebula.ResponseBatch
