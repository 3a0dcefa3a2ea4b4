/-
The running service: requests, the write-behind queue and the `leads` table.

A state holds the table, the queue, the statements of the batch being flushed,
the statements of spawned tasks, the requests in progress (`Thread`s) and the
cache of looked-up leads.  An `Action` is one atomic step of one of them: a
request reads, claims, routes, or does its next effect; the batcher takes a
batch or runs its next statement; a spawned task runs.  Whatever the outside
decides (buyers, clocks, random identifiers, whether a statement succeeds) is
data of the action, so every interleaving is a list of actions, and a run is
`Transition.run step`.

Fresh identifiers are new: `submit` asks for a `uuid`, and `claim` for a token,
that was not used before.

* `step_cases` — all that a step can do (`Step`);
* `step_exec` — the table changes by the statement that the action runs
  (`Sys.executed`);
* `pending_of_executed` — that statement was pending, or is a claim;
* `step_pending` — a pending statement was pending before, or comes from the
  effects of the request that is submitted or routed.
-/
import LeadsNebula.CreateLead
import LeadsNebula.Transition

namespace LeadsNebula

/-- A post that has claimed a lead: the copy of the lead it has read, and its token. -/
structure ClaimedPost where
  req : LeadRequest
  lead : Lead
  token : String

/-- How far a request has come. -/
inductive Stage where
  /-- A ping or a fullpost that has been routed. -/
  | submitted (req : LeadRequest) (new : NewLead) (result : Except String RoutingResult)
  /-- A post that has yet to look up its lead. -/
  | arrived (req : LeadRequest) (promiseId : String)
  /-- A post that has read its lead. -/
  | found (req : LeadRequest) (promiseId : String) (lead : Lead)
  | claimed (post : ClaimedPost)
  | routed (post : ClaimedPost) (result : Except String RoutingResult)
  /-- A post that found no lead or did not get the claim. -/
  | refused

/-- A request and the effects it still has to do. -/
structure Thread where
  stage : Stage
  todo : List Effect

structure Sys where
  now : Timestamp
  leads : Leads
  queue : List BackgroundTask
  flushing : List LeadStatement
  spawned : List LeadStatement
  threads : List Thread
  /-- Cached leads by promise. -/
  cache : List (String × Lead)
  uuids : List Uuid
  tokens : List String
  /-- The statements that changed a row that was there, the latest first. -/
  history : List LeadStatement

/-- Where a post finds its lead. -/
inductive Source where
  | cache
  | promise (l : Uuid) (store : Bool)
  | leadId (l : Uuid)

inductive Action where
  | tick (ms : ℕ)
  | submit (req : LeadRequest) (new : NewLead) (env : RouteEnv) (timing : AuctionTiming)
  | arrive (req : LeadRequest)
  | read (i : ℕ) (source : Source)
  /-- A lookup that finds nothing or fails. -/
  | refuse (i : ℕ)
  | claim (i : ℕ) (id : Uuid) (ok : Bool)
  | route (i : ℕ) (env : RouteEnv) (timing : AuctionTiming)
  | effect (i : ℕ) (ok : Bool)
  | take (n : ℕ)
  | apply (ok : Bool)
  | spawned (k : ℕ) (ok : Bool)
  | evict (promiseId : String)

/-- The statement that the action runs, if it runs one, succeeds. -/
def Action.succeeds : Action → Bool
  | .claim _ _ ok => ok
  | .effect _ ok => ok
  | .apply ok => ok
  | .spawned _ ok => ok
  | _ => true

namespace Sys

def init : Sys where
  now := 0
  leads := Table.empty
  queue := []
  flushing := []
  spawned := []
  threads := []
  cache := []
  uuids := []
  tokens := []
  history := []

/-- Runs a statement, if it succeeds. -/
def exec (s : Sys) (st : LeadStatement) (ok : Bool) : Sys :=
  if ok then
    { s with
      leads := st.exec s.now s.leads
      history := if st.affects s.now s.leads then st :: s.history else s.history }
  else s

def setThread (s : Sys) (i : ℕ) (th : Thread) : Sys := { s with threads := s.threads.set i th }

def addThread (s : Sys) (th : Thread) : Sys := { s with threads := s.threads ++ [th] }

/-- The lead that a post reads.  The fallback by `lead_id` is only taken when no row has the
promise. -/
def read (s : Sys) (req : LeadRequest) (promiseId : String) : Source → Option Lead
  | .cache => s.cache.lookup promiseId
  | .promise l _ =>
    if (s.cache.lookup promiseId).isNone then
      (s.leads.find l).filter fun r => r.promiseId = some promiseId
    else none
  | .leadId l =>
    if (s.cache.lookup promiseId).isNone ∧
        s.leads.rows.all fun r => r.promiseId ≠ some promiseId then
      (s.leads.find l).filter fun r => r.leadId = req.data.leadId ∧ req.data.leadId ≠ some ""
    else none

/-- Keeps a lead that was read by its promise in the cache. -/
def store (s : Sys) (promiseId : String) (lead : Lead) : Source → Sys
  | .promise _ true => { s with cache := (promiseId, lead) :: s.cache }
  | _ => s

end Sys

/-- The size of a full batch. -/
def maxBatch : ℕ := 10

open Sys

variable [StdText]

def step (s : Sys) : Action → Option Sys
  | .tick ms => some { s with now := s.now + ms }
  | .submit req new env timing =>
    if req.requestType ≠ .post ∧ missingRequiredLeadField req.data req.requestType = none ∧
        new.uuid ∉ s.uuids then
      some ({ s with uuids := new.uuid :: s.uuids }.addThread
        ⟨.submitted req new ((req.router new s.now).route env).result,
          req.createEffects new s.now env timing⟩)
    else none
  | .arrive req =>
    if req.requestType = .post ∧ missingRequiredLeadField req.data .post = none then
      req.data.promiseId.map fun promiseId => s.addThread ⟨.arrived req promiseId, []⟩
    else none
  | .read i source =>
    match s.threads[i]? with
    | some ⟨.arrived req promiseId, todo⟩ =>
      (s.read req promiseId source).map fun lead =>
        (s.store promiseId lead source).setThread i ⟨.found req promiseId lead, todo⟩
    | _ => none
  | .refuse i =>
    match s.threads[i]? with
    | some ⟨.arrived _ _, todo⟩ => some (s.setThread i ⟨.refused, todo⟩)
    | _ => none
  | .claim i id ok =>
    let token := LeadRequest.inprogToken id
    match s.threads[i]? with
    | some ⟨.found req promiseId lead, todo⟩ =>
      if token ∈ s.tokens then none
      else
        let st := LeadStatement.claim lead.uuid promiseId token
        let s' := { s with tokens := token :: s.tokens }
        if ok && st.affects s.now s.leads then
          some ((s'.setThread i ⟨.claimed ⟨req, lead, token⟩, todo⟩).exec st true)
        else some (s'.setThread i ⟨.refused, todo⟩)
    | _ => none
  | .route i env timing =>
    match s.threads[i]? with
    | some ⟨.claimed p, todo⟩ =>
      some (s.setThread i ⟨.routed p ((p.req.postRouter p.lead).route env).result,
        todo ++ p.req.postEffects p.lead p.token s.now env timing⟩)
    | _ => none
  | .effect i ok =>
    match s.threads[i]? with
    | some ⟨stage, .exec st :: todo⟩ =>
      -- a statement that fails ends the request
      some ((s.setThread i ⟨stage, if ok then todo else []⟩).exec st ok)
    | some ⟨stage, .enqueue t :: todo⟩ =>
      some { s.setThread i ⟨stage, todo⟩ with queue := s.queue ++ [t] }
    | some ⟨stage, .spawn st :: todo⟩ =>
      some { s.setThread i ⟨stage, todo⟩ with spawned := s.spawned ++ [st] }
    | _ => none
  | .take n =>
    if s.flushing.isEmpty ∧ 0 < n ∧ n ≤ maxBatch ∧ n ≤ s.queue.length then
      some { s with flushing := flushBatch (s.queue.take n), queue := s.queue.drop n }
    else none
  | .apply ok =>
    match s.flushing with
    | [] => none
    | st :: rest => some ({ s with flushing := rest }.exec st ok)
  | .spawned k ok =>
    match s.spawned[k]? with
    | none => none
    | some st => some ({ s with spawned := s.spawned.eraseIdx k }.exec st ok)
  | .evict promiseId =>
    some { s with cache := s.cache.filter fun p => p.1 ≠ promiseId }

/-! ### What a step can do -/

/-- The cases of `step`, with their guards. -/
inductive Step : Sys → Action → Sys → Prop
  | tick {s : Sys} {ms : ℕ} : Step s (.tick ms) { s with now := s.now + ms }
  | submit {s : Sys} {req : LeadRequest} {new : NewLead} {env : RouteEnv} {timing : AuctionTiming}
      (htype : req.requestType ≠ .post) (hnew : new.uuid ∉ s.uuids) :
      Step s (.submit req new env timing) ({ s with uuids := new.uuid :: s.uuids }.addThread
        ⟨.submitted req new ((req.router new s.now).route env).result,
          req.createEffects new s.now env timing⟩)
  | arrive {s : Sys} {req : LeadRequest} {promiseId : String} :
      Step s (.arrive req) (s.addThread ⟨.arrived req promiseId, []⟩)
  | read {s : Sys} {i : ℕ} {source : Source} {req : LeadRequest} {promiseId : String}
      {lead : Lead} {todo : List Effect}
      (hi : s.threads[i]? = some ⟨.arrived req promiseId, todo⟩)
      (hread : s.read req promiseId source = some lead) :
      Step s (.read i source)
        ((s.store promiseId lead source).setThread i ⟨.found req promiseId lead, todo⟩)
  | refuse {s : Sys} {i : ℕ} {req : LeadRequest} {promiseId : String} {todo : List Effect}
      (hi : s.threads[i]? = some ⟨.arrived req promiseId, todo⟩) :
      Step s (.refuse i) (s.setThread i ⟨.refused, todo⟩)
  | claimed {s : Sys} {i : ℕ} {id : Uuid} {req : LeadRequest} {promiseId : String} {lead : Lead}
      {todo : List Effect} (hi : s.threads[i]? = some ⟨.found req promiseId lead, todo⟩)
      (hfresh : LeadRequest.inprogToken id ∉ s.tokens)
      (haff : (LeadStatement.claim lead.uuid promiseId (LeadRequest.inprogToken id)).affects
        s.now s.leads = true) :
      Step s (.claim i id true)
        (({ s with tokens := LeadRequest.inprogToken id :: s.tokens }.setThread i
          ⟨.claimed ⟨req, lead, LeadRequest.inprogToken id⟩, todo⟩).exec
          (.claim lead.uuid promiseId (LeadRequest.inprogToken id)) true)
  | unclaimed {s : Sys} {i : ℕ} {id : Uuid} {ok : Bool} {req : LeadRequest} {promiseId : String}
      {lead : Lead} {todo : List Effect}
      (hi : s.threads[i]? = some ⟨.found req promiseId lead, todo⟩)
      (hno : (ok && (LeadStatement.claim lead.uuid promiseId
        (LeadRequest.inprogToken id)).affects s.now s.leads) = false) :
      Step s (.claim i id ok)
        ({ s with tokens := LeadRequest.inprogToken id :: s.tokens }.setThread i ⟨.refused, todo⟩)
  | route {s : Sys} {i : ℕ} {env : RouteEnv} {timing : AuctionTiming} {p : ClaimedPost}
      {todo : List Effect} (hi : s.threads[i]? = some ⟨.claimed p, todo⟩) :
      Step s (.route i env timing)
        (s.setThread i ⟨.routed p ((p.req.postRouter p.lead).route env).result,
          todo ++ p.req.postEffects p.lead p.token s.now env timing⟩)
  | exec {s : Sys} {i : ℕ} {stage : Stage} {st : LeadStatement} {todo : List Effect}
      (hi : s.threads[i]? = some ⟨stage, .exec st :: todo⟩) :
      Step s (.effect i true) ((s.setThread i ⟨stage, todo⟩).exec st true)
  | execFailed {s : Sys} {i : ℕ} {stage : Stage} {st : LeadStatement} {todo : List Effect}
      (hi : s.threads[i]? = some ⟨stage, .exec st :: todo⟩) :
      Step s (.effect i false) (s.setThread i ⟨stage, []⟩)
  | enqueue {s : Sys} {i : ℕ} {ok : Bool} {stage : Stage} {t : BackgroundTask}
      {todo : List Effect} (hi : s.threads[i]? = some ⟨stage, .enqueue t :: todo⟩) :
      Step s (.effect i ok) { s.setThread i ⟨stage, todo⟩ with queue := s.queue ++ [t] }
  | spawn {s : Sys} {i : ℕ} {ok : Bool} {stage : Stage} {st : LeadStatement} {todo : List Effect}
      (hi : s.threads[i]? = some ⟨stage, .spawn st :: todo⟩) :
      Step s (.effect i ok) { s.setThread i ⟨stage, todo⟩ with spawned := s.spawned ++ [st] }
  | take {s : Sys} {n : ℕ} (hidle : s.flushing = []) :
      Step s (.take n)
        { s with flushing := flushBatch (s.queue.take n), queue := s.queue.drop n }
  | apply {s : Sys} {ok : Bool} {st : LeadStatement} {rest : List LeadStatement}
      (hst : s.flushing = st :: rest) :
      Step s (.apply ok) ({ s with flushing := rest }.exec st ok)
  | spawned {s : Sys} {k : ℕ} {ok : Bool} {st : LeadStatement} (hst : s.spawned[k]? = some st) :
      Step s (.spawned k ok) ({ s with spawned := s.spawned.eraseIdx k }.exec st ok)
  | evict {s : Sys} {promiseId : String} :
      Step s (.evict promiseId)
        { s with cache := s.cache.filter fun p => p.1 ≠ promiseId }

theorem step_cases {s s' : Sys} {a : Action} (h : step s a = some s') : Step s a s' := by
  cases a with
  | tick ms =>
    rw [step, Option.some_inj] at h
    exact h ▸ .tick
  | submit req new env timing =>
    rw [step] at h
    split at h
    · next hg => exact Option.some_inj.mp h ▸ .submit hg.1 hg.2.2
    · cases h
  | arrive req =>
    rw [step] at h
    split at h
    · obtain ⟨promiseId, -, rfl⟩ := Option.map_eq_some_iff.mp h
      exact .arrive
    · cases h
  | read i source =>
    rw [step] at h
    split at h
    · next req promiseId todo hi =>
      obtain ⟨lead, hread, rfl⟩ := Option.map_eq_some_iff.mp h
      exact .read hi hread
    · cases h
  | refuse i =>
    rw [step] at h
    split at h
    · next hi => exact Option.some_inj.mp h ▸ .refuse hi
    · cases h
  | claim i id ok =>
    rw [step] at h
    split at h
    · next req promiseId lead todo hi =>
      split at h
      · cases h
      · next hfresh =>
        simp only at h
        split at h
        · -- the claim is won when its statement succeeds and affects the row
          next hc =>
          rw [Bool.and_eq_true] at hc
          obtain ⟨rfl, haff⟩ := hc
          exact Option.some_inj.mp h ▸ .claimed hi hfresh haff
        · next hno =>
          exact Option.some_inj.mp h ▸ .unclaimed hi (Bool.eq_false_iff.mpr hno)
    · cases h
  | route i env timing =>
    rw [step] at h
    split at h
    · next hi => exact Option.some_inj.mp h ▸ .route hi
    · cases h
  | effect i ok =>
    rw [step] at h
    split at h
    · next hi =>
      cases ok with
      | true => exact Option.some_inj.mp h ▸ .exec hi
      | false => exact Option.some_inj.mp h ▸ .execFailed hi
    · next hi => exact Option.some_inj.mp h ▸ .enqueue hi
    · next hi => exact Option.some_inj.mp h ▸ .spawn hi
    · cases h
  | take n =>
    rw [step] at h
    split at h
    · next hg => exact Option.some_inj.mp h ▸ .take (List.isEmpty_iff.mp hg.1)
    · cases h
  | apply ok =>
    rw [step] at h
    split at h
    · cases h
    · next hst => exact Option.some_inj.mp h ▸ .apply hst
  | spawned k ok =>
    rw [step] at h
    split at h
    · cases h
    · next hst => exact Option.some_inj.mp h ▸ .spawned hst
  | evict promiseId =>
    rw [step, Option.some_inj] at h
    exact h ▸ .evict

/-! ### Threads -/

namespace Sys

omit [StdText]

variable {s : Sys} {i j : ℕ} {th th₀ : Thread}

theorem getElem?_setThread (hi : s.threads[i]? = some th₀) :
    (s.setThread i th).threads[j]? = if i = j then some th else s.threads[j]? := by
  have hlt : i < s.threads.length := (List.getElem?_eq_some_iff.mp hi).1
  rw [setThread, List.getElem?_set]
  simp only [hlt, if_true]

theorem getElem?_addThread :
    (s.addThread th).threads[j]? = if j = s.threads.length then some th else s.threads[j]? := by
  rw [addThread]
  by_cases hj : j = s.threads.length
  · subst hj
    rw [if_pos rfl, List.getElem?_concat_length]
  · rw [if_neg hj]
    rcases Nat.lt_or_gt_of_ne hj with hlt | hgt
    · exact List.getElem?_append_left hlt
    · rw [List.getElem?_eq_none (Nat.le_of_lt hgt), List.getElem?_eq_none]
      rw [List.length_append, List.length_singleton]
      omega

theorem mem_setThread {th' : Thread} (h : th' ∈ (s.setThread i th).threads) :
    th' = th ∨ th' ∈ s.threads :=
  (List.mem_or_eq_of_mem_set h).symm

theorem mem_addThread {th' : Thread} :
    th' ∈ (s.addThread th).threads ↔ th' ∈ s.threads ∨ th' = th := by
  rw [addThread, List.mem_append, List.mem_singleton]

@[simp] theorem setThread_leads : (s.setThread i th).leads = s.leads := rfl
@[simp] theorem setThread_queue : (s.setThread i th).queue = s.queue := rfl
@[simp] theorem setThread_flushing : (s.setThread i th).flushing = s.flushing := rfl
@[simp] theorem setThread_spawned : (s.setThread i th).spawned = s.spawned := rfl
@[simp] theorem setThread_tokens : (s.setThread i th).tokens = s.tokens := rfl
@[simp] theorem setThread_history : (s.setThread i th).history = s.history := rfl
@[simp] theorem setThread_cache : (s.setThread i th).cache = s.cache := rfl
@[simp] theorem setThread_uuids : (s.setThread i th).uuids = s.uuids := rfl
@[simp] theorem setThread_now : (s.setThread i th).now = s.now := rfl
@[simp] theorem addThread_leads : (s.addThread th).leads = s.leads := rfl
@[simp] theorem addThread_queue : (s.addThread th).queue = s.queue := rfl
@[simp] theorem addThread_flushing : (s.addThread th).flushing = s.flushing := rfl
@[simp] theorem addThread_spawned : (s.addThread th).spawned = s.spawned := rfl
@[simp] theorem addThread_tokens : (s.addThread th).tokens = s.tokens := rfl
@[simp] theorem addThread_history : (s.addThread th).history = s.history := rfl
@[simp] theorem addThread_cache : (s.addThread th).cache = s.cache := rfl
@[simp] theorem addThread_uuids : (s.addThread th).uuids = s.uuids := rfl

variable {st : LeadStatement} {ok : Bool}

@[simp] theorem exec_queue : (s.exec st ok).queue = s.queue := by cases ok <;> rfl
@[simp] theorem exec_flushing : (s.exec st ok).flushing = s.flushing := by cases ok <;> rfl
@[simp] theorem exec_spawned : (s.exec st ok).spawned = s.spawned := by cases ok <;> rfl
@[simp] theorem exec_threads : (s.exec st ok).threads = s.threads := by cases ok <;> rfl
@[simp] theorem exec_tokens : (s.exec st ok).tokens = s.tokens := by cases ok <;> rfl
@[simp] theorem exec_cache : (s.exec st ok).cache = s.cache := by cases ok <;> rfl
@[simp] theorem exec_uuids : (s.exec st ok).uuids = s.uuids := by cases ok <;> rfl

/-- Storing a lead touches the cache only. -/
theorem store_eq (s : Sys) (promiseId : String) (lead : Lead) (source : Source) :
    ∃ cache, s.store promiseId lead source = { s with cache := cache } ∧
      ∀ p ∈ cache, p ∈ s.cache ∨ p = (promiseId, lead) := by
  rw [store.eq_def]
  split
  · refine ⟨_, rfl, ?_⟩
    intro p hp
    rcases List.mem_cons.mp hp with rfl | hp
    · exact Or.inr rfl
    · exact Or.inl hp
  · exact ⟨s.cache, rfl, fun p hp => Or.inl hp⟩

/-! ### Statements -/

/-- The statement that an action runs with success. -/
def executed (s : Sys) : Action → Option LeadStatement
  | .claim i id true =>
    match s.threads[i]? with
    | some ⟨.found _ promiseId lead, _⟩ =>
      let st := LeadStatement.claim lead.uuid promiseId (LeadRequest.inprogToken id)
      if st.affects s.now s.leads then some st else none
    | _ => none
  | .effect i true =>
    match s.threads[i]? with
    | some ⟨_, .exec st :: _⟩ => some st
    | _ => none
  | .apply true => s.flushing.head?
  | .spawned k true => s.spawned[k]?
  | _ => none

end Sys

/-- The statements that a list of effects leads to before it runs one that meets `stop`. -/
def owed (stop : LeadStatement → Bool) : List Effect → List LeadStatement
  | [] => []
  | .exec st :: es => if stop st then [] else st :: owed stop es
  | e :: es => e.statements ++ owed stop es

/-- A statement that is yet to run: of the current batch, the queue, a spawned task, or a
request in progress; those of a request that come after a statement with `stop` do not count. -/
inductive Sys.PendingUntil (s : Sys) (stop : LeadStatement → Bool) (st : LeadStatement) : Prop
  | flushing (h : st ∈ s.flushing)
  | queued {t : BackgroundTask} (ht : t ∈ s.queue) (h : st ∈ t.statements)
  | spawned (h : st ∈ s.spawned)
  | thread {th : Thread} (hth : th ∈ s.threads) (h : st ∈ owed stop th.todo)

/-- A statement that is yet to run. -/
abbrev Sys.Pending (s : Sys) (st : LeadStatement) : Prop := s.PendingUntil (fun _ => false) st

/-- The effects of the request that an action submits or routes. -/
def Sys.newEffects (s : Sys) : Action → List Effect
  | .submit req new env timing => req.createEffects new s.now env timing
  | .route i env timing =>
    match s.threads[i]? with
    | some ⟨.claimed p, _⟩ => p.req.postEffects p.lead p.token s.now env timing
    | _ => []
  | _ => []

/-- An action runs no statement, and the table and the history stay; or it runs one. -/
theorem step_exec {s s' : Sys} {a : Action} (h : Step s a s') :
    (s.executed a = none ∧ s'.leads = s.leads ∧ s'.history = s.history) ∨
    ∃ st, s.executed a = some st ∧ s'.leads = st.exec s.now s.leads ∧
      s'.history = if st.affects s.now s.leads then st :: s.history else s.history := by
  -- case by case, what the action runs is what `executed` says
  cases h with
  | read hi hread =>
    obtain ⟨cache, hstore, -⟩ := Sys.store_eq s _ _ _
    rw [hstore]
    exact Or.inl ⟨rfl, rfl, rfl⟩
  | claimed hi hfresh haff => exact Or.inr ⟨_, by simp [Sys.executed, hi, haff], rfl, rfl⟩
  | @unclaimed _ _ ok _ _ _ _ hi hno =>
    cases ok with
    | false => exact Or.inl ⟨rfl, rfl, rfl⟩
    | true =>
      rw [Bool.true_and] at hno
      exact Or.inl ⟨by simp [Sys.executed, hi, hno], rfl, rfl⟩
  | exec hi => exact Or.inr ⟨_, by simp [Sys.executed, hi], rfl, rfl⟩
  | @enqueue _ ok _ _ _ hi => cases ok <;> exact Or.inl ⟨by simp [Sys.executed, hi], rfl, rfl⟩
  | @spawn _ ok _ _ _ hi => cases ok <;> exact Or.inl ⟨by simp [Sys.executed, hi], rfl, rfl⟩
  | @apply ok st rest hst =>
    cases ok with
    | false => exact Or.inl ⟨rfl, rfl, rfl⟩
    | true => exact Or.inr ⟨st, by simp [Sys.executed, hst], rfl, rfl⟩
  | @spawned k ok st hst =>
    cases ok with
    | false => exact Or.inl ⟨rfl, rfl, rfl⟩
    | true => exact Or.inr ⟨st, by simp [Sys.executed, hst], rfl, rfl⟩
  | _ => exact Or.inl ⟨rfl, rfl, rfl⟩

/-! ### Where a request comes from -/

/-- How a request of the state after an action comes about: it has done some of its effects (or
nothing), or it is new, or it has come one stage further. -/
inductive Origin (s : Sys) (a : Action) : Thread → Prop
  | effect {stage : Stage} {todo todo' : List Effect} (hth : ⟨stage, todo⟩ ∈ s.threads)
      (hsub : todo' ⊆ todo) : Origin s a ⟨stage, todo'⟩
  | submitted {req : LeadRequest} {new : NewLead} {env : RouteEnv} {timing : AuctionTiming}
      (ha : a = .submit req new env timing) (hnew : new.uuid ∉ s.uuids) :
      Origin s a ⟨.submitted req new ((req.router new s.now).route env).result,
        req.createEffects new s.now env timing⟩
  | arrived {req : LeadRequest} {promiseId : String} : Origin s a ⟨.arrived req promiseId, []⟩
  | found {i : ℕ} {source : Source} {req : LeadRequest} {promiseId : String} {lead : Lead}
      {todo : List Effect} (ha : a = .read i source)
      (hi : s.threads[i]? = some ⟨.arrived req promiseId, todo⟩)
      (hread : s.read req promiseId source = some lead) :
      Origin s a ⟨.found req promiseId lead, todo⟩
  | notFound {req : LeadRequest} {promiseId : String} {todo : List Effect}
      (hth : ⟨.arrived req promiseId, todo⟩ ∈ s.threads) : Origin s a ⟨.refused, todo⟩
  | unclaimed {req : LeadRequest} {promiseId : String} {lead : Lead} {todo : List Effect}
      (hth : ⟨.found req promiseId lead, todo⟩ ∈ s.threads) : Origin s a ⟨.refused, todo⟩
  | claimed {i : ℕ} {id : Uuid} {req : LeadRequest} {promiseId : String} {lead : Lead}
      {todo : List Effect} (ha : a = .claim i id true)
      (hth : ⟨.found req promiseId lead, todo⟩ ∈ s.threads) :
      Origin s a ⟨.claimed ⟨req, lead, LeadRequest.inprogToken id⟩, todo⟩
  | routed {i : ℕ} {env : RouteEnv} {timing : AuctionTiming} {p : ClaimedPost}
      {todo : List Effect} (ha : a = .route i env timing)
      (hi : s.threads[i]? = some ⟨.claimed p, todo⟩) :
      Origin s a ⟨.routed p ((p.req.postRouter p.lead).route env).result,
        todo ++ p.req.postEffects p.lead p.token s.now env timing⟩

theorem step_threads {s s' : Sys} {a : Action} (h : Step s a s') {th : Thread}
    (hth : th ∈ s'.threads) : Origin s a th := by
  -- a request that the step does not touch keeps all its effects
  have hold : ∀ {th : Thread}, th ∈ s.threads → Origin s a th :=
    fun hth => .effect hth (List.Subset.refl _)
  cases h with
  | tick | evict => exact hold hth
  | submit htype hnew =>
    rcases Sys.mem_addThread.mp hth with hth | rfl
    · exact hold hth
    · exact .submitted rfl hnew
  | arrive =>
    rcases Sys.mem_addThread.mp hth with hth | rfl
    · exact hold hth
    · exact .arrived
  | read hi hread =>
    obtain ⟨cache, hstore, -⟩ := Sys.store_eq s _ _ _
    rw [hstore] at hth
    rcases Sys.mem_setThread hth with rfl | hth
    · exact .found rfl hi hread
    · exact hold hth
  | refuse hi =>
    rcases Sys.mem_setThread hth with rfl | hth
    · exact .notFound (List.mem_of_getElem? hi)
    · exact hold hth
  | claimed hi hfresh haff =>
    rw [Sys.exec_threads] at hth
    rcases Sys.mem_setThread hth with rfl | hth
    · exact .claimed rfl (List.mem_of_getElem? hi)
    · exact hold hth
  | unclaimed hi hno =>
    rcases Sys.mem_setThread hth with rfl | hth
    · exact .unclaimed (List.mem_of_getElem? hi)
    · exact hold hth
  | route hi =>
    rcases Sys.mem_setThread hth with rfl | hth
    · exact .routed rfl hi
    · exact hold hth
  | exec hi =>
    rw [Sys.exec_threads] at hth
    rcases Sys.mem_setThread hth with rfl | hth
    · exact .effect (List.mem_of_getElem? hi) (List.subset_cons_self _ _)
    · exact hold hth
  | execFailed hi =>
    rcases Sys.mem_setThread hth with rfl | hth
    · exact .effect (List.mem_of_getElem? hi) (List.nil_subset _)
    · exact hold hth
  | @enqueue i ok stage t todo hi =>
    have hth : th ∈ (s.setThread i ⟨stage, todo⟩).threads := hth
    rcases Sys.mem_setThread hth with rfl | hth
    · exact .effect (List.mem_of_getElem? hi) (List.subset_cons_self _ _)
    · exact hold hth
  | @spawn i ok stage st todo hi =>
    have hth : th ∈ (s.setThread i ⟨stage, todo⟩).threads := hth
    rcases Sys.mem_setThread hth with rfl | hth
    · exact .effect (List.mem_of_getElem? hi) (List.subset_cons_self _ _)
    · exact hold hth
  | take hidle => exact hold hth
  | apply hst =>
    rw [Sys.exec_threads] at hth
    exact hold hth
  | spawned hst =>
    rw [Sys.exec_threads] at hth
    exact hold hth

/-- How a request goes on in a step from `s` to `s'`. -/
inductive Advance (s s' : Sys) (a : Action) (j : ℕ) : Thread → Thread → Prop
  | stay (th : Thread) : Advance s s' a j th th
  | found {req : LeadRequest} {promiseId : String} {lead : Lead} {todo : List Effect} :
      Advance s s' a j ⟨.arrived req promiseId, todo⟩ ⟨.found req promiseId lead, todo⟩
  | notFound {req : LeadRequest} {promiseId : String} {todo : List Effect} :
      Advance s s' a j ⟨.arrived req promiseId, todo⟩ ⟨.refused, todo⟩
  | claimed {req : LeadRequest} {promiseId : String} {lead : Lead} {todo : List Effect}
      {token : String} :
      Advance s s' a j ⟨.found req promiseId lead, todo⟩ ⟨.claimed ⟨req, lead, token⟩, todo⟩
  | unclaimed {req : LeadRequest} {promiseId : String} {lead : Lead} {todo : List Effect} :
      Advance s s' a j ⟨.found req promiseId lead, todo⟩ ⟨.refused, todo⟩
  | routed {env : RouteEnv} {timing : AuctionTiming} {p : ClaimedPost} {todo : List Effect}
      (ha : a = .route j env timing) :
      Advance s s' a j ⟨.claimed p, todo⟩
        ⟨.routed p ((p.req.postRouter p.lead).route env).result,
          todo ++ p.req.postEffects p.lead p.token s.now env timing⟩
  | exec {stage : Stage} {st : LeadStatement} {todo : List Effect} (ha : a = .effect j true) :
      Advance s s' a j ⟨stage, .exec st :: todo⟩ ⟨stage, todo⟩
  | failed {stage : Stage} {st : LeadStatement} {todo : List Effect} (ha : a = .effect j false) :
      Advance s s' a j ⟨stage, .exec st :: todo⟩ ⟨stage, []⟩
  | enqueued {stage : Stage} {t : BackgroundTask} {todo : List Effect}
      (hq : s'.queue = s.queue ++ [t]) :
      Advance s s' a j ⟨stage, .enqueue t :: todo⟩ ⟨stage, todo⟩
  | spawned {stage : Stage} {st : LeadStatement} {todo : List Effect}
      (hs : s'.spawned = s.spawned ++ [st]) :
      Advance s s' a j ⟨stage, .spawn st :: todo⟩ ⟨stage, todo⟩

omit [StdText] in
theorem getElem?_setThread_cases {s : Sys} {i j : ℕ} {th th₀ th' : Thread}
    (hi : s.threads[i]? = some th₀) (hj : s.threads[j]? = some th) :
    (s.setThread i th').threads[j]? = some th ∨
      i = j ∧ th = th₀ ∧ (s.setThread i th').threads[j]? = some th' := by
  rw [Sys.getElem?_setThread hi]
  by_cases hij : i = j
  · subst hij
    rw [hi, Option.some_inj] at hj
    exact Or.inr ⟨rfl, hj.symm, if_pos rfl⟩
  · rw [if_neg hij]
    exact Or.inl hj

theorem step_advance {s s' : Sys} {a : Action} (h : Step s a s') {j : ℕ} {th : Thread}
    (hj : s.threads[j]? = some th) : ∃ th', s'.threads[j]? = some th' ∧
      Advance s s' a j th th' := by
  -- a request that the step does not touch
  have hadd : ∀ {th₀ : Thread}, (s.addThread th₀).threads[j]? = some th := by
    intro th₀
    have hlt : j < s.threads.length := (List.getElem?_eq_some_iff.mp hj).1
    rw [Sys.getElem?_addThread, if_neg (Nat.ne_of_lt hlt)]
    exact hj
  cases h with
  | tick | evict => exact ⟨th, hj, .stay th⟩
  | submit htype hnew => exact ⟨th, hadd, .stay th⟩
  | arrive => exact ⟨th, hadd, .stay th⟩
  | read hi hread =>
    obtain ⟨cache, hstore, -⟩ := Sys.store_eq s _ _ _
    rw [hstore]
    rcases getElem?_setThread_cases hi hj with h | ⟨rfl, rfl, h⟩
    · exact ⟨th, h, .stay th⟩
    · exact ⟨_, h, .found⟩
  | refuse hi =>
    rcases getElem?_setThread_cases hi hj with h | ⟨rfl, rfl, h⟩
    · exact ⟨th, h, .stay th⟩
    · exact ⟨_, h, .notFound⟩
  | claimed hi hfresh haff =>
    rw [Sys.exec_threads]
    rcases getElem?_setThread_cases hi hj with h | ⟨rfl, rfl, h⟩
    · exact ⟨th, h, .stay th⟩
    · exact ⟨_, h, .claimed⟩
  | unclaimed hi hno =>
    rcases getElem?_setThread_cases hi hj with h | ⟨rfl, rfl, h⟩
    · exact ⟨th, h, .stay th⟩
    · exact ⟨_, h, .unclaimed⟩
  | route hi =>
    rcases getElem?_setThread_cases hi hj with h | ⟨rfl, rfl, h⟩
    · exact ⟨th, h, .stay th⟩
    · exact ⟨_, h, .routed rfl⟩
  | exec hi =>
    rw [Sys.exec_threads]
    rcases getElem?_setThread_cases hi hj with h | ⟨rfl, rfl, h⟩
    · exact ⟨th, h, .stay th⟩
    · exact ⟨_, h, .exec rfl⟩
  | execFailed hi =>
    rcases getElem?_setThread_cases hi hj with h | ⟨rfl, rfl, h⟩
    · exact ⟨th, h, .stay th⟩
    · exact ⟨_, h, .failed rfl⟩
  | enqueue hi =>
    rcases getElem?_setThread_cases hi hj with h | ⟨rfl, rfl, h⟩
    · exact ⟨th, h, .stay th⟩
    · exact ⟨_, h, .enqueued rfl⟩
  | spawn hi =>
    rcases getElem?_setThread_cases hi hj with h | ⟨rfl, rfl, h⟩
    · exact ⟨th, h, .stay th⟩
    · exact ⟨_, h, .spawned rfl⟩
  | take hidle => exact ⟨th, hj, .stay th⟩
  | apply hst =>
    rw [Sys.exec_threads]
    exact ⟨th, hj, .stay th⟩
  | spawned hst =>
    rw [Sys.exec_threads]
    exact ⟨th, hj, .stay th⟩

/-! ### The queue and the current batch -/

/-- The queue grows by the task of a request, or loses the tasks of the next batch. -/
theorem step_queue {s s' : Sys} {a : Action} (h : Step s a s') :
    (∃ ts, s'.queue = s.queue ++ ts) ∨
      ∃ n, a = .take n ∧ s.flushing = [] ∧ s'.queue = s.queue.drop n ∧
        s'.flushing = flushBatch (s.queue.take n) := by
  have hsame : ∀ {s'' : Sys}, s''.queue = s.queue → ∃ ts, s''.queue = s.queue ++ ts :=
    fun h => ⟨[], by rw [h, List.append_nil]⟩
  cases h with
  | read hi hread =>
    obtain ⟨cache, hstore, -⟩ := Sys.store_eq s _ _ _
    rw [hstore]
    exact Or.inl (hsame rfl)
  | enqueue hi => exact Or.inl ⟨_, rfl⟩
  | take hidle => exact Or.inr ⟨_, rfl, hidle, rfl, rfl⟩
  | claimed | exec | apply | spawned => exact Or.inl (hsame Sys.exec_queue)
  | _ => exact Or.inl (hsame rfl)

/-- The current batch stays, or is taken from the queue, or loses the statement it runs. -/
theorem step_flushing {s s' : Sys} {a : Action} (h : Step s a s') :
    s'.flushing = s.flushing ∨ s.flushing = [] ∨
      ∃ ok st, a = .apply ok ∧ s.flushing = st :: s'.flushing := by
  cases h with
  | read hi hread =>
    obtain ⟨cache, hstore, -⟩ := Sys.store_eq s _ _ _
    rw [hstore]
    exact Or.inl rfl
  | take hidle => exact Or.inr (Or.inl hidle)
  | @apply ok st rest hst =>
    refine Or.inr (Or.inr ⟨ok, st, rfl, ?_⟩)
    rw [Sys.exec_flushing]
    exact hst
  | claimed | exec | spawned => exact Or.inl Sys.exec_flushing
  | _ => exact Or.inl rfl

/-! ### Pending statements -/

section Owed

omit [StdText]

variable {stop : LeadStatement → Bool} {st : LeadStatement}

theorem owed_append {es es' : List Effect} (h : st ∈ owed stop (es ++ es')) :
    st ∈ owed stop es ∨ st ∈ owed stop es' := by
  induction es with
  | nil => exact Or.inr h
  | cons e es ih =>
    cases e with
    | exec st₀ =>
      rw [List.cons_append, owed] at h
      rw [owed]
      by_cases hstop : stop st₀ = true
      · rw [if_pos hstop] at h
        cases h
      · rw [if_neg hstop] at h ⊢
        rcases List.mem_cons.mp h with rfl | h
        · exact Or.inl List.mem_cons_self
        · exact (ih h).imp_left (List.mem_cons_of_mem _)
    | enqueue t =>
      rcases List.mem_append.mp h with h | h
      · exact Or.inl (List.mem_append_left _ h)
      · exact (ih h).imp_left (List.mem_append_right _)
    | spawn st₀ =>
      rcases List.mem_append.mp h with h | h
      · exact Or.inl (List.mem_append_left _ h)
      · exact (ih h).imp_left (List.mem_append_right _)

theorem mem_owed_never {es : List Effect} :
    st ∈ owed (fun _ => false) es ↔ ∃ e ∈ es, st ∈ e.statements := by
  induction es with
  | nil => simp [owed]
  | cons e es ih =>
    have hcons : st ∈ owed (fun _ => false) (e :: es) ↔
        st ∈ e.statements ∨ st ∈ owed (fun _ => false) es := by
      cases e <;> simp [owed, Effect.statements]
    rw [hcons, ih]
    simp

theorem mem_statements_of_owed {es : List Effect} (h : st ∈ owed stop es) :
    ∃ e ∈ es, st ∈ e.statements := by
  induction es with
  | nil => cases h
  | cons e es ih =>
    have hcons : st ∈ e.statements ∨ st ∈ owed stop es := by
      cases e with
      | exec st₀ =>
        rw [owed] at h
        split at h
        · cases h
        · exact (List.mem_cons.mp h).imp_left List.mem_singleton.mpr
      | enqueue t => exact List.mem_append.mp h
      | spawn st₀ => exact List.mem_append.mp h
    rcases hcons with h | h
    · exact ⟨e, List.mem_cons_self, h⟩
    · obtain ⟨e', he', h⟩ := ih h
      exact ⟨e', List.mem_cons_of_mem _ he', h⟩

variable {s s' : Sys}

theorem pending_of_pendingUntil (h : s.PendingUntil stop st) : s.Pending st := by
  cases h with
  | flushing h => exact .flushing h
  | queued ht h => exact .queued ht h
  | spawned h => exact .spawned h
  | thread hth h => exact .thread hth (mem_owed_never.mpr (mem_statements_of_owed h))

/-- What an action runs was pending, or is a claim, or meets `stop`. -/
theorem pending_of_executed {a : Action} (h : s.executed a = some st) :
    s.PendingUntil stop st ∨ stop st = true ∨
      (∃ i id, a = .claim i id true) ∧ ∃ l promiseId token, st = .claim l promiseId token := by
  rw [Sys.executed.eq_def] at h
  split at h
  · -- the claim of a post
    split at h
    · simp only at h
      split at h
      · exact Or.inr (Or.inr ⟨⟨_, _, rfl⟩, _, _, _, (Option.some_inj.mp h).symm⟩)
      · cases h
    · cases h
  · split at h
    · next stage st₀ todo hi =>
      rw [Option.some_inj] at h
      subst h
      -- the next statement of a request
      by_cases hstop : stop st₀ = true
      · exact Or.inr (Or.inl hstop)
      · refine Or.inl (.thread (List.mem_of_getElem? hi) ?_)
        rw [owed, if_neg hstop]
        exact List.mem_cons_self
    · cases h
  · exact Or.inl (.flushing (List.mem_of_head? h))
  · exact Or.inl (.spawned (List.mem_of_getElem? h))
  · cases h

/-- Where the queue, the flush and the spawned statements are the same, what is pending was
pending before or is owed by a request. -/
theorem pending_or_owed (h : s'.PendingUntil stop st)
    (hf : s'.flushing = s.flushing) (hq : s'.queue = s.queue) (hs : s'.spawned = s.spawned) :
    s.PendingUntil stop st ∨ ∃ th ∈ s'.threads, st ∈ owed stop th.todo := by
  cases h with
  | flushing h => exact Or.inl (.flushing (hf ▸ h))
  | queued ht h => exact Or.inl (.queued (hq ▸ ht) h)
  | spawned h => exact Or.inl (.spawned (hs ▸ h))
  | thread hth h => exact Or.inr ⟨_, hth, h⟩

/-- The pending statements depend on four fields only. -/
theorem pending_congr (h : s'.PendingUntil stop st)
    (hf : s'.flushing = s.flushing) (hq : s'.queue = s.queue) (hs : s'.spawned = s.spawned)
    (ht : s'.threads = s.threads) : s.PendingUntil stop st := by
  rcases pending_or_owed h hf hq hs with h | ⟨th, hth, h⟩
  · exact h
  · exact .thread (ht ▸ hth) h

theorem pending_of_exec {st' : LeadStatement} {ok : Bool}
    (h : (s.exec st' ok).PendingUntil stop st) : s.PendingUntil stop st :=
  pending_congr h Sys.exec_flushing Sys.exec_queue Sys.exec_spawned Sys.exec_threads

/-- With a request changed, its own effects may become pending. -/
theorem pending_of_setThread {i : ℕ} {th : Thread} (h : (s.setThread i th).PendingUntil stop st) :
    s.PendingUntil stop st ∨ st ∈ owed stop th.todo := by
  rcases pending_or_owed (s := s) h rfl rfl rfl with h | ⟨th', hth, howed⟩
  · exact Or.inl h
  · rcases Sys.mem_setThread hth with rfl | hmem
    · exact Or.inr howed
    · exact Or.inl (.thread hmem howed)

/-- A request that owes no more than before makes nothing pending. -/
theorem pending_of_setThread_subset {i : ℕ} {th₀ th : Thread}
    (h : (s.setThread i th).PendingUntil stop st) (hi : s.threads[i]? = some th₀)
    (hsub : st ∈ owed stop th.todo → st ∈ owed stop th₀.todo) : s.PendingUntil stop st := by
  rcases pending_of_setThread h with h | h
  · exact h
  · exact .thread (List.mem_of_getElem? hi) (hsub h)

/-- With a new request, its own effects become pending. -/
theorem pending_of_addThread {th : Thread} (h : (s.addThread th).PendingUntil stop st) :
    s.PendingUntil stop st ∨ st ∈ owed stop th.todo := by
  rcases pending_or_owed (s := s) h rfl rfl rfl with h | ⟨th', hth, howed⟩
  · exact Or.inl h
  · rcases Sys.mem_addThread.mp hth with hmem | rfl
    · exact Or.inl (.thread hmem howed)
    · exact Or.inr howed

end Owed

/-- A pending statement was pending before, or is new with the action, or comes after a
statement with `stop` that the action runs. -/
theorem step_pendingUntil {s s' : Sys} {a : Action} (h : Step s a s')
    {stop : LeadStatement → Bool} {st : LeadStatement} (hst : s'.PendingUntil stop st) :
    s.PendingUntil stop st ∨ st ∈ owed stop (s.newEffects a) ∨
      ∃ i stage st₀ todo, a = .effect i true ∧
        s.threads[i]? = some ⟨stage, .exec st₀ :: todo⟩ ∧ stop st₀ = true ∧
        st ∈ owed stop todo := by
  cases h with
  | tick | evict => exact Or.inl (pending_congr hst rfl rfl rfl rfl)
  | submit htype hnew =>
    rcases pending_of_addThread hst with hst | hst
    · exact Or.inl (pending_congr hst rfl rfl rfl rfl)
    · exact Or.inr (Or.inl hst)
  | arrive =>
    rcases pending_of_addThread hst with hst | hst
    · exact Or.inl hst
    · cases hst
  | read hi hread =>
    obtain ⟨cache, hstore, -⟩ := Sys.store_eq s _ _ _
    rw [hstore] at hst
    exact Or.inl (pending_congr (pending_of_setThread_subset hst hi id) rfl rfl rfl rfl)
  | refuse hi => exact Or.inl (pending_of_setThread_subset hst hi id)
  | claimed hi hfresh haff =>
    have hst := pending_of_setThread_subset (pending_of_exec hst) hi id
    exact Or.inl (pending_congr hst rfl rfl rfl rfl)
  | unclaimed hi hno =>
    have hst := pending_of_setThread_subset hst hi id
    exact Or.inl (pending_congr hst rfl rfl rfl rfl)
  | route hi =>
    rcases pending_of_setThread hst with hst | hst
    · exact Or.inl hst
    · rcases owed_append hst with hst | hst
      · exact Or.inl (.thread (List.mem_of_getElem? hi) hst)
      · refine Or.inr (Or.inl ?_)
        simp only [Sys.newEffects, hi]
        exact hst
  | @exec i stage st₀ todo hi =>
    rcases pending_of_setThread (pending_of_exec hst) with hst | hst
    · exact Or.inl hst
    · by_cases hstop : stop st₀ = true
      · exact Or.inr (Or.inr ⟨i, stage, st₀, todo, rfl, hi, hstop, hst⟩)
      · refine Or.inl (.thread (List.mem_of_getElem? hi) ?_)
        rw [owed, if_neg hstop]
        exact List.mem_cons_of_mem _ hst
  | execFailed hi =>
    rcases pending_of_setThread hst with hst | hst
    · exact Or.inl hst
    · cases hst
  | @enqueue i ok stage t todo hi =>
    have hthread : (s.setThread i ⟨stage, todo⟩).PendingUntil stop st → s.PendingUntil stop st :=
      fun h => pending_of_setThread_subset h hi (List.mem_append_right _)
    cases hst with
    | flushing h => exact Or.inl (.flushing h)
    | queued ht h =>
      -- the task moves from the request to the queue
      rcases List.mem_append.mp ht with ht | ht
      · exact Or.inl (.queued ht h)
      · rw [List.mem_singleton.mp ht] at h
        exact Or.inl (.thread (List.mem_of_getElem? hi) (List.mem_append_left _ h))
    | spawned h => exact Or.inl (.spawned h)
    | thread hth h => exact Or.inl (hthread (.thread hth h))
  | @spawn i ok stage st₀ todo hi =>
    have hthread : (s.setThread i ⟨stage, todo⟩).PendingUntil stop st → s.PendingUntil stop st :=
      fun h => pending_of_setThread_subset h hi (List.mem_append_right _)
    cases hst with
    | flushing h => exact Or.inl (.flushing h)
    | queued ht h => exact Or.inl (.queued ht h)
    | spawned h =>
      rcases List.mem_append.mp h with h | h
      · exact Or.inl (.spawned h)
      · exact Or.inl (.thread (List.mem_of_getElem? hi) (List.mem_append_left _ h))
    | thread hth h => exact Or.inl (hthread (.thread hth h))
  | take hidle =>
    cases hst with
    | flushing h =>
      obtain ⟨t, ht, h⟩ := mem_flushBatch.mp h
      exact Or.inl (.queued (List.mem_of_mem_take ht) h)
    | queued ht h => exact Or.inl (.queued (List.mem_of_mem_drop ht) h)
    | spawned h => exact Or.inl (.spawned h)
    | thread hth h => exact Or.inl (.thread hth h)
  | apply hst' =>
    cases pending_of_exec hst with
    | flushing h => exact Or.inl (.flushing (hst' ▸ List.mem_cons_of_mem _ h))
    | queued ht h => exact Or.inl (.queued ht h)
    | spawned h => exact Or.inl (.spawned h)
    | thread hth h => exact Or.inl (.thread hth h)
  | spawned hst' =>
    cases pending_of_exec hst with
    | flushing h => exact Or.inl (.flushing h)
    | queued ht h => exact Or.inl (.queued ht h)
    | spawned h => exact Or.inl (.spawned (List.mem_of_mem_eraseIdx h))
    | thread hth h => exact Or.inl (.thread hth h)

/-- A pending statement was pending before, or is new with the action. -/
theorem step_pending {s s' : Sys} {a : Action} (h : Step s a s') {st : LeadStatement}
    (hst : s'.Pending st) : s.Pending st ∨ ∃ e ∈ s.newEffects a, st ∈ e.statements := by
  rcases step_pendingUntil h hst with hst | hst | ⟨_, _, _, _, _, _, hstop, _⟩
  · exact Or.inl hst
  · exact Or.inr (mem_owed_never.mp hst)
  · cases hstop

/-- No request leaves a claim to be run later. -/
theorem pending_not_claim_step {s s' : Sys} {a : Action} (h : Step s a s')
    (hs : ∀ st, s.Pending st → st.isClaim = false) : ∀ st, s'.Pending st → st.isClaim = false := by
  intro st hst
  rcases step_pending h hst with hp | ⟨e, he, hst'⟩
  · exact hs st hp
  · cases h with
    | submit htype hnew => exact (LeadRequest.onLead_createEffects he st hst').2.2
    | route hi =>
      simp only [Sys.newEffects, hi] at he
      exact (LeadRequest.postEffects_statements he hst').2.2
    | _ => cases he

omit [StdText] in
theorem not_pending_init (st : LeadStatement) : ¬ Sys.init.Pending st := by
  intro h
  cases h with
  | flushing h => cases h
  | queued ht h => cases ht
  | spawned h => cases h
  | thread hth h => cases hth

/-! ### A small configuration

One publisher, and one campaign whose buyer is answered by Pulsar.  The examples of the
modules below run on it. -/

namespace Sample

/-- The text functions, on ASCII texts and whole numbers. -/
scoped instance asciiText : StdText where
  toLowercase s := String.ofList (s.toList.map Char.toLower)
  toUppercase s := String.ofList (s.toList.map Char.toUpper)
  f64ToString
    | .nan => "NaN"
    | .negInf => "-inf"
    | .posInf => "inf"
    | .fin q => ToString.toString q

def body (requestType : String) (promiseId : Option String) : LeadData where
  publisherId := some "00000000-0000-0000-0000-000000000001"
  vertical := "solar"
  requestType := some requestType
  campaignToken := none
  promiseId := promiseId
  leadId := none
  source := none
  firstName := some "Ada"
  lastName := some "Byron"
  email := some "ada@example.com"
  cellPhone := some "5551234567"
  streetAddress := some "1 Main St"
  city := some "Springfield"
  state := some "IL"
  zip := some "62701"
  monthlyBill := some (.fin 150)
  creditRating := some "poor"
  ownHome := some false
  propertyType := some "house"
  roofShade := some "full"
  roofType := some "flat"
  utilityProvider := some "Ameren"
  purchaseTimeframe := none
  ipAddress := some "10.0.0.1"
  tcpaConsent := some true
  tcpaLanguage := some "I agree"
  jornayaLeadId := none
  trustedFormUrl := some "https://cert.example.com/1"
  isTest := none
  verbose := none
  userAgent := none

def request (requestType : String) (promiseId : Option String) (asyncMode : Bool) :
    LeadRequest where
  data := body requestType promiseId
  publisherId := 1
  vertical := ⟨2, "solar"⟩
  asyncMode := asyncMode
  headers _ := none

def ping (asyncMode : Bool) : LeadRequest := request "ping" none asyncMode

def fullpost (asyncMode : Bool) : LeadRequest := request "fullpost" none asyncMode

/-- The lead with `uuid` 7. -/
def new : NewLead where
  uuid := 7
  leadIdChars := ['a', 'b', 'c', 'd', '1', '2', '3', '4']
  eventUuid := 8
  sessionUuid := 9
  promiseBytes := [1, 1, 1, 1, 1, 1]
  campaignId := 10
  buyerId := 20

def timing : AuctionTiming := ⟨1, 2, 3, 4, 10, 5, "request-1", "2024-01-01T00:00:00+00:00"⟩

def campaign : Campaign := ⟨10, 20, .active, none⟩

def pulsar : BuyerIntegration := ⟨30, "pulsar", none, true⟩

def draw : PulsarDraw where
  pingTsMs := 0
  pingNonce := [1, 2]
  promiseBytes := [2, 2, 2, 2, 2, 2]
  bid := 50
  postTimestamp := "2024-01-01T00:00:01+00:00"
  price := 60

def call : BuyerCall := ⟨.sendFailed "unused", draw, "1"⟩

def env : RouteEnv where
  pingTree := .ok (some ⟨40, "ping_post", "active", none⟩)
  pingTreeCampaigns := .ok [⟨10, some 1⟩]
  campaignsWithAssociations := [(campaign, some pulsar)]
  qualificationConfigs _ := none
  directory :=
    { findBuyer := fun _ => .ok (some ⟨20, some 30, .active, none⟩)
      findIntegration := fun _ => .ok (some pulsar) }
  order := [0]
  pingTask _ := ⟨call, false, 3⟩
  postCall _ := call
  tieBreak := 0
  timestamp := "2024-01-01T00:00:00+00:00"
  promiseBytes := [3, 3, 3, 3, 3, 3]

/-- A post that carries the promise of the winner. -/
def post : LeadRequest :=
  request "post" (some (PulsarService.generatePromiseId draw.promiseBytes)) false

/-- Post `i` on lead 7, from its arrival to its answer. -/
def postRun (i : ℕ) (token : Uuid) : List Action :=
  [.arrive post, .read i (.promise 7 false), .claim i token true, .route i env timing,
    .effect i true, .effect i true, .effect i true, .effect i true]

end Sample

end LeadsNebula
