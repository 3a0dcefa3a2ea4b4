/-
The circuit breaker (`core/src/services/retry.rs`).

The breaker keeps its state, two counters and the time of the last failure in four
variables.  A call reads and writes them one by one, under locks or atomically, and
releases each before it takes the next; calls interleave.  Times are nanoseconds.

* `reaches_call` — a call that nothing interrupts does what `call` says;
* `call_closed`, `call_halfOpen`, `call_early`, `call_late` — what such a call does, by the
  state that it finds;
* `tells_watch` — the variables as a function of the history of the calls;
* `breaker_spec` — when calls do not overlap, the breaker opens at the threshold of
  consecutive failures, rejects calls until the timeout is over, and closes at the
  threshold of consecutive successes.
-/
import LeadsNebula.Interleaving
import Mathlib.Algebra.Group.Nat.Defs
import Mathlib.Data.List.Induction

namespace LeadsNebula

/-! ### The breaker -/

inductive CircuitState where
  | closed
  | opened
  | halfOpen
  deriving DecidableEq

/-- The thresholds are `u64`. -/
structure BreakerConfig where
  failureThreshold : ℕ
  successThreshold : ℕ
  timeout : ℕ
  failureThreshold_lt : failureThreshold < 2 ^ 64
  successThreshold_lt : successThreshold < 2 ^ 64

/-- The variables of `CircuitBreaker`. -/
structure CircuitBreaker where
  state : CircuitState
  failureCount : ℕ
  successCount : ℕ
  lastFailureTime : Option ℕ
  deriving DecidableEq

/-- A counter after `fetch_add(1)`. -/
def fetchAdd (n : ℕ) : ℕ := (n + 1) % 2 ^ 64

inductive CallResult where
  /-- `Circuit breaker is open`: the operation did not run. -/
  | rejected
  | ok
  | failed
  deriving DecidableEq

namespace CircuitBreaker

def new : CircuitBreaker := ⟨.closed, 0, 0, none⟩

/-! ### The steps of a call -/

/-- What a call does next. -/
inductive Stage where
  /-- Read the state. -/
  | enter
  | readLastFailure
  | toHalfOpen
  | resetSuccesses
  | run
  /-- `on_success`: read the state. -/
  | onSuccess
  | countSuccess
  | toClosed
  | resetFailures
  /-- `on_failure`: read the state. -/
  | onFailure
  | reopen
  | reopenTime
  | dropSuccesses
  | countFailure
  | failureTime (failures : ℕ)
  | toOpen
  | lateTime
  | done (result : CallResult)
  deriving DecidableEq

/-- What a step meets: the time, and how the operation ends if it is the step that runs it. -/
structure Moment where
  now : ℕ
  ok : Bool

/-- Where a call goes. -/
def advance (c : BreakerConfig) (b : CircuitBreaker) (t : Stage) (x : Moment) : Option Stage :=
  match t with
  | .enter => some (if b.state = .opened then .readLastFailure else .run)
  | .readLastFailure =>
    match b.lastFailureTime with
    -- open since its last failure, or long enough to try again
    | some last => some (if c.timeout ≤ x.now - last then .toHalfOpen else .done .rejected)
    | none => some (.done .rejected)
  | .toHalfOpen => some .resetSuccesses
  | .resetSuccesses => some .run
  | .run => some (if x.ok then .onSuccess else .onFailure)
  | .onSuccess =>
    match b.state with
    | .halfOpen => some .countSuccess
    | .closed => some .resetFailures
    -- opened by another call in the meantime
    | .opened => some (.done .ok)
  | .countSuccess =>
    some (if c.successThreshold ≤ fetchAdd b.successCount then .toClosed else .done .ok)
  | .toClosed => some .resetFailures
  | .resetFailures => some (.done .ok)
  | .onFailure =>
    match b.state with
    | .halfOpen => some .reopen
    | .closed => some .countFailure
    -- opened by another call: only the time of the failure is stored
    | .opened => some .lateTime
  | .reopen => some .reopenTime
  | .reopenTime => some .dropSuccesses
  | .dropSuccesses => some (.done .failed)
  | .countFailure => some (.failureTime (fetchAdd b.failureCount))
  | .failureTime failures =>
    some (if c.failureThreshold ≤ failures then .toOpen else .done .failed)
  | .toOpen => some (.done .failed)
  | .lateTime => some (.done .failed)
  | .done _ => none

/-- What a call writes. -/
def write (b : CircuitBreaker) (t : Stage) (x : Moment) : CircuitBreaker :=
  match t with
  | .toHalfOpen => { b with state := .halfOpen }
  | .toClosed => { b with state := .closed }
  | .reopen | .toOpen => { b with state := .opened }
  | .countSuccess => { b with successCount := fetchAdd b.successCount }
  | .resetSuccesses | .dropSuccesses => { b with successCount := 0 }
  | .countFailure => { b with failureCount := fetchAdd b.failureCount }
  | .resetFailures => { b with failureCount := 0 }
  | .reopenTime | .failureTime _ | .lateTime => { b with lastFailureTime := some x.now }
  | .enter | .readLastFailure | .run | .onSuccess | .onFailure | .done _ => b

/-- The calls of a breaker. -/
def machine (c : BreakerConfig) : Interleaving.Machine CircuitBreaker Stage Moment where
  start := .enter
  advance := advance c
  write := write

/-! ### A call that nothing interrupts -/

/-- A call: when it looks at the timeout, how its operation ends, and when it records a failure. -/
structure Call where
  start : ℕ
  ok : Bool
  finish : ℕ

variable (c : BreakerConfig)

/-- `on_success`. -/
def afterSuccess (b : CircuitBreaker) : CircuitBreaker :=
  match b.state with
  | .halfOpen =>
    if c.successThreshold ≤ fetchAdd b.successCount then
      { b with successCount := fetchAdd b.successCount, state := .closed, failureCount := 0 }
    else { b with successCount := fetchAdd b.successCount }
  | .closed => { b with failureCount := 0 }
  | .opened => b

/-- `on_failure`. -/
def afterFailure (b : CircuitBreaker) (now : ℕ) : CircuitBreaker :=
  match b.state with
  | .halfOpen => { b with state := .opened, lastFailureTime := some now, successCount := 0 }
  | .closed =>
    if c.failureThreshold ≤ fetchAdd b.failureCount then
      { b with
        failureCount := fetchAdd b.failureCount
        lastFailureTime := some now
        state := .opened }
    else { b with failureCount := fetchAdd b.failureCount, lastFailureTime := some now }
  | .opened => { b with lastFailureTime := some now }

/-- The operation runs. -/
def execute (b : CircuitBreaker) (k : Call) : CallResult × CircuitBreaker :=
  if k.ok then (.ok, b.afterSuccess c) else (.failed, b.afterFailure c k.finish)

/-- `call`. -/
def call (b : CircuitBreaker) (k : Call) : CallResult × CircuitBreaker :=
  match b.state with
  | .opened =>
    match b.lastFailureTime with
    | some last =>
      if c.timeout ≤ k.start - last then
        execute c { b with state := .halfOpen, successCount := 0 } k
      else (.rejected, b)
    | none => (.rejected, b)
  | .halfOpen | .closed => execute c b k

variable {c} {b : CircuitBreaker} {k : Call}

open Interleaving (Reaches)

theorem reaches_onSuccess (b : CircuitBreaker) (x : Moment) :
    Reaches (machine c) b .onSuccess (b.afterSuccess c, .done .ok) := by
  obtain ⟨state, failures, successes, last⟩ := b
  cases state with
  | closed => exact .step x rfl (.step x rfl (.refl _ _))
  | opened => exact .step x rfl (.refl _ _)
  | halfOpen =>
    by_cases h : c.successThreshold ≤ fetchAdd successes
    · have hafter : afterSuccess c ⟨.halfOpen, failures, successes, last⟩ =
          ⟨.closed, 0, fetchAdd successes, last⟩ := if_pos h
      rw [hafter]
      exact .step x rfl (.step x (congrArg some (if_pos h)) (.step x rfl (.step x rfl (.refl _ _))))
    · have hafter : afterSuccess c ⟨.halfOpen, failures, successes, last⟩ =
          ⟨.halfOpen, failures, fetchAdd successes, last⟩ := if_neg h
      rw [hafter]
      exact .step x rfl (.step x (congrArg some (if_neg h)) (.refl _ _))

theorem reaches_onFailure (b : CircuitBreaker) (x : Moment) :
    Reaches (machine c) b .onFailure (b.afterFailure c x.now, .done .failed) := by
  obtain ⟨state, failures, successes, last⟩ := b
  cases state with
  | halfOpen => exact .step x rfl (.step x rfl (.step x rfl (.step x rfl (.refl _ _))))
  | opened => exact .step x rfl (.step x rfl (.refl _ _))
  | closed =>
    by_cases h : c.failureThreshold ≤ fetchAdd failures
    · have hafter : afterFailure c ⟨.closed, failures, successes, last⟩ x.now =
          ⟨.opened, fetchAdd failures, successes, some x.now⟩ := if_pos h
      rw [hafter]
      exact .step x rfl (.step x rfl (.step x (congrArg some (if_pos h)) (.step x rfl (.refl _ _))))
    · have hafter : afterFailure c ⟨.closed, failures, successes, last⟩ x.now =
          ⟨.closed, fetchAdd failures, successes, some x.now⟩ := if_neg h
      rw [hafter]
      exact .step x rfl (.step x rfl (.step x (congrArg some (if_neg h)) (.refl _ _)))

theorem reaches_run (b : CircuitBreaker) (k : Call) :
    Reaches (machine c) b .run ((execute c b k).2, .done (execute c b k).1) := by
  have hrun : advance c b .run ⟨k.finish, k.ok⟩ =
      some (if k.ok then .onSuccess else .onFailure) := rfl
  refine .step ⟨k.finish, k.ok⟩ hrun ?_
  unfold execute
  cases k.ok with
  | true => exact reaches_onSuccess b ⟨k.finish, true⟩
  | false => exact reaches_onFailure b ⟨k.finish, false⟩

/-- A call that nothing interrupts. -/
theorem reaches_call (b : CircuitBreaker) (k : Call) :
    Reaches (machine c) b .enter ((call c b k).2, .done (call c b k).1) := by
  obtain ⟨state, failures, successes, last⟩ := b
  cases state with
  | closed => exact .step ⟨k.start, k.ok⟩ rfl (reaches_run _ k)
  | halfOpen => exact .step ⟨k.start, k.ok⟩ rfl (reaches_run _ k)
  | opened =>
    cases last with
    | none => exact .step ⟨k.start, k.ok⟩ rfl (.step ⟨k.start, k.ok⟩ rfl (.refl _ _))
    | some last =>
      by_cases h : c.timeout ≤ k.start - last
      · have hcall : call c ⟨.opened, failures, successes, some last⟩ k =
            execute c ⟨.halfOpen, failures, 0, some last⟩ k := if_pos h
        rw [hcall]
        exact .step ⟨k.start, k.ok⟩ rfl (.step ⟨k.start, k.ok⟩ (congrArg some (if_pos h))
          (.step ⟨k.start, k.ok⟩ rfl (.step ⟨k.start, k.ok⟩ rfl (reaches_run _ k))))
      · have hcall : call c ⟨.opened, failures, successes, some last⟩ k =
            (.rejected, ⟨.opened, failures, successes, some last⟩) := if_neg h
        rw [hcall]
        exact .step ⟨k.start, k.ok⟩ rfl
          (.step ⟨k.start, k.ok⟩ (congrArg some (if_neg h)) (.refl _ _))

/-! ### Calls that do not overlap -/

/-- What a call did, and when it ended. -/
structure Event where
  result : CallResult
  time : ℕ

/-- The breaker with its history, the latest call first. -/
structure Watched where
  breaker : CircuitBreaker
  history : List Event

namespace Watched

/-- After one more call. -/
def after (c : BreakerConfig) (w : Watched) (k : Call) : Watched :=
  ⟨(call c w.breaker k).2, ⟨(call c w.breaker k).1, k.finish⟩ :: w.history⟩

/-- After calls that come one after the other. -/
def watch (c : BreakerConfig) (calls : List Call) : Watched := calls.foldl (after c) ⟨.new, []⟩

end Watched

/-- The consecutive failures at the end of a history. -/
def failuresAtEnd (history : List Event) : ℕ :=
  (history.takeWhile fun e => decide (e.result = .failed)).length

def successesAtEnd (history : List Event) : ℕ :=
  (history.takeWhile fun e => decide (e.result = .ok)).length

/-- When the last failure was. -/
def lastFailure (history : List Event) : Option ℕ :=
  (history.find? fun e => decide (e.result = .failed)).map Event.time

section

variable {history : List Event} {t : ℕ}

@[simp] theorem failuresAtEnd_failed :
    failuresAtEnd (⟨.failed, t⟩ :: history) = failuresAtEnd history + 1 := by simp [failuresAtEnd]

@[simp] theorem failuresAtEnd_ok : failuresAtEnd (⟨.ok, t⟩ :: history) = 0 := by
  simp [failuresAtEnd]

@[simp] theorem successesAtEnd_ok :
    successesAtEnd (⟨.ok, t⟩ :: history) = successesAtEnd history + 1 := by simp [successesAtEnd]

@[simp] theorem successesAtEnd_failed : successesAtEnd (⟨.failed, t⟩ :: history) = 0 := by
  simp [successesAtEnd]

@[simp] theorem successesAtEnd_rejected : successesAtEnd (⟨.rejected, t⟩ :: history) = 0 := by
  simp [successesAtEnd]

@[simp] theorem lastFailure_failed : lastFailure (⟨.failed, t⟩ :: history) = some t := by
  simp [lastFailure]

@[simp] theorem lastFailure_rejected :
    lastFailure (⟨.rejected, t⟩ :: history) = lastFailure history := by simp [lastFailure]

end

/-- What the variables say about the history, by the state. -/
def Tells (c : BreakerConfig) (w : Watched) : Prop :=
  match w.breaker.state with
  | .closed =>
    w.breaker.failureCount = failuresAtEnd w.history ∧ w.breaker.failureCount < c.failureThreshold
  | .halfOpen =>
    w.breaker.successCount = successesAtEnd w.history ∧
      w.breaker.successCount < c.successThreshold
  | .opened =>
    (∃ t, w.breaker.lastFailureTime = some t ∧ lastFailure w.history = some t) ∧
      successesAtEnd w.history = 0

theorem fetchAdd_of_lt {n m : ℕ} (h : n < m) (hm : m < 2 ^ 64) : fetchAdd n = n + 1 :=
  Nat.mod_eq_of_lt (by omega)

variable {history : List Event}

/-- The operation runs, and ends as it does. -/
def Ran (k : Call) (r : CallResult × CircuitBreaker) : Prop := r.1 = if k.ok then .ok else .failed

theorem ran_execute (b : CircuitBreaker) (k : Call) : Ran k (execute c b k) := by
  unfold Ran execute
  cases k.ok <;> rfl

/-- An operation that runs while the breaker is closed. -/
theorem execute_closed (hstate : b.state = .closed) (h : Tells c ⟨b, history⟩) (k : Call) :
    (execute c b k).2.state =
        (if k.ok then .closed
        else if failuresAtEnd history + 1 = c.failureThreshold then .opened
        else .closed) ∧
      Tells c ⟨(execute c b k).2, ⟨(execute c b k).1, k.finish⟩ :: history⟩ := by
  obtain ⟨state, failures, successes, last⟩ := b
  obtain rfl : state = .closed := hstate
  obtain ⟨hcount, hlt⟩ : failures = failuresAtEnd history ∧ failures < c.failureThreshold := h
  have hadd : fetchAdd failures = failures + 1 := fetchAdd_of_lt hlt c.failureThreshold_lt
  obtain ⟨start, ok, finish⟩ := k
  -- one failure more may open it
  cases ok with
  | true => exact ⟨rfl, failuresAtEnd_ok.symm, Nat.zero_lt_of_lt hlt⟩
  | false =>
    by_cases hopen : c.failureThreshold ≤ failures + 1
    · have hrun : execute c ⟨.closed, failures, successes, last⟩ ⟨start, false, finish⟩ =
          (.failed, ⟨.opened, failures + 1, successes, some finish⟩) := by
        simp [execute, afterFailure, hadd, hopen]
      have hlast : failuresAtEnd history + 1 = c.failureThreshold := by omega
      rw [hrun]
      refine ⟨?_, ⟨finish, rfl, lastFailure_failed⟩, successesAtEnd_failed⟩
      simp [hlast]
    · have hrun : execute c ⟨.closed, failures, successes, last⟩ ⟨start, false, finish⟩ =
          (.failed, ⟨.closed, failures + 1, successes, some finish⟩) := by
        simp [execute, afterFailure, hadd, hopen]
      have hlast : failuresAtEnd history + 1 ≠ c.failureThreshold := by omega
      rw [hrun]
      refine ⟨?_, ?_, by show failures + 1 < c.failureThreshold; omega⟩
      · simp [hlast]
      · show failures + 1 = failuresAtEnd _
        rw [failuresAtEnd_failed, hcount]

/-- An operation that runs while the breaker is half-open. -/
theorem execute_halfOpen (hf : 1 ≤ c.failureThreshold) (hstate : b.state = .halfOpen)
    (h : Tells c ⟨b, history⟩) (k : Call) :
    (execute c b k).2.state =
        (if k.ok then
          if successesAtEnd history + 1 = c.successThreshold then .closed else .halfOpen
        else .opened) ∧
      Tells c ⟨(execute c b k).2, ⟨(execute c b k).1, k.finish⟩ :: history⟩ := by
  obtain ⟨state, failures, successes, last⟩ := b
  obtain rfl : state = .halfOpen := hstate
  obtain ⟨hcount, hlt⟩ : successes = successesAtEnd history ∧ successes < c.successThreshold := h
  have hadd : fetchAdd successes = successes + 1 := fetchAdd_of_lt hlt c.successThreshold_lt
  obtain ⟨start, ok, finish⟩ := k
  cases ok with
  -- one failure opens the breaker again
  | false => exact ⟨rfl, ⟨finish, rfl, lastFailure_failed⟩, successesAtEnd_failed⟩
  | true =>
    -- the successes since it was half-open decide whether it closes
    by_cases hclose : c.successThreshold ≤ successes + 1
    · have hrun : execute c ⟨.halfOpen, failures, successes, last⟩ ⟨start, true, finish⟩ =
          (.ok, ⟨.closed, 0, successes + 1, last⟩) := by
        simp [execute, afterSuccess, hadd, hclose]
      have hlast : successesAtEnd history + 1 = c.successThreshold := by omega
      rw [hrun]
      refine ⟨?_, failuresAtEnd_ok.symm, hf⟩
      simp [hlast]
    · have hrun : execute c ⟨.halfOpen, failures, successes, last⟩ ⟨start, true, finish⟩ =
          (.ok, ⟨.halfOpen, failures, successes + 1, last⟩) := by
        simp [execute, afterSuccess, hadd, hclose]
      have hlast : successesAtEnd history + 1 ≠ c.successThreshold := by omega
      rw [hrun]
      refine ⟨?_, ?_, by show successes + 1 < c.successThreshold; omega⟩
      · simp [hlast]
      · show successes + 1 = successesAtEnd _
        rw [successesAtEnd_ok, hcount]

/-! ### The calls, by the state they find -/

section

variable {w : Watched}

theorem Tells.failureCount_lt (h : Tells c w) (hstate : w.breaker.state = .closed) :
    w.breaker.failureCount < c.failureThreshold := by
  rw [Tells, hstate] at h
  exact h.2

theorem Tells.successCount_lt (h : Tells c w) (hstate : w.breaker.state = .halfOpen) :
    w.breaker.successCount < c.successThreshold := by
  rw [Tells, hstate] at h
  exact h.2

theorem Tells.lastFailureTime_eq (h : Tells c w) (hstate : w.breaker.state = .opened) :
    ∃ t, w.breaker.lastFailureTime = some t ∧ lastFailure w.history = some t := by
  rw [Tells, hstate] at h
  exact h.1

theorem Tells.successesAtEnd_eq (h : Tells c w) (hstate : w.breaker.state = .opened) :
    successesAtEnd w.history = 0 := by
  rw [Tells, hstate] at h
  exact h.2

end

theorem call_opened {last : ℕ} (hstate : b.state = .opened) (hlast : b.lastFailureTime = some last)
    (k : Call) :
    call c b k =
      if c.timeout ≤ k.start - last then
        execute c { b with state := .halfOpen, successCount := 0 } k
      else (.rejected, b) := by
  obtain ⟨state, failures, successes, time⟩ := b
  obtain rfl : state = .opened := hstate
  obtain rfl : time = some last := hlast
  rfl

variable {w : Watched}

theorem call_closed (hstate : w.breaker.state = .closed) (h : Tells c w) (k : Call) :
    Ran k (call c w.breaker k) ∧
      (w.after c k).breaker.state =
        (if k.ok then .closed
        else if failuresAtEnd w.history + 1 = c.failureThreshold then .opened
        else .closed) ∧
      Tells c (w.after c k) := by
  have hcall : call c w.breaker k = execute c w.breaker k := by rw [call, hstate]
  rw [Watched.after, hcall]
  exact ⟨ran_execute _ k, execute_closed hstate h k⟩

theorem call_halfOpen (hf : 1 ≤ c.failureThreshold) (hstate : w.breaker.state = .halfOpen)
    (h : Tells c w) (k : Call) :
    Ran k (call c w.breaker k) ∧
      (w.after c k).breaker.state =
        (if k.ok then
          if successesAtEnd w.history + 1 = c.successThreshold then .closed else .halfOpen
        else .opened) ∧
      Tells c (w.after c k) := by
  have hcall : call c w.breaker k = execute c w.breaker k := by rw [call, hstate]
  rw [Watched.after, hcall]
  exact ⟨ran_execute _ k, execute_halfOpen hf hstate h k⟩

/-- Before the timeout is over the breaker rejects a call and stays as it is. -/
theorem call_early (hstate : w.breaker.state = .opened) (h : Tells c w) {t : ℕ}
    (ht : lastFailure w.history = some t) (k : Call) (hearly : k.start - t < c.timeout) :
    call c w.breaker k = (.rejected, w.breaker) ∧ Tells c (w.after c k) := by
  obtain ⟨t', hb, ht'⟩ := h.lastFailureTime_eq hstate
  obtain rfl : t' = t := Option.some.inj (ht'.symm.trans ht)
  have hcall : call c w.breaker k = (.rejected, w.breaker) :=
    (call_opened hstate hb k).trans (if_neg (by omega))
  refine ⟨hcall, ?_⟩
  rw [Watched.after, hcall, Tells, hstate]
  exact ⟨⟨t', hb, lastFailure_rejected.trans ht⟩, successesAtEnd_rejected⟩

/-- After the timeout the operation runs. -/
theorem call_late (hf : 1 ≤ c.failureThreshold) (hs : 1 ≤ c.successThreshold)
    (hstate : w.breaker.state = .opened) (h : Tells c w) {t : ℕ}
    (ht : lastFailure w.history = some t) (k : Call) (hlate : c.timeout ≤ k.start - t) :
    Ran k (call c w.breaker k) ∧
      (w.after c k).breaker.state =
        (if k.ok then if 1 = c.successThreshold then .closed else .halfOpen else .opened) ∧
      Tells c (w.after c k) := by
  obtain ⟨t', hb, ht'⟩ := h.lastFailureTime_eq hstate
  obtain rfl : t' = t := Option.some.inj (ht'.symm.trans ht)
  have hnone : successesAtEnd w.history = 0 := h.successesAtEnd_eq hstate
  have hcall : call c w.breaker k =
      execute c { w.breaker with state := .halfOpen, successCount := 0 } k :=
    (call_opened hstate hb k).trans (if_pos hlate)
  have hprobe : Tells c ⟨{ w.breaker with state := .halfOpen, successCount := 0 }, w.history⟩ :=
    ⟨hnone.symm, hs⟩
  have hrun := execute_halfOpen hf rfl hprobe k
  rw [hnone] at hrun
  rw [Watched.after, hcall]
  exact ⟨ran_execute _ k, hrun⟩

theorem tells_after (hf : 1 ≤ c.failureThreshold) (hs : 1 ≤ c.successThreshold) (h : Tells c w)
    (k : Call) : Tells c (w.after c k) := by
  cases hstate : w.breaker.state with
  | closed => exact (call_closed hstate h k).2.2
  | halfOpen => exact (call_halfOpen hf hstate h k).2.2
  | opened =>
    obtain ⟨t, -, ht⟩ := h.lastFailureTime_eq hstate
    by_cases hlate : c.timeout ≤ k.start - t
    · exact (call_late hf hs hstate h ht k hlate).2.2
    · exact (call_early hstate h ht k (by omega)).2

/-- The variables tell the history of every run. -/
theorem tells_watch (hf : 1 ≤ c.failureThreshold) (hs : 1 ≤ c.successThreshold)
    (calls : List Call) : Tells c (Watched.watch c calls) := by
  induction calls using List.reverseRecOn with
  | nil => exact ⟨rfl, hf⟩
  | append_singleton calls k ih =>
    rw [Watched.watch, List.foldl_concat]
    exact tells_after hf hs ih k

/-- The breaker when calls come one after the other. -/
theorem breaker_spec (hf : 1 ≤ c.failureThreshold) (hs : 1 ≤ c.successThreshold)
    (calls : List Call) (k : Call) :
    ((Watched.watch c calls).breaker.state = .closed →
      (Watched.watch c calls).breaker.failureCount < c.failureThreshold ∧
      Ran k (call c (Watched.watch c calls).breaker k) ∧
      ((Watched.watch c calls).after c k).breaker.state =
        if k.ok then .closed
        else if failuresAtEnd (Watched.watch c calls).history + 1 = c.failureThreshold then .opened
        else .closed) ∧
    ((Watched.watch c calls).breaker.state = .opened →
      ∃ t, (Watched.watch c calls).breaker.lastFailureTime = some t ∧
        lastFailure (Watched.watch c calls).history = some t ∧
        (k.start - t < c.timeout →
          call c (Watched.watch c calls).breaker k =
            (.rejected, (Watched.watch c calls).breaker)) ∧
        (c.timeout ≤ k.start - t →
          Ran k (call c (Watched.watch c calls).breaker k) ∧
          ((Watched.watch c calls).after c k).breaker.state =
            if k.ok then if 1 = c.successThreshold then .closed else .halfOpen else .opened)) ∧
    ((Watched.watch c calls).breaker.state = .halfOpen →
      (Watched.watch c calls).breaker.successCount < c.successThreshold ∧
      Ran k (call c (Watched.watch c calls).breaker k) ∧
      ((Watched.watch c calls).after c k).breaker.state =
        if k.ok then
          if successesAtEnd (Watched.watch c calls).history + 1 = c.successThreshold then .closed
          else .halfOpen
        else .opened) := by
  -- what the breaker holds is told by the history of its calls
  have h : Tells c (Watched.watch c calls) := tells_watch hf hs calls
  refine ⟨?closed, ?opened, ?halfOpen⟩
  case closed =>
    intro hstate
    obtain ⟨hran, hafter, -⟩ := call_closed hstate h k
    exact ⟨h.failureCount_lt hstate, hran, hafter⟩
  case opened =>
    intro hstate
    obtain ⟨t, hb, ht⟩ := h.lastFailureTime_eq hstate
    refine ⟨t, hb, ht, ?_, ?_⟩
    · intro hearly
      exact (call_early hstate h ht k hearly).1
    · intro hlate
      obtain ⟨hran, hafter, -⟩ := call_late hf hs hstate h ht k hlate
      exact ⟨hran, hafter⟩
  case halfOpen =>
    intro hstate
    obtain ⟨hran, hafter, -⟩ := call_halfOpen hf hstate h k
    exact ⟨h.successCount_lt hstate, hran, hafter⟩

namespace Sample

/-- As in the test of the breaker. -/
def config : BreakerConfig := ⟨3, 2, 1000, by decide, by decide⟩

def failing : Call := ⟨5, false, 6⟩

theorem opens_after_threshold :
    (Watched.watch config [failing, failing]).breaker.state = .closed ∧
      ((Watched.watch config [failing, failing]).after config failing).breaker.state = .opened := by
  have hclosed : (Watched.watch config [failing, failing]).breaker.state = .closed := by decide
  obtain ⟨-, -, hafter⟩ :=
    (breaker_spec (c := config) (by decide) (by decide) [failing, failing] failing).1 hclosed
  exact ⟨hclosed, hafter.trans (by decide)⟩

end Sample

end CircuitBreaker

end LeadsNebula
