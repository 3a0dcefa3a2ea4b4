/-
The batcher of the write-behind queue (`batcher_task`, `enqueue`, `flush` and
`Drop` of `write_behind_queue.rs`).

The batcher receives tasks from a channel into a local batch, and flushes the
batch when it has ten tasks or the interval ticks.  `flush` sets a flag and waits
for the batcher to finish; the flag is looked at on ticks only, and the batcher
that finds it set leaves the loop with whatever is still in the channel.

Arrivals, ticks and the lengths of the flushes are actions, so a schedule is a
list of actions.

* `batcher_takes` — as the rest of the service sees it, the batcher takes up to
  ten tasks at a time from the front of one queue;
* `flush_loses_nothing` — if no tick finds the flag while an earlier task is in
  the channel, a flush that returns has passed on every earlier task, in order.
-/
import LeadsNebula.System

namespace LeadsNebula

/-- Where the batcher is in its loop. -/
inductive Mode where
  /-- In `select!`. -/
  | select
  /-- In `flush_batch`, on the way back to `select!`. -/
  | flushing
  /-- In `flush_batch`, on a tick. -/
  | flushingTick
  /-- In `flush_batch`, as the channel is closed. -/
  | flushingLast
  /-- About to look at the flag. -/
  | check
  | finished
  deriving DecidableEq

/-- A call of `flush`: the number of tasks that were enqueued before it, and whether it returned
`Ok`, if it has returned. -/
structure FlushCall where
  before : ℕ
  result : Option Bool
  deriving DecidableEq

structure Batcher (τ : Type) where
  channel : List τ
  batch : List τ
  mode : Mode
  shutdownFlag : Bool
  /-- The queue has been dropped, and its sender with it. -/
  closed : Bool
  /-- The batches passed to `flush_batch`, in order. -/
  flushed : List (List τ)
  /-- All tasks passed to `enqueue`, in order. -/
  sent : List τ
  calls : List FlushCall

inductive BatcherAction (τ : Type) where
  | enqueue (t : τ)
  | recv
  | tick
  /-- The current `flush_batch` returns. -/
  | flushed
  | check
  | flush
  /-- Call `i` of `flush` finds the batcher finished. -/
  | poll (i : ℕ)
  /-- Call `i` of `flush` runs out of time. -/
  | timeout (i : ℕ)
  | drop

namespace Batcher

variable {τ : Type}

def init : Batcher τ := ⟨[], [], .select, false, false, [], [], []⟩

/-- `flush_batch` is called with the batch; it returns at once if the batch is empty. -/
def flushBatch (s : Batcher τ) (during after : Mode) : Batcher τ :=
  if s.batch.isEmpty then { s with mode := after }
  else { s with batch := [], flushed := s.flushed ++ [s.batch], mode := during }

/-- Call `i` of `flush` returns. -/
def answer (s : Batcher τ) (i : ℕ) (result : Bool) : Option (Batcher τ) :=
  match s.calls[i]? with
  | some ⟨before, none⟩ => some { s with calls := s.calls.set i ⟨before, some result⟩ }
  | _ => none

def step (s : Batcher τ) : BatcherAction τ → Option (Batcher τ)
  | .enqueue t =>
    if s.closed then none
    else
      -- with the receiver gone the task is dropped
      some { s with
        sent := s.sent ++ [t]
        channel := if s.mode = .finished then s.channel else s.channel ++ [t] }
  | .recv =>
    if s.mode = .select then
      match s.channel with
      | t :: rest =>
        let s' := { s with channel := rest, batch := s.batch ++ [t] }
        if maxBatch ≤ s'.batch.length then some (s'.flushBatch .flushing .select) else some s'
      | [] => if s.closed then some (s.flushBatch .flushingLast .finished) else none
    else none
  | .tick => if s.mode = .select then some (s.flushBatch .flushingTick .check) else none
  | .flushed =>
    match s.mode with
    | .flushing => some { s with mode := .select }
    | .flushingTick => some { s with mode := .check }
    | .flushingLast => some { s with mode := .finished }
    | _ => none
  | .check =>
    if s.mode = .check then
      if s.shutdownFlag then some (s.flushBatch .flushingLast .finished)
      else some { s with mode := .select }
    else none
  | .flush =>
    if s.closed then none
    else some { s with shutdownFlag := true, calls := s.calls ++ [⟨s.sent.length, none⟩] }
  | .poll i => if s.mode = .finished then s.answer i true else none
  | .timeout i => s.answer i false
  | .drop =>
    if s.calls.any fun c => c.result.isNone then none
    else some { s with closed := true, shutdownFlag := true }

/-- The tasks that the batcher has yet to pass on, in order. -/
def queue (s : Batcher τ) : List τ := s.batch ++ s.channel

/-- The tasks that were passed to `flush_batch`, in order. -/
def passed (s : Batcher τ) : List τ := s.flushed.flatten

/-- What is passed on are the first tasks that were enqueued, each one once and in their order;
among them are all that were enqueued before a flush that returned `Ok`. -/
structure LosesNothing (s : Batcher τ) : Prop where
  inOrder : s.passed <+: s.sent
  all : ∀ call ∈ s.calls, call.result = some true → s.sent.take call.before <+: s.passed

/-- The batcher finds the flag only when every task that is left in the channel came after the
calls of `flush` that wait, and none was lost before a later call. -/
def Empties (s : Batcher τ) : BatcherAction τ → Prop
  | .check => s.shutdownFlag = true → ∀ call ∈ s.calls, call.result = none →
      call.before ≤ s.sent.length - s.channel.length
  | .flush => s.mode = .finished → s.passed.length = s.sent.length
  | _ => True

instance (s : Batcher τ) (a : BatcherAction τ) : Decidable (s.Empties a) :=
  match a with
  | .check => inferInstanceAs (Decidable (_ → ∀ call ∈ s.calls, _ → _))
  | .flush => inferInstanceAs (Decidable (_ → _))
  | .enqueue _ | .recv | .tick | .flushed | .poll _ | .timeout _ | .drop =>
    inferInstanceAs (Decidable True)

/-! ### What a step can do -/

/-- The cases of `step`, with their guards. -/
inductive Move (s : Batcher τ) : BatcherAction τ → Batcher τ → Prop
  | enqueue {t : τ} (hopen : s.closed = false) :
      Move s (.enqueue t) { s with
        sent := s.sent ++ [t]
        channel := if s.mode = .finished then s.channel else s.channel ++ [t] }
  | receive {t : τ} {rest : List τ} (hmode : s.mode = .select) (hch : s.channel = t :: rest)
      (hsmall : s.batch.length + 1 < maxBatch) :
      Move s .recv { s with channel := rest, batch := s.batch ++ [t] }
  | full {t : τ} {rest : List τ} (hmode : s.mode = .select) (hch : s.channel = t :: rest)
      (hfull : maxBatch ≤ s.batch.length + 1) :
      Move s .recv { s with
        channel := rest, batch := [], flushed := s.flushed ++ [s.batch ++ [t]]
        mode := .flushing }
  | close (hmode : s.mode = .select) (hch : s.channel = []) (hclosed : s.closed = true) :
      Move s .recv (s.flushBatch .flushingLast .finished)
  | tick (hmode : s.mode = .select) : Move s .tick (s.flushBatch .flushingTick .check)
  | resume {mode : Mode} (hmode : s.mode = .flushing ∧ mode = .select ∨
        s.mode = .flushingTick ∧ mode = .check ∨ s.mode = .flushingLast ∧ mode = .finished) :
      Move s .flushed { s with mode := mode }
  | stay (hmode : s.mode = .check) (hflag : s.shutdownFlag = false) :
      Move s .check { s with mode := .select }
  | leave (hmode : s.mode = .check) (hflag : s.shutdownFlag = true) :
      Move s .check (s.flushBatch .flushingLast .finished)
  | flush (hopen : s.closed = false) :
      Move s .flush { s with
        shutdownFlag := true, calls := s.calls ++ [⟨s.sent.length, none⟩] }
  | poll {i before : ℕ} (hmode : s.mode = .finished) (hi : s.calls[i]? = some ⟨before, none⟩) :
      Move s (.poll i) { s with calls := s.calls.set i ⟨before, some true⟩ }
  | timeout {i before : ℕ} (hi : s.calls[i]? = some ⟨before, none⟩) :
      Move s (.timeout i) { s with calls := s.calls.set i ⟨before, some false⟩ }
  | drop : Move s .drop { s with closed := true, shutdownFlag := true }

variable {s s' : Batcher τ} {a : BatcherAction τ}

theorem answer_eq_some {i : ℕ} {result : Bool} (h : s.answer i result = some s') :
    ∃ before, s.calls[i]? = some ⟨before, none⟩ ∧
      s' = { s with calls := s.calls.set i ⟨before, some result⟩ } := by
  rw [answer] at h
  split at h
  · next before hi => exact ⟨before, hi, (Option.some_inj.mp h).symm⟩
  · cases h

theorem step_cases (h : s.step a = some s') : Move s a s' := by
  cases a with
  | enqueue t =>
    rw [step] at h
    split at h
    · cases h
    · next hopen => exact Option.some_inj.mp h ▸ .enqueue (Bool.eq_false_iff.mpr hopen)
  | recv =>
    rw [step] at h
    split at h
    · next hmode =>
      split at h
      · next t rest hch =>
        simp only [flushBatch, List.length_append, List.length_singleton] at h
        split at h
        · -- a full batch is flushed, and it is not empty
          next hfull =>
          have hne : (s.batch ++ [t]).isEmpty = false := by simp
          simp only [hne, Bool.false_eq_true, if_false] at h
          exact Option.some_inj.mp h ▸ .full hmode hch hfull
        · next hsmall => exact Option.some_inj.mp h ▸ .receive hmode hch (by omega)
      · next hch =>
        split at h
        · next hclosed => exact Option.some_inj.mp h ▸ .close hmode hch hclosed
        · cases h
    · cases h
  | tick =>
    rw [step] at h
    split at h
    · next hmode => exact Option.some_inj.mp h ▸ .tick hmode
    · cases h
  | flushed =>
    rw [step] at h
    split at h
    · next hmode => exact Option.some_inj.mp h ▸ .resume (Or.inl ⟨hmode, rfl⟩)
    · next hmode => exact Option.some_inj.mp h ▸ .resume (Or.inr (Or.inl ⟨hmode, rfl⟩))
    · next hmode => exact Option.some_inj.mp h ▸ .resume (Or.inr (Or.inr ⟨hmode, rfl⟩))
    · cases h
  | check =>
    rw [step] at h
    split at h
    · next hmode =>
      split at h
      · next hflag => exact Option.some_inj.mp h ▸ .leave hmode hflag
      · next hflag => exact Option.some_inj.mp h ▸ .stay hmode (Bool.eq_false_iff.mpr hflag)
    · cases h
  | flush =>
    rw [step] at h
    split at h
    · cases h
    · next hopen => exact Option.some_inj.mp h ▸ .flush (Bool.eq_false_iff.mpr hopen)
  | poll i =>
    rw [step] at h
    split at h
    · next hmode =>
      obtain ⟨before, hi, rfl⟩ := answer_eq_some h
      exact .poll hmode hi
    · cases h
  | timeout i =>
    obtain ⟨before, hi, rfl⟩ := answer_eq_some h
    exact .timeout hi
  | drop =>
    rw [step] at h
    split at h
    · cases h
    · exact Option.some_inj.mp h ▸ .drop

/-! ### The invariant -/

/-- The batcher has left its loop. -/
def left (s : Batcher τ) : Prop := s.mode = .flushingLast ∨ s.mode = .finished

structure Inv (s : Batcher τ) : Prop where
  /-- Nothing is lost while the loop runs. -/
  queue : ¬ s.left → s.passed ++ s.queue = s.sent
  inOrder : s.passed <+: s.sent
  batch : s.mode ≠ .select → s.batch = []
  small : s.batch.length < maxBatch
  last : s.mode = .flushingLast → s.closed = true
  before : ∀ call ∈ s.calls, call.before ≤ s.sent.length
  all : s.left → ∀ call ∈ s.calls, call.result ≠ some false → call.before ≤ s.passed.length
  ok : ∀ call ∈ s.calls, call.result = some true → s.mode = .finished

theorem inv_init : Inv (init : Batcher τ) where
  queue _ := rfl
  inOrder := List.nil_prefix
  batch _ := rfl
  small := Nat.zero_lt_succ 9
  last h := by cases h
  before call h := by cases h
  all _ call h := by cases h
  ok call h := by cases h

section FlushBatch

variable (s) (during after : Mode)

@[simp] theorem flushBatch_passed :
    (s.flushBatch during after).passed = s.passed ++ s.batch := by
  rw [flushBatch]
  split
  · next hempty => rw [List.isEmpty_iff.mp hempty, List.append_nil]; rfl
  · simp [passed]

@[simp] theorem flushBatch_batch : (s.flushBatch during after).batch = [] := by
  rw [flushBatch]
  split
  · next hempty => exact List.isEmpty_iff.mp hempty
  · rfl

@[simp] theorem flushBatch_channel : (s.flushBatch during after).channel = s.channel := by
  rw [flushBatch]
  split <;> rfl

@[simp] theorem flushBatch_sent : (s.flushBatch during after).sent = s.sent := by
  rw [flushBatch]
  split <;> rfl

@[simp] theorem flushBatch_closed : (s.flushBatch during after).closed = s.closed := by
  rw [flushBatch]
  split <;> rfl

@[simp] theorem flushBatch_calls : (s.flushBatch during after).calls = s.calls := by
  rw [flushBatch]
  split <;> rfl

theorem flushBatch_mode : (s.flushBatch during after).mode = after ∧ s.batch = [] ∨
    (s.flushBatch during after).mode = during := by
  rw [flushBatch]
  split
  · next hempty => exact Or.inl ⟨rfl, List.isEmpty_iff.mp hempty⟩
  · exact Or.inr rfl

end FlushBatch

/-- A call that returns leaves the other ones as they are. -/
theorem mem_set_call {calls : List FlushCall} {i before : ℕ} {result : Bool}
    (hi : calls[i]? = some ⟨before, none⟩) {call : FlushCall}
    (h : call ∈ calls.set i ⟨before, some result⟩) :
    call ∈ calls ∨ call.result = some result ∧ ⟨call.before, none⟩ ∈ calls := by
  rcases List.mem_or_eq_of_mem_set h with h | rfl
  · exact Or.inl h
  · exact Or.inr ⟨rfl, List.mem_of_getElem? hi⟩

/-- A call that is answered was made when it was. -/
theorem before_set_call (hinv : Inv s) {i before : ℕ} {result : Bool}
    (hi : s.calls[i]? = some ⟨before, none⟩) :
    ∀ call ∈ s.calls.set i ⟨before, some result⟩, call.before ≤ s.sent.length := by
  intro call hcall
  rcases mem_set_call hi hcall with hcall | ⟨-, hcall⟩
  · exact hinv.before call hcall
  · exact hinv.before ⟨call.before, none⟩ hcall

/-- The loop goes on: what was passed and what waits is still all that was sent. -/
theorem inv_of_running (hinv : Inv s) (hsent : s'.sent = s.sent) (hcalls : s'.calls = s.calls)
    (hleft : ¬ s'.left) (hrun : ¬ s.left) (hqueue : s'.passed ++ s'.queue = s.passed ++ s.queue)
    (hbatch : s'.mode ≠ .select → s'.batch = []) (hsmall : s'.batch.length < maxBatch) :
    Inv s' where
  queue _ := by rw [hqueue, hinv.queue hrun, hsent]
  inOrder := ⟨s'.queue, by rw [hqueue, hinv.queue hrun, hsent]⟩
  batch := hbatch
  small := hsmall
  last h := absurd (Or.inl h) hleft
  before := by rw [hcalls, hsent]; exact hinv.before
  all h := absurd h hleft
  ok call hcall hok := absurd (Or.inr (hinv.ok call (hcalls ▸ hcall) hok)) hrun

/-- The loop is left, with the waiting calls satisfied. -/
theorem inv_of_leaving (hinv : Inv s) (hrun : ¬ s.left)
    (hlast : s.batch ≠ [] → s.closed = true)
    (hall : ∀ call ∈ s.calls, call.result = none →
      call.before ≤ s.passed.length + s.batch.length) :
    Inv (s.flushBatch .flushingLast .finished) := by
  have hleft : (s.flushBatch .flushingLast .finished).left := by
    rcases flushBatch_mode s .flushingLast .finished with h | h
    · exact Or.inr h.1
    · exact Or.inl h
  have hqueue : s.passed ++ (s.batch ++ s.channel) = s.sent := hinv.queue hrun
  -- the last batch is passed on, so all the waiting calls may be answered
  refine ⟨fun h => absurd hleft h, ?_, ?_, ?_, ?_, ?_, ?_, ?_⟩
  · rw [flushBatch_passed, flushBatch_sent]
    exact ⟨s.channel, by rw [List.append_assoc, hqueue]⟩
  · intro _
    exact flushBatch_batch _ _ _
  · rw [flushBatch_batch]
    exact Nat.zero_lt_succ 9
  · intro hmode
    rw [flushBatch_closed]
    refine hlast ?_
    intro hempty
    simp [flushBatch, hempty] at hmode
  · rw [flushBatch_calls, flushBatch_sent]
    exact hinv.before
  · intro _ call hcall hresult
    rw [flushBatch_calls] at hcall
    rw [flushBatch_passed, List.length_append]
    rcases hres : call.result with _ | _ | _
    · -- the calls that wait
      exact hall call hcall hres
    · exact absurd hres hresult
    · exact absurd (Or.inr (hinv.ok call hcall hres)) hrun
  · intro call hcall hok
    rw [flushBatch_calls] at hcall
    exact absurd (Or.inr (hinv.ok call hcall hok)) hrun

/-- A task is sent, after the end of the batcher to nobody. -/
theorem inv_enqueue (hinv : Inv s) (t : τ) :
    Inv { s with
      channel := if s.mode = .finished then s.channel else s.channel ++ [t], sent := s.sent ++ [t] }
    where
  queue hrun := by
    have hne : s.mode ≠ .finished := fun h => hrun (Or.inr h)
    show s.passed ++ (s.batch ++ if s.mode = .finished then _ else _) = _
    rw [if_neg hne, ← hinv.queue hrun, queue, List.append_assoc, List.append_assoc]
  inOrder := hinv.inOrder.trans (List.prefix_append _ _)
  batch := hinv.batch
  small := hinv.small
  last := hinv.last
  before call hcall := by
    show call.before ≤ (s.sent ++ [t]).length
    rw [List.length_append]
    exact Nat.le_add_right_of_le (hinv.before call hcall)
  all := hinv.all
  ok := hinv.ok

/-- A new call of `flush` waits for all that has been sent by then. -/
theorem inv_new_call (hinv : Inv s) (hempty : s.mode = .finished → s.passed.length = s.sent.length)
    (hopen : s.closed = false) :
    Inv { s with shutdownFlag := true, calls := s.calls ++ [⟨s.sent.length, none⟩] } where
  queue := hinv.queue
  inOrder := hinv.inOrder
  batch := hinv.batch
  small := hinv.small
  last := hinv.last
  before call hcall := by
    rcases List.mem_append.mp hcall with hcall | hcall
    · exact hinv.before call hcall
    · rw [List.mem_singleton.mp hcall]
  all hleft call hcall hresult := by
    rcases List.mem_append.mp hcall with hcall | hcall
    · exact hinv.all hleft call hcall hresult
    · -- the new call: all that was sent has been passed on
      rw [List.mem_singleton.mp hcall]
      rcases hleft with hmode | hmode
      · rw [hinv.last hmode] at hopen
        cases hopen
      · exact (hempty hmode).ge
  ok call hcall hok := by
    rcases List.mem_append.mp hcall with hcall | hcall
    · exact hinv.ok call hcall hok
    · rw [List.mem_singleton.mp hcall] at hok
      cases hok

/-- A waiting call returns, with `Ok` only if the batcher has finished. -/
theorem inv_set_call (hinv : Inv s) {i before : ℕ} {result : Bool}
    (hi : s.calls[i]? = some ⟨before, none⟩) (hok : result = true → s.mode = .finished) :
    Inv { s with calls := s.calls.set i ⟨before, some result⟩ } where
  queue := hinv.queue
  inOrder := hinv.inOrder
  batch := hinv.batch
  small := hinv.small
  last := hinv.last
  before := before_set_call hinv hi
  all hleft call hcall hresult := by
    rcases mem_set_call hi hcall with hcall | ⟨-, hcall⟩
    · exact hinv.all hleft call hcall hresult
    · exact hinv.all hleft ⟨call.before, none⟩ hcall (by simp)
  ok call hcall hresult := by
    rcases mem_set_call hi hcall with hcall | ⟨hset, -⟩
    · exact hinv.ok call hcall hresult
    · exact hok (Option.some.inj (hset.symm.trans hresult))

theorem inv_step (hinv : Inv s) (hempty : s.Empties a) (h : s.step a = some s') : Inv s' := by
  -- the modes other than these two are those of the loop
  have hnot : ∀ {m : Mode}, s.mode = m → m ≠ .flushingLast → m ≠ .finished → ¬ s.left := by
    rintro m rfl h₁ h₂ (h | h)
    · exact h₁ h
    · exact h₂ h
  cases step_cases h with
  | enqueue => exact inv_enqueue hinv _
  | @receive t rest hmode hch hsmall =>
    -- a task moves from the channel to the batch
    refine inv_of_running hinv rfl rfl ?_ (hnot hmode (by decide) (by decide)) ?_ ?_ ?_
    · exact hnot hmode (by decide) (by decide)
    · show s.passed ++ (s.batch ++ [t] ++ rest) = s.passed ++ (s.batch ++ s.channel)
      rw [hch, List.append_assoc]
      rfl
    · exact fun h => absurd hmode h
    · show (s.batch ++ [t]).length < maxBatch
      rw [List.length_append]
      exact hsmall
  | @full t rest hmode hch hfull =>
    -- the task is the last of a batch, which is passed on with it
    refine inv_of_running hinv rfl rfl ?_ (hnot hmode (by decide) (by decide)) ?_ ?_ ?_
    · rintro (h | h) <;> cases h
    · show (s.flushed ++ [s.batch ++ [t]]).flatten ++ ([] ++ rest) =
        s.passed ++ (s.batch ++ s.channel)
      rw [hch, passed]
      simp
    · exact fun _ => rfl
    · exact Nat.zero_lt_succ 9
  | close hmode hch hclosed =>
    -- the loop is left with an empty channel, so the last batch is all that waits
    have hrun := hnot hmode (by decide) (by decide)
    refine inv_of_leaving hinv hrun (fun _ => hclosed) ?_
    intro call hcall _
    have hsent := hinv.queue hrun
    rw [queue, hch, List.append_nil] at hsent
    rw [← List.length_append, hsent]
    exact hinv.before call hcall
  | tick hmode =>
    refine inv_of_running hinv (flushBatch_sent _ _ _) (flushBatch_calls _ _ _) ?_
      (hnot hmode (by decide) (by decide)) ?_ (fun _ => flushBatch_batch _ _ _) ?_
    · rintro (h | h) <;>
        rcases flushBatch_mode s .flushingTick .check with h' | h' <;> simp [h, h'] at *
    · rw [queue, flushBatch_passed, flushBatch_batch, flushBatch_channel, queue,
        List.append_assoc, List.nil_append]
    · rw [flushBatch_batch]
      exact Nat.zero_lt_succ 9
  | resume hmode =>
    -- back to the select, on to the flag, or out of the loop
    rcases hmode with ⟨hmode, rfl⟩ | ⟨hmode, rfl⟩ | ⟨hmode, rfl⟩
    · refine inv_of_running hinv rfl rfl ?_ (hnot hmode (by decide) (by decide)) rfl
        (fun h => absurd rfl h) hinv.small
      rintro (h | h) <;> cases h
    · refine inv_of_running hinv rfl rfl ?_ (hnot hmode (by decide) (by decide)) rfl
        (fun _ => hinv.batch (by rw [hmode]; decide)) hinv.small
      rintro (h | h) <;> cases h
    · exact ⟨fun h => absurd (Or.inr rfl) h, hinv.inOrder,
        fun _ => hinv.batch (by rw [hmode]; decide), hinv.small, (fun h => by cases h), hinv.before,
        fun _ => hinv.all (Or.inl hmode), fun _ _ _ => rfl⟩
  | stay hmode hflag =>
    refine inv_of_running hinv rfl rfl ?_ (hnot hmode (by decide) (by decide)) rfl
      (fun h => absurd rfl h) hinv.small
    rintro (h | h) <;> cases h
  | leave hmode hflag =>
    -- the channel may still hold tasks, but by `hempty` no call waits for one of them
    have hrun := hnot hmode (by decide) (by decide)
    have hbatch : s.batch = [] := hinv.batch (by rw [hmode]; decide)
    refine inv_of_leaving hinv hrun (fun h => absurd hbatch h) ?_
    intro call hcall hnone
    have hsent := congrArg List.length (hinv.queue hrun)
    have hbefore := hempty hflag call hcall hnone
    rw [queue, hbatch, List.nil_append, List.length_append] at hsent
    omega
  | flush hopen => exact inv_new_call hinv hempty hopen
  | poll hmode hi => exact inv_set_call hinv hi fun _ => hmode
  | timeout hi => exact inv_set_call hinv hi fun h => (by cases h)
  | drop =>
    exact ⟨hinv.queue, hinv.inOrder, hinv.batch, hinv.small, fun _ => rfl, hinv.before, hinv.all,
      hinv.ok⟩

/-- A flush that returns `Ok` has passed on every task that was enqueued before it, once and in
order, in every schedule in which no tick finds the flag too early. -/
theorem flush_loses_nothing {actions : List (BatcherAction τ)} {s : Batcher τ}
    (hempty : Transition.Along step Empties init actions)
    (hrun : Transition.run step init actions = some s) : s.LosesNothing := by
  have hinv : Inv s := Transition.inv_of_run (fun hs hp h => inv_step hs hp h) inv_init hempty hrun
  refine ⟨hinv.inOrder, ?_⟩
  intro call hcall hok
  have hlen := hinv.all (Or.inr (hinv.ok call hcall hok)) call hcall (by rw [hok]; decide)
  obtain ⟨rest, hrest⟩ := hinv.inOrder
  rw [← hrest, List.take_append_of_le_length hlen]
  exact List.take_prefix _ _

open Sample

/-- The tick comes before the batcher has received the task. -/
def earlyTick : List (BatcherAction BackgroundTask) :=
  [.enqueue (.leadCreation ((ping true).leadCreation new)), .flush, .tick, .check, .poll 0]

/-- The flush returns `Ok`, and the task was never passed on. -/
theorem early_tick_loses_task :
    ∃ s : Batcher BackgroundTask, Transition.run step init earlyTick = some s ∧
      s.calls = [⟨1, some true⟩] ∧ s.sent.length = 1 ∧ s.passed = [] ∧ ¬ s.LosesNothing := by
  refine ⟨_, rfl, rfl, rfl, rfl, ?_⟩
  intro h
  have hprefix := (h.all ⟨1, some true⟩ List.mem_cons_self rfl).length_le
  exact absurd hprefix (by decide)

/-- The task is received before the tick. -/
def lateTick : List (BatcherAction BackgroundTask) :=
  [.enqueue (.leadCreation ((ping true).leadCreation new)), .flush, .recv, .tick, .flushed,
    .check, .poll 0]

theorem flush_loses_nothing_received :
    ∃ s : Batcher BackgroundTask, Transition.run step init lateTick = some s ∧
      s.calls = [⟨1, some true⟩] ∧ s.LosesNothing := by
  have hempty : Transition.Along step Empties init lateTick := by decide
  exact ⟨_, rfl, rfl, flush_loses_nothing hempty rfl⟩

/-! ### The batcher as the service sees it -/

/-- A flush takes the batch, if there is one, from the front of the queue. -/
theorem flushBatch_takes (hsmall : s.batch.length < maxBatch) (during after : Mode) :
    ((s.flushBatch during after).queue = s.queue ∧
      (s.flushBatch during after).flushed = s.flushed) ∨
    ∃ n, 0 < n ∧ n ≤ maxBatch ∧ n ≤ s.queue.length ∧
      (s.flushBatch during after).queue = s.queue.drop n ∧
      (s.flushBatch during after).flushed = s.flushed ++ [s.queue.take n] := by
  rw [flushBatch]
  split
  · exact Or.inl ⟨rfl, rfl⟩
  · next hne =>
    have hpos : 0 < s.batch.length := by
      rw [List.length_pos_iff]
      exact fun h => hne (List.isEmpty_iff.mpr h)
    refine Or.inr ⟨s.batch.length, hpos, hsmall.le, ?_, ?_, ?_⟩
    · rw [queue, List.length_append]
      exact Nat.le_add_right _ _
    · rw [queue, queue, List.drop_left]
      rfl
    · rw [queue, List.take_left]

/-- As long as the batcher runs, a step adds tasks to the back of the queue, or takes up to ten
tasks from its front. -/
theorem batcher_takes (hinv : Inv s) (hrun : ¬ s.left) (h : s.step a = some s') :
    (∃ ts, s'.queue = s.queue ++ ts ∧ s'.flushed = s.flushed) ∨
      ∃ n, 0 < n ∧ n ≤ maxBatch ∧ n ≤ s.queue.length ∧ s'.queue = s.queue.drop n ∧
        s'.flushed = s.flushed ++ [s.queue.take n] := by
  have hsame : ∀ {s' : Batcher τ}, s'.queue = s.queue ∧ s'.flushed = s.flushed →
      ∃ ts, s'.queue = s.queue ++ ts ∧ s'.flushed = s.flushed :=
    fun h => ⟨[], by rw [h.1, List.append_nil], h.2⟩
  cases step_cases h with
  -- tasks come at the end of the queue, and batches leave from its front
  | @enqueue t hopen =>
    refine Or.inl ⟨[t], ?_, rfl⟩
    show s.batch ++ (if s.mode = .finished then _ else _) = _
    rw [if_neg (fun h => hrun (Or.inr h)), queue, List.append_assoc]
  | @receive t rest hmode hch hsmall =>
    refine Or.inl (hsame ⟨?_, rfl⟩)
    show s.batch ++ [t] ++ rest = s.batch ++ s.channel
    rw [hch, List.append_assoc]
    rfl
  | @full t rest hmode hch hfull =>
    -- the full batch is the front of the queue
    have hqueue : s.queue = (s.batch ++ [t]) ++ rest := by
      rw [queue, hch, List.append_assoc]
      rfl
    have hlen : (s.batch ++ [t]).length = s.batch.length + 1 := by simp
    have hsmall := hinv.small
    refine Or.inr ⟨(s.batch ++ [t]).length, by omega, by omega, ?_, ?_, ?_⟩
    · rw [hqueue]
      exact (List.prefix_append _ _).length_le
    · rw [hqueue, List.drop_left]
      rfl
    · rw [hqueue, List.take_left]
  | close | tick | leave => exact (flushBatch_takes hinv.small _ _).imp_left hsame
  | _ => exact Or.inl (hsame ⟨rfl, rfl⟩)

end Batcher

end LeadsNebula
