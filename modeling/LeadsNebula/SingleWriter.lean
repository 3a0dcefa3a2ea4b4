/-
A lead that one request writes.

When a single request leads to statements for a lead, and runs none of them
itself, the statements wait in line: those of the current batch, those of the
queue, and those the request has yet to enqueue (`Sys.line`).  Batches do not
matter: however the queue is cut into batches, the statements for the lead run
in the order of the line.

* `lineStep` — all that a step can do to the line;
* `line_step` — a step leaves the line as it is, or runs its first statement;
* `alone_step` — the lead stays with its one writer, as long as no other
  request comes in for it;
* `inLine_step` — what the request runs itself, before it leaves anything to the
  queue, stays in line.
-/
import LeadsNebula.System

namespace LeadsNebula

/-! ### The line -/

/-- The statements for lead `l` of a list. -/
def onLead (l : Uuid) (sts : List LeadStatement) : List LeadStatement :=
  sts.filter fun st => st.leadId = l

theorem onLead_append (l : Uuid) (sts sts' : List LeadStatement) :
    onLead l (sts ++ sts') = onLead l sts ++ onLead l sts' := List.filter_append ..

theorem mem_onLead {l : Uuid} {sts : List LeadStatement} {st : LeadStatement} :
    st ∈ onLead l sts ↔ st ∈ sts ∧ st.leadId = l := by
  rw [onLead, List.mem_filter, decide_eq_true_iff]

theorem onLead_eq_nil {l : Uuid} {sts : List LeadStatement} (h : ∀ st ∈ sts, st.leadId ≠ l) :
    onLead l sts = [] := by
  refine List.filter_eq_nil_iff.mpr ?_
  intro st hst
  rw [decide_eq_true_iff]
  exact h st hst

theorem onLead_eq_self {l : Uuid} {sts : List LeadStatement} (h : ∀ st ∈ sts, st.leadId = l) :
    onLead l sts = sts := by
  refine List.filter_eq_self.mpr ?_
  intro st hst
  rw [decide_eq_true_iff]
  exact h st hst

theorem onLead_cons_of_eq {l : Uuid} {st : LeadStatement} (h : st.leadId = l)
    (sts : List LeadStatement) : onLead l (st :: sts) = st :: onLead l sts :=
  List.filter_cons_of_pos (decide_eq_true h)

theorem onLead_cons_of_ne {l : Uuid} {st : LeadStatement} (h : st.leadId ≠ l)
    (sts : List LeadStatement) : onLead l (st :: sts) = onLead l sts :=
  List.filter_cons_of_neg (by rw [decide_eq_true_iff]; exact h)

namespace Sys

variable [StdText]

/-- What request `i` has yet to do. -/
def todo (s : Sys) (i : ℕ) : List Effect := (s.threads[i]?).elim [] Thread.todo

/-- The statements for lead `l` that wait in the current batch and in the queue. -/
def front (s : Sys) (l : Uuid) : List LeadStatement :=
  onLead l s.flushing ++ onLead l (s.queue.flatMap BackgroundTask.statements)

/-- The statements for lead `l` that wait in the current batch, in the queue, and with
request `i`. -/
def line (s : Sys) (i : ℕ) (l : Uuid) : List LeadStatement :=
  s.front l ++ onLead l ((s.todo i).flatMap Effect.statements)

/-- Apart from the queue and the current batch, only request `i` leads to statements for lead
`l`, and it spawns none of them. -/
structure Alone (s : Sys) (i : ℕ) (l : Uuid) : Prop where
  lt : i < s.threads.length
  spawned : ∀ st ∈ s.spawned, st.leadId ≠ l
  spawns : ∀ st, .spawn st ∈ s.todo i → st.leadId ≠ l
  others : ∀ j, j ≠ i → ∀ e ∈ s.todo j, ∀ st ∈ e.statements, st.leadId ≠ l

/-- If the action is a statement for lead `l` that request `i` runs itself, none waits before
it. -/
def InTurn (s : Sys) (i : ℕ) (l : Uuid) (a : Action) : Prop :=
  a = .effect i true → ∀ st todo, s.todo i = .exec st :: todo → st.leadId = l → s.front l = []

/-- An action by which no request comes in for lead `l`: it brings no new effect for the lead,
and it does not claim it. -/
def Untouched (l : Uuid) (s : Sys) (a : Action) : Prop :=
  (∀ e ∈ s.newEffects a, ∀ st ∈ e.statements, st.leadId ≠ l) ∧
    ∀ st ∈ s.executed a, st.isClaim = true → st.leadId ≠ l

instance (l : Uuid) (s : Sys) (a : Action) : Decidable (Untouched l s a) :=
  inferInstanceAs (Decidable ((∀ e ∈ s.newEffects a, ∀ st ∈ e.statements, st.leadId ≠ l) ∧
    ∀ st ∈ s.executed a, st.isClaim = true → st.leadId ≠ l))

/-- Nothing waits for lead `l`. -/
def Quiet (s : Sys) (l : Uuid) : Prop :=
  (∀ st ∈ s.flushing, st.leadId ≠ l) ∧ (∀ t ∈ s.queue, ∀ st ∈ t.statements, st.leadId ≠ l) ∧
    (∀ st ∈ s.spawned, st.leadId ≠ l) ∧
    ∀ th ∈ s.threads, ∀ e ∈ th.todo, ∀ st ∈ e.statements, st.leadId ≠ l

instance (s : Sys) (l : Uuid) : Decidable (s.Quiet l) :=
  inferInstanceAs (Decidable (_ ∧ _ ∧ _ ∧ _))

/-- The queue and the current batch are empty, and request `i` has done all its effects. -/
def Drained (s : Sys) (i : ℕ) : Prop :=
  s.queue.isEmpty = true ∧ s.flushing.isEmpty = true ∧ (s.todo i).isEmpty = true

instance (s : Sys) (i : ℕ) : Decidable (s.Drained i) :=
  inferInstanceAs (Decidable (_ ∧ _ ∧ _))

omit [StdText]

variable {s : Sys} {i j : ℕ} {l : Uuid} {th th₀ : Thread}

theorem Drained.line (h : s.Drained i) (l : Uuid) : s.line i l = [] := by
  obtain ⟨hqueue, hflush, htodo⟩ := h
  rw [Sys.line, front, List.isEmpty_iff.mp hqueue, List.isEmpty_iff.mp hflush,
    List.isEmpty_iff.mp htodo]
  rfl

theorem todo_of_getElem? (hi : s.threads[i]? = some th) : s.todo i = th.todo := by
  rw [todo, hi]
  rfl

theorem todo_setThread (hj : s.threads[j]? = some th₀) :
    (s.setThread j th).todo i = if j = i then th.todo else s.todo i := by
  rw [todo, getElem?_setThread hj]
  split <;> rfl

/-- A request that keeps its effects. -/
theorem todo_setThread_same (hj : s.threads[j]? = some th₀) (hth : th.todo = th₀.todo) :
    (s.setThread j th).todo i = s.todo i := by
  rw [todo_setThread hj]
  split
  · next hji => rw [hth, ← hji, todo_of_getElem? hj]
  · rfl

theorem todo_addThread (hlt : i < s.threads.length) : (s.addThread th).todo i = s.todo i := by
  rw [todo, getElem?_addThread, if_neg (Nat.ne_of_lt hlt)]
  rfl

@[simp] theorem todo_exec {st : LeadStatement} {ok : Bool} : (s.exec st ok).todo i = s.todo i := by
  rw [todo, exec_threads]
  rfl

theorem Quiet.front (h : s.Quiet l) : s.front l = [] := by
  obtain ⟨hflush, hqueue, -, -⟩ := h
  rw [Sys.front, onLead_eq_nil hflush, List.nil_append]
  refine onLead_eq_nil ?_
  intro st hst
  obtain ⟨t, ht, hst⟩ := List.mem_flatMap.mp hst
  exact hqueue t ht st hst

theorem Quiet.todo (h : s.Quiet l) (j : ℕ) : ∀ e ∈ s.todo j,
    ∀ st ∈ e.statements, st.leadId ≠ l := by
  intro e he
  rw [Sys.todo] at he
  cases hth : s.threads[j]? with
  | none =>
    rw [hth] at he
    cases he
  | some th =>
    rw [hth] at he
    exact h.2.2.2 th (List.mem_of_getElem? hth) e he

/-- Where nothing waits, a request that is given effects is the one writer of its lead. -/
theorem Quiet.setThread_alone (h : s.Quiet l) (hi : s.threads[i]? = some th₀)
    (hspawns : ∀ st, .spawn st ∈ th.todo → st.leadId ≠ l) : (s.setThread i th).Alone i l where
  lt := by
    rw [setThread, List.length_set]
    exact (List.getElem?_eq_some_iff.mp hi).1
  spawned := h.2.2.1
  spawns := by
    rw [todo_setThread hi, if_pos rfl]
    exact hspawns
  others := by
    intro j hj
    rw [todo_setThread hi, if_neg (Ne.symm hj)]
    exact h.todo j

theorem todo_addThread_self : (s.addThread th).todo s.threads.length = th.todo := by
  rw [Sys.todo, getElem?_addThread, if_pos rfl]
  rfl

/-- Where nothing waits, a new request is the one writer of its lead. -/
theorem Quiet.addThread_alone (h : s.Quiet l)
    (hspawns : ∀ st, .spawn st ∈ th.todo → st.leadId ≠ l) :
    (s.addThread th).Alone s.threads.length l where
  lt := by
    rw [addThread, List.length_append, List.length_singleton]
    exact Nat.lt_succ_self _
  spawned := h.2.2.1
  spawns := by
    rw [todo_addThread_self]
    exact hspawns
  others := by
    intro j hj
    rw [Sys.todo, getElem?_addThread, if_neg hj]
    exact h.todo j

end Sys

/-! ### Batches keep the order of the line -/

theorem onLead_batch_updates {l : Uuid} {batch : List BackgroundTask}
    (h : ∀ st ∈ onLead l (batch.flatMap BackgroundTask.statements), st.IsUpdate) :
    onLead l (batch.flatMap BackgroundTask.creations) = [] ∧
      onLead l (batch.flatMap BackgroundTask.updates) =
        onLead l (batch.flatMap BackgroundTask.statements) := by
  induction batch with
  | nil => exact ⟨rfl, rfl⟩
  | cons t ts ih =>
    simp only [List.flatMap_cons, onLead_append, List.mem_append] at h ⊢
    obtain ⟨hc, hu⟩ := ih fun st hst => h st (Or.inr hst)
    -- a creation of this lead would be no update
    have ht : onLead l t.creations = [] := by
      refine onLead_eq_nil ?_
      intro st hst hl
      have hup := h st (Or.inl (mem_onLead.mpr ⟨List.mem_append_left _ hst, hl⟩))
      cases t with
      | leadCreation c =>
        rw [List.mem_singleton.mp hst] at hup
        exact hup
      | _ => cases hst
    refine ⟨?_, ?_⟩
    · rw [ht, hc]
      rfl
    · rw [hu, BackgroundTask.statements, onLead_append, ht]
      rfl

/-- If the insertion of a lead comes first, a batch runs the statements for the lead in the
order in which they were enqueued. -/
theorem onLead_flushBatch {l : Uuid} {batch : List BackgroundTask}
    (h : ∀ st ∈ (onLead l (batch.flatMap BackgroundTask.statements)).tail, st.IsUpdate) :
    onLead l (flushBatch batch) = onLead l (batch.flatMap BackgroundTask.statements) := by
  induction batch with
  | nil => rfl
  | cons t ts ih =>
    rw [flushBatch, onLead_append] at ih ⊢
    simp only [List.flatMap_cons, onLead_append] at h ⊢
    by_cases ht : onLead l t.statements = []
    · -- the task is not for this lead
      rw [BackgroundTask.statements, onLead_append, List.append_eq_nil_iff] at ht
      rw [BackgroundTask.statements, onLead_append, ht.1, ht.2, List.nil_append] at h ⊢
      rw [List.nil_append, List.nil_append]
      exact ih h
    · -- the statements after this task are updates
      obtain ⟨st, sts, hst⟩ := List.exists_cons_of_ne_nil ht
      have hts : ∀ st ∈ onLead l (ts.flatMap BackgroundTask.statements), st.IsUpdate := by
        intro st' hst'
        refine h st' ?_
        rw [hst]
        exact List.mem_append_right _ hst'
      obtain ⟨hc, hu⟩ := onLead_batch_updates hts
      rw [hc, hu, BackgroundTask.statements, onLead_append, List.append_nil, List.append_assoc]

/-! ### One step -/

section Step

variable [StdText] {s s' : Sys} {a : Action} {i : ℕ} {l : Uuid}

/-- An effect that a request has yet to do was there before, or is new. -/
theorem mem_todo_step (h : Step s a s') (j : ℕ) :
    ∀ e ∈ s'.todo j, e ∈ s.todo j ∨ e ∈ s.newEffects a := by
  intro e he
  -- a request whose effects are among those it had
  have hset : ∀ {k : ℕ} {th₀ th : Thread}, e ∈ (s.setThread k th).todo j →
      s.threads[k]? = some th₀ → th.todo ⊆ th₀.todo → e ∈ s.todo j := by
    intro k th₀ th hmem hk hsub
    rw [Sys.todo_setThread hk] at hmem
    split at hmem
    · next hkj =>
      rw [← hkj, Sys.todo_of_getElem? hk]
      exact hsub hmem
    · exact hmem
  cases h with
  | tick | evict => exact Or.inl he
  | submit htype hnew =>
    rw [Sys.todo, Sys.getElem?_addThread] at he
    split at he
    · exact Or.inr he
    · exact Or.inl he
  | arrive =>
    rw [Sys.todo, Sys.getElem?_addThread] at he
    split at he
    · cases he
    · exact Or.inl he
  | read hi hread =>
    obtain ⟨cache, hstore, -⟩ := Sys.store_eq s _ _ _
    rw [hstore] at he
    exact Or.inl (hset he hi (List.Subset.refl _))
  | refuse hi => exact Or.inl (hset he hi (List.Subset.refl _))
  | claimed hi hfresh haff =>
    rw [Sys.todo_exec] at he
    exact Or.inl (hset he hi (List.Subset.refl _))
  | unclaimed hi hno => exact Or.inl (hset he hi (List.Subset.refl _))
  | route hi =>
    rw [Sys.todo_setThread hi] at he
    split at he
    · next hij =>
      rw [← hij, Sys.todo_of_getElem? hi]
      rcases List.mem_append.mp he with he | he
      · exact Or.inl he
      · refine Or.inr ?_
        simp only [Sys.newEffects, hi]
        exact he
    · exact Or.inl he
  | exec hi =>
    rw [Sys.todo_exec] at he
    exact Or.inl (hset he hi (List.subset_cons_self _ _))
  | execFailed hi => exact Or.inl (hset he hi (List.nil_subset _))
  | enqueue hi => exact Or.inl (hset he hi (List.subset_cons_self _ _))
  | spawn hi => exact Or.inl (hset he hi (List.subset_cons_self _ _))
  | take hidle => exact Or.inl he
  | apply hst =>
    rw [Sys.todo_exec] at he
    exact Or.inl he
  | spawned hst =>
    rw [Sys.todo_exec] at he
    exact Or.inl he

/-- A spawned statement was spawned before, or a request spawns it now. -/
theorem mem_spawned_step (h : Step s a s') {st : LeadStatement} (hst : st ∈ s'.spawned) :
    st ∈ s.spawned ∨ ∃ j, .spawn st ∈ s.todo j := by
  cases h with
  | read hi hread =>
    obtain ⟨cache, hstore, -⟩ := Sys.store_eq s _ _ _
    rw [hstore] at hst
    exact Or.inl hst
  | @spawn j ok stage st₀ todo hj =>
    rcases List.mem_append.mp hst with hst | hst
    · exact Or.inl hst
    · refine Or.inr ⟨j, ?_⟩
      rw [Sys.todo_of_getElem? hj, List.mem_singleton.mp hst]
      exact List.mem_cons_self
  | claimed | exec | apply =>
    rw [Sys.exec_spawned] at hst
    exact Or.inl hst
  | spawned hst' =>
    rw [Sys.exec_spawned] at hst
    exact Or.inl (List.mem_of_mem_eraseIdx hst)
  | _ => exact Or.inl hst

theorem alone_step (h : Step s a s') (halone : s.Alone i l) (hun : Sys.Untouched l s a) :
    s'.Alone i l := by
  have hstatements : ∀ {e : Effect} {st : LeadStatement}, e = .spawn st → st ∈ e.statements := by
    rintro e st rfl
    exact List.mem_singleton_self st
  refine ⟨?_, ?_, ?_, ?_⟩
  · obtain ⟨th', hi', -⟩ := step_advance h (List.getElem?_eq_getElem halone.lt)
    exact (List.getElem?_eq_some_iff.mp hi').1
  · intro st hst
    rcases mem_spawned_step h hst with hst | ⟨j, hj⟩
    · exact halone.spawned st hst
    · by_cases hji : j = i
      · exact halone.spawns st (hji ▸ hj)
      · exact halone.others j hji _ hj st (hstatements rfl)
  · intro st hst
    rcases mem_todo_step h i _ hst with hst | hst
    · exact halone.spawns st hst
    · exact hun.1 _ hst st (hstatements rfl)
  · intro j hj e he st hst
    rcases mem_todo_step h j e he with he | he
    · exact halone.others j hj e he st hst
    · exact hun.1 e he st hst

omit [StdText] in
/-- The next batch takes the first tasks of the queue and keeps the line. -/
theorem front_take {n : ℕ} (hidle : s.flushing = [])
    (hup : ∀ st ∈ (s.line i l).tail, st.IsUpdate) :
    onLead l (flushBatch (s.queue.take n)) ++
      onLead l ((s.queue.drop n).flatMap BackgroundTask.statements) = s.front l := by
  -- the queue is the batch and what is left of it
  have hcut : onLead l (s.queue.flatMap BackgroundTask.statements) =
      onLead l ((s.queue.take n).flatMap BackgroundTask.statements) ++
        onLead l ((s.queue.drop n).flatMap BackgroundTask.statements) := by
    rw [← onLead_append, ← List.flatMap_append, List.take_append_drop]
  have hnil : onLead l s.flushing = [] := by
    rw [hidle]
    rfl
  rw [Sys.line, Sys.front, hnil, List.nil_append, hcut] at hup
  rw [Sys.front, hnil, List.nil_append, hcut]
  congr 1
  -- after the first statement for the lead there are updates only
  refine onLead_flushBatch ?_
  intro st hst
  refine hup st ?_
  cases hbatch : onLead l ((s.queue.take n).flatMap BackgroundTask.statements) with
  | nil =>
    rw [hbatch] at hst
    cases hst
  | cons st₀ sts =>
    rw [hbatch] at hst
    exact List.mem_append_left _ (List.mem_append_left _ hst)

omit [StdText] in
theorem front_enqueue {t : BackgroundTask} {th : Thread} {j : ℕ} :
    ({ s.setThread j th with queue := s.queue ++ [t] } : Sys).front l =
      s.front l ++ onLead l t.statements := by
  show onLead l s.flushing ++ onLead l ((s.queue ++ [t]).flatMap _) = _
  rw [List.flatMap_append, onLead_append, List.flatMap_singleton, Sys.front, List.append_assoc]

/-- What a step does to the line of lead `l`: to what waits in front, and to what request `i`
has yet to do. -/
inductive LineStep (s s' : Sys) (a : Action) (i : ℕ) (l : Uuid) : Prop
  | wait (hf : s'.front l = s.front l) (ht : s'.todo i = s.todo i)
      (hex : ∀ st ∈ s.executed a, st.leadId ≠ l)
  | routed {new : List Effect} (hf : s'.front l = s.front l) (ht : s'.todo i = s.todo i ++ new)
      (hnew : ∀ e ∈ new, ∀ st ∈ e.statements, st.leadId ≠ l)
      (hex : ∀ st ∈ s.executed a, st.leadId ≠ l)
  | exec {st : LeadStatement} {todo : List Effect} (ha : a = .effect i true)
      (hs : s.todo i = .exec st :: todo) (hf : s'.front l = s.front l) (ht : s'.todo i = todo)
      (hex : s.executed a = some st)
  | enqueue {t : BackgroundTask} {todo : List Effect} (hs : s.todo i = .enqueue t :: todo)
      (hf : s'.front l = s.front l ++ onLead l t.statements) (ht : s'.todo i = todo)
      (hex : ∀ st ∈ s.executed a, st.leadId ≠ l)
  | spawn {st : LeadStatement} {todo : List Effect} (hs : s.todo i = .spawn st :: todo)
      (hl : st.leadId ≠ l) (hf : s'.front l = s.front l) (ht : s'.todo i = todo)
      (hex : ∀ st ∈ s.executed a, st.leadId ≠ l)
  | apply {st : LeadStatement} (hf : s.front l = st :: s'.front l) (ht : s'.todo i = s.todo i)
      (hex : s.executed a = some st) (hl : st.leadId = l)

theorem lineStep (h : Step s a s') (halone : s.Alone i l) (hun : Sys.Untouched l s a)
    (hok : a.succeeds = true) (hup : ∀ st ∈ (s.line i l).tail, st.IsUpdate) :
    LineStep s s' a i l := by
  have hnone : ∀ {o : Option LeadStatement}, o = none → ∀ st ∈ o, st.leadId ≠ l := by
    intro o ho st hst
    rw [ho] at hst
    cases hst
  have hsome : ∀ {o : Option LeadStatement} {st : LeadStatement}, o = some st → st.leadId ≠ l →
      ∀ st ∈ o, st.leadId ≠ l := by
    intro o st ho hl st' hst'
    rw [ho, Option.mem_some_iff] at hst'
    exact hst' ▸ hl
  -- the effects of another request are not for this lead
  have hother : ∀ {j : ℕ} {th : Thread} {e : Effect}, j ≠ i → s.threads[j]? = some th →
      e ∈ th.todo → ∀ st ∈ e.statements, st.leadId ≠ l := by
    intro j th e hji hj he
    exact halone.others j hji e (Sys.todo_of_getElem? hj ▸ he)
  have hskip : ∀ {j : ℕ} {th₀ th : Thread}, j ≠ i → s.threads[j]? = some th₀ →
      (s.setThread j th).todo i = s.todo i := by
    intro j th₀ th hji hj
    rw [Sys.todo_setThread hj, if_neg hji]
  cases h with
  | tick | evict => exact .wait rfl rfl (hnone rfl)
  | submit htype hnew => exact .wait rfl (Sys.todo_addThread halone.lt) (hnone rfl)
  | arrive => exact .wait rfl (Sys.todo_addThread halone.lt) (hnone rfl)
  | read hi hread =>
    obtain ⟨cache, hstore, -⟩ := Sys.store_eq s _ _ _
    rw [hstore]
    exact .wait rfl (Sys.todo_setThread_same hi rfl) (hnone rfl)
  | refuse hi => exact .wait rfl (Sys.todo_setThread_same hi rfl) (hnone rfl)
  | claimed hi hfresh haff =>
    -- no claim of this lead is made any more, so the one that runs is of another
    refine .wait rfl (Sys.todo_exec.trans (Sys.todo_setThread_same hi rfl)) ?_
    intro st hst
    have hclaim : st.isClaim = true := by
      simp only [Sys.executed, hi, haff, if_true] at hst
      rw [← Option.some_inj.mp hst]
      rfl
    exact hun.2 st hst hclaim
  | unclaimed hi hno =>
    -- the statement does not fail, so it has found no row and counts as not run
    refine .wait rfl (Sys.todo_setThread_same hi rfl) (hnone ?_)
    cases hok
    rw [Bool.true_and] at hno
    simp only [Sys.executed, hi, hno]
    rfl
  | @route j env timing p todo hi =>
    by_cases hji : j = i
    · subst hji
      have htodo : (s.setThread j ⟨.routed p ((p.req.postRouter p.lead).route env).result,
          todo ++ p.req.postEffects p.lead p.token s.now env timing⟩).todo j =
          s.todo j ++ p.req.postEffects p.lead p.token s.now env timing := by
        rw [Sys.todo_setThread hi, if_pos rfl, Sys.todo_of_getElem? hi]
      refine .routed rfl htodo ?_ (hnone rfl)
      intro e he
      refine hun.1 e ?_
      simp only [Sys.newEffects, hi]
      exact he
    · exact .wait rfl (hskip hji hi) (hnone rfl)
  | @exec j stage st todo hi =>
    have hex : s.executed (.effect j true) = some st := by
      simp only [Sys.executed, hi]
    by_cases hji : j = i
    · subst hji
      exact .exec rfl (Sys.todo_of_getElem? hi) rfl
        (Sys.todo_exec.trans ((Sys.todo_setThread hi).trans (if_pos rfl))) hex
    · have hl := hother hji hi List.mem_cons_self st (List.mem_singleton_self st)
      exact .wait rfl (Sys.todo_exec.trans (hskip hji hi)) (hsome hex hl)
  | execFailed hi => cases hok
  | @enqueue j ok stage t todo hi =>
    have hex : s.executed (.effect j ok) = none := by
      cases hok
      simp only [Sys.executed, hi]
    by_cases hji : j = i
    · subst hji
      exact .enqueue (Sys.todo_of_getElem? hi) front_enqueue
        ((Sys.todo_setThread hi).trans (if_pos rfl)) (hnone hex)
    · have ht : onLead l t.statements = [] :=
        onLead_eq_nil (hother hji hi List.mem_cons_self)
      refine .wait ?_ (hskip hji hi) (hnone hex)
      rw [front_enqueue, ht, List.append_nil]
  | @spawn j ok stage st todo hi =>
    have hex : s.executed (.effect j ok) = none := by
      cases hok
      simp only [Sys.executed, hi]
    by_cases hji : j = i
    · subst hji
      have hl : st.leadId ≠ l := by
        refine halone.spawns st ?_
        rw [Sys.todo_of_getElem? hi]
        exact List.mem_cons_self
      exact .spawn (Sys.todo_of_getElem? hi) hl rfl
        ((Sys.todo_setThread hi).trans (if_pos rfl)) (hnone hex)
    · exact .wait rfl (hskip hji hi) (hnone hex)
  | take hidle =>
    -- a flush puts creations first, but behind its first statement the lead has updates only
    exact .wait (front_take hidle hup) rfl (hnone rfl)
  | @apply ok st rest hst =>
    cases hok
    have hex : s.executed (.apply true) = some st := by
      simp only [Sys.executed, hst, List.head?_cons]
    have hfront : s.front l = onLead l (st :: rest) ++
        onLead l (s.queue.flatMap BackgroundTask.statements) := by
      rw [Sys.front, hst]
    by_cases hl : st.leadId = l
    · refine .apply ?_ Sys.todo_exec hex hl
      rw [hfront, onLead_cons_of_eq hl]
      rfl
    · refine .wait ?_ Sys.todo_exec (hsome hex hl)
      rw [hfront, onLead_cons_of_ne hl]
      rfl
  | @spawned k ok st hst =>
    cases hok
    have hex : s.executed (.spawned k true) = some st := by
      simp only [Sys.executed, hst]
    exact .wait rfl Sys.todo_exec
      (hsome hex (halone.spawned st (List.mem_of_getElem? hst)))

/-- A step leaves the line of a lead with one writer as it is, or runs its first statement. -/
theorem line_step (h : Step s a s') (halone : s.Alone i l) (hun : Sys.Untouched l s a)
    (hturn : s.InTurn i l a) (hok : a.succeeds = true)
    (hup : ∀ st ∈ (s.line i l).tail, st.IsUpdate) :
    (s'.line i l = s.line i l ∧ ∀ st ∈ s.executed a, st.leadId ≠ l) ∨
      ∃ st, s.executed a = some st ∧ st.leadId = l ∧ s.line i l = st :: s'.line i l := by
  have hskip : ∀ {e : Effect} {es : List Effect}, (∀ st ∈ e.statements, st.leadId ≠ l) →
      onLead l ((e :: es).flatMap Effect.statements) = onLead l (es.flatMap Effect.statements) := by
    intro e es he
    rw [List.flatMap_cons, onLead_append, onLead_eq_nil he, List.nil_append]
  rw [Sys.line, Sys.line]
  cases lineStep h halone hun hok hup with
  | wait hf ht hex =>
    rw [hf, ht]
    exact Or.inl ⟨rfl, hex⟩
  | @routed new hf ht hnew hex =>
    have hnil : onLead l (new.flatMap Effect.statements) = [] := by
      refine onLead_eq_nil ?_
      intro st hst
      obtain ⟨e, he, hst⟩ := List.mem_flatMap.mp hst
      exact hnew e he st hst
    rw [hf, ht, List.flatMap_append, onLead_append, hnil, List.append_nil]
    exact Or.inl ⟨rfl, hex⟩
  | @exec st todo ha hs hf ht hex =>
    rw [hf, ht, hs]
    by_cases hl : st.leadId = l
    · -- the request runs the statement itself: nothing may wait before it
      refine Or.inr ⟨st, hex, hl, ?_⟩
      rw [hturn ha st todo hs hl]
      exact onLead_cons_of_eq hl _
    · refine Or.inl ⟨?_, ?_⟩
      · have hst : ∀ st' ∈ (Effect.exec st).statements, st'.leadId ≠ l :=
          fun st' hst' => List.mem_singleton.mp hst' ▸ hl
        rw [hskip hst]
      · intro st' hst'
        rw [hex, Option.mem_some_iff] at hst'
        exact hst' ▸ hl
  | @enqueue t todo hs hf ht hex =>
    -- the task moves from the request to the queue
    refine Or.inl ⟨?_, hex⟩
    rw [hf, ht, hs, List.append_assoc, ← onLead_append]
    rfl
  | @spawn st todo hs hl hf ht hex =>
    have hst : ∀ st' ∈ (Effect.spawn st).statements, st'.leadId ≠ l :=
      fun st' hst' => List.mem_singleton.mp hst' ▸ hl
    refine Or.inl ⟨?_, hex⟩
    rw [hf, ht, hs, hskip hst]
  | apply hf ht hex hl =>
    rw [ht, hf]
    exact Or.inr ⟨_, hex, hl, rfl⟩

/-! ### What the request runs itself -/

/-- What request `i` runs itself for lead `l` comes before all that it leaves to the queue, and
nothing waits for the lead before it. -/
def Sys.InLine (s : Sys) (i : ℕ) (l : Uuid) : Prop :=
  ∀ pre st post, s.todo i = pre ++ .exec st :: post → st.leadId = l →
    s.front l = [] ∧ onLead l (pre.flatMap Effect.statements) = []

omit [StdText] in
theorem Sys.InLine.inTurn (h : s.InLine i l) (a : Action) : s.InTurn i l a :=
  fun _ st todo htodo hl => (h [] st todo htodo hl).1

omit [StdText] in
/-- The request does its first effect, which may leave statements to the queue. -/
theorem inLine_cons {e : Effect} {todo : List Effect} (h : s.InLine i l)
    (hs : s.todo i = e :: todo) (hf : s.front l = [] → onLead l e.statements = [] →
      s'.front l = []) (ht : s'.todo i = todo) : s'.InLine i l := by
  intro pre st post hpre hl
  rw [ht] at hpre
  obtain ⟨hfront, hon⟩ := h (e :: pre) st post (by rw [hs, hpre]; rfl) hl
  rw [List.flatMap_cons, onLead_append, List.append_eq_nil_iff] at hon
  exact ⟨hf hfront hon.1, hon.2⟩

theorem inLine_step (h : Step s a s') (halone : s.Alone i l) (hun : Sys.Untouched l s a)
    (hok : a.succeeds = true) (hup : ∀ st ∈ (s.line i l).tail, st.IsUpdate)
    (hin : s.InLine i l) : s'.InLine i l := by
  cases lineStep h halone hun hok hup with
  | wait hf ht hex =>
    rw [Sys.InLine, hf, ht]
    exact hin
  | @routed new hf ht hnew hex =>
    -- what the request runs itself for the lead is not among its new effects
    intro pre st post hpre hl
    have hold : Effect.exec st ∉ new := fun hmem =>
      hnew _ hmem st (List.mem_singleton_self st) hl
    rw [ht] at hpre
    rw [hf]
    rcases List.append_eq_append_iff.mp hpre with ⟨mid, -, hmid⟩ | ⟨mid, hmid, hmid'⟩
    · rw [hmid] at hold
      exact absurd (List.mem_append_right _ List.mem_cons_self) hold
    · cases mid with
      | nil =>
        rw [List.nil_append] at hmid'
        rw [← hmid'] at hold
        exact absurd List.mem_cons_self hold
      | cons e mid =>
        rw [List.cons_append, List.cons.injEq] at hmid'
        obtain ⟨rfl, -⟩ := hmid'
        exact hin pre st mid hmid hl
  | exec ha hs hf ht hex => exact inLine_cons hin hs (fun hfront _ => hf.trans hfront) ht
  | enqueue hs hf ht hex =>
    refine inLine_cons hin hs ?_ ht
    intro hfront ht
    rw [hf, hfront, List.nil_append]
    exact ht
  | spawn hs hl hf ht hex => exact inLine_cons hin hs (fun hfront _ => hf.trans hfront) ht
  | apply hf ht hex hl =>
    intro pre st' post hpre hl'
    obtain ⟨hfront, -⟩ := hin pre st' post (ht ▸ hpre) hl'
    rw [hfront] at hf
    cases hf

/-- No other request touches the lead, and the statement of the action succeeds. -/
def Undisturbed (l : Uuid) (s : Sys) (a : Action) : Prop :=
  Sys.Untouched l s a ∧ a.succeeds = true

instance (l : Uuid) (s : Sys) (a : Action) : Decidable (Undisturbed l s a) :=
  inferInstanceAs (Decidable (_ ∧ _))

end Step

end LeadsNebula
