/-
The leads that a state knows.

A post works on a copy of its lead: the row as it was when the post, or an
earlier one, read it from the table (`Sys.Copy`).  Every lead that a row, a copy
or a pending statement is about was created by a request (`Known`), so a request
that creates a lead starts with nothing known of it.

* `step_copy` — a copy was there before, or is a row that the action reads;
* `known_run` — in every reachable state only leads of its `uuids` are known;
* `submit_line` — what is known of a lead when its request has been routed: the
  statements of the request, in order.
-/
import LeadsNebula.SingleWriter

namespace LeadsNebula

/-- The copy of a lead that a post works on. -/
def Stage.lead : Stage → Option Lead
  | .found _ _ lead => some lead
  | .claimed p => some p.lead
  | .routed p _ => some p.lead
  | _ => none

/-- The row that a lookup in the table is for. -/
def Source.lead : Source → Option Uuid
  | .cache => none
  | .promise l _ => some l
  | .leadId l => some l

/-- A copy of a lead: in the cache, or with a post. -/
inductive Sys.Copy (s : Sys) (lead : Lead) : Prop
  | cached {promiseId : String} (h : (promiseId, lead) ∈ s.cache)
  | post {th : Thread} (hth : th ∈ s.threads) (h : th.stage.lead = some lead)

variable [StdText] {s s' : Sys} {a : Action} {lead : Lead}

omit [StdText] in
/-- A post reads a cached copy, or a row of the table. -/
theorem read_cases {req : LeadRequest} {promiseId : String} {source : Source}
    (h : s.read req promiseId source = some lead) :
    (promiseId, lead) ∈ s.cache ∨
      source.lead = some lead.uuid ∧ s.leads.find lead.uuid = some lead := by
  -- a row that a query finds is found by its key
  have hrow : ∀ {l : Uuid} {p : Lead → Bool}, (s.leads.find l).filter p = some lead →
      some l = some lead.uuid ∧ s.leads.find lead.uuid = some lead := by
    intro l p hl
    obtain ⟨hl, -⟩ := Option.filter_eq_some_iff.mp hl
    rw [Table.find_key hl]
    exact ⟨rfl, hl⟩
  -- from the cache, by the promise or by the lead id
  cases source with
  | cache =>
    rw [Sys.read, List.lookup_eq_some_iff] at h
    obtain ⟨before, after, hcache, -⟩ := h
    rw [hcache]
    exact Or.inl (List.mem_append_right _ List.mem_cons_self)
  | promise l store =>
    rw [Sys.read] at h
    split at h
    · exact Or.inr (hrow h)
    · cases h
  | leadId l =>
    rw [Sys.read] at h
    split at h
    · exact Or.inr (hrow h)
    · cases h

/-- A cached lead was cached before, or the action reads it. -/
theorem step_cache (h : Step s a s') {promiseId : String} (hp : (promiseId, lead) ∈ s'.cache) :
    (promiseId, lead) ∈ s.cache ∨
      ∃ i source req, a = .read i source ∧ s.read req promiseId source = some lead := by
  cases h with
  | @read i source req promiseId' lead' todo hi hread =>
    obtain ⟨cache, hstore, hcache⟩ := Sys.store_eq s promiseId' lead' source
    rw [hstore] at hp
    rcases hcache _ hp with hp | hp
    · exact Or.inl hp
    · obtain ⟨rfl, rfl⟩ := Prod.mk.inj hp
      exact Or.inr ⟨i, source, req, rfl, hread⟩
  | claimed | exec | apply | spawned =>
    rw [Sys.exec_cache] at hp
    exact Or.inl hp
  | evict => exact Or.inl (List.mem_of_mem_filter hp)
  | _ => exact Or.inl hp

/-- A copy was there before, or is a row that the action reads. -/
theorem step_copy (h : Step s a s') (hc : s'.Copy lead) :
    s.Copy lead ∨ (∃ i source, a = .read i source ∧ source.lead = some lead.uuid) ∧
      s.leads.find lead.uuid = some lead := by
  cases hc with
  -- a cached copy
  | cached hp =>
    rcases step_cache h hp with hp | ⟨i, source, req, ha, hlead⟩
    · exact Or.inl (.cached hp)
    · rcases read_cases hlead with hp | ⟨hsource, hrow⟩
      · exact Or.inl (.cached hp)
      · exact Or.inr ⟨⟨i, source, ha, hsource⟩, hrow⟩
  -- the copy that a post works on
  | post hth hlead =>
    cases step_threads h hth with
    | effect hold hsub => exact Or.inl (.post hold hlead)
    | submitted ha hnew => cases hlead
    | arrived => cases hlead
    | found ha hi hread =>
      rw [Stage.lead, Option.some_inj] at hlead
      subst hlead
      rcases read_cases hread with hp | ⟨hsource, hrow⟩
      · exact Or.inl (.cached hp)
      · exact Or.inr ⟨⟨_, _, ha, hsource⟩, hrow⟩
    | notFound hold => cases hlead
    | unclaimed hold => cases hlead
    | claimed ha hold => exact Or.inl (.post hold hlead)
    | routed ha hi => exact Or.inl (.post (List.mem_of_getElem? hi) hlead)

/-! ### Only created leads are known -/

structure Known (s : Sys) : Prop where
  rows : ∀ l r, s.leads.find l = some r → l ∈ s.uuids
  pending : ∀ st, s.Pending st → st.leadId ∈ s.uuids
  copies : ∀ lead, s.Copy lead → lead.uuid ∈ s.uuids
  history : ∀ st ∈ s.history, st.leadId ∈ s.uuids

omit [StdText] in
theorem known_init : Known Sys.init where
  rows l r hr := by cases hr
  pending st hst := absurd hst (not_pending_init st)
  copies lead hc := by
    cases hc with
    | cached h => cases h
    | post hth h => cases hth
  history st hst := by cases hst

theorem step_uuids (h : Step s a s') : s.uuids ⊆ s'.uuids := by
  cases h with
  | read hi hread =>
    obtain ⟨cache, hstore, -⟩ := Sys.store_eq s _ _ _
    rw [hstore]
    exact List.Subset.refl _
  | submit htype hnew => exact List.subset_cons_self _ _
  | claimed | exec | apply | spawned =>
    rw [Sys.exec_uuids]
    exact List.Subset.refl _
  | _ => exact List.Subset.refl _

/-- What is inserted was pending. -/
theorem rows_step (hinv : Known s) (h : Step s a s') :
    ∀ l r, s'.leads.find l = some r → l ∈ s'.uuids := by
  intro l r hr
  refine step_uuids h ?_
  rcases step_exec h with ⟨-, hleads, -⟩ | ⟨st, hex, hleads, -⟩
  · rw [hleads] at hr
    exact hinv.rows l r hr
  · rw [hleads] at hr
    rcases LeadStatement.find_exec s.now st s.leads l with hx | ⟨c, rfl, hx⟩
    · rw [hx] at hr
      obtain ⟨r₀, hr₀, -⟩ := Option.map_eq_some_iff.mp hr
      exact hinv.rows l r₀ hr₀
    · rw [hx] at hr
      rcases Option.or_eq_some_iff.mp hr with hr | ⟨-, hr⟩
      · exact hinv.rows l r hr
      · split at hr
        · next hl =>
          have hpending : s.Pending (.insertLead c) ∨ _ := pending_of_executed hex
          rcases hpending with hp | hp | ⟨-, _, _, _, hp⟩
          · exact hl ▸ hinv.pending _ hp
          · cases hp
          · cases hp
        · cases hr

/-- A new statement is for a lead that is known or created by the action. -/
theorem pending_step (hinv : Known s) (h : Step s a s') :
    ∀ st, s'.Pending st → st.leadId ∈ s'.uuids := by
  intro st hst
  rcases step_pending h hst with hp | ⟨e, he, hmem⟩
  · exact step_uuids h (hinv.pending st hp)
  · cases h with
    | submit htype hnew =>
      rw [(LeadRequest.onLead_createEffects he st hmem).1]
      exact List.mem_cons_self
    | route hi =>
      simp only [Sys.newEffects, hi] at he
      rw [(LeadRequest.postEffects_statements he hmem).1]
      exact hinv.copies _ (.post (List.mem_of_getElem? hi) rfl)
    | _ => cases he

/-- A statement that changes a row is for a lead that has one, or was pending. -/
theorem history_step (hinv : Known s) (h : Step s a s') :
    ∀ st ∈ s'.history, st.leadId ∈ s'.uuids := by
  intro st hst
  refine step_uuids h ?_
  rcases step_exec h with ⟨-, -, hhist⟩ | ⟨st', hex, -, hhist⟩
  · exact hinv.history st (hhist ▸ hst)
  · rw [hhist] at hst
    split at hst
    · next haff =>
      rcases List.mem_cons.mp hst with rfl | hst
      · by_cases hup : st.IsUpdate
        · obtain ⟨r, hr, -⟩ := LeadStatement.find_of_affects hup haff
          exact hinv.rows _ r hr
        · have hpending : s.Pending st ∨ _ := pending_of_executed hex
          rcases hpending with hp | hp | ⟨-, _, _, _, rfl⟩
          · exact hinv.pending st hp
          · cases hp
          · exact absurd trivial hup
      · exact hinv.history st hst
    · exact hinv.history st hst

theorem known_step (hinv : Known s) (h : step s a = some s') : Known s' := by
  have h := step_cases h
  refine ⟨rows_step hinv h, pending_step hinv h, ?_, history_step hinv h⟩
  intro lead hc
  refine step_uuids h ?_
  rcases step_copy h hc with hc | ⟨-, hrow⟩
  · exact hinv.copies lead hc
  · exact hinv.rows _ _ hrow

theorem known_run {actions : List Action} (h : Transition.run step Sys.init actions = some s) :
    Known s :=
  Transition.inv_of_run (P := fun _ _ => True) (fun hs _ h => known_step hs h) known_init
    (Transition.along_true _ _) h

omit [StdText] in
/-- Nothing waits for a fresh lead. -/
theorem quiet_of_fresh (hinv : Known s) {l : Uuid} (hl : l ∉ s.uuids) :
    s.Quiet l ∧ s.leads.find l = none := by
  have hne : ∀ {st : LeadStatement}, s.Pending st → st.leadId ≠ l := by
    rintro st hst rfl
    exact hl (hinv.pending st hst)
  refine ⟨⟨?_, ?_, ?_, ?_⟩, ?_⟩
  · exact fun st hst => hne (.flushing hst)
  · exact fun t ht st hst => hne (.queued ht hst)
  · exact fun st hst => hne (.spawned hst)
  · exact fun th hth e he st hst => hne (.thread hth (mem_owed_never.mpr ⟨e, he, hst⟩))
  · rw [Option.eq_none_iff_forall_ne_some]
    intro r hr
    exact hl (hinv.rows l r hr)

/-- A request that creates a lead: nothing is known of the lead, and its statements wait in the
order of its effects. -/
theorem submit_line (hinv : Known s) {req : LeadRequest} {new : NewLead} {env : RouteEnv}
    {timing : AuctionTiming} (h : step s (.submit req new env timing) = some s') :
    s'.todo s.threads.length = req.createEffects new s.now env timing ∧
      s'.front new.uuid = [] ∧
      s'.line s.threads.length new.uuid =
        (req.createEffects new s.now env timing).flatMap Effect.statements ∧
      s'.leads.find new.uuid = none ∧
      ((∀ st, .spawn st ∉ req.createEffects new s.now env timing) →
        s'.Alone s.threads.length new.uuid) := by
  cases step_cases h with
  | submit htype hnew =>
    -- the identifier is new, so nothing else waits for this lead
    obtain ⟨hquiet, hnone⟩ := quiet_of_fresh hinv hnew
    have hfront : s.front new.uuid = [] := hquiet.front
    refine ⟨Sys.todo_addThread_self, hfront, ?_, hnone, ?_⟩
    · have hown : onLead new.uuid ((req.createEffects new s.now env timing).flatMap
          Effect.statements) = (req.createEffects new s.now env timing).flatMap
          Effect.statements := by
        refine onLead_eq_self ?_
        intro st hst
        obtain ⟨e, he, hst⟩ := List.mem_flatMap.mp hst
        exact (LeadRequest.onLead_createEffects he st hst).1
      rw [Sys.line]
      show s.front new.uuid ++ onLead new.uuid (List.flatMap Effect.statements
        ((s.addThread _).todo s.threads.length)) = _
      rw [hfront, Sys.todo_addThread_self]
      exact hown
    · intro hspawn
      exact Sys.Quiet.addThread_alone (s := { s with uuids := new.uuid :: s.uuids }) hquiet
        (fun st hst => absurd hst (hspawn st))

end LeadsNebula
