/-
Batching and the `leads` table.

`flush_batch` runs the creations of a batch before its updates, so a batch of
several tasks runs their statements in another order than the tasks came in.

* `exec_contents` — apart from timestamps, what a statement leaves in the table
  depends neither on the time nor on the timestamps in it;
* `insertLead_commutes` — a creation commutes with the updates of another lead;
* `batching_invisible` — the table does not depend on the batches.
-/
import LeadsNebula.WriteBehindQueue
import LeadsNebula.Reorder

namespace LeadsNebula

/-! ### The table apart from timestamps -/

/-- A row without the values of its timestamps; whether a nullable one is set is kept. -/
def Lead.timeless (r : Lead) : Lead :=
  { r with
    submittedAt := r.submittedAt.map fun _ => 0
    soldAt := r.soldAt.map fun _ => 0
    createdAt := 0
    updatedAt := 0 }

/-- The rows of a table by their key, apart from timestamps. -/
def contents (t : Leads) (l : Uuid) : Option Lead := (t.find l).map Lead.timeless

/-- The statements of a list, each run at its time. -/
def execAll (sched : List (Timestamp × LeadStatement)) (t : Leads) : Leads :=
  sched.foldl (fun t p => p.2.exec p.1 t) t

namespace LeadStatement

/-- Apart from claims, no condition reads a timestamp. -/
theorem matchesRow_timeless {st : LeadStatement} (h : st.isClaim = false) (now : Timestamp)
    (r : Lead) : st.matchesRow now r = st.matchesRow 0 r.timeless := by
  cases st with
  | claim _ _ _ => cases h
  | _ => rfl

theorem setRow_timeless (st : LeadStatement) (now : Timestamp) (r : Lead) :
    (st.setRow now r).timeless = (st.setRow 0 r.timeless).timeless := by
  cases st <;> simp [setRow, Lead.timeless, Function.comp_def]

theorem applyRow_timeless {st : LeadStatement} (h : st.isClaim = false) (now : Timestamp)
    (r : Lead) : (st.applyRow now r).timeless = (st.applyRow 0 r.timeless).timeless := by
  rw [applyRow, applyRow, matchesRow_timeless h]
  split
  · exact setRow_timeless st now r
  · simp [Lead.timeless, Function.comp_def]

theorem affects_iff {st : LeadStatement} (h : st.isClaim = false) {now : Timestamp} {t : Leads} :
    st.affects now t = true ↔ ∃ l r, contents t l = some r ∧ st.matchesRow 0 r = true := by
  rw [affects, List.any_eq_true]
  constructor
  · rintro ⟨r, hmem, hm⟩
    refine ⟨r.uuid, r.timeless, ?_, ?_⟩
    · rw [contents, Table.find_eq_some_iff.mpr ⟨hmem, rfl⟩, Option.map_some]
    · rw [← matchesRow_timeless h now, hm]
  · rintro ⟨l, r', hr', hm⟩
    obtain ⟨r, hr, rfl⟩ := Option.map_eq_some_iff.mp hr'
    refine ⟨r, (Table.find_eq_some_iff.mp hr).1, ?_⟩
    rw [matchesRow_timeless h, hm]

/-- The row of a lead after a creation. -/
theorem find_exec_insertLead (c : LeadCreation) (now : Timestamp) (t : Leads) (l : Uuid) :
    ((insertLead c).exec now t).find l =
      if (insertLead c).affects now t then (t.find l).map ((insertLead c).applyRow now)
      else (t.find l).or (if c.uuid = l then some (c.row now) else none) := by
  rw [exec]
  by_cases hc : t.rows.any ((insertLead c).matchesRow now) = true
  · rw [if_pos hc, affects, if_pos hc]
    exact Table.find_update t _ _ (setRow_uuid now _) l
  · rw [if_neg hc, affects, if_neg hc]
    exact Table.find_insert t (c.row now) l

theorem exec_contents {st : LeadStatement} (h : st.isClaim = false) {now now' : Timestamp}
    {t t' : Leads} (ht : contents t = contents t') :
    contents (st.exec now t) = contents (st.exec now' t') := by
  funext l
  have hl : contents t l = contents t' l := congrFun ht l
  -- the row that was there, changed by the statement
  have hmap : ((t.find l).map (st.applyRow now)).map Lead.timeless =
      ((t'.find l).map (st.applyRow now')).map Lead.timeless := by
    rw [Option.map_map, Option.map_map]
    have hcomp : ∀ n, Lead.timeless ∘ st.applyRow n =
        (fun r => (st.applyRow 0 r).timeless) ∘ Lead.timeless := by
      intro n
      funext r
      exact applyRow_timeless h n r
    rw [hcomp, hcomp, ← Option.map_map, ← Option.map_map]
    exact congrArg _ hl
  by_cases hup : st.IsUpdate
  · rw [contents, contents, find_exec_of_isUpdate hup, find_exec_of_isUpdate hup, hmap]
  · cases st with
    | insertLead c =>
      have haff : (insertLead c).affects now t = (insertLead c).affects now' t' := by
        rw [Bool.eq_iff_iff, affects_iff h, affects_iff h, ht]
      rw [contents, contents, find_exec_insertLead, find_exec_insertLead, haff]
      split
      · exact hmap
      · rw [Option.map_or, Option.map_or]
        refine congrArg₂ _ hl ?_
        split <;> rfl
    | _ => exact absurd trivial hup

end LeadStatement

/-- The times at which statements run do not matter. -/
theorem contents_execAll {sched : List (Timestamp × LeadStatement)}
    (h : ∀ st ∈ sched.map Prod.snd, st.isClaim = false) {t t' : Leads}
    (ht : contents t = contents t') :
    contents (execAll sched t) =
      contents (Reorder.run (LeadStatement.exec 0) (sched.map Prod.snd) t') := by
  induction sched generalizing t t' with
  | nil => exact ht
  | cons p sched ih =>
    rw [List.map_cons, List.forall_mem_cons] at h
    exact ih h.2 (LeadStatement.exec_contents h.1 ht)

/-! ### Sequences of tasks -/

/-- The creation of a task. -/
def BackgroundTask.creation? : BackgroundTask → Option LeadCreation
  | leadCreation c => some c
  | _ => none

/-- The creations of a sequence of tasks. -/
def creationsOf (tasks : List BackgroundTask) : List LeadCreation :=
  tasks.filterMap BackgroundTask.creation?

/-- Request uuids and `lead_id`s are used by one creation each, and the creation of a lead
precedes its updates. -/
structure WellOrdered (tasks : List BackgroundTask) : Prop where
  uuids : ((creationsOf tasks).map LeadCreation.uuid).Nodup
  leadIds : ((creationsOf tasks).filterMap LeadCreation.leadId).Nodup
  order : ∀ (i : ℕ) (u : LeadUpdate), tasks[i]? = some (.leadUpdate u) →
    ∃ k < i, ∃ c : LeadCreation, tasks[k]? = some (.leadCreation c) ∧ c.uuid = u.leadId

theorem mem_creationsOf {tasks : List BackgroundTask} {c : LeadCreation} :
    c ∈ creationsOf tasks ↔ .leadCreation c ∈ tasks := by
  rw [creationsOf, List.mem_filterMap]
  constructor
  · rintro ⟨t, ht, hc⟩
    cases t with
    | leadCreation c' =>
      obtain rfl := Option.some_inj.mp hc
      exact ht
    | _ => cases hc
  · intro h
    exact ⟨_, h, rfl⟩

/-- Statement `st` is an update of a lead whose creation, one of `cs`, shares neither the uuid
nor the `lead_id` of `c`. -/
def Apart (cs : List LeadCreation) (st : LeadStatement) (c : LeadCreation) : Prop :=
  ∃ c₀ ∈ cs, c₀.uuid = st.leadId ∧ c₀.uuid ≠ c.uuid ∧
    (c.leadId.isSome = true → c₀.leadId ≠ c.leadId)

theorem LeadUpdate.statements_spec {u : LeadUpdate} {st : LeadStatement} (h : st ∈ u.statements) :
    st.IsUpdate ∧ st.isClaim = false ∧ st.leadId = u.leadId := by
  rw [LeadUpdate.statements, List.mem_append] at h
  rcases h with h | h
  · split at h
    · obtain rfl := List.mem_singleton.mp h
      exact ⟨trivial, rfl, rfl⟩
    · cases h
  · split at h <;> obtain rfl := List.mem_singleton.mp h <;> exact ⟨trivial, rfl, rfl⟩

theorem BackgroundTask.statements_spec {t : BackgroundTask} {st : LeadStatement}
    (h : st ∈ t.statements) :
    (∃ c, t = .leadCreation c ∧ st = .insertLead c) ∨
      ∃ u, t = .leadUpdate u ∧ st ∈ u.statements := by
  cases t with
  | leadCreation c =>
    left
    exact ⟨c, rfl, List.mem_singleton.mp h⟩
  | leadUpdate u =>
    right
    exact ⟨u, rfl, h⟩
  | _ => cases h

namespace WellOrdered

variable {tasks : List BackgroundTask}

/-- A creation that comes after an update is for another lead. -/
theorem apart (h : WellOrdered tasks) {i j : ℕ} (hij : i < j) {u : LeadUpdate} {c : LeadCreation}
    (hu : tasks[i]? = some (.leadUpdate u)) (hc : tasks[j]? = some (.leadCreation c)) :
    ∃ c₀ ∈ creationsOf tasks, c₀.uuid = u.leadId ∧ c₀.uuid ≠ c.uuid ∧
      (c.leadId.isSome = true → c₀.leadId ≠ c.leadId) := by
  obtain ⟨k, hk, c₀, hc₀, huuid⟩ := h.order i u hu
  have hmem : c₀ ∈ creationsOf tasks := mem_creationsOf.mpr (List.mem_of_getElem? hc₀)
  obtain ⟨hk', hgk⟩ := List.getElem?_eq_some_iff.mp hc₀
  obtain ⟨hj', hgj⟩ := List.getElem?_eq_some_iff.mp hc
  refine ⟨c₀, hmem, huuid, ?_, ?_⟩
  · have hp := h.uuids
    rw [creationsOf, List.Nodup, List.pairwise_map, List.pairwise_filterMap,
      List.pairwise_iff_getElem] at hp
    exact hp k j hk' hj' (hk.trans hij) c₀ (by rw [hgk]; rfl) c (by rw [hgj]; rfl)
  · intro hsome heq
    obtain ⟨x, hx⟩ := Option.isSome_iff_exists.mp hsome
    have hp := h.leadIds
    rw [creationsOf, List.filterMap_filterMap, List.Nodup, List.pairwise_filterMap,
      List.pairwise_iff_getElem] at hp
    refine hp k j hk' hj' (hk.trans hij) x ?_ x ?_ rfl
    · rw [hgk]
      exact heq.trans hx
    · rw [hgj]
      exact hx

/-- The statements of a well-ordered sequence: an update and a later creation are for different
leads. -/
theorem pairwise_apart (h : WellOrdered tasks) :
    (tasks.flatMap BackgroundTask.statements).Pairwise fun st st' =>
      st.IsUpdate → ∀ c, st' = .insertLead c → Apart (creationsOf tasks) st c := by
  rw [List.pairwise_flatMap]
  constructor
  · intro t _
    -- within one task
    cases t with
    | leadUpdate u =>
      rw [List.pairwise_iff_forall_sublist]
      rintro st st' hsub - c rfl
      have hmem : LeadStatement.insertLead c ∈ u.statements :=
        hsub.subset (List.mem_cons_of_mem _ List.mem_cons_self)
      exact (LeadUpdate.statements_spec hmem).1.elim
    | leadCreation c => exact List.pairwise_singleton _ _
    | _ => exact List.Pairwise.nil
  · rw [List.pairwise_iff_getElem]
    -- of two tasks, where an update comes before the creation of another lead
    rintro i j hi hj hij st hst st' hst' hup c rfl
    rcases BackgroundTask.statements_spec hst with ⟨c', -, rfl⟩ | ⟨u, hu, hstu⟩
    · exact hup.elim
    rcases BackgroundTask.statements_spec hst' with ⟨c', hc', heq⟩ | ⟨u', -, hc⟩
    · cases heq
      rw [Apart, (LeadUpdate.statements_spec hstu).2.2]
      exact h.apart hij (List.getElem?_eq_some_iff.mpr ⟨hi, hu⟩)
        (List.getElem?_eq_some_iff.mpr ⟨hj, hc'⟩)
    · exact (LeadUpdate.statements_spec hc).1.elim

end WellOrdered

/-! ### Commutation -/

/-- The row of a creation's uuid, if there is one, has its `lead_id`. -/
def Agrees (cs : List LeadCreation) (t : Leads) : Prop :=
  ∀ c ∈ cs, ∀ r, t.find c.uuid = some r → r.leadId = c.leadId

/-- A statement of the creations `cs` and of updates. -/
def FromTasks (cs : List LeadCreation) (st : LeadStatement) : Prop :=
  st.isClaim = false ∧ ∀ c, st = .insertLead c → c ∈ cs

namespace LeadStatement

@[simp] theorem applyRow_leadId (now : Timestamp) (st : LeadStatement) (r : Lead) :
    (st.applyRow now r).leadId = r.leadId := by
  rw [applyRow]
  split
  · cases st <;> rfl
  · rfl

theorem exec_agrees {cs : List LeadCreation} (hcs : (cs.map LeadCreation.uuid).Nodup)
    {st : LeadStatement} (hst : FromTasks cs st) {now : Timestamp} {t : Leads}
    (ht : Agrees cs t) : Agrees cs (st.exec now t) := by
  intro c hc r hr
  rcases find_exec now st t c.uuid with h | ⟨c', rfl, h⟩
  · rw [h, Option.map_eq_some_iff] at hr
    obtain ⟨r₀, hr₀, rfl⟩ := hr
    rw [applyRow_leadId]
    exact ht c hc r₀ hr₀
  · rw [h, Option.or_eq_some_iff] at hr
    rcases hr with hr | ⟨-, hr⟩
    · exact ht c hc r hr
    · -- the inserted row is that of `c` itself
      split at hr
      · next huuid =>
        obtain rfl := List.inj_on_of_nodup_map hcs (hst.2 c' rfl) hc huuid
        obtain rfl := Option.some_inj.mp hr
        rfl
      · cases hr

theorem respects {cs : List LeadCreation} (hcs : (cs.map LeadCreation.uuid).Nodup)
    {st : LeadStatement} (hst : FromTasks cs st) :
    Reorder.Respects (exec 0) contents (Agrees cs) st where
  inv _ ht := exec_agrees hcs hst ht
  congr _ _ ht := exec_contents hst.1 ht

/-- A creation leaves the row of another lead alone unless it has the same `lead_id`. -/
theorem find_exec_insertLead_of_ne {c : LeadCreation} {l : Uuid} (hne : c.uuid ≠ l)
    {now : Timestamp} {t : Leads}
    (hm : ∀ r, t.find l = some r → (insertLead c).matchesRow now r = false) :
    ((insertLead c).exec now t).find l = t.find l := by
  rw [find_exec_insertLead]
  split
  · cases hr : t.find l with
    | none => rfl
    | some r => simp [applyRow, hm r hr]
  · rw [Option.or_none]

/-- An update changes no `lead_id`, so it does not change whether a creation conflicts. -/
theorem affects_insertLead_exec {st : LeadStatement} (hup : st.IsUpdate) (c : LeadCreation)
    (now : Timestamp) (t : Leads) :
    (insertLead c).affects now (st.exec now t) = (insertLead c).affects now t := by
  have hrows : (st.exec now t).rows = t.rows.map (st.applyRow now) := by
    cases st with
    | insertLead c => exact hup.elim
    | _ => rfl
  rw [affects, affects, hrows, List.any_map]
  congr 1
  funext r
  rw [Function.comp_apply, matchesRow, applyRow_leadId, matchesRow]

theorem insertLead_commutes {cs : List LeadCreation} {st : LeadStatement} (hup : st.IsUpdate)
    {c : LeadCreation} (h : Apart cs st c) :
    Reorder.Commutes (exec 0) contents (Agrees cs) st (insertLead c) := by
  intro t ht
  obtain ⟨c₀, hc₀, huuid, hne, hlead⟩ := h
  -- the row of the updated lead does not conflict with the creation
  have hm : ∀ r : Lead, r.leadId = c₀.leadId → (insertLead c).matchesRow 0 r = false := by
    intro r hr
    rw [matchesRow, hr, Bool.and_eq_false_iff]
    by_cases hs : c.leadId.isSome = true
    · right
      exact beq_false_of_ne (hlead hs)
    · left
      exact Bool.not_eq_true _ ▸ hs
  have hne' : c.uuid ≠ st.leadId := fun heq => hne (huuid.trans heq.symm)
  have hrow : ∀ r, t.find st.leadId = some r → r.leadId = c₀.leadId := by
    rw [← huuid]
    exact ht c₀ hc₀
  funext l
  refine congrArg (Option.map Lead.timeless) ?_
  by_cases hl : l = st.leadId
  · subst hl
    rw [find_exec_insertLead_of_ne hne', find_exec_of_isUpdate hup, find_exec_of_isUpdate hup,
      find_exec_insertLead_of_ne hne' fun r hr => hm r (hrow r hr)]
    intro r hr
    rw [find_exec_of_isUpdate hup, Option.map_eq_some_iff] at hr
    obtain ⟨r₀, hr₀, rfl⟩ := hr
    exact hm _ (by rw [applyRow_leadId, hrow r₀ hr₀])
  · have hnot : ¬ st.Targets l := by
      rintro (hins | heq)
      · exact hins hup
      · exact hl heq.symm
    rw [find_exec_of_not_targets hnot, find_exec_insertLead, find_exec_insertLead,
      affects_insertLead_exec hup, find_exec_of_not_targets hnot]

end LeadStatement

/-! ### Batches -/

/-- `flush_batch` takes the creations first. -/
theorem flushBatch_eq_filter (batch : List BackgroundTask) :
    flushBatch batch =
      (batch.flatMap BackgroundTask.statements).filter (fun st => !decide st.IsUpdate) ++
        (batch.flatMap BackgroundTask.statements).filter (fun st => !!decide st.IsUpdate) := by
  rw [flushBatch, List.filter_flatMap, List.filter_flatMap]
  congr 1
  · refine List.flatMap_congr fun t _ => ?_
    cases t with
    | leadUpdate u =>
      refine (List.filter_eq_nil_iff.mpr fun st hst => ?_).symm
      simp [(LeadUpdate.statements_spec hst).1]
    | _ => rfl
  · refine List.flatMap_congr fun t _ => ?_
    cases t with
    | leadUpdate u =>
      refine (List.filter_eq_self.mpr fun st hst => ?_).symm
      simp [(LeadUpdate.statements_spec hst).1]
    | _ => rfl

/-- The statements of tasks do not claim, and insert what the tasks create. -/
theorem fromTasks_of_mem {tasks : List BackgroundTask} {t : BackgroundTask} (ht : t ∈ tasks)
    {st : LeadStatement} (h : st ∈ t.statements) : FromTasks (creationsOf tasks) st := by
  rcases BackgroundTask.statements_spec h with ⟨c, rfl, rfl⟩ | ⟨u, rfl, hu⟩
  · refine ⟨rfl, fun c' hc' => ?_⟩
    cases hc'
    exact mem_creationsOf.mpr ht
  · refine ⟨(LeadUpdate.statements_spec hu).2.1, ?_⟩
    rintro c rfl
    exact (LeadUpdate.statements_spec hu).1.elim

/-- Flushing the batches of a well-ordered sequence leaves the rows that its statements leave in
the order of the tasks. -/
theorem run_flushBatch {tasks : List BackgroundTask} (hw : WellOrdered tasks)
    {batches : List (List BackgroundTask)} (hb : batches.flatten = tasks) {t : Leads}
    (ht : Agrees (creationsOf tasks) t) :
    contents (Reorder.run (LeadStatement.exec 0) (batches.flatMap flushBatch) t) =
      contents (Reorder.run (LeadStatement.exec 0)
        (tasks.flatMap BackgroundTask.statements) t) := by
  -- each statement of a batch is one of some task
  have hresp : ∀ b ∈ batches, ∀ st ∈ b.flatMap BackgroundTask.statements,
      Reorder.Respects (LeadStatement.exec 0) contents (Agrees (creationsOf tasks)) st := by
    intro b hbm st hst
    obtain ⟨x, hx, hstx⟩ := List.mem_flatMap.mp hst
    have hmem : x ∈ tasks := hb ▸ List.mem_flatten.mpr ⟨b, hbm, hx⟩
    exact LeadStatement.respects hw.uuids (fromTasks_of_mem hmem hstx)
  have hflat : tasks.flatMap BackgroundTask.statements =
      batches.flatMap fun b => b.flatMap BackgroundTask.statements := by
    rw [← hb, List.flatten_eq_flatMap, List.flatMap_assoc]
    rfl
  -- tasks that come apart stay apart, batch by batch
  have hpair := hw.pairwise_apart
  rw [hflat, List.pairwise_flatMap] at hpair
  rw [hflat]
  refine Reorder.run_flatMap_congr ?_ hresp ?_ ht
  · intro b hbm st hst
    refine hresp b hbm st ?_
    rw [mem_flushBatch] at hst
    exact List.mem_flatMap.mpr hst
  · intro b hbm t' ht'
    rw [flushBatch_eq_filter]
    refine Reorder.run_partition _ (hresp b hbm) ((hpair.1 b hbm).imp ?_) ht'
    -- within a batch an INSERT is moved before the updates of other leads only
    intro st st' hap hup hins
    rw [Bool.not_eq_false', decide_eq_true_iff] at hup
    cases st' with
    | insertLead c => exact LeadStatement.insertLead_commutes hup (hap hup c rfl)
    | _ => cases hins

/-- The final contents of the table, apart from timestamps, are the same however a well-ordered
sequence of tasks is cut into batches, and the same as with the tasks one at a time.  No row has
the uuid of a new lead before, as the creation could not be inserted then. -/
theorem batching_invisible {tasks : List BackgroundTask} (hw : WellOrdered tasks) {t : Leads}
    (hnew : ∀ c ∈ creationsOf tasks, t.find c.uuid = none)
    {batches batches' : List (List BackgroundTask)} (hb : batches.flatten = tasks)
    (hb' : batches'.flatten = tasks)
    {sched sched' one : List (Timestamp × LeadStatement)}
    (hs : sched.map Prod.snd = batches.flatMap flushBatch)
    (hs' : sched'.map Prod.snd = batches'.flatMap flushBatch)
    (hone : one.map Prod.snd = tasks.flatMap fun task => flushBatch [task]) :
    contents (execAll sched t) = contents (execAll sched' t) ∧
      contents (execAll sched t) = contents (execAll one t) := by
  have hagrees : Agrees (creationsOf tasks) t := by
    intro c hc r hr
    rw [hnew c hc] at hr
    cases hr
  -- any two ways to cut the sequence, at any times
  have key : ∀ {bs : List (List BackgroundTask)} {sc : List (Timestamp × LeadStatement)},
      bs.flatten = tasks → sc.map Prod.snd = bs.flatMap flushBatch →
      contents (execAll sc t) = contents (Reorder.run (LeadStatement.exec 0)
        (tasks.flatMap BackgroundTask.statements) t) := by
    intro bs sc hbs hsc
    rw [contents_execAll ?_ rfl, hsc, run_flushBatch hw hbs hagrees]
    intro st hst
    rw [hsc, List.mem_flatMap] at hst
    obtain ⟨b, -, hst⟩ := hst
    obtain ⟨x, -, hstx⟩ := mem_flushBatch.mp hst
    exact (fromTasks_of_mem (List.mem_singleton_self x) hstx).1
  have hsingle : (tasks.map fun task => [task]).flatten = tasks := by
    rw [← List.flatMap_def, List.flatMap_singleton']
  refine ⟨(key hb hs).trans (key hb' hs').symm, (key hb hs).trans (key hsingle ?_).symm⟩
  rw [hone, List.flatMap_map]

namespace Sample

def creationOf (uuid : Uuid) (leadId : Option String) : LeadCreation where
  uuid := uuid
  eventId := uuid.toString
  leadId := leadId
  publisherId := 100
  verticalId := 200
  requestType := .ping
  strategy := "ping_post"
  promiseId := some "promise"
  buyerId := 20
  campaignId := 10
  tcpaConsent := true
  tcpaLanguage := ""
  isTest := false
  sessionId := "session"
  verticalData := .obj []

def saleOf (uuid : Uuid) (token : Option String) : LeadUpdate where
  leadId := uuid
  status := .sold
  campaignId := some 10
  buyerId := some 20
  promiseId := none
  pingId := some "ping"
  postId := some "post"
  soldAt := true
  inprogToken := token
  verticalData := some (.obj [("winning_bid", .str "50")])

/-- Two leads, each created and sold. -/
def twoSales : List BackgroundTask :=
  [.leadCreation (creationOf 7 (some "a")), .leadUpdate (saleOf 7 none),
    .leadCreation (creationOf 8 none), .leadUpdate (saleOf 8 (some ""))]

theorem twoSales_wellOrdered : WellOrdered twoSales where
  uuids := by decide
  leadIds := by decide
  order := by
    intro i u hu
    match i with
    | 0 | 2 => cases hu
    | 1 =>
      cases hu
      exact ⟨0, by decide, _, rfl, rfl⟩
    | 3 =>
      cases hu
      exact ⟨2, by decide, _, rfl, rfl⟩
    | i + 4 => cases hu

end Sample

/-- One batch of four tasks and two batches of two leave the same rows. -/
theorem batching_invisible_twoSales :
    contents (execAll (([Sample.twoSales].flatMap flushBatch).map fun st => (5, st)) Table.empty) =
      contents (execAll (([Sample.twoSales.take 2, Sample.twoSales.drop 2].flatMap
        flushBatch).map fun st => (6, st)) Table.empty) ∧
    contents (execAll (([Sample.twoSales].flatMap flushBatch).map fun st => (5, st)) Table.empty) =
      contents (execAll ((Sample.twoSales.flatMap fun task => flushBatch [task]).map
        fun st => (7, st)) Table.empty) :=
  batching_invisible Sample.twoSales_wellOrdered (fun _ _ => rfl) rfl rfl
    (by rw [List.map_map]; exact List.map_id _) (by rw [List.map_map]; exact List.map_id _)
    (by rw [List.map_map]; exact List.map_id _)

end LeadsNebula
