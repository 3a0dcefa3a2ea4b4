/-
Claims are released, and when they are not.

A post that has claimed a lead and is not sold enqueues an update that resets
`post_id` as long as it holds the post's token.  The update is enqueued when the
router returns a result; when the router fails, the request ends and nobody
releases the claim (`failed_lookup_keeps_claim`).  The router of a post fails
only when the lookup of the ping tree or of its campaigns does.

Where no lookup fails, a token in `post_id` always has its release on the way
(`Sys.Releases`): with the post, in the queue, or in the current batch.

* `claims_released` — in every run without a failing lookup in which every
  statement succeeds, when the posts are answered and the queue is drained, no
  lead holds a token; its `post_id` is empty, or was bound by a statement.
-/
import LeadsNebula.System

namespace LeadsNebula

/-- A text that starts like an in-progress token. -/
def isInprog (postId : String) : Bool := "INPROG_".toList.isPrefixOf postId.toList

/-! ### The condition -/

/-- The lookups of the router do not fail. -/
def Action.lookupsSucceed : Action → Bool
  | .route _ env _ => !env.lookupsFail
  | _ => true

/-- The statement of the action succeeds, no lookup of the router fails, and no buyer's `post_id`
looks like a token. -/
def KeepsReleases (s : Sys) (a : Action) : Prop :=
  a.succeeds = true ∧ a.lookupsSucceed = true ∧
    ∀ st ∈ s.executed a, ∀ x ∈ st.boundPostId, isInprog x = false

instance (s : Sys) (a : Action) : Decidable (KeepsReleases s a) :=
  inferInstanceAs (Decidable (_ ∧ _ ∧ ∀ st ∈ s.executed a, ∀ x ∈ st.boundPostId,
    isInprog x = false))

/-! ### Releases on their way -/

/-- The release of token `v` on lead `l` is on its way. -/
inductive Sys.Releases (s : Sys) (l : Uuid) (v : String) : Prop
  /-- The post is being routed. -/
  | claimed {p : ClaimedPost} {todo : List Effect} (hth : ⟨.claimed p, todo⟩ ∈ s.threads)
      (hl : p.lead.uuid = l) (hv : p.token = v)
  /-- The post is going to enqueue its update. -/
  | recording {p : ClaimedPost} {result : Except String RoutingResult} {todo : List Effect}
      {u : LeadUpdate} (hth : ⟨.routed p result, todo⟩ ∈ s.threads)
      (hu : .enqueue (.leadUpdate u) ∈ todo) (hl : u.leadId = l) (hv : u.inprogToken = some v)
  | queued {u : LeadUpdate} (hu : .leadUpdate u ∈ s.queue) (hl : u.leadId = l)
      (hv : u.inprogToken = some v)
  | flushing (h : .resetToken l v ∈ s.flushing)

/-- The request is not a post in progress. -/
def Thread.answered (th : Thread) : Bool :=
  match th.stage with
  | .submitted _ _ _ => true
  | .routed _ _ => th.todo.isEmpty
  | .refused => true
  | _ => false

/-- No post is in progress, and the queue is drained. -/
def Sys.Quiescent (s : Sys) : Prop :=
  s.queue.isEmpty = true ∧ s.flushing.isEmpty = true ∧ ∀ th ∈ s.threads, th.answered = true

instance (s : Sys) : Decidable s.Quiescent :=
  inferInstanceAs (Decidable (_ ∧ _ ∧ ∀ th ∈ s.threads, th.answered = true))

theorem Sys.Quiescent.not_releases {s : Sys} (hq : s.Quiescent) (l : Uuid) (v : String) :
    ¬ s.Releases l v := by
  obtain ⟨hqueue, hflush, hthreads⟩ := hq
  intro h
  cases h with
  | claimed hth hl hv => cases hthreads _ hth
  | @recording _ _ todo _ hth hu hl hv =>
    have htodo : todo = [] := List.isEmpty_iff.mp (hthreads _ hth)
    rw [htodo] at hu
    cases hu
  | queued hu hl hv =>
    rw [List.isEmpty_iff.mp hqueue] at hu
    cases hu
  | flushing h =>
    rw [List.isEmpty_iff.mp hflush] at h
    cases h

/-- The reset is among the statements of a conditional update. -/
theorem resetToken_mem_statements {u : LeadUpdate} {v : String} (hv : u.inprogToken = some v) :
    .resetToken u.leadId v ∈ u.statements := by
  rw [LeadUpdate.statements, hv]
  exact List.mem_append_right _ (List.mem_singleton_self _)

/-! ### One step -/

section Step

variable [StdText] {s s' : Sys} {a : Action}

/-- A post that has been routed is going to enqueue its update, unless a lookup has failed. -/
theorem leadUpdate_mem_postEffects (p : ClaimedPost) (now : Timestamp) {env : RouteEnv}
    (timing : AuctionTiming) (hlook : env.lookupsFail = false) :
    ∃ u, .enqueue (.leadUpdate u) ∈ p.req.postEffects p.lead p.token now env timing ∧
      u.leadId = p.lead.uuid ∧ u.inprogToken = some p.token := by
  have hout := LeadRequest.postOutcome p.req p.lead p.token now env timing
  revert hout
  generalize ((p.req.postRouter p.lead).route env).result = result
  generalize p.req.postEffects p.lead p.token now env timing = effects
  intro hout
  cases hout with
  | failed e hfail =>
    rw [hlook] at hfail
    cases hfail
  | sale hmem hid hb hacc hpost hsale hrpost hprice hcamp hbuyer =>
    exact ⟨_, List.mem_cons_of_mem _ (List.mem_cons_of_mem _ (List.mem_cons_of_mem _
      (List.mem_singleton_self _))), LeadRequest.postUpdate_leadId ..,
      LeadRequest.postUpdate_inprogToken ..⟩
  | noSale hsale hbefore =>
    exact ⟨_, List.mem_append_right _ (List.mem_cons_of_mem _ (List.mem_singleton_self _)),
      LeadRequest.postUpdate_leadId .., LeadRequest.postUpdate_inprogToken ..⟩

/-- A release stays on its way until it runs. -/
theorem releases_step (h : Step s a s') (hok : a.succeeds = true)
    (hlook : a.lookupsSucceed = true) {l : Uuid} {v : String} (hrel : s.Releases l v) :
    s'.Releases l v ∨ s.executed a = some (.resetToken l v) := by
  cases hrel with
  | @claimed p todo hth hl hv =>
    left
    obtain ⟨j, hj⟩ := List.mem_iff_getElem?.mp hth
    obtain ⟨th', hj', hadv⟩ := step_advance h hj
    have hth' := List.mem_of_getElem? hj'
    cases hadv with
    | @routed env timing _ _ ha =>
      subst ha
      rw [Action.lookupsSucceed, Bool.not_eq_true'] at hlook
      obtain ⟨u, hu, hul, huv⟩ := leadUpdate_mem_postEffects p s.now timing hlook
      exact .recording hth' (List.mem_append_right _ hu) (hul.trans hl) (hv ▸ huv)
    | _ => exact .claimed hth' hl hv
  | @recording p result todo u hth hu hl hv =>
    left
    obtain ⟨j, hj⟩ := List.mem_iff_getElem?.mp hth
    obtain ⟨th', hj', hadv⟩ := step_advance h hj
    have hth' := List.mem_of_getElem? hj'
    cases hadv with
    | stay => exact .recording hth' hu hl hv
    | exec ha =>
      rcases List.mem_cons.mp hu with heq | hu
      · cases heq
      · exact .recording hth' hu hl hv
    | failed ha =>
      subst ha
      cases hok
    | enqueued hq =>
      rcases List.mem_cons.mp hu with heq | hu
      · refine .queued ?_ hl hv
        rw [hq, ← Effect.enqueue.inj heq]
        exact List.mem_append_right _ (List.mem_singleton_self _)
      · exact .recording hth' hu hl hv
    | spawned hs =>
      rcases List.mem_cons.mp hu with heq | hu
      · cases heq
      · exact .recording hth' hu hl hv
  | @queued u hu hl hv =>
    left
    rcases step_queue h with ⟨ts, hq⟩ | ⟨n, -, -, hq, hf⟩
    · refine .queued ?_ hl hv
      rw [hq]
      exact List.mem_append_left _ hu
    · -- the update is in the batch, or stays in the queue
      rw [← List.take_append_drop n s.queue, List.mem_append] at hu
      rcases hu with hu | hu
      · refine .flushing ?_
        rw [hf, ← hl]
        exact mem_flushBatch.mpr ⟨_, hu, List.mem_append_right _ (resetToken_mem_statements hv)⟩
      · exact .queued (hq ▸ hu) hl hv
  | flushing hmem =>
    rcases step_flushing h with hf | hf | ⟨ok, st, ha, hf⟩
    · exact Or.inl (.flushing (hf ▸ hmem))
    · rw [hf] at hmem
      cases hmem
    · subst ha
      obtain rfl : ok = true := hok
      rw [hf] at hmem
      rcases List.mem_cons.mp hmem with rfl | hmem
      · right
        rw [Sys.executed, hf, List.head?_cons]
      · exact Or.inl (.flushing hmem)

/-! ### The invariant -/

/-- Every `post_id` is empty, or its release is on its way, or a statement has bound it. -/
structure ReleaseInv (s : Sys) : Prop where
  not_claim : ∀ st, s.Pending st → st.isClaim = false
  covered : ∀ l r, s.leads.find l = some r →
    r.unclaimed = true ∨ (∃ v, r.postId = some v ∧ s.Releases l v) ∨
      ∃ st ∈ s.history, st.leadId = l ∧ st.boundPostId.isSome = true ∧ st.boundPostId = r.postId
  bound : ∀ st ∈ s.history, ∀ x ∈ st.boundPostId, isInprog x = false

omit [StdText] in
theorem releaseInv_init : ReleaseInv Sys.init where
  not_claim st hst := absurd hst (not_pending_init st)
  covered l r hr := by cases hr
  bound st hst := by cases hst

omit [StdText] in
theorem unclaimed_of_postId {r : Lead} (h : r.postId = some "") : r.unclaimed = true := by
  simp [Lead.unclaimed, h]

/-- A post that claims a lead holds the release of its claim. -/
theorem releases_of_claim (hinv : ReleaseInv s) (h : Step s a s') {l : Uuid}
    {promiseId token : String} (hexec : s.executed a = some (.claim l promiseId token)) :
    s'.Releases l token := by
  have hcases : s.Pending _ ∨ _ := pending_of_executed hexec
  rcases hcases with hp | hstop | ⟨⟨i, id, rfl⟩, -⟩
  · cases hinv.not_claim _ hp
  · cases hstop
  · cases h with
    | @claimed _ _ req promiseId' lead todo hi hfresh haff =>
      simp only [Sys.executed, hi, haff, if_true, Option.some_inj,
        LeadStatement.claim.injEq] at hexec
      obtain ⟨rfl, -, rfl⟩ := hexec
      have hth : (({ s with tokens := LeadRequest.inprogToken id :: s.tokens }.setThread i
          ⟨.claimed ⟨req, lead, LeadRequest.inprogToken id⟩, todo⟩).exec
          (.claim lead.uuid promiseId' (LeadRequest.inprogToken id)) true).threads[i]? =
            some ⟨.claimed ⟨req, lead, LeadRequest.inprogToken id⟩, todo⟩ := by
        rw [Sys.exec_threads]
        exact (Sys.getElem?_setThread hi).trans (if_pos rfl)
      exact .claimed (List.mem_of_getElem? hth) rfl rfl
    | unclaimed hi hno =>
      rw [Bool.true_and] at hno
      simp only [Sys.executed, hi, hno] at hexec
      cases hexec

omit [StdText] in
/-- A row that is there after a statement was there before, or was inserted. -/
theorem find_of_exec {now : Timestamp} {st : LeadStatement} {t : Leads} {l : Uuid} {r' : Lead}
    (h : (st.exec now t).find l = some r') :
    (∃ r, t.find l = some r) ∨ r'.postId = some "" := by
  rcases LeadStatement.find_exec now st t l with hx | ⟨c, rfl, hx⟩
  · rw [hx] at h
    obtain ⟨r, hr, -⟩ := Option.map_eq_some_iff.mp h
    exact Or.inl ⟨r, hr⟩
  · rw [hx] at h
    cases hr : t.find l with
    | some r => exact Or.inl ⟨r, rfl⟩
    | none =>
      rw [hr, Option.none_or] at h
      split at h
      · rw [← Option.some_inj.mp h]
        exact Or.inr rfl
      · cases h

theorem bound_step (hinv : ReleaseInv s) (hkeep : KeepsReleases s a) (h : Step s a s') :
    ∀ st ∈ s'.history, ∀ x ∈ st.boundPostId, isInprog x = false := by
  rcases step_exec h with ⟨-, -, hhist⟩ | ⟨st, hexec, -, hhist⟩
  · rw [hhist]
    exact hinv.bound
  · rw [hhist]
    split
    · intro st' hst'
      rcases List.mem_cons.mp hst' with rfl | hst'
      · exact hkeep.2.2 st' hexec
      · exact hinv.bound st' hst'
    · exact hinv.bound

theorem covered_step (hinv : ReleaseInv s) (hkeep : KeepsReleases s a) (h : Step s a s')
    {l : Uuid} {r' : Lead} (hr' : s'.leads.find l = some r') :
    r'.unclaimed = true ∨ (∃ v, r'.postId = some v ∧ s'.Releases l v) ∨
      ∃ st ∈ s'.history, st.leadId = l ∧ st.boundPostId.isSome = true ∧
        st.boundPostId = r'.postId := by
  have hsub : s.history ⊆ s'.history := by
    rcases step_exec h with ⟨-, -, hhist⟩ | ⟨st, -, -, hhist⟩
    · rw [hhist]
      exact List.Subset.refl _
    · rw [hhist]
      split
      · exact List.subset_cons_self _ _
      · exact List.Subset.refl _
  -- a row that keeps its `post_id` is covered as before, unless its release has run
  have hkept : ∀ r, s.leads.find l = some r → r'.postId = r.postId →
      (∀ v, r.postId = some v → s.executed a ≠ some (.resetToken l v)) →
      r'.unclaimed = true ∨ (∃ v, r'.postId = some v ∧ s'.Releases l v) ∨
        ∃ st ∈ s'.history, st.leadId = l ∧ st.boundPostId.isSome = true ∧
          st.boundPostId = r'.postId := by
    intro r hr hsame hnot
    rcases hinv.covered l r hr with hun | ⟨v, hv, hrel⟩ | ⟨st, hst, hl, hb, hx⟩
    · left
      rw [Lead.unclaimed, hsame]
      exact hun
    · rcases releases_step h hkeep.1 hkeep.2.1 hrel with hrel | hexec
      · exact Or.inr (Or.inl ⟨v, hsame.trans hv, hrel⟩)
      · exact absurd hexec (hnot v hv)
    · exact Or.inr (Or.inr ⟨st, hsub hst, hl, hb, hx.trans hsame.symm⟩)
  rcases step_exec h with ⟨hexec, hleads, -⟩ | ⟨st, hexec, hleads, hhist⟩
  · rw [hleads] at hr'
    refine hkept r' hr' rfl ?_
    intro v _ hx
    rw [hexec] at hx
    cases hx
  · rw [hleads] at hr'
    rcases find_of_exec hr' with ⟨r, hr⟩ | hnew
    · obtain ⟨r'', hr'', hcase⟩ := LeadStatement.exec_postId hr s.now st
      rw [hr', Option.some_inj] at hr''
      subst hr''
      rcases hcase with hsame | ⟨hl, hm, hsome, hnew⟩
      · by_cases hreset : ∃ v, r.postId = some v ∧ st = .resetToken l v
        · -- a release that runs on its token empties the column
          obtain ⟨v, hv, rfl⟩ := hreset
          have hup : (LeadStatement.resetToken l v).IsUpdate := trivial
          have hm : (LeadStatement.resetToken l v).matchesRow s.now r = true := by
            simp [LeadStatement.matchesRow, Table.find_key hr, hv]
          rw [LeadStatement.find_exec_of_isUpdate hup, hr, Option.map_some,
            LeadStatement.applyRow, if_pos hm, Option.some_inj] at hr'
          subst hr'
          exact Or.inl rfl
        · refine hkept r hr hsame ?_
          intro v hv hx
          rw [hexec, Option.some_inj] at hx
          exact hreset ⟨v, hv, hx⟩
      · cases st with
        | resetToken l' v => exact Or.inl (unclaimed_of_postId hnew)
        | claim l' promiseId token =>
          obtain rfl : l' = l := hl
          exact Or.inr (Or.inl ⟨token, hnew, releases_of_claim hinv h hexec⟩)
        | insertLead c => cases hsome
        | setStatus l' status vd => cases hsome
        | _ =>
          refine Or.inr (Or.inr ⟨_, ?_, hl, rfl, hnew.symm⟩)
          rw [hhist, if_pos]
          · exact List.mem_cons_self
          · exact List.any_eq_true.mpr ⟨r, (Table.find_eq_some_iff.mp hr).1, hm⟩
    · exact Or.inl (unclaimed_of_postId hnew)

theorem releaseInv_step (hinv : ReleaseInv s) (hkeep : KeepsReleases s a)
    (h : step s a = some s') : ReleaseInv s' := by
  have h := step_cases h
  exact
    { not_claim := pending_not_claim_step h hinv.not_claim
      covered := fun _ _ hr' => covered_step hinv hkeep h hr'
      bound := bound_step hinv hkeep h }

/-- In every run in which the statements succeed and no lookup of the router fails, once no post
is in progress and the queue is drained, no lead holds an in-progress token: its `post_id` is
empty, or it is the one that a statement has bound for a buyer. -/
theorem claims_released (actions : List Action) (s : Sys)
    (hkeep : Transition.Along step KeepsReleases Sys.init actions)
    (hrun : Transition.run step Sys.init actions = some s) (hq : s.Quiescent) (l : Uuid) (r : Lead)
    (hr : s.leads.find l = some r) :
    (∀ v, r.postId = some v → isInprog v = false) ∧
      (r.unclaimed = true ∨ ∃ st ∈ s.history, st.leadId = l ∧ st.boundPostId.isSome = true ∧
        st.boundPostId = r.postId) := by
  have hinv : ReleaseInv s :=
    Transition.inv_of_run (fun hs hp h => releaseInv_step hs hp h) releaseInv_init hkeep hrun
  rcases hinv.covered l r hr with hun | ⟨v, -, hrel⟩ | ⟨st, hst, hl, hb, hx⟩
  · refine ⟨?_, Or.inl hun⟩
    intro v hv
    rw [Lead.unclaimed, hv] at hun
    obtain rfl : v = "" := by simpa using hun
    rfl
  · exact absurd hrel (hq.not_releases l v)
  · refine ⟨?_, Or.inr ⟨st, hst, hl, hb, hx⟩⟩
    intro v hv
    exact hinv.bound st hst v (hx.trans hv)

end Step

/-! ### A lookup that fails -/

open Sample

/-- The routing of the post fails: the cache cannot be reached. -/
def failingEnv : RouteEnv :=
  { env with pingTree := .error "Redis connection error: Connection refused" }

/-- A ping in asynchronous mode whose tasks have run, and a post whose routing fails. -/
def failedLookupRun : List Action :=
  [.submit (ping true) new env timing, .effect 0 true, .effect 0 true, .effect 0 true,
    .take 3, .apply true, .apply true, .arrive post, .read 1 (.promise 7 false),
    .claim 1 100 true, .route 1 failingEnv timing]

/-- Every statement has succeeded and nothing is left to do, but the lead holds the token. -/
theorem failed_lookup_keeps_claim :
    (∀ a ∈ failedLookupRun, a.succeeds = true) ∧
    ∃ s, Transition.run step Sys.init failedLookupRun = some s ∧ s.Quiescent ∧
      ∃ r, s.leads.find 7 = some r ∧ ¬ ∀ v, r.postId = some v → isInprog v = false := by
  refine ⟨by decide, ?_⟩
  have h : (Transition.run step Sys.init failedLookupRun).any (fun s => decide (s.Quiescent) &&
      (s.leads.find 7).any fun r => r.postId.any isInprog) = true := by
    decide +kernel
  obtain ⟨s, hrun, hs⟩ := (Option.any_eq_true _ _).mp h
  rw [Bool.and_eq_true, decide_eq_true_iff] at hs
  obtain ⟨r, hr, hpost⟩ := (Option.any_eq_true _ _).mp hs.2
  obtain ⟨v, hv, hinprog⟩ := (Option.any_eq_true _ _).mp hpost
  refine ⟨s, hrun, hs.1, r, hr, ?_⟩
  intro hall
  rw [hall v hv] at hinprog
  cases hinprog

/-- The buyer of the campaign does not accept the post: its integration is not one of Pulsar's. -/
def rejectingEnv : RouteEnv :=
  { env with
    directory :=
      { findBuyer := fun _ => .ok (some ⟨20, some 30, .active, none⟩)
        findIntegration := fun _ => .ok (some ⟨30, "other", none, true⟩) } }

/-- A post that is not sold, up to the release of its claim. -/
def releasedRun : List Action :=
  [.submit (ping true) new env timing, .effect 0 true, .effect 0 true, .effect 0 true,
    .take 3, .apply true, .apply true, .arrive post, .read 1 (.promise 7 false),
    .claim 1 100 true, .route 1 rejectingEnv timing, .effect 1 true, .effect 1 true, .take 2,
    .apply true]

theorem claims_released_run :
    ∃ s, Transition.run step Sys.init releasedRun = some s ∧ s.Quiescent ∧
      ∃ r, s.leads.find 7 = some r ∧ ∀ v, r.postId = some v → isInprog v = false := by
  have h : (Transition.run step Sys.init releasedRun).any (fun s => decide (s.Quiescent) &&
      (s.leads.find 7).isSome) = true := by
    decide +kernel
  obtain ⟨s, hrun, hs⟩ := (Option.any_eq_true _ _).mp h
  rw [Bool.and_eq_true, decide_eq_true_iff] at hs
  obtain ⟨r, hr⟩ := Option.isSome_iff_exists.mp hs.2
  have hrel := claims_released releasedRun s (by decide +kernel) hrun hs.1 7 r hr
  exact ⟨s, hrun, hs.1, r, hr, hrel.1⟩

end LeadsNebula
