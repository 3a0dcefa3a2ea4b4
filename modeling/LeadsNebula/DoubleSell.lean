/-
No double sell, and when it fails.

A post claims a lead by a compare-and-set on `post_id`: the claim only matches
an empty column.  So a lead can be sold twice only if a later statement empties
the column again.  The claim's own release cannot do that after a sale, because
the sale has replaced the token.  But the updates of the ping that created the
lead bind an absent `post_id` as the empty text, and are not conditional on
anything; one that runs late empties the column of a lead that is sold
(`late_update_sells_twice`).

`KeepsPostId` is the condition that excludes this, step by step.  Under it the
invariant is `ClaimInv`: a lead has at most one *holder* (a post that has
claimed it and is being routed, or that a buyer has accepted), its `post_id` is
not empty while there is one, and no statement that is due to run releases that
`post_id`.

* `sold_at_most_once` — in every run whose steps meet `KeepsPostId`, at most
  one post on a lead is sold, and the `post_id` of a sold lead is not empty.
-/
import LeadsNebula.System

namespace LeadsNebula

/-! ### Holders -/

/-- The post has claimed lead `l`, and no answer has come back yet or a buyer has accepted. -/
def Stage.Holds (l : Uuid) : Stage → Prop
  | .claimed p => p.lead.uuid = l
  | .routed p (.ok r) => p.lead.uuid = l ∧ LeadRequest.isSale r = true
  | _ => False

/-- Request `i` holds lead `l`. -/
def Sys.Holds (s : Sys) (i : ℕ) (l : Uuid) : Prop :=
  ∃ th, s.threads[i]? = some th ∧ th.stage.Holds l

/-- The request is a post on lead `l` that a buyer has accepted. -/
def Thread.soldOn (l : Uuid) (th : Thread) : Bool :=
  match th.stage with
  | .routed p (.ok r) => p.lead.uuid = l && LeadRequest.isSale r
  | _ => false

/-- Request `i` is a post on lead `l` that a buyer has accepted. -/
def Sys.SoldPost (s : Sys) (i : ℕ) (l : Uuid) : Prop :=
  (s.threads[i]?).any (Thread.soldOn l) = true

instance (s : Sys) (i : ℕ) (l : Uuid) : Decidable (s.SoldPost i l) :=
  inferInstanceAs (Decidable (_ = true))

theorem Sys.SoldPost.holds {s : Sys} {i : ℕ} {l : Uuid} (h : s.SoldPost i l) : s.Holds i l := by
  obtain ⟨th, hi, hsold⟩ := (Option.any_eq_true _ _).mp h
  refine ⟨th, hi, ?_⟩
  rw [Thread.soldOn] at hsold
  split at hsold
  · next hstage =>
    rw [Bool.and_eq_true, decide_eq_true_iff] at hsold
    rw [hstage]
    exact hsold
  · cases hsold

/-- The lead a request works on, once it has one. -/
def Stage.leadId : Stage → Option Uuid
  | .submitted _ new _ => some new.uuid
  | .claimed p => some p.lead.uuid
  | .routed p _ => some p.lead.uuid
  | _ => none

/-- The token of a post. -/
def Stage.token : Stage → Option String
  | .claimed p => some p.token
  | .routed p _ => some p.token
  | _ => none

/-! ### The condition -/

/-- A statement that runs unconditionally binds no in-progress token as a `post_id`, and it
binds the empty `post_id` only where the column is empty. -/
def KeepsPostId (s : Sys) (a : Action) : Prop :=
  ∀ st ∈ s.executed a, ∀ x ∈ st.unconditionalPostId,
    x ∉ s.tokens ∧ (x = "" → ∀ r ∈ s.leads.find st.leadId, r.unclaimed = true)

instance (s : Sys) (a : Action) : Decidable (KeepsPostId s a) :=
  inferInstanceAs (Decidable (∀ st ∈ s.executed a, ∀ x ∈ st.unconditionalPostId,
    x ∉ s.tokens ∧ (x = "" → ∀ r ∈ s.leads.find st.leadId, r.unclaimed = true)))

/-! ### The invariant -/

/-- The statements that write the `post_id` of an accepted post. -/
def isSetPost : LeadStatement → Bool
  | .setPost _ _ => true
  | _ => false

structure ClaimInv (s : Sys) : Prop where
  /-- A request only leads to statements for its own lead. -/
  coherent : ∀ th ∈ s.threads, ∀ e ∈ th.todo, ∀ st ∈ e.statements,
    th.stage.leadId = some st.leadId
  /-- The tokens of the posts have been handed out. -/
  thread_tokens : ∀ th ∈ s.threads, ∀ t, th.stage.token = some t → t ∈ s.tokens
  /-- The tokens of the pending statements have been handed out. -/
  pending_tokens : ∀ st, s.Pending st → ∀ t, st.token = some t → t ∈ s.tokens
  /-- A lead has at most one holder. -/
  unique : ∀ l i j, s.Holds i l → s.Holds j l → i = j
  /-- While a lead has a holder its `post_id` is not empty, and nothing that is due to run
  releases it; what a post does after it has written its `post_id` is not yet due. -/
  held : ∀ l i, s.Holds i l → ∃ r v, s.leads.find l = some r ∧ r.postId = some v ∧ v ≠ "" ∧
    ∀ st, s.PendingUntil isSetPost st → st.leadId = l → st.token ≠ some v

theorem claimInv_init : ClaimInv Sys.init where
  coherent th hth := by cases hth
  thread_tokens th hth := by cases hth
  pending_tokens st hst := absurd hst (not_pending_init st)
  unique l i j hi := by
    obtain ⟨th, hth, -⟩ := hi
    cases hth
  held l i hi := by
    obtain ⟨th, hth, -⟩ := hi
    cases hth

section Threads

variable {s : Sys} {i j : ℕ} {l : Uuid} {th th₀ : Thread}

theorem holds_congr {s' : Sys} (h : s'.Holds j l) (ht : s'.threads = s.threads) : s.Holds j l := by
  obtain ⟨th, hj, hth⟩ := h
  exact ⟨th, ht ▸ hj, hth⟩

theorem holds_of_setThread (h : (s.setThread i th).Holds j l) (hi : s.threads[i]? = some th₀) :
    s.Holds j l ∨ i = j ∧ th.stage.Holds l := by
  obtain ⟨th', hj, hth'⟩ := h
  rw [Sys.getElem?_setThread hi] at hj
  by_cases hij : i = j
  · rw [if_pos hij, Option.some_inj] at hj
    subst hj
    exact Or.inr ⟨hij, hth'⟩
  · rw [if_neg hij] at hj
    exact Or.inl ⟨th', hj, hth'⟩

/-- A request that keeps its stage holds what it held. -/
theorem holds_of_setThread_stage (h : (s.setThread i th).Holds j l)
    (hi : s.threads[i]? = some th₀) (hstage : th.stage.Holds l → th₀.stage.Holds l) :
    s.Holds j l := by
  rcases holds_of_setThread h hi with hj | ⟨rfl, hth⟩
  · exact hj
  · exact ⟨th₀, hi, hstage hth⟩

theorem holds_of_addThread (h : (s.addThread th).Holds j l) (hth : ¬ th.stage.Holds l) :
    s.Holds j l := by
  obtain ⟨th', hj, hth'⟩ := h
  rw [Sys.getElem?_addThread] at hj
  split at hj
  · rw [Option.some_inj] at hj
    exact absurd (hj ▸ hth') hth
  · exact ⟨th', hj, hth'⟩

end Threads

/-! ### One step -/

section Step

variable [StdText] {s s' : Sys} {a : Action}

/-- A holder held the lead before, or claims it now. -/
theorem holds_of_step (h : Step s a s') {i : ℕ} {l : Uuid} (hi : s'.Holds i l) :
    s.Holds i l ∨ ∃ id promiseId, LeadRequest.inprogToken id ∉ s.tokens ∧
      a = .claim i id true ∧
      s.executed a = some (.claim l promiseId (LeadRequest.inprogToken id)) ∧
      (LeadStatement.claim l promiseId (LeadRequest.inprogToken id)).affects s.now s.leads
        = true := by
  cases h with
  | tick | evict => exact Or.inl (holds_congr hi rfl)
  | submit htype hnew => exact Or.inl (holds_congr (holds_of_addThread hi id) rfl)
  | arrive => exact Or.inl (holds_of_addThread hi id)
  | read hj hread =>
    obtain ⟨cache, hstore, -⟩ := Sys.store_eq s _ _ _
    rw [hstore] at hi
    exact Or.inl (holds_congr (holds_of_setThread_stage hi hj False.elim) rfl)
  | refuse hj => exact Or.inl (holds_of_setThread_stage hi hj False.elim)
  | @claimed j id req promiseId lead todo hj hfresh haff =>
    rcases holds_of_setThread (holds_congr hi Sys.exec_threads) hj with hi | ⟨rfl, rfl⟩
    · exact Or.inl (holds_congr hi rfl)
    · -- the only way to become a holder
      refine Or.inr ⟨id, promiseId, hfresh, rfl, ?_, haff⟩
      simp only [Sys.executed, hj, haff, if_true]
  | unclaimed hj hno =>
    exact Or.inl (holds_congr (holds_of_setThread_stage hi hj False.elim) rfl)
  | route hj =>
    -- a routed post holds the lead it was routed with, if it sold it
    refine Or.inl (holds_of_setThread_stage hi hj ?_)
    intro hheld
    simp only [Stage.Holds] at hheld
    split at hheld
    · next heq => cases heq
    · next heq =>
      obtain ⟨rfl, -⟩ := Stage.routed.inj heq
      exact hheld.1
    · exact hheld.elim
  | exec hj =>
    exact Or.inl (holds_of_setThread_stage (holds_congr hi Sys.exec_threads) hj id)
  | execFailed hj => exact Or.inl (holds_of_setThread_stage hi hj id)
  | @enqueue j ok stage t todo hj =>
    have hi' : (s.setThread j ⟨stage, todo⟩).Holds i l := holds_congr hi rfl
    exact Or.inl (holds_of_setThread_stage hi' hj id)
  | @spawn j ok stage st todo hj =>
    have hi' : (s.setThread j ⟨stage, todo⟩).Holds i l := holds_congr hi rfl
    exact Or.inl (holds_of_setThread_stage hi' hj id)
  | take hidle => exact Or.inl (holds_congr hi rfl)
  | apply hst => exact Or.inl (holds_congr (holds_congr hi Sys.exec_threads) rfl)
  | spawned hst => exact Or.inl (holds_congr (holds_congr hi Sys.exec_threads) rfl)

theorem step_tokens (h : Step s a s') : s.tokens ⊆ s'.tokens := by
  cases h with
  | read hi hread =>
    obtain ⟨cache, hstore, -⟩ := Sys.store_eq s _ _ _
    rw [hstore]
    exact List.Subset.refl _
  | claimed hi hfresh haff =>
    rw [Sys.exec_tokens]
    exact List.subset_cons_self _ _
  | unclaimed hi hno => exact List.subset_cons_self _ _
  | exec hi =>
    rw [Sys.exec_tokens]
    exact List.Subset.refl _
  | apply hst =>
    rw [Sys.exec_tokens]
    exact List.Subset.refl _
  | spawned hst =>
    rw [Sys.exec_tokens]
    exact List.Subset.refl _
  | _ => exact List.Subset.refl _

theorem coherent_step (hinv : ClaimInv s) (h : Step s a s') :
    ∀ th ∈ s'.threads, ∀ e ∈ th.todo, ∀ st ∈ e.statements,
      th.stage.leadId = some st.leadId := by
  intro th hth e he st hst
  cases step_threads h hth with
  | effect hmem hsub => exact hinv.coherent _ hmem e (hsub he) st hst
  | submitted ha hnew =>
    rw [(LeadRequest.onLead_createEffects he st hst).1]
    rfl
  | arrived => cases he
  | found ha hi hread => exact hinv.coherent _ (List.mem_of_getElem? hi) e he st hst
  | notFound hmem => exact hinv.coherent _ hmem e he st hst
  | unclaimed hmem => exact hinv.coherent _ hmem e he st hst
  | claimed ha hmem => cases hinv.coherent _ hmem e he st hst
  | routed ha hi =>
    rcases List.mem_append.mp he with he | he
    · exact hinv.coherent _ (List.mem_of_getElem? hi) e he st hst
    · rw [(LeadRequest.postEffects_statements he hst).1]
      rfl

theorem thread_tokens_step (hinv : ClaimInv s) (h : Step s a s') :
    ∀ th ∈ s'.threads, ∀ t, th.stage.token = some t → t ∈ s'.tokens := by
  intro th hth t ht
  cases step_threads h hth with
  | effect hmem hsub => exact step_tokens h (hinv.thread_tokens _ hmem t ht)
  | claimed ha hmem =>
    subst ha
    rw [← Option.some_inj.mp ht]
    cases h with
    | claimed hi hfresh haff =>
      rw [Sys.exec_tokens]
      exact List.mem_cons_self
    | unclaimed hi hno => exact List.mem_cons_self
  | routed ha hi =>
    exact step_tokens h (hinv.thread_tokens _ (List.mem_of_getElem? hi) t ht)
  | _ => cases ht

theorem pending_tokens_step (hinv : ClaimInv s) (h : Step s a s') :
    ∀ st, s'.Pending st → ∀ t, st.token = some t → t ∈ s'.tokens := by
  intro st hst t ht
  refine step_tokens h ?_
  rcases step_pending h hst with hst | ⟨e, he, hst'⟩
  · exact hinv.pending_tokens st hst t ht
  · cases h with
    | submit htype hnew =>
      rw [(LeadRequest.onLead_createEffects he st hst').2.1] at ht
      cases ht
    | route hi =>
      simp only [Sys.newEffects, hi] at he
      rw [(LeadRequest.postEffects_statements he hst').2.1 t ht]
      exact hinv.thread_tokens _ (List.mem_of_getElem? hi) _ rfl
    | _ => cases he

omit [StdText] in
theorem unclaimed_eq_false {r : Lead} {v : String} (hv : r.postId = some v) (hne : v ≠ "") :
    r.unclaimed = false := by
  simp [Lead.unclaimed, hv, hne]

omit [StdText] in
/-- A claim that matches finds the row of its lead unclaimed. -/
theorem unclaimed_of_affects {l : Uuid} {promiseId token : String}
    (h : (LeadStatement.claim l promiseId token).affects s.now s.leads = true) :
    ∃ r, s.leads.find l = some r ∧ r.unclaimed = true ∧
      (LeadStatement.claim l promiseId token).matchesRow s.now r = true := by
  have hup : (LeadStatement.claim l promiseId token).IsUpdate := trivial
  obtain ⟨r, hr, hm⟩ := LeadStatement.find_of_affects hup h
  exact ⟨r, hr, (LeadStatement.matchesRow_claim hm).2, hm⟩

omit [StdText] in
/-- An unclaimed row has no holder. -/
theorem not_holds_of_unclaimed (hinv : ClaimInv s) {l : Uuid} {r : Lead}
    (hr : s.leads.find l = some r) (hun : r.unclaimed = true) (i : ℕ) : ¬ s.Holds i l := by
  intro hi
  obtain ⟨r', v, hr', hv, hne, -⟩ := hinv.held l i hi
  rw [hr, Option.some_inj] at hr'
  subst hr'
  rw [unclaimed_eq_false hv hne] at hun
  cases hun

/-- Over one step, the `post_id` of a held lead stays, or becomes one that is not a token; the
latter is so when a post writes its `post_id`. -/
theorem held_row_step (hkeep : KeepsPostId s a) (h : Step s a s') {l : Uuid}
    {r : Lead} {v : String} (hr : s.leads.find l = some r) (hv : r.postId = some v) (hne : v ≠ "")
    (hdue : ∀ st, s.PendingUntil isSetPost st → st.leadId = l → st.token ≠ some v) :
    ∃ r' v', s'.leads.find l = some r' ∧ r'.postId = some v' ∧ v' ≠ "" ∧
      (v' ∉ s.tokens ∨ v' = v ∧ ∀ x, s.executed a ≠ some (.setPost l x)) := by
  -- what the condition says about a value that is bound on this lead
  have hbound : ∀ st x, s.executed a = some st → st.leadId = l → st.token = none →
      st.boundPostId = some x → x ∉ s.tokens ∧ x ≠ "" := by
    intro st x hexec hl htok hx
    obtain ⟨hfresh, hblank⟩ := hkeep st hexec x (by
      rw [LeadStatement.unconditionalPostId, htok]
      exact hx)
    refine ⟨hfresh, ?_⟩
    intro hx0
    have hun := hblank hx0 r (by rw [hl]; exact hr)
    rw [unclaimed_eq_false hv hne] at hun
    cases hun
  rcases step_exec h with ⟨hexec, hleads, -⟩ | ⟨st, hexec, hleads, -⟩
  · rw [hleads]
    refine ⟨r, v, hr, hv, hne, Or.inr ⟨rfl, ?_⟩⟩
    intro x hx
    rw [hexec] at hx
    cases hx
  · rw [hleads]
    by_cases hset : ∃ x, st = .setPost l x
    · obtain ⟨x, rfl⟩ := hset
      obtain ⟨hfresh, hx⟩ := hbound _ x hexec rfl rfl rfl
      have hm : (LeadStatement.setPost l x).matchesRow s.now r = true := by
        rw [LeadStatement.matchesRow, decide_eq_true_iff]
        exact Table.find_key hr
      refine ⟨(LeadStatement.setPost l x).setRow s.now r, x, ?_, rfl, hx, Or.inl hfresh⟩
      have hup : (LeadStatement.setPost l x).IsUpdate := trivial
      rw [LeadStatement.find_exec_of_isUpdate hup, hr, Option.map_some, LeadStatement.applyRow,
        if_pos hm]
    · have hset' : ∀ x, s.executed a ≠ some (.setPost l x) := by
        intro x hx
        rw [hexec, Option.some_inj] at hx
        exact hset ⟨x, hx⟩
      obtain ⟨r', hr', hsame | ⟨hl, hm, hsome, hnew⟩⟩ := LeadStatement.exec_postId hr s.now st
      · exact ⟨r', v, hr', hsame.trans hv, hne, Or.inr ⟨rfl, hset'⟩⟩
      · cases htok : st.token with
        | some t =>
          -- a conditional statement that matches releases `v`, but none is due
          have hvt : v = t := by
            rw [LeadStatement.matchesRow_token htok hm, Option.some_inj] at hv
            exact hv.symm
          rcases pending_of_executed (s := s) hexec with hp | hp | ⟨-, _, _, _, rfl⟩
          · exact absurd (hvt ▸ htok) (hdue st hp hl)
          · cases st with
            | setPost _ _ => cases htok
            | _ => cases hp
          · cases htok
        | none =>
          obtain ⟨x, hx⟩ := Option.isSome_iff_exists.mp hsome
          rw [hx] at hnew
          cases hb : st.boundPostId with
          | some y =>
            obtain ⟨hfresh, hy⟩ := hbound st y hexec hl htok hb
            have hxy : x = y := by
              cases st with
              | resetToken _ _ => cases hb
              | claim _ _ _ => cases hb
              | _ => exact Option.some_inj.mp (hx.symm.trans hb)
            subst hxy
            exact ⟨r', x, hr', hnew, hy, Or.inl hfresh⟩
          | none =>
            -- only a claim is left, and a claim does not match a held row
            cases st with
            | claim l' promiseId token =>
              have hun := (LeadStatement.matchesRow_claim hm).2
              rw [unclaimed_eq_false hv hne] at hun
              cases hun
            | resetToken _ _ => cases htok
            | insertLead _ => cases hx
            | setStatus _ _ _ => cases hx
            | _ => cases hb

theorem unique_step (hinv : ClaimInv s) (h : Step s a s') {l : Uuid} {i j : ℕ}
    (hi : s'.Holds i l) (hj : s'.Holds j l) : i = j := by
  rcases holds_of_step h hi with hi | ⟨id, promiseId, -, ha, -, haff⟩
  · rcases holds_of_step h hj with hj | ⟨id, promiseId, -, ha, -, haff⟩
    · exact hinv.unique l i j hi hj
    · obtain ⟨r, hr, hun, -⟩ := unclaimed_of_affects haff
      exact absurd hi (not_holds_of_unclaimed hinv hr hun i)
  · rcases holds_of_step h hj with hj | ⟨id', promiseId', -, ha', -, -⟩
    · obtain ⟨r, hr, hun, -⟩ := unclaimed_of_affects haff
      exact absurd hj (not_holds_of_unclaimed hinv hr hun j)
    · rw [ha, Action.claim.injEq] at ha'
      exact ha'.1

/-- A post that is being routed and holds its lead afterwards was accepted, and owes nothing
before it has written its `post_id`. -/
theorem not_owed_of_sale {p : ClaimedPost} {now : Timestamp} {env : RouteEnv}
    {timing : AuctionTiming} {l : Uuid} {st : LeadStatement}
    (hstage : (Stage.routed p ((p.req.postRouter p.lead).route env).result).Holds l) :
    st ∉ owed isSetPost (p.req.postEffects p.lead p.token now env timing) := by
  intro hst
  have hout := LeadRequest.postOutcome p.req p.lead p.token now env timing
  revert hstage hst
  generalize ((p.req.postRouter p.lead).route env).result = result at hout ⊢
  generalize p.req.postEffects p.lead p.token now env timing = effects at hout ⊢
  intro hstage hst
  cases hout with
  | failed e hfail => exact hstage
  | sale hmem hid hb hacc hpost hsale hrpost hprice hcamp hbuyer => cases hst
  | noSale hsale hbefore =>
    rw [hstage.2] at hsale
    cases hsale

theorem held_step (hinv : ClaimInv s) (hkeep : KeepsPostId s a) (h : Step s a s') {l : Uuid}
    {i : ℕ} (hi : s'.Holds i l) :
    ∃ r v, s'.leads.find l = some r ∧ r.postId = some v ∧ v ≠ "" ∧
      ∀ st, s'.PendingUntil isSetPost st → st.leadId = l → st.token ≠ some v := by
  rcases holds_of_step h hi with hold | ⟨id, promiseId, hfresh, ha, hexec, haff⟩
  · obtain ⟨r, v, hr, hv, hne, hdue⟩ := hinv.held l i hold
    obtain ⟨r', v', hr', hv', hne', hcase⟩ := held_row_step hkeep h hr hv hne hdue
    refine ⟨r', v', hr', hv', hne', ?_⟩
    intro st hst hl htok
    rcases step_pendingUntil h hst with hp | hnew | ⟨j, stage, st₀, todo, rfl, hj, hstop, hp⟩
    · rcases hcase with hfresh | ⟨rfl, -⟩
      · exact hfresh (hinv.pending_tokens st (pending_of_pendingUntil hp) v' htok)
      · exact hdue st hp hl htok
    · cases h with
      | submit htype hnew' =>
        obtain ⟨e, he, hst'⟩ := mem_statements_of_owed hnew
        rw [(LeadRequest.onLead_createEffects he st hst').2.1] at htok
        cases htok
      | @route j env timing p todo hj =>
        simp only [Sys.newEffects, hj] at hnew
        obtain ⟨e, he, hst'⟩ := mem_statements_of_owed hnew
        have hpl : p.lead.uuid = l := by
          rw [← (LeadRequest.postEffects_statements he hst').1]
          exact hl
        -- the post that is routed held the lead, so it is the holder
        obtain rfl : j = i := hinv.unique l j i ⟨_, hj, hpl⟩ hold
        obtain ⟨th, hth, hstage⟩ := hi
        rw [Sys.getElem?_setThread hj, if_pos rfl, Option.some_inj] at hth
        subst hth
        exact not_owed_of_sale hstage hnew
      | _ => cases hnew
    · -- the post has written its `post_id` now: what it owes becomes due
      have hmem := List.mem_of_getElem? hj
      have hst₀ : stage.leadId = some st₀.leadId :=
        hinv.coherent _ hmem (.exec st₀) List.mem_cons_self st₀ (List.mem_singleton_self _)
      obtain ⟨e, he, hst'⟩ := mem_statements_of_owed hp
      have hstl : stage.leadId = some st.leadId :=
        hinv.coherent _ hmem e (List.mem_cons_of_mem _ he) st hst'
      have hexec : s.executed (.effect j true) = some st₀ := by
        simp only [Sys.executed, hj]
      rcases hcase with hfresh | ⟨-, hset⟩
      · refine hfresh (hinv.pending_tokens st (.thread hmem ?_) v' htok)
        exact mem_owed_never.mpr ⟨e, List.mem_cons_of_mem _ he, hst'⟩
      · cases st₀ with
        | setPost l' x =>
          rw [hst₀, hl, Option.some_inj] at hstl
          have hl' : l' = l := hstl
          exact hset x (hl' ▸ hexec)
        | _ => cases hstop
  · -- the lead is claimed by this step, with a token nobody has seen
    obtain ⟨r, hr, hun, hm⟩ := unclaimed_of_affects haff
    rcases step_exec h with ⟨hnone, -, -⟩ | ⟨st, hst, hleads, -⟩
    · rw [hnone] at hexec
      cases hexec
    · rw [hexec, Option.some_inj] at hst
      subst hst
      refine ⟨(LeadStatement.claim l promiseId (LeadRequest.inprogToken id)).setRow s.now r,
        LeadRequest.inprogToken id, ?_, rfl, LeadRequest.inprogToken_ne_empty id, ?_⟩
      · have hup : (LeadStatement.claim l promiseId (LeadRequest.inprogToken id)).IsUpdate :=
          trivial
        rw [hleads, LeadStatement.find_exec_of_isUpdate hup, hr, Option.map_some,
          LeadStatement.applyRow, if_pos hm]
      · intro st hst hl htok
        rcases step_pendingUntil h hst with hp | hnew | ⟨j, stage, st₀, todo, ha', -, -, -⟩
        · exact hfresh (hinv.pending_tokens st (pending_of_pendingUntil hp) _ htok)
        · rw [ha] at hnew
          cases hnew
        · rw [ha] at ha'
          cases ha'

theorem claimInv_step (hinv : ClaimInv s) (hkeep : KeepsPostId s a)
    (h : step s a = some s') : ClaimInv s' := by
  have h := step_cases h
  exact
    { coherent := coherent_step hinv h
      thread_tokens := thread_tokens_step hinv h
      pending_tokens := pending_tokens_step hinv h
      unique := fun _ _ _ hi hj => unique_step hinv h hi hj
      held := fun _ _ hi => held_step hinv hkeep h hi }

/-- In every run whose steps meet `KeepsPostId`, at most one post on a lead is sold, and the
`post_id` of a lead that a post has sold is not empty. -/
theorem sold_at_most_once (actions : List Action) (s : Sys)
    (hkeep : Transition.Along step KeepsPostId Sys.init actions)
    (hrun : Transition.run step Sys.init actions = some s) (l : Uuid) :
    (∀ i j, s.SoldPost i l → s.SoldPost j l → i = j) ∧
      ∀ i, s.SoldPost i l → ∃ r, s.leads.find l = some r ∧ r.unclaimed = false := by
  have hinv : ClaimInv s :=
    Transition.inv_of_run (fun hs hp h => claimInv_step hs hp h) claimInv_init hkeep hrun
  refine ⟨?_, ?_⟩
  · intro i j hi hj
    exact hinv.unique l i j hi.holds hj.holds
  · intro i hi
    obtain ⟨r, v, hr, hv, hne, -⟩ := hinv.held l i hi.holds
    exact ⟨r, hr, unclaimed_eq_false hv hne⟩

end Step

/-! ### The late update -/

open Sample

/-- A ping whose tasks have all run but for the update it has spawned; a post that is sold; the
spawned update; and a second post. -/
def lateUpdateRun : List Action :=
  [.submit (ping false) new env timing, .effect 0 true, .effect 0 true, .effect 0 true,
    .effect 0 true, .effect 0 true, .take 4, .apply true, .apply true, .apply true, .apply true] ++
  postRun 1 100 ++ [.spawned 0 true] ++ postRun 2 101

/-- Both posts are sold. -/
theorem late_update_sells_twice :
    ∃ s, Transition.run step Sys.init lateUpdateRun = some s ∧
      ¬ ∀ l i j, s.SoldPost i l → s.SoldPost j l → i = j := by
  have h : (Transition.run step Sys.init lateUpdateRun).any
      (fun s => decide (s.SoldPost 1 7 ∧ s.SoldPost 2 7)) = true := by
    decide +kernel
  obtain ⟨s, hrun, hsold⟩ := (Option.any_eq_true _ _).mp h
  refine ⟨s, hrun, ?_⟩
  intro hall
  obtain ⟨h1, h2⟩ := of_decide_eq_true hsold
  exact absurd (hall 7 1 2 h1 h2) (by decide)

/-- A ping in asynchronous mode, which makes no update of its own, and two posts: the first is
sold, the second does not get the claim. -/
def asyncPostRun : List Action :=
  [.submit (ping true) new env timing, .effect 0 true, .effect 0 true, .effect 0 true,
    .take 3, .apply true, .apply true] ++ postRun 1 100 ++
  [.arrive post, .read 2 (.promise 7 false), .claim 2 101 true, .take 3, .apply true, .apply true]

theorem sold_at_most_once_async :
    ∃ s, Transition.run step Sys.init asyncPostRun = some s ∧ s.SoldPost 1 7 ∧
      (∀ j, s.SoldPost j 7 → j = 1) ∧
      ∃ r, s.leads.find 7 = some r ∧ r.unclaimed = false := by
  have h : (Transition.run step Sys.init asyncPostRun).any
      (fun s => decide (s.SoldPost 1 7)) = true := by
    decide +kernel
  obtain ⟨s, hrun, hsold⟩ := (Option.any_eq_true _ _).mp h
  have hsold : s.SoldPost 1 7 := of_decide_eq_true hsold
  obtain ⟨huniq, hrow⟩ := sold_at_most_once asyncPostRun s (by decide +kernel) hrun 7
  exact ⟨s, hrun, hsold, fun j hj => huniq j 1 hj hsold, hrow 1 hsold⟩

end LeadsNebula
