/-
Posts on the leads of other publishers.

`create_lead` looks the lead of a post up by its promise, in the cache and then in
the table, or by its `lead_id`; it claims the row that it finds, routes the lead
and answers with fields of it.  None of this asks whose lead it is.

* `Sys.postActivity` — what an action of a post writes, routes and answers;
* `copied_run` — the copy of a lead that a post works on has the publisher of the
  row, in any run;
* `publisher_isolated_iff` — the posts of a run keep to the leads of their
  publishers exactly when the leads that they come to claim are those;
* `post_on_foreign_lead` — a post on the lead of another publisher.
-/
import LeadsNebula.KnownLeads

namespace LeadsNebula

/-! ### Responses -/

/-- A price in whole cents. -/
def F64.roundCents : F64 → F64
  | .fin q => .fin ((if 0 ≤ q then (q * 100 + 1 / 2).floor else (q * 100 - 1 / 2).ceil) / 100)
  | x => x

/-- The `lead` part of a response. -/
structure LeadNode where
  promiseId : Option String
  leadId : Option String
  leadUuid : Option String
  pingId : Option String
  bid : Option F64
  postId : Option String
  price : Option F64

namespace LeadNode

/-- No lead was found, or a lookup, the claim or the routing failed. -/
def empty : LeadNode := ⟨none, none, none, none, none, none, none⟩

/-- The post did not get the claim. -/
def ofRefused (lead : Lead) : LeadNode :=
  { empty with
    leadId := lead.leadId
    leadUuid := some lead.uuid.toString
    pingId := lead.pingId
    postId := lead.postId }

/-- The post has been routed. -/
def ofRouted (lead : Lead) : Except String RoutingResult → LeadNode
  | .ok r =>
    { empty with
      leadId := lead.leadId
      leadUuid := some lead.uuid.toString
      postId := r.postId
      price := r.price.map F64.roundCents }
  | .error _ => empty

/-- A field of the response is one of the lead. -/
def discloses (n : LeadNode) (lead : Lead) : Bool :=
  n.leadUuid = some lead.uuid.toString || (n.leadId.isSome && n.leadId = lead.leadId) ||
    (n.pingId.isSome && n.pingId = lead.pingId) || (n.postId.isSome && n.postId = lead.postId)

theorem discloses_empty (lead : Lead) : empty.discloses lead = false := by
  simp [empty, discloses]

theorem discloses_ofRefused (lead : Lead) : (ofRefused lead).discloses lead = true := by
  simp [ofRefused, discloses]

end LeadNode

/-! ### What a post does -/

/-- What an action of a post does about leads: the statements that it runs or leaves to run, the
lead that it routes, and the response that it gives, with the lead that it is made from. -/
structure PostActivity where
  publisherId : Uuid
  statements : List LeadStatement
  routed : Option Lead
  answer : Option (Lead × LeadNode)

/-- The post keeps to the leads of its publisher. -/
structure PostActivity.Isolated (s : Sys) (act : PostActivity) : Prop where
  changes : ∀ st ∈ act.statements,
    ∃ r, s.leads.find st.leadId = some r ∧ r.publisherId = some act.publisherId
  routes : ∀ lead, act.routed = some lead → lead.publisherId = some act.publisherId
  discloses : ∀ lead node, act.answer = some (lead, node) → node.discloses lead = true →
    lead.publisherId = some act.publisherId

/-- A post whose claim is run has found a lead of its publisher. -/
def Sys.claimsOwn (s : Sys) : Action → Bool
  | .claim i _ true =>
    match s.threads[i]? with
    | some ⟨.found req _ lead, _⟩ => lead.publisherId = some req.publisherId
    | _ => true
  | _ => true

theorem Sys.claimsOwn_iff {s : Sys} {i : ℕ} {id : Uuid} {req : LeadRequest} {promiseId : String}
    {lead : Lead} {todo : List Effect}
    (hi : s.threads[i]? = some ⟨.found req promiseId lead, todo⟩) :
    s.claimsOwn (.claim i id true) = true ↔ lead.publisherId = some req.publisherId := by
  simp only [Sys.claimsOwn, hi, decide_eq_true_eq]

/-- The copies of leads have the publishers of the rows. -/
def Copied (s : Sys) : Prop :=
  ∀ lead, s.Copy lead → ∃ r, s.leads.find lead.uuid = some r ∧ r.publisherId = lead.publisherId

theorem LeadStatement.applyRow_publisherId (now : Timestamp) (st : LeadStatement) (r : Lead) :
    (st.applyRow now r).publisherId = r.publisherId := by
  rw [LeadStatement.applyRow]
  split
  · cases st <;> rfl
  · rfl

section Runs

variable [StdText]

def Sys.postActivity (s : Sys) : Action → Option PostActivity
  | .claim i id ok =>
    match s.threads[i]? with
    | some ⟨.found req promiseId lead, _⟩ =>
      let st := LeadStatement.claim lead.uuid promiseId (LeadRequest.inprogToken id)
      some <|
        if !ok then ⟨req.publisherId, [], none, some (lead, .empty)⟩
        else if st.affects s.now s.leads then ⟨req.publisherId, [st], none, none⟩
        else ⟨req.publisherId, [], none, some (lead, .ofRefused lead)⟩
    | _ => none
  | .route i env timing =>
    match s.threads[i]? with
    | some ⟨.claimed p, _⟩ =>
      some ⟨p.req.publisherId,
        (p.req.postEffects p.lead p.token s.now env timing).flatMap Effect.statements,
        some p.lead, some (p.lead, .ofRouted p.lead ((p.req.postRouter p.lead).route env).result)⟩
    | _ => none
  | _ => none

/-- An action of a post keeps to the leads of its publisher. -/
def Sys.Isolated (s : Sys) (a : Action) : Prop :=
  ∀ act, s.postActivity a = some act → act.Isolated s

variable {s s' : Sys} {a : Action}

/-! ### Copies have the publisher of the row -/

/-- A row stays, with its publisher. -/
theorem step_publisher (h : Step s a s') {l : Uuid} {r : Lead} (hr : s.leads.find l = some r) :
    ∃ r', s'.leads.find l = some r' ∧ r'.publisherId = r.publisherId := by
  rcases step_exec h with ⟨-, hleads, -⟩ | ⟨st, -, hleads, -⟩
  · rw [hleads]
    exact ⟨r, hr, rfl⟩
  · rw [hleads]
    rcases LeadStatement.find_exec_of_find hr s.now st with hx | ⟨-, hx⟩
    · exact ⟨_, hx, LeadStatement.applyRow_publisherId s.now st r⟩
    · exact ⟨r, hx, rfl⟩

omit [StdText] in
theorem copied_init : Copied Sys.init := by
  intro lead hc
  cases hc with
  | cached h => cases h
  | post hth h => cases hth

theorem copied_step (hinv : Copied s) (h : Step s a s') : Copied s' := by
  intro lead hc
  rcases step_copy h hc with hold | ⟨-, hrow⟩
  · obtain ⟨r, hr, hpub⟩ := hinv lead hold
    obtain ⟨r', hr', hpub'⟩ := step_publisher h hr
    exact ⟨r', hr', hpub'.trans hpub⟩
  · exact step_publisher h hrow

/-! ### Claimed leads -/

/-- A claimed post was claimed before, or the action claims its lead. -/
theorem step_claimed (h : Step s a s') {p : ClaimedPost} {todo : List Effect}
    (hth : ⟨.claimed p, todo⟩ ∈ s'.threads) :
    (∃ todo', ⟨.claimed p, todo'⟩ ∈ s.threads) ∨
      ∃ i id promiseId todo', a = .claim i id true ∧
        s.threads[i]? = some ⟨.found p.req promiseId p.lead, todo'⟩ := by
  have horigin := step_threads h hth
  cases h with
  | @claimed i id req promiseId lead todo' hi hfresh haff =>
    rw [Sys.exec_threads] at hth
    rcases Sys.mem_setThread hth with heq | hold
    · cases heq
      exact Or.inr ⟨i, id, promiseId, todo, rfl, hi⟩
    · exact Or.inl ⟨todo, hold⟩
  | unclaimed hi hno =>
    rcases Sys.mem_setThread hth with heq | hold
    · cases heq
    · exact Or.inl ⟨todo, hold⟩
  | _ =>
    cases horigin with
    | effect hold hsub => exact Or.inl ⟨_, hold⟩
    | claimed ha hold => cases ha

omit [StdText] in
/-- Copies have the publishers of the rows, and posts have claimed leads of their publishers. -/
structure OwnClaims (s : Sys) : Prop where
  copied : Copied s
  own : ∀ p todo, ⟨.claimed p, todo⟩ ∈ s.threads → p.lead.publisherId = some p.req.publisherId

omit [StdText] in
theorem ownClaims_init : OwnClaims Sys.init := ⟨copied_init, fun _ _ hth => by cases hth⟩

theorem ownClaims_step (hinv : OwnClaims s) (ha : s.claimsOwn a = true) (h : step s a = some s') :
    OwnClaims s' := by
  have h := step_cases h
  refine ⟨copied_step hinv.copied h, fun p todo hth => ?_⟩
  rcases step_claimed h hth with ⟨todo', hold⟩ | ⟨i, id, promiseId, todo', rfl, hi⟩
  · exact hinv.own p todo' hold
  · exact (Sys.claimsOwn_iff hi).mp ha

/-! ### Isolation -/

section Claim

variable {i : ℕ} {req : LeadRequest} {promiseId : String} {lead : Lead} {todo : List Effect}
  (hi : s.threads[i]? = some ⟨.found req promiseId lead, todo⟩) (id : Uuid)
include hi

theorem postActivity_failed : s.postActivity (.claim i id false) =
    some ⟨req.publisherId, [], none, some (lead, .empty)⟩ := by
  simp only [Sys.postActivity, hi, Bool.not_false, if_true]

theorem postActivity_claimed
    (haff : (LeadStatement.claim lead.uuid promiseId (LeadRequest.inprogToken id)).affects
      s.now s.leads = true) :
    s.postActivity (.claim i id true) = some ⟨req.publisherId,
      [.claim lead.uuid promiseId (LeadRequest.inprogToken id)], none, none⟩ := by
  simp only [Sys.postActivity, hi, haff, Bool.not_true, Bool.false_eq_true, if_false, if_true]

theorem postActivity_refused
    (haff : (LeadStatement.claim lead.uuid promiseId (LeadRequest.inprogToken id)).affects
      s.now s.leads ≠ true) :
    s.postActivity (.claim i id true) =
      some ⟨req.publisherId, [], none, some (lead, .ofRefused lead)⟩ := by
  simp only [Sys.postActivity, hi, haff, Bool.not_true, Bool.false_eq_true, if_false]

end Claim

/-- A claim that is run changes its row, or the response discloses the lead. -/
theorem claimsOwn_of_isolated (hinv : Copied s) (h : s.Isolated a) : s.claimsOwn a = true := by
  cases a with
  | claim i id ok =>
    cases ok with
    | false => rfl
    | true =>
      rw [Sys.claimsOwn]
      split
      · next req promiseId lead todo hi =>
        rw [decide_eq_true_eq]
        by_cases haff : (LeadStatement.claim lead.uuid promiseId
            (LeadRequest.inprogToken id)).affects s.now s.leads = true
        · have hiso := h _ (postActivity_claimed hi id haff)
          obtain ⟨r, hr, hown⟩ := hiso.changes _ (List.mem_singleton_self _)
          obtain ⟨r', hr', hpub⟩ := hinv lead (.post (List.mem_of_getElem? hi) rfl)
          have heq : r' = r := Option.some_inj.mp (hr'.symm.trans hr)
          rw [← hpub, heq]
          exact hown
        · have hiso := h _ (postActivity_refused hi id haff)
          exact hiso.discloses lead _ rfl (LeadNode.discloses_ofRefused lead)
      · rfl
  | _ => rfl

theorem isolated_claim (hinv : Copied s) {i : ℕ} {id : Uuid} {ok : Bool}
    (h : s.claimsOwn (.claim i id ok) = true) : s.Isolated (.claim i id ok) := by
  intro act hact
  obtain ⟨req, promiseId, lead, todo, hi⟩ : ∃ req promiseId lead todo,
      s.threads[i]? = some ⟨.found req promiseId lead, todo⟩ := by
    simp only [Sys.postActivity] at hact
    split at hact
    · next req promiseId lead todo hi => exact ⟨req, promiseId, lead, todo, hi⟩
    · cases hact
  cases ok with
  | false =>
    -- a claim that fails is answered with an empty lead
    rw [postActivity_failed hi, Option.some_inj] at hact
    subst hact
    refine ⟨fun st hst => absurd hst List.not_mem_nil, fun lead' hl => (by cases hl),
      fun lead' node hans hdis => ?_⟩
    obtain ⟨rfl, rfl⟩ := Prod.mk.inj (Option.some_inj.mp hans)
    rw [LeadNode.discloses_empty] at hdis
    cases hdis
  | true =>
    have hown : lead.publisherId = some req.publisherId := (Sys.claimsOwn_iff hi).mp h
    obtain ⟨r, hr, hpub⟩ := hinv lead (.post (List.mem_of_getElem? hi) rfl)
    by_cases haff : (LeadStatement.claim lead.uuid promiseId
        (LeadRequest.inprogToken id)).affects s.now s.leads = true
    · rw [postActivity_claimed hi id haff, Option.some_inj] at hact
      -- the claim goes through: the lead is one that a request of this publisher has made
      subst hact
      refine ⟨fun st hst => ?_, fun lead' hl => (by cases hl),
        fun lead' node hans => (by cases hans)⟩
      rw [List.mem_singleton.mp hst]
      exact ⟨r, hr, hpub.trans hown⟩
    · rw [postActivity_refused hi id haff, Option.some_inj] at hact
      -- another request holds the lead: the reply is about the publisher's own lead
      subst hact
      refine ⟨fun st hst => absurd hst List.not_mem_nil, fun lead' hl => (by cases hl),
        fun lead' node hans _ => ?_⟩
      obtain ⟨rfl, -⟩ := Prod.mk.inj (Option.some_inj.mp hans)
      exact hown

theorem isolated_route (hinv : OwnClaims s) {i : ℕ} {env : RouteEnv} {timing : AuctionTiming} :
    s.Isolated (.route i env timing) := by
  intro act hact
  simp only [Sys.postActivity] at hact
  split at hact
  · next p todo hi =>
    have hmem := List.mem_of_getElem? hi
    have hown := hinv.own p todo hmem
    obtain ⟨r, hr, hpub⟩ := hinv.copied p.lead (.post hmem rfl)
    rw [Option.some_inj] at hact
    subst hact
    refine ⟨fun st hst => ?_, fun lead hlead => ?_, fun lead node hans _ => ?_⟩
    · -- all that a post writes after its claim is for the lead that it routes
      obtain ⟨e, he, hst⟩ := List.mem_flatMap.mp hst
      rw [(LeadRequest.postEffects_statements he hst).1]
      exact ⟨r, hr, hpub.trans hown⟩
    · obtain rfl := Option.some_inj.mp hlead
      exact hown
    · obtain ⟨rfl, -⟩ := Prod.mk.inj (Option.some_inj.mp hans)
      exact hown
  · cases hact

theorem isolated_of_claimsOwn (hinv : OwnClaims s) (h : s.claimsOwn a = true) : s.Isolated a := by
  cases a with
  | claim i id ok => exact isolated_claim hinv.copied h
  | route i env timing => exact isolated_route hinv
  | _ => exact fun act hact => by cases hact

theorem claimsOwn_of_isolated_run {actions : List Action}
    (h : Transition.Along step Sys.Isolated Sys.init actions) :
    Transition.Along step (fun s a => s.claimsOwn a = true) Sys.init actions :=
  Transition.along_of_inv (fun hinv _ h => copied_step hinv (step_cases h))
    (fun hinv h => claimsOwn_of_isolated hinv h) copied_init h

/-- In every run, the posts keep to the leads of their publishers exactly when every post whose
claim is run has found a lead of its publisher. -/
theorem publisher_isolated_iff (actions : List Action) :
    Transition.Along step Sys.Isolated Sys.init actions ↔
      Transition.Along step (fun s a => s.claimsOwn a = true) Sys.init actions := by
  constructor
  · exact claimsOwn_of_isolated_run
  · exact Transition.along_of_inv (fun hinv ha h => ownClaims_step hinv ha h)
      (fun hinv h => isolated_of_claimsOwn hinv h) ownClaims_init

end Runs

/-! ### A foreign lead -/

open Sample

/-- A post of publisher 2 that carries the promise of lead 7. -/
def foreignPost : LeadRequest :=
  { post with
    publisherId := 2
    data := { post.data with publisherId := some "00000000-0000-0000-0000-000000000002" } }

/-- A ping of publisher 1, and the post of publisher 2, which is routed. -/
def foreignPostRun : List Action :=
  [.submit (ping true) new env timing, .effect 0 true, .effect 0 true, .effect 0 true, .take 3,
    .apply true, .apply true, .arrive foreignPost, .read 1 (.promise 7 false), .claim 1 100 true,
    .route 1 env timing]

/-- The post claims the lead, which is sold. -/
theorem post_on_foreign_lead :
    ((Transition.run step Sys.init foreignPostRun).bind fun s => (s.threads[1]?).bind fun th =>
      match th.stage with
      | .routed p (.ok r) => some (p.req.publisherId, p.lead.publisherId, r.status)
      | _ => none) = some (2, some 1, "sold") ∧
    ¬ Transition.Along step Sys.Isolated Sys.init foreignPostRun := by
  constructor
  · decide +kernel
  · intro h
    exact absurd (claimsOwn_of_isolated_run h) (by decide +kernel)

end LeadsNebula
