/-
What a failed request leaves of the rule sets and the ZIP lists of a buyer.

`create_buyer_rule_set` and `update_buyer_rule_set` deactivate the other rule sets and
store the ZIP codes of the config in statements of their own, before the statement
that may fail; nothing is taken back (`failed_create_deactivates`).

* `createBuyerRuleSet_failsClean_iff`, `updateBuyerRuleSet_failsClean_iff` — a failed
  request leaves the rule sets and the lists of the buyer as they were if and only if
  there was nothing to write before it failed;
* `rule_set_failures_atomic_iff` — both.
-/
import LeadsNebula.QualificationEngine
import LeadsNebula.System
import LeadsNebula.TenantIsolation
import LeadsNebula.ZipLists

namespace LeadsNebula

namespace Dashboard

variable {env : DashEnv} {b : Uuid} {s s' : Db}

/-! ### Deactivating rule sets -/

/-- A rule set that meets `p` is active. -/
def anyActive (p : RuleSet → Bool) (s : Db) : Bool :=
  (s .buyerQualificationConfigs).rows.any fun r => p r && r.isActive

/-- The rule set, not active. -/
def RuleSet.deactivated (r : RuleSet) : RuleSet :=
  { r with toRuleSet := { r.toRuleSet with isActive := false } }

theorem RuleSet.deactivated_eq_self {r : RuleSet} (h : r.isActive = false) : r.deactivated = r := by
  obtain ⟨⟨id, buyerId, verticalId, name, config, order, enabled, isActive, timeout⟩, _, _, _⟩ := r
  cases h
  rfl

theorem map_deactivated_eq_self {p : RuleSet → Bool} (h : anyActive p s = false) :
    (s .buyerQualificationConfigs).rows.map (fun r => if p r then r.deactivated else r) =
      (s .buyerQualificationConfigs).rows := by
  refine (List.map_congr_left fun r hr => ?_).trans (List.map_id _)
  split
  · next hp =>
    have hr := List.any_eq_false.mp h r hr
    exact RuleSet.deactivated_eq_self (by simpa [hp] using hr)
  · rfl

/-- The statement goes through. -/
theorem deactivateRuleSets_spec (p : RuleSet → Bool) (s : Db) :
    ∃ s', deactivateRuleSets p s = (.ok (), s') ∧
      (∀ t, t ≠ .buyerQualificationConfigs → s' t = s t) ∧
      (s' .buyerQualificationConfigs).rows =
        (s .buyerQualificationConfigs).rows.map (fun r => if p r then r.deactivated else r) ∧
      (anyActive p s = false → s' = s) := by
  refine ⟨(deactivateRuleSets p s).2, rfl, fun t ht => Database.set_of_ne s _ ht, ?_, fun h => ?_⟩
  · exact congrArg Table.rows (Database.set_same s .buyerQualificationConfigs _)
  · exact (congrArg (s.set .buyerQualificationConfigs)
      (Table.ext (map_deactivated_eq_self h))).trans
        (Database.set_eq_self s .buyerQualificationConfigs)

/-- Another rule set of the buyer has the name. -/
def nameTaken (row : RuleSet) (s : Db) : Bool :=
  (s .buyerQualificationConfigs).rows.any fun r => r.buyerId = row.buyerId ∧ r.id ≠ row.id ∧
    r.verticalId = row.verticalId ∧ r.ruleSetName = row.ruleSetName

theorem ruleSetNameTaken_run (row : RuleSet) (s : Db) :
    ruleSetNameTaken row s = (.ok (nameTaken row s), s) := Database.present_eq _ _ s

/-- Deactivating rule sets changes neither their names nor their ids. -/
theorem any_deactivated {p q : RuleSet → Bool} (hq : ∀ r, q r.deactivated = q r)
    (h : (s' .buyerQualificationConfigs).rows =
      (s .buyerQualificationConfigs).rows.map fun r => if p r then r.deactivated else r) :
    (s' .buyerQualificationConfigs).rows.any q = (s .buyerQualificationConfigs).rows.any q := by
  rw [h, List.any_map]
  refine congrArg _ (funext fun r => ?_)
  simp only [Function.comp_apply]
  split
  · exact hq r
  · rfl

/-! ### What a request leaves -/

/-- The rule sets and the ZIP lists of a buyer. -/
@[ext]
structure BuyerRules where
  ruleSets : List RuleSet
  lists : List ZipList
  codes : List ZipCode

def buyerRules (b : Uuid) (s : Db) : BuyerRules :=
  ⟨(s .buyerQualificationConfigs).rows.filter fun r => r.buyerId = b,
    buyerLists b s, buyerCodes b s⟩

/-- The config that the router loads for a buyer (`find_by_buyer_ids`). -/
def BuyerRules.activeConfig (b : Uuid) (rules : BuyerRules) : Option BuyerQualificationConfig :=
  ((orderDesc RuleSet.createdAt (rules.ruleSets.filter fun r => r.enabled && r.isActive)).head?).map
    fun r => ⟨b, r.config, r.rulesOrder, r.enabled, r.isActive⟩

/-- The lists are the same if nothing is stored, and else they are not. -/
theorem Does.zips_iff {x : Bool} (h : Does x b s s') :
    (buyerLists b s' = buyerLists b s ∧ buyerCodes b s' = buyerCodes b s) ↔ x = false := by
  constructor
  · rintro ⟨hlists, hcodes⟩
    by_contra hx
    have hmore := h.more (Bool.not_eq_false _ ▸ hx)
    rw [zipCount, zipCount, hlists, hcodes] at hmore
    exact lt_irrefl _ hmore
  · intro hx
    rw [h.same hx]
    exact ⟨rfl, rfl⟩

/-- The rule sets are the same if none was active, and else they are not. -/
theorem ruleSets_iff {p : RuleSet → Bool} (hp : ∀ r, p r = true → r.buyerId = b)
    (h : (s' .buyerQualificationConfigs).rows =
      (s .buyerQualificationConfigs).rows.map fun r => if p r then r.deactivated else r) :
    (buyerRules b s').ruleSets = (buyerRules b s).ruleSets ↔ anyActive p s = false := by
  constructor
  · intro heq
    by_contra hne
    obtain ⟨r, hr, hactive⟩ := List.any_eq_true.mp (Bool.not_eq_false _ ▸ hne)
    rw [Bool.and_eq_true] at hactive
    -- an active rule set would be among those that are left
    have hmem : r ∈ (buyerRules b s').ruleSets := by
      rw [heq]
      exact List.mem_filter.mpr ⟨hr, decide_eq_true (hp r hactive.1)⟩
    have hmem' := (List.mem_filter.mp hmem).1
    rw [h] at hmem'
    obtain ⟨r₀, -, hr₀⟩ := List.mem_map.mp hmem'
    split at hr₀
    · subst hr₀
      cases hactive.2
    · next hp₀ =>
      subst hr₀
      exact hp₀ hactive.1
  · intro hnone
    show (s' .buyerQualificationConfigs).rows.filter
      _ = (s .buyerQualificationConfigs).rows.filter _
    rw [h, map_deactivated_eq_self hnone]

/-- The deactivation that a request makes if it activates a rule set. -/
theorem deactivate_whenever {c : Bool} {p : RuleSet → Bool} (hp : ∀ r, p r = true → r.buyerId = b)
    (hok : c = true → env.ok 1 = true) (s : Db) :
    ∃ s', Prog.whenever c (execute env 1 (deactivateRuleSets p)) s = (.ok (), s') ∧
      (∀ t, t ≠ .buyerQualificationConfigs → s' t = s t) ∧
      (∀ q : RuleSet → Bool, (∀ r, q r.deactivated = q r) →
        (s' .buyerQualificationConfigs).rows.any q = (s .buyerQualificationConfigs).rows.any q) ∧
      ((buyerRules b s').ruleSets = (buyerRules b s).ruleSets ↔ (c && anyActive p s) = false) := by
  cases c with
  | false => exact ⟨s, rfl, fun _ _ => rfl, fun _ _ => rfl, iff_of_true rfl rfl⟩
  | true =>
    obtain ⟨s', hrun, hothers, hrows, -⟩ := deactivateRuleSets_spec p s
    refine ⟨s', ?_, hothers, fun q hq => any_deactivated hq hrows, ?_⟩
    · exact (Prog.stmt_of_ok (hok rfl) _ _ s).trans hrun
    · rw [Bool.true_and]
      exact ruleSets_iff hp hrows

theorem deactivate_failed {p : RuleSet → Bool} (hok : env.ok 1 = false) (s : Db) :
    Prog.whenever true (execute env 1 (deactivateRuleSets p)) s = (.error 500, s) :=
  Prog.stmt_of_fail hok _ _ s

/-! ### Creating a rule set -/

/-- The insertion fails: the statement itself, a name that is taken, a vertical or an id. -/
def insertFails (env : DashEnv) (row : RuleSet) (s : Db) : Bool :=
  !env.ok 2 || nameTaken row s || !((s .verticals).rows.any fun v => v.id = row.verticalId) ||
    (s .buyerQualificationConfigs).rows.any fun r => r.id = row.id

/-- The insertion, and what follows it. -/
def insertRuleSet (env : DashEnv) (b : Uuid) (row : RuleSet) : Handler Json := do
  let taken ← execute env 2 (ruleSetNameTaken row)
  let hasVertical ← Database.present .verticals fun v => v.id = row.verticalId
  Prog.whenever (taken || !hasVertical) (Prog.stop 500)
  let inserted ← Database.insert .buyerQualificationConfigs row
  Prog.whenever (!inserted) (Prog.stop 500)
  let instanceId ← instanceOfBuyer env 3 b
  createAuditLog env 4 (buyerLog env instanceId none "buyer_rule_set_created" b
    (.obj [("rule_set_id", idJson row.id), ("rule_set_name", .str row.ruleSetName),
      ("is_active", .bool row.isActive), ("enabled", .bool row.enabled),
      ("timeout_seconds", .ofF64 row.timeoutSeconds)]) (.obj []) none none)
  pure (successJson [
    ("rule_set", .obj [("id", idJson row.id), ("rule_set_name", .str row.ruleSetName),
      ("is_active", .bool row.isActive)]),
    ("message", .str "Rule set created successfully")])

theorem createBuyerRuleSet_eq (env : DashEnv) (b : Uuid) (req : CreateRuleSetRequest) :
    createBuyerRuleSet env b req = (do
      let buyer ← fetchOptional env 0 .buyers (liveBuyer b)
      let buyer ← Prog.orStop 404 buyer
      let verticalId ← Prog.orStop 400 buyer.verticalId
      let new := req.row (env.uuid 0) b verticalId
      Prog.whenever new.isActive (execute env 1 (deactivateRuleSets fun r => r.buyerId = b))
      let config ← extractAndStoreZipCodes env b (req.config.getD (.obj []))
      insertRuleSet env b (newRuleSet new config env.now)) := rfl

theorem createAuditLog_ok (env : DashEnv) (n : ℕ) (log : AuditLog) (s : Db) :
    ∃ s', createAuditLog env n log s = (.ok (), s') := by
  cases hok : env.ok n with
  | true =>
    refine ⟨(Database.insert .auditLogs log : Handler Bool) s |>.2, ?_⟩
    exact Prog.attempt_of_ok hok _ _ s
  | false => exact ⟨s, Prog.attempt_of_fail hok _ _ s⟩

theorem fetchOrNone_ok (env : DashEnv) (n : ℕ) (t : Relation) (p : Row t → Bool) (s : Db) :
    ∃ o, fetchOrNone env n t p s = (.ok o, s) := by
  cases hok : env.ok n with
  | true =>
    refine ⟨((s t).rows.filter p).head?, ?_⟩
    exact Prog.attempt_of_ok hok _ _ s
  | false => exact ⟨none, Prog.attempt_of_fail hok _ _ s⟩

theorem instanceOfBuyer_ok (env : DashEnv) (n : ℕ) (b : Uuid) (s : Db) :
    ∃ o, instanceOfBuyer env n b s = (.ok o, s) := by
  obtain ⟨o, ho⟩ := fetchOrNone_ok env n .buyers (fun r => r.id = b) s
  exact ⟨_, Prog.bind_of_ok ho⟩

/-- The checks of the insertion, one after the other. -/
theorem insertRuleSet_run {row : RuleSet} (hok : env.ok 2 = true) :
    ∃ rest : Handler Json, (∀ s', ∃ a s'', rest s' = (.ok a, s'')) ∧
      insertRuleSet env b row s =
        if nameTaken row s || !((s .verticals).rows.any fun v => v.id = row.verticalId) then
          (.error 500, s)
        else (Database.insert .buyerQualificationConfigs row >>= fun inserted =>
          Prog.whenever (!inserted) (Prog.stop 500) >>= fun _ => rest) s := by
  have hname : execute env 2 (ruleSetNameTaken row) s = (.ok (nameTaken row s), s) :=
    (Prog.stmt_of_ok hok _ _ s).trans (ruleSetNameTaken_run row s)
  refine ⟨_, ?_, (Prog.bind_of_ok hname).trans ((Prog.bind_of_ok (Database.present_eq _ _ s)).trans
    (Prog.whenever_stop_bind _ _ _ s))⟩
  intro s'
  obtain ⟨o, hinstance⟩ := instanceOfBuyer_ok env 3 b s'
  obtain ⟨s₂, hlog⟩ := createAuditLog_ok env 4 (buyerLog env o none "buyer_rule_set_created" b
    (.obj [("rule_set_id", idJson row.id), ("rule_set_name", .str row.ruleSetName),
      ("is_active", .bool row.isActive), ("enabled", .bool row.enabled),
      ("timeout_seconds", .ofF64 row.timeoutSeconds)]) (.obj []) none none) s'
  exact ⟨_, s₂, (Prog.bind_of_ok hinstance).trans (Prog.bind_of_ok hlog)⟩

theorem insertRuleSet_fails {row : RuleSet} (h : insertFails env row s = true) :
    insertRuleSet env b row s = (.error 500, s) := by
  cases hok : env.ok 2 with
  | false =>
    exact Prog.bind_of_error (Prog.stmt_of_fail hok _ _ s)
  | true =>
    obtain ⟨rest, -, hrun⟩ := insertRuleSet_run (b := b) (s := s) hok
    rw [hrun]
    split
    · rfl
    · next hchecks =>
      -- the name and the vertical are fine, so the id is taken
      have hid : row.id ∈ (s .buyerQualificationConfigs).rows.map
        (key .buyerQualificationConfigs) := by
        rw [Bool.not_eq_true] at hchecks
        rw [insertFails, hok, Bool.not_true, Bool.false_or, hchecks, Bool.false_or] at h
        obtain ⟨r, hr, hid⟩ := List.any_eq_true.mp h
        exact List.mem_map.mpr ⟨r, hr, of_decide_eq_true hid⟩
      exact Prog.bind_of_ok (Database.insert_of_mem hid)

theorem insertRuleSet_ok {row : RuleSet} (h : insertFails env row s = false) :
    ∃ a s', insertRuleSet env b row s = (.ok a, s') := by
  simp only [insertFails, Bool.or_eq_false_iff, Bool.not_eq_false'] at h
  obtain ⟨⟨⟨hok, hname⟩, hvertical⟩, hid⟩ := h
  obtain ⟨rest, hrest, hrun⟩ := insertRuleSet_run (b := b) (s := s) hok
  rw [hrun, if_neg (by simp only [hname, hvertical]; decide)]
  have hfree : row.id ∉ (s .buyerQualificationConfigs).rows.map
    (key .buyerQualificationConfigs) := by
    intro hmem
    obtain ⟨r, hr, hrow⟩ := List.mem_map.mp hmem
    exact List.any_eq_false.mp hid r hr (decide_eq_true hrow)
  obtain ⟨s₁, hinsert, -, -⟩ : ∃ s₁,
    (Database.insert .buyerQualificationConfigs row : Handler Bool) s =
      (.ok true, s₁) ∧ (s₁ .buyerQualificationConfigs).rows =
        (s .buyerQualificationConfigs).rows ++ [row] ∧
          ∀ t, t ≠ .buyerQualificationConfigs → s₁ t = s t := Database.insert_of_not_mem hfree
  obtain ⟨a, s₂, hdone⟩ := hrest s₁
  exact ⟨a, s₂, (Prog.bind_of_ok hinsert).trans hdone⟩

/-- Nothing that a failed request has written is left. -/
def FailsClean [StdText] (b : Uuid) (m : Handler Json) (s : Db) : Prop :=
  ∀ status, (m s).1 = .error status →
    buyerRules b (m s).2 = buyerRules b s ∧
      ∀ lead requestType,
        (QualificationEngine.mk lead requestType ((buyerRules b (m s).2).activeConfig b)).evaluate =
          (QualificationEngine.mk lead requestType ((buyerRules b s).activeConfig b)).evaluate

/-- The same rule sets decide every lead in the same way. -/
theorem failsClean_iff [StdText] {m : Handler Json} :
    FailsClean b m s ↔ ∀ status, (m s).1 = .error status →
      buyerRules b (m s).2 = buyerRules b s := by
  constructor
  · intro h status hstatus
    exact (h status hstatus).1
  · intro h status hstatus
    refine ⟨h status hstatus, fun lead requestType => ?_⟩
    rw [h status hstatus]

theorem failsClean_of_ok [StdText] {m : Handler Json} {a : Json} (h : m s = (.ok a, s')) :
    FailsClean b m s := by
  intro status hstatus
  rw [h] at hstatus
  cases hstatus

theorem failsClean_of_error [StdText] {m : Handler Json} {status : ℕ}
    (h : m s = (.error status, s')) :
    FailsClean b m s ↔ buyerRules b s' = buyerRules b s := by
  rw [failsClean_iff, h]
  constructor
  · intro hall
    exact hall status rfl
  · intro heq _ _
    exact heq

theorem buyerRules_eq_iff : buyerRules b s' = buyerRules b s ↔
    (buyerRules b s').ruleSets = (buyerRules b s).ruleSets ∧
      buyerLists b s' = buyerLists b s ∧ buyerCodes b s' = buyerCodes b s := by
  constructor
  · intro h
    exact ⟨congrArg BuyerRules.ruleSets h, congrArg BuyerRules.lists h, congrArg BuyerRules.codes h⟩
  · rintro ⟨hrules, hlists, hcodes⟩
    exact BuyerRules.ext hrules hlists hcodes

/-- The vertical of the buyer, if the request gets that far. -/
def verticalOfBuyer (env : DashEnv) (b : Uuid) (s : Db) : Option Uuid :=
  if env.ok 0 then ((s .buyers).rows.filter (liveBuyer b)).head?.bind fun r =>
    r.verticalId else none

/-- The request comes to its insertion, and that fails. -/
def createFails (env : DashEnv) (b : Uuid) (req : CreateRuleSetRequest) (s : Db) : Bool :=
  (verticalOfBuyer env b s).any fun v => (!req.isActive.getD false || env.ok 1) &&
    insertFails env (newRuleSet (req.row (env.uuid 0) b v) (.obj []) env.now) s

/-- There is a rule set to deactivate, or something to store. -/
def createWrites (env : DashEnv) (b : Uuid) (req : CreateRuleSetRequest) (s : Db) : Bool :=
  req.isActive.getD false && anyActive (fun r => r.buyerId = b) s ||
    extractStores env b (req.config.getD (.obj [])) s

/-- What comes before the insertion changes nothing that the insertion looks at. -/
theorem insertFails_congr {row row' : RuleSet} (hid : row'.id = row.id)
    (hbuyer : row'.buyerId = row.buyerId) (hvertical : row'.verticalId = row.verticalId)
    (hname : row'.ruleSetName = row.ruleSetName) (hverticals : s' .verticals = s .verticals)
    (hany : ∀ q : RuleSet → Bool, (∀ r, q r.deactivated = q r) →
      (s' .buyerQualificationConfigs).rows.any q = (s .buyerQualificationConfigs).rows.any q) :
    insertFails env row' s' = insertFails env row s := by
  unfold insertFails nameTaken
  rw [hverticals, hid, hbuyer, hvertical, hname, hany _ fun _ => rfl, hany _ fun _ => rfl]

theorem createBuyerRuleSet_early (req : CreateRuleSetRequest) (h : verticalOfBuyer env b s = none) :
    ∃ status, createBuyerRuleSet env b req s = (.error status, s) := by
  rw [createBuyerRuleSet_eq]
  unfold verticalOfBuyer at h
  cases hok : env.ok 0 with
  | false =>
    exact ⟨500, Prog.bind_of_error (Prog.stmt_of_fail hok _ _ s)⟩
  | true =>
    have hfetch : fetchOptional env 0 .buyers (liveBuyer b) s =
        (.ok ((s .buyers).rows.filter (liveBuyer b)).head?, s) :=
      Prog.stmt_of_ok hok _ _ s
    rw [hok, if_pos rfl] at h
    cases hhead : ((s .buyers).rows.filter (liveBuyer b)).head? with
    | none =>
      rw [hhead] at hfetch
      exact ⟨404, (Prog.bind_of_ok hfetch).trans (Prog.bind_of_error rfl)⟩
    | some r =>
      rw [hhead] at hfetch h
      refine ⟨400, (Prog.bind_of_ok hfetch).trans
        ((Prog.bind_of_ok rfl).trans (Prog.bind_of_error ?_))⟩
      rw [show r.verticalId = none from h]
      rfl

theorem createBuyerRuleSet_found (req : CreateRuleSetRequest) {v : Uuid}
    (h : verticalOfBuyer env b s = some v) :
    createBuyerRuleSet env b req s = (do
      Prog.whenever (req.isActive.getD false)
        (execute env 1 (deactivateRuleSets fun r => r.buyerId = b))
      let config ← extractAndStoreZipCodes env b (req.config.getD (.obj []))
      insertRuleSet env b (newRuleSet (req.row (env.uuid 0) b v) config env.now)) s := by
  rw [createBuyerRuleSet_eq]
  unfold verticalOfBuyer at h
  split at h
  · next hok =>
    obtain ⟨r, hhead, hvertical⟩ := Option.bind_eq_some_iff.mp h
    have hfetch : fetchOptional env 0 .buyers (liveBuyer b) s = (.ok (some r), s) := by
      exact (Prog.stmt_of_ok hok _ _ s).trans (congrArg (fun o => (Except.ok o, s)) hhead)
    refine (Prog.bind_of_ok hfetch).trans ((Prog.bind_of_ok rfl).trans ?_)
    rw [show r.verticalId = some v from hvertical]
    rfl
  · cases h

/-- A failed creation leaves nothing behind, if and only if there was nothing to write before its
insertion failed. -/
theorem createBuyerRuleSet_failsClean_iff [StdText] (env : DashEnv) (b : Uuid)
    (req : CreateRuleSetRequest) (s : Db) :
    FailsClean b (createBuyerRuleSet env b req) s ↔
      (createFails env b req s = true → createWrites env b req s = false) := by
  cases hvertical : verticalOfBuyer env b s with
  | none =>
    obtain ⟨status, hrun⟩ := createBuyerRuleSet_early req hvertical
    rw [failsClean_of_error hrun]
    exact iff_of_true rfl fun h => (by simp [createFails, hvertical] at h)
  | some v =>
    have hrun := createBuyerRuleSet_found req hvertical
    by_cases hstop : req.isActive.getD false = true ∧ env.ok 1 = false
    · -- the first statement fails
      rw [hstop.1] at hrun
      rw [failsClean_of_error (hrun.trans (Prog.bind_of_error (deactivate_failed hstop.2 s)))]
      exact iff_of_true rfl fun h => (by simp [createFails, hvertical, hstop] at h)
    · have hok : req.isActive.getD false = true → env.ok 1 = true := fun hactive =>
        Bool.not_eq_false _ ▸ fun h => hstop ⟨hactive, h⟩
      obtain ⟨s₁, hdeactivate, hothers, hany, hrules⟩ :=
        deactivate_whenever (b := b) (p := fun r => r.buyerId = b)
          (fun r hr => of_decide_eq_true hr) hok s
      obtain ⟨out, s₂, hextract, hdoes⟩ := does_extract env b (req.config.getD (.obj [])) s₁
      have hreach := hrun.trans ((Prog.bind_of_ok hdeactivate).trans (Prog.bind_of_ok hextract))
      -- the insertion sees what it would have seen at first
      have hinsert : insertFails env (newRuleSet (req.row (env.uuid 0) b v) out env.now) s₂ =
          insertFails env (newRuleSet (req.row (env.uuid 0) b v) (.obj []) env.now) s := by
        refine insertFails_congr rfl rfl rfl rfl ?_ fun q hq => ?_
        · rw [hdoes.adds.others .verticals (by decide) (by decide), hothers .verticals (by decide)]
        · rw [hdoes.adds.others .buyerQualificationConfigs (by decide) (by decide), hany q hq]
      have hfails : createFails env b req s =
          insertFails env (newRuleSet (req.row (env.uuid 0) b v) out env.now) s₂ := by
        rw [hinsert, createFails, hvertical, Option.any_some]
        cases hactive : req.isActive.getD false with
        | false => rfl
        | true => rw [hok hactive, Bool.not_true, Bool.false_or, Bool.true_and]
      cases hfail : insertFails env (newRuleSet (req.row (env.uuid 0) b v) out env.now) s₂ with
      | false =>
        obtain ⟨a, s₃, hdone⟩ := insertRuleSet_ok (b := b) hfail
        refine iff_of_true (failsClean_of_ok (hreach.trans hdone)) fun h => ?_
        rw [hfails, hfail] at h
        cases h
      | true =>
        rw [failsClean_of_error (hreach.trans (insertRuleSet_fails hfail)), hfails, hfail]
        have hstores : extractStores env b (req.config.getD (.obj [])) s₁ =
            extractStores env b (req.config.getD (.obj [])) s :=
          extractStores_congr (hothers _ (by decide)) (hothers _ (by decide)) _
        have hsame : buyerLists b s₁ = buyerLists b s ∧ buyerCodes b s₁ = buyerCodes b s := by
          unfold buyerCodes buyerLists
          rw [hothers .buyerZipLists (by decide), hothers .buyerZipCodes (by decide)]
          exact ⟨rfl, rfl⟩
        have hrules₂ : (buyerRules b s₂).ruleSets = (buyerRules b s₁).ruleSets := by
          show (s₂ .buyerQualificationConfigs).rows.filter
            _ = (s₁ .buyerQualificationConfigs).rows.filter _
          rw [hdoes.adds.others .buyerQualificationConfigs (by decide) (by decide)]
        rw [buyerRules_eq_iff, hrules₂, hrules, ← hsame.1, ← hsame.2, hdoes.zips_iff, hstores,
          createWrites, Bool.or_eq_false_iff]
        exact ⟨fun h _ => h, fun h => h rfl⟩

/-! ### Updating a rule set -/

section

variable (cfg : DashConfig) (user : User) (id : Uuid) (payload : Json)

/-- The rule set, if the request gets that far. -/
def ruleSetOfPath (env : DashEnv) (b id : Uuid) (s : Db) : Option RuleSet :=
  if env.ok 0 then ((s .buyerQualificationConfigs).rows.filter (isRuleSet b id)).head? else none

/-- The payload activates the rule set. -/
def activates (payload : Json) : Bool := (RuleSetChanges.ofPayload payload).isActive = some true

/-- The request finds the rule set, and a statement after that fails. -/
def updateFails (env : DashEnv) (b id : Uuid) (payload : Json) (s : Db) : Bool :=
  let c := RuleSetChanges.ofPayload payload
  (ruleSetOfPath env b id s).any fun before => activates payload && !env.ok 1 ||
    c.hasUpdates && (!env.ok 2 || nameTaken (updatedRuleSet c env.now before) s)

/-- There is a rule set to deactivate, or something to store. -/
def updateWrites (env : DashEnv) (b id : Uuid) (payload : Json) (s : Db) : Bool :=
  activates payload && env.ok 1 && anyActive (fun r => r.buyerId = b ∧ r.id ≠ id) s ||
    (payload.get "config").any fun config => extractStores env b config s

/-- The update, and what follows it. -/
def writeRuleSet (cfg : DashConfig) (env : DashEnv) (user : User) (b id : Uuid) (before : RuleSet)
    (c : RuleSetChanges) : Handler Json := do
  let taken ← execute env 2 (ruleSetNameTaken (updatedRuleSet c env.now before))
  Prog.whenever taken (Prog.stop 500)
  Database.update .buyerQualificationConfigs (isRuleSet b id) (updatedRuleSet c env.now)
    fun _ => rfl
  let instanceId ← instanceOfBuyer env 3 b
  let after ← fetchOrNone env 4 .buyerQualificationConfigs (isRuleSet b id)
  createAuditLog env 5 (ruleSetUpdateLog cfg env user b id instanceId before after)
  pure (messageJson "Rule set updated successfully")

theorem updateBuyerRuleSet_early (h : ruleSetOfPath env b id s = none) :
    ∃ status, updateBuyerRuleSet cfg env user b id payload s = (.error status, s) := by
  unfold ruleSetOfPath at h
  cases hok : env.ok 0 with
  | false =>
    exact ⟨500, Prog.bind_of_error (Prog.stmt_of_fail hok _ _ s)⟩
  | true =>
    rw [hok, if_pos rfl] at h
    have hfetch : fetchOptional env 0 .buyerQualificationConfigs (isRuleSet b id) s =
        (.ok none, s) := by
      exact (Prog.stmt_of_ok hok _ _ s).trans (congrArg (fun o => (Except.ok o, s)) h)
    exact ⟨404, (Prog.bind_of_ok hfetch).trans (Prog.bind_of_error rfl)⟩

theorem updateBuyerRuleSet_found {before : RuleSet} (h : ruleSetOfPath env b id s = some before) :
    updateBuyerRuleSet cfg env user b id payload s = (do
      let config ← extractConfig env b (payload.get "config")
      Prog.whenever (activates payload)
        (execute env 1 (deactivateRuleSets fun r => r.buyerId = b ∧ r.id ≠ id))
      let c := { RuleSetChanges.ofPayload payload with config := config }
      if !c.hasUpdates then pure (messageJson "No updates provided")
      else writeRuleSet cfg env user b id before c : Handler Json) s := by
  unfold ruleSetOfPath at h
  split at h
  · next hok =>
    have hfetch : fetchOptional env 0 .buyerQualificationConfigs (isRuleSet b id) s =
        (.ok (some before), s) := by
      exact (Prog.stmt_of_ok hok _ _ s).trans (congrArg (fun o => (Except.ok o, s)) h)
    exact (Prog.bind_of_ok hfetch).trans (Prog.bind_of_ok rfl)
  · cases h

theorem does_extractConfig (env : DashEnv) (b : Uuid) (o : Option Json) (s : Db) :
    ∃ out s', extractConfig env b o s = (.ok out, s') ∧ out.isSome = o.isSome ∧
      Does (o.any fun config => extractStores env b config s) b s s' := by
  cases o with
  | none => exact ⟨none, s, rfl, rfl, Does.nothing b s⟩
  | some config =>
    obtain ⟨out, s', hextract, hdoes⟩ := does_extract env b config s
    exact ⟨some out, s', Prog.bind_of_ok hextract, rfl, hdoes⟩

theorem writeRuleSet_fails {before : RuleSet} {c : RuleSetChanges}
    (h : (!env.ok 2 || nameTaken (updatedRuleSet c env.now before) s) = true) :
    writeRuleSet cfg env user b id before c s = (.error 500, s) := by
  cases hok : env.ok 2 with
  | false =>
    exact Prog.bind_of_error (Prog.stmt_of_fail hok _ _ s)
  | true =>
    rw [hok, Bool.not_true, Bool.false_or] at h
    have hname : execute env 2 (ruleSetNameTaken (updatedRuleSet c env.now before)) s =
        (.ok true, s) := by
      rw [← h]
      exact (Prog.stmt_of_ok hok _ _ s).trans (ruleSetNameTaken_run _ s)
    exact (Prog.bind_of_ok hname).trans (Prog.bind_of_error rfl)

theorem writeRuleSet_ok {before : RuleSet} {c : RuleSetChanges}
    (h : (!env.ok 2 || nameTaken (updatedRuleSet c env.now before) s) = false) :
    ∃ a s', writeRuleSet cfg env user b id before c s = (.ok a, s') := by
  obtain ⟨hok, htaken⟩ := Bool.or_eq_false_iff.mp h
  rw [Bool.not_eq_false'] at hok
  have hname : execute env 2 (ruleSetNameTaken (updatedRuleSet c env.now before)) s =
      (.ok false, s) := by
    rw [← htaken]
    exact (Prog.stmt_of_ok hok _ _ s).trans (ruleSetNameTaken_run _ s)
  let s₁ := s.set .buyerQualificationConfigs ((s .buyerQualificationConfigs).update (isRuleSet b id)
    (updatedRuleSet c env.now) fun _ => rfl)
  obtain ⟨o, hinstance⟩ := instanceOfBuyer_ok env 3 b s₁
  obtain ⟨after, hafter⟩ := fetchOrNone_ok env 4 .buyerQualificationConfigs (isRuleSet b id) s₁
  obtain ⟨s₂, hlog⟩ := createAuditLog_ok env 5
    (ruleSetUpdateLog cfg env user b id o before after) s₁
  refine ⟨messageJson "Rule set updated successfully", s₂, (Prog.bind_of_ok hname).trans ?_⟩
  exact (Prog.bind_of_ok rfl).trans ((Prog.bind_of_ok rfl).trans
    ((Prog.bind_of_ok hinstance).trans ((Prog.bind_of_ok hafter).trans (Prog.bind_of_ok hlog))))

/-- A failed update leaves nothing behind, if and only if there was nothing to write before the
statement that failed. -/
theorem updateBuyerRuleSet_failsClean_iff [StdText] (cfg : DashConfig) (env : DashEnv) (user : User)
    (b id : Uuid) (payload : Json) (s : Db) :
    FailsClean b (updateBuyerRuleSet cfg env user b id payload) s ↔
      (updateFails env b id payload s = true → updateWrites env b id payload s = false) := by
  cases hfound : ruleSetOfPath env b id s with
  | none =>
    obtain ⟨status, hrun⟩ := updateBuyerRuleSet_early cfg user id payload hfound
    rw [failsClean_of_error hrun]
    exact iff_of_true rfl fun h => (by simp [updateFails, hfound] at h)
  | some before =>
    have hrun := updateBuyerRuleSet_found cfg user id payload hfound
    obtain ⟨out, s₁, hextract, hsome, hdoes⟩ := does_extractConfig env b (payload.get "config") s
    have hrules₁ : s₁ .buyerQualificationConfigs = s .buyerQualificationConfigs :=
      hdoes.adds.others .buyerQualificationConfigs (by decide) (by decide)
    by_cases hstop : activates payload = true ∧ env.ok 1 = false
    · -- the ZIP codes are stored, and then the deactivation fails
      rw [hstop.1] at hrun
      rw [failsClean_of_error (hrun.trans ((Prog.bind_of_ok hextract).trans
        (Prog.bind_of_error (deactivate_failed hstop.2 s₁)))), buyerRules_eq_iff, hdoes.zips_iff]
      have hfails : updateFails env b id payload s = true := by
        simp [updateFails, hfound, hstop]
      have hwrites : updateWrites env b id payload s =
          (payload.get "config").any fun config => extractStores env b config s := by
        simp [updateWrites, hstop]
      rw [hfails, hwrites]
      refine ⟨fun h _ => h.2, fun h => ⟨?_, h rfl⟩⟩
      show (s₁ .buyerQualificationConfigs).rows.filter
        _ = (s .buyerQualificationConfigs).rows.filter _
      rw [hrules₁]
    · have hok : activates payload = true → env.ok 1 = true := fun hactive =>
        Bool.not_eq_false _ ▸ fun h => hstop ⟨hactive, h⟩
      obtain ⟨s₂, hdeactivate, hothers, hany, hrules⟩ :=
        deactivate_whenever (b := b) (p := fun r => r.buyerId = b ∧ r.id ≠ id)
          (fun r hr => (of_decide_eq_true hr).1) hok s₁
      have hreach := hrun.trans ((Prog.bind_of_ok hextract).trans (Prog.bind_of_ok hdeactivate))
      -- the update sees what it would have seen at first
      have hnames : nameTaken
        (updatedRuleSet { RuleSetChanges.ofPayload payload with config := out }
          env.now before) s₂ =
            nameTaken (updatedRuleSet (RuleSetChanges.ofPayload payload) env.now before) s := by
        refine (hany _ fun _ => rfl).trans ?_
        rw [hrules₁]
        rfl
      have hupdates : ({ RuleSetChanges.ofPayload payload with config := out } :
          RuleSetChanges).hasUpdates = (RuleSetChanges.ofPayload payload).hasUpdates := by
        simp only [RuleSetChanges.hasUpdates, RuleSetChanges.ofPayload, Option.isSome_map, hsome]
      have hfails : updateFails env b id payload
        s = ((RuleSetChanges.ofPayload payload).hasUpdates &&
          (!env.ok 2 || nameTaken (updatedRuleSet
            { RuleSetChanges.ofPayload payload with config := out } env.now before) s₂)) := by
        rw [hnames, updateFails, hfound, Option.any_some]
        cases hactive : activates payload with
        | false => rfl
        | true => rw [hok hactive, Bool.not_true, Bool.and_false, Bool.false_or]
      rw [hfails]
      cases hhas : (RuleSetChanges.ofPayload payload).hasUpdates with
      | false =>
        rw [hhas] at hupdates
        have hdone := hreach.trans (congrFun (if_pos (by rw [hupdates]; rfl)) s₂)
        exact iff_of_true (failsClean_of_ok hdone) fun h => (by cases h)
      | true =>
        rw [hhas] at hupdates
        rw [Bool.true_and]
        have hwrite := hreach.trans (congrFun (if_neg (by rw [hupdates]; decide)) s₂)
        cases hfail : (!env.ok 2 || nameTaken (updatedRuleSet
            { RuleSetChanges.ofPayload payload with config := out } env.now before) s₂) with
        | false =>
          obtain ⟨a, s₃, hdone⟩ := writeRuleSet_ok (b := b) cfg user id hfail
          exact iff_of_true (failsClean_of_ok (hwrite.trans hdone)) fun h => (by cases h)
        | true =>
          rw [failsClean_of_error (hwrite.trans (writeRuleSet_fails cfg user id hfail))]
          have hzips : buyerLists b s₂ = buyerLists b s₁ ∧ buyerCodes b s₂ = buyerCodes b s₁ := by
            unfold buyerCodes buyerLists
            rw [hothers .buyerZipLists (by decide), hothers .buyerZipCodes (by decide)]
            exact ⟨rfl, rfl⟩
          have hruleSets : (buyerRules b s₁).ruleSets = (buyerRules b s).ruleSets := by
            show (s₁ .buyerQualificationConfigs).rows.filter _ =
              (s .buyerQualificationConfigs).rows.filter _
            rw [hrules₁]
          have hactive : (activates payload && anyActive (fun r => r.buyerId = b ∧ r.id ≠ id) s₁) =
              (activates payload && env.ok 1 && anyActive
                (fun r => r.buyerId = b ∧ r.id ≠ id) s) := by
            unfold anyActive
            rw [hrules₁]
            cases hactive : activates payload with
            | false => rfl
            | true => rw [hok hactive, Bool.and_self]
          rw [buyerRules_eq_iff, ← hruleSets, hrules, hzips.1, hzips.2, hdoes.zips_iff, hactive,
            updateWrites, Bool.or_eq_false_iff]
          exact ⟨fun h _ => h, fun h => h rfl⟩

end

/-- A request that fails leaves the rule sets and the ZIP lists of the buyer as they were, and every
lead is decided as before, if and only if there was nothing to write before it failed. -/
theorem rule_set_failures_atomic_iff [StdText] (cfg : DashConfig) (env : DashEnv) (user : User)
    (b : Uuid) (s : Db) :
    (∀ req, FailsClean b (createBuyerRuleSet env b req) s ↔
      (createFails env b req s = true → createWrites env b req s = false)) ∧
    ∀ id payload, FailsClean b (updateBuyerRuleSet cfg env user b id payload) s ↔
      (updateFails env b id payload s = true → updateWrites env b id payload s = false) :=
  ⟨fun req => createBuyerRuleSet_failsClean_iff env b req s,
    fun id payload => updateBuyerRuleSet_failsClean_iff cfg env user b id payload s⟩

end Dashboard

/-! ### A name that is taken -/

namespace Sample

open Dashboard

/-- A rule set that rejects who does not own a home. -/
def ownersOnly : CreateRuleSetRequest where
  ruleSetName := "Owners only"
  timeoutSeconds := none
  enabled := none
  isActive := some true
  config := some (.obj [("own_home_rule", .obj [("rules",
    .arr [.obj [("value", .str "no"), ("action", .str "reject")]])])])
  rulesOrder := none

/-- A buyer whose active rule set it is. -/
def guardedBuyer : Dashboard.Db where
  tables
    | .verticals => ⟨[⟨4, "Solar", "solar"⟩], by decide⟩
    | .buyers => ⟨[{
        id := 9, name := "Sun Co", instanceId := 1, verticalId := some 4,
        buyerIntegrationId := none,
        status := .active, postType := none, buyerType := none,
          emailAddress := none, einTin := none,
        addressStreet := none, addressCity := none, addressState := none, addressZip := none,
        representativeFirstName := none, representativeLastName := none, deletedAt := none,
        createdAt := 0, updatedAt := 0 }], by decide⟩
    | .buyerQualificationConfigs => ⟨[Dashboard.newRuleSet (ownersOnly.row 20 9 4)
        (ownersOnly.config.getD (.obj [])) 0], by decide⟩
    | _ => .empty

/-- The lead of a tenant. -/
def tenantLead : Lead :=
  { (ping false).newLead new 0 with verticalData := .obj [("own_home", .bool false)] }

/-- A second rule set of the same name is refused, and the first one is not active any more: the
lead of a tenant was rejected before, and is accepted after the request. -/
theorem failed_create_deactivates :
    (createBuyerRuleSet dashEnv 9 ownersOnly guardedBuyer).1 = .error 500 ∧
      ¬FailsClean 9 (createBuyerRuleSet dashEnv 9 ownersOnly) guardedBuyer ∧
      ((QualificationEngine.mk tenantLead .ping
        ((buyerRules 9 guardedBuyer).activeConfig 9)).evaluate).accepted = false ∧
      ((QualificationEngine.mk tenantLead .ping ((buyerRules 9
        (createBuyerRuleSet dashEnv 9 ownersOnly guardedBuyer).2).activeConfig
          9)).evaluate).accepted =
          true := by
  -- the rules that applied before the request
  have hbefore : (buyerRules 9 guardedBuyer).activeConfig 9 =
      some ⟨9, ownersOnly.config.getD (.obj []), defaultRulesOrder, true, true⟩ := by
    have hrows : (buyerRules 9 guardedBuyer).ruleSets.filter (fun r => r.enabled && r.isActive) =
        [Dashboard.newRuleSet (ownersOnly.row 20 9 4) (ownersOnly.config.getD (.obj [])) 0] := rfl
    rw [BuyerRules.activeConfig, hrows, orderDesc, List.mergeSort_singleton]
    rfl
  -- the deactivation has gone through, the INSERT has not
  have hafter : (buyerRules 9
    (createBuyerRuleSet dashEnv 9 ownersOnly guardedBuyer).2).activeConfig 9 =
      none := by
    have hrows : (buyerRules 9
      (createBuyerRuleSet dashEnv 9 ownersOnly guardedBuyer).2).ruleSets.filter
        (fun r => r.enabled && r.isActive) = [] := rfl
    rw [BuyerRules.activeConfig, hrows, orderDesc, List.mergeSort_nil]
    rfl
  have hrejected : ((QualificationEngine.mk tenantLead .ping
      ((buyerRules 9 guardedBuyer).activeConfig 9)).evaluate).accepted = false := by
    rw [hbefore]
    decide
  refine ⟨rfl, fun hclean => ?_, hrejected, ?_⟩
  · have hsame := (hclean 500 rfl).2 tenantLead .ping
    rw [hafter] at hsame
    rw [← hsame] at hrejected
    cases hrejected
  · rw [hafter]
    rfl

end Sample

end LeadsNebula
