/-
The rule sets of a buyer (`create_buyer_rule_set` and `update_buyer_rule_set` of
`routes/dashboard.rs`).

A request that makes a rule set active first deactivates the others, and then
inserts or updates its own row in a second statement.  There is no transaction, so
the statements of requests interleave.

* `active_covered` — what is active when a request comes to its second statement
  was activated since its first one;
* `one_active_rule_set` — at most one rule set of a buyer is active, if no other
  rule set of the buyer is activated between the two statements of a request;
* `two_active_rule_sets` — two requests that both deactivate first.
-/
import LeadsNebula.Models
import LeadsNebula.Table
import LeadsNebula.Transition

namespace LeadsNebula

/-- A row of `buyer_qualification_configs`. -/
structure RuleSet where
  id : Uuid
  buyerId : Uuid
  verticalId : Uuid
  ruleSetName : String
  config : Json
  rulesOrder : List String
  enabled : Bool
  isActive : Bool
  timeoutSeconds : F64

structure CreateRuleSetRequest where
  ruleSetName : String
  timeoutSeconds : Option F64
  enabled : Option Bool
  isActive : Option Bool
  config : Option Json
  rulesOrder : Option (List String)

/-- The fields of the payload that `update_buyer_rule_set` takes. -/
structure RuleSetChanges where
  ruleSetName : Option String
  config : Option Json
  rulesOrder : Option (List String)
  enabled : Option Bool
  isActive : Option Bool
  timeoutSeconds : Option F64

/-- `extract_and_store_zip_codes`, as far as the config goes: the lists of ZIP codes are stored
elsewhere and taken out. -/
def removeZipCodes (config : Json) : Json :=
  ["zip_blacklist", "zip_whitelist"].foldl (fun config key =>
    match config, (config.get key).bind Json.asArray with
    | .obj m, some _ => .obj (m.filter (·.1 ≠ key))
    | config, _ => config) config

def defaultRulesOrder : List String :=
  ["zip_blacklist", "zip_whitelist", "own_home", "roof_shade", "credit_rating", "monthly_bill",
    "property_type", "roof_type", "purchase_timeframe"]

/-- The row of a new rule set. -/
def CreateRuleSetRequest.row (req : CreateRuleSetRequest) (id buyerId verticalId : Uuid) :
    RuleSet where
  id := id
  buyerId := buyerId
  verticalId := verticalId
  ruleSetName := req.ruleSetName
  config := removeZipCodes (req.config.getD (.obj []))
  rulesOrder := req.rulesOrder.getD defaultRulesOrder
  enabled := req.enabled.getD true
  isActive := req.isActive.getD false
  timeoutSeconds := req.timeoutSeconds.getD (.fin (6 / 5))

namespace RuleSetChanges

def ofPayload (payload : Json) : RuleSetChanges where
  ruleSetName := (payload.get "rule_set_name").bind Json.asStr
  config := (payload.get "config").map removeZipCodes
  rulesOrder := ((payload.get "rules_order").bind Json.asArray).map fun l => l.filterMap Json.asStr
  enabled := (payload.get "enabled").bind Json.asBool
  isActive := (payload.get "is_active").bind Json.asBool
  timeoutSeconds := (payload.get "timeout_seconds").bind Json.asF64

def hasUpdates (c : RuleSetChanges) : Bool :=
  c.ruleSetName.isSome || c.config.isSome || c.rulesOrder.isSome || c.enabled.isSome ||
    c.isActive.isSome || c.timeoutSeconds.isSome

/-- The row after the update. -/
def apply (c : RuleSetChanges) (r : RuleSet) : RuleSet :=
  { r with
    ruleSetName := c.ruleSetName.getD r.ruleSetName
    config := c.config.getD r.config
    rulesOrder := c.rulesOrder.getD r.rulesOrder
    enabled := c.enabled.getD r.enabled
    isActive := c.isActive.getD r.isActive
    timeoutSeconds := c.timeoutSeconds.getD r.timeoutSeconds }

end RuleSetChanges

/-- What a request does next.  `seen` is the number of activations that had been written when the
request had deactivated the other rule sets. -/
inductive RuleSetStage where
  /-- Look up the buyer; `id` is the uuid of the new rule set. -/
  | create (buyerId id : Uuid) (req : CreateRuleSetRequest)
  | createDeactivate (row : RuleSet)
  | createInsert (row : RuleSet) (seen : ℕ)
  /-- Look up the rule set. -/
  | update (buyerId id : Uuid) (payload : Json)
  | updateDeactivate (buyerId id : Uuid) (c : RuleSetChanges)
  | updateWrite (buyerId id : Uuid) (c : RuleSetChanges) (seen : ℕ)
  /-- The status of the response. -/
  | done (status : ℕ)

structure RuleSetSys where
  /-- The buyers that are not deleted, with their verticals. -/
  buyers : List (Uuid × Option Uuid)
  ruleSets : Table RuleSet.id
  threads : List RuleSetStage
  /-- The activations that have been written, as buyer and rule set, the latest first. -/
  activations : List (Uuid × Uuid)

inductive RuleSetAction where
  | create (buyerId id : Uuid) (req : CreateRuleSetRequest)
  | update (buyerId id : Uuid) (payload : Json)
  /-- Request `i` runs its next statement, which fails unless `ok`. -/
  | next (i : ℕ) (ok : Bool)

/-- The activation that the next statement of a request writes: the buyer, the rule set, and
`seen`. -/
def RuleSetStage.activates : RuleSetStage → Option (Uuid × Uuid × ℕ)
  | createInsert row seen => if row.isActive then some (row.buyerId, row.id, seen) else none
  | updateWrite buyerId id c seen =>
    if c.isActive = some true then some (buyerId, id, seen) else none
  | _ => none

namespace RuleSetSys

variable (s : RuleSetSys)

/-- `UPDATE buyer_qualification_configs SET is_active = false WHERE …`. -/
def deactivate (p : RuleSet → Bool) : RuleSetSys :=
  { s with ruleSets := s.ruleSets.update p (fun r => { r with isActive := false }) fun _ => rfl }

/-- `UNIQUE (buyer_id, vertical_id, rule_set_name)`: another row has the name. -/
def nameTaken (r : RuleSet) : Bool :=
  s.ruleSets.rows.any fun r' => r'.id ≠ r.id ∧ r'.buyerId = r.buyerId ∧
    r'.verticalId = r.verticalId ∧ r'.ruleSetName = r.ruleSetName

/-- The insertion of a row violates no constraint. -/
def insertable (row : RuleSet) : Bool :=
  !s.nameTaken row && (s.ruleSets.find row.id).isNone

/-- The update of a row violates no constraint. -/
def updatable (buyerId id : Uuid) (c : RuleSetChanges) : Bool :=
  (s.ruleSets.find id).all fun r => r.buyerId ≠ buyerId || !s.nameTaken (c.apply r)

/-- The stage after the next statement of a request. -/
def advance (ok : Bool) : RuleSetStage → Option RuleSetStage
  | .create buyerId id req =>
    some <|
      if !ok then .done 500
      else match s.buyers.lookup buyerId with
        | none => .done 404
        | some none => .done 400
        | some (some verticalId) =>
          let row := req.row id buyerId verticalId
          -- the others are deactivated first, in a statement of its own
          if row.isActive then .createDeactivate row else .createInsert row s.activations.length
  | .createDeactivate row =>
    some (if ok then .createInsert row s.activations.length else .done 500)
  | .createInsert row _ => some (.done (if ok && s.insertable row then 200 else 500))
  | .update buyerId id payload =>
    some <|
      if !ok then .done 500
      else if (s.ruleSets.find id).any (·.buyerId = buyerId) then
        let c := RuleSetChanges.ofPayload payload
        if c.isActive = some true then .updateDeactivate buyerId id c
        else if c.hasUpdates then .updateWrite buyerId id c s.activations.length
        else .done 200
      else .done 404
  | .updateDeactivate buyerId id c =>
    some (if ok then .updateWrite buyerId id c s.activations.length else .done 500)
  | .updateWrite buyerId id c _ =>
    some (.done (if ok && s.updatable buyerId id c then 200 else 500))
  | .done _ => none

/-- Notes an activation. -/
def note (active : Bool) (buyerId id : Uuid) : List (Uuid × Uuid) :=
  if active then (buyerId, id) :: s.activations else s.activations

/-- What the next statement of a request writes. -/
def write (ok : Bool) : RuleSetStage → RuleSetSys
  | .createDeactivate row => if ok then s.deactivate fun r => r.buyerId = row.buyerId else s
  | .createInsert row _ =>
    if ok && s.insertable row then
      { s with
        ruleSets := s.ruleSets.insert row
        activations := s.note row.isActive row.buyerId row.id }
    else s
  | .updateDeactivate buyerId id _ =>
    if ok then s.deactivate fun r => r.buyerId = buyerId ∧ r.id ≠ id else s
  | .updateWrite buyerId id c _ =>
    if ok && s.updatable buyerId id c then
      { s with
        ruleSets := s.ruleSets.update (fun r => r.id = id ∧ r.buyerId = buyerId) c.apply
          fun _ => rfl
        activations := s.note (c.isActive = some true) buyerId id }
    else s
  | _ => s

def step (s : RuleSetSys) : RuleSetAction → Option RuleSetSys
  | .create buyerId id req => some { s with threads := s.threads ++ [.create buyerId id req] }
  | .update buyerId id payload =>
    some { s with threads := s.threads ++ [.update buyerId id payload] }
  | .next i ok =>
    (s.threads[i]?).bind fun st =>
      (s.advance ok st).map fun st' => { s.write ok st with threads := s.threads.set i st' }

/-- What a step does. -/
theorem step_cases {s s' : RuleSetSys} {a : RuleSetAction} (h : step s a = some s') :
    (∃ st : RuleSetStage, st.activates = none ∧ s' = { s with threads := s.threads ++ [st] }) ∨
    ∃ i ok st st', a = .next i ok ∧ s.threads[i]? = some st ∧ s.advance ok st = some st' ∧
      s' = { s.write ok st with threads := s.threads.set i st' } := by
  cases a with
  | create buyerId id req => exact Or.inl ⟨_, rfl, (Option.some_inj.mp h).symm⟩
  | update buyerId id payload => exact Or.inl ⟨_, rfl, (Option.some_inj.mp h).symm⟩
  | next i ok =>
    simp only [step, Option.bind_eq_some_iff, Option.map_eq_some_iff] at h
    obtain ⟨st, hst, st', hadv, heq⟩ := h
    exact Or.inr ⟨i, ok, st, st', rfl, hst, hadv, heq.symm⟩

/-! ### What a write leaves active -/

variable {s}

/-- A write notes at most the activation of its request. -/
theorem activations_write (ok : Bool) (st : RuleSetStage) :
    (s.write ok st).activations = s.activations ∨
      ∃ b id seen, st.activates = some (b, id, seen) ∧
        (s.write ok st).activations = (b, id) :: s.activations := by
  cases st with
  -- only the statements that set `is_active` note anything
  | createDeactivate row =>
    left
    rw [write]
    split <;> rfl
  | updateDeactivate buyerId id c =>
    left
    rw [write]
    split <;> rfl
  | createInsert row seen =>
    rw [write]
    split
    · by_cases hact : row.isActive = true
      · exact Or.inr ⟨row.buyerId, row.id, seen, by simp [RuleSetStage.activates, hact],
          by simp [note, hact]⟩
      · exact Or.inl (by simp [note, hact])
    · exact Or.inl rfl
  | updateWrite buyerId id c seen =>
    rw [write]
    split
    · by_cases hact : c.isActive = some true
      · exact Or.inr ⟨buyerId, id, seen, by simp [RuleSetStage.activates, hact],
          by simp [note, hact]⟩
      · exact Or.inl (by simp [note, hact])
    · exact Or.inl rfl
  | _ => exact Or.inl rfl

/-- A rule set of the same buyer, active before. -/
def WasActive (s : RuleSetSys) (r : RuleSet) : Prop :=
  ∃ r₀ ∈ s.ruleSets.rows, r₀.id = r.id ∧ r₀.buyerId = r.buyerId ∧ r₀.isActive = true

theorem wasActive_deactivate {p : RuleSet → Bool} {r : RuleSet}
    (hr : r ∈ (s.deactivate p).ruleSets.rows) (hact : r.isActive = true) :
    s.WasActive r ∧ p r = false := by
  obtain ⟨r₀, hr₀, heq⟩ := List.mem_map.mp hr
  by_cases hp : p r₀ = true
  · rw [if_pos hp] at heq
    subst heq
    cases hact
  · rw [if_neg hp] at heq
    subst heq
    exact ⟨⟨r₀, hr₀, rfl, rfl, hact⟩, Bool.not_eq_true _ ▸ hp⟩

/-- A rule set that is active after a write was active before or is the one that it activates. -/
theorem active_write {ok : Bool} {st : RuleSetStage} {r : RuleSet}
    (hr : r ∈ (s.write ok st).ruleSets.rows) (hact : r.isActive = true) :
    s.WasActive r ∨ (s.write ok st).activations = (r.buyerId, r.id) :: s.activations := by
  have hsame : r ∈ s.ruleSets.rows → s.WasActive r := fun h => ⟨r, h, rfl, rfl, hact⟩
  cases st with
  | createDeactivate row =>
    rw [write] at hr
    split at hr
    · exact Or.inl (wasActive_deactivate hr hact).1
    · exact Or.inl (hsame hr)
  | updateDeactivate buyerId id c =>
    rw [write] at hr
    split at hr
    · exact Or.inl (wasActive_deactivate hr hact).1
    · exact Or.inl (hsame hr)
  | createInsert row seen =>
    rw [write] at hr ⊢
    split at hr
    · next hok =>
      rw [if_pos hok]
      have hmem : r ∈ s.ruleSets.rows ∨ r = row := by
        rw [Table.insert] at hr
        split at hr
        · exact Or.inl hr
        · rw [List.mem_append, List.mem_singleton] at hr
          exact hr
      rcases hmem with hmem | rfl
      · exact Or.inl (hsame hmem)
      · exact Or.inr (by simp [note, hact])
    · exact Or.inl (hsame hr)
  | updateWrite buyerId id c seen =>
    rw [write] at hr ⊢
    split at hr
    · next hok =>
      rw [if_pos hok]
      obtain ⟨r₀, hr₀, heq⟩ := List.mem_map.mp hr
      by_cases hm : r₀.id = id ∧ r₀.buyerId = buyerId
      · rw [if_pos (by simp [hm])] at heq
        subst heq
        by_cases hset : c.isActive = some true
        · right
          simp [note, hset, RuleSetChanges.apply, hm]
        · -- the flag is left alone
          left
          refine ⟨r₀, hr₀, rfl, rfl, ?_⟩
          simp only [RuleSetChanges.apply] at hact
          cases hc : c.isActive with
          | none => simpa [hc] using hact
          | some b =>
            rw [hc, Option.getD_some] at hact
            exact absurd (hact ▸ hc) hset
      · rw [if_neg (by simpa using hm)] at heq
        subst heq
        exact Or.inl (hsame hr₀)
    · exact Or.inl (hsame hr)
  | _ => exact Or.inl (hsame hr)

/-! ### Between the two statements of a request -/

variable (s)

/-- The activations that were written after the first `seen` ones. -/
def since (seen : ℕ) : List (Uuid × Uuid) :=
  s.activations.take (s.activations.length - seen)

/-- What is active when a request comes to its activation, other than its own rule set, was
activated since it had deactivated the others. -/
def Covered (st : RuleSetStage) : Prop :=
  ∀ b id seen, st.activates = some (b, id, seen) → seen ≤ s.activations.length ∧
    ∀ r ∈ s.ruleSets.rows, r.buyerId = b → r.isActive = true → r.id = id ∨ (b, r.id) ∈ s.since seen

/-- If the next statement of a request activates a rule set, no other rule set of the buyer has
been activated since the request had deactivated them. -/
def Alone (st : RuleSetStage) : Prop :=
  ∀ a ∈ st.activates, ∀ e ∈ s.since a.2.2, e.1 = a.1 → e.2 = a.2.1

instance (st : RuleSetStage) : Decidable (s.Alone st) :=
  inferInstanceAs (Decidable (∀ a ∈ st.activates, ∀ e ∈ s.since a.2.2, e.1 = a.1 → e.2 = a.2.1))

/-- No other rule set of the buyer has been activated between the two statements of a request. -/
def Undisturbed (s : RuleSetSys) : RuleSetAction → Prop
  | .next i _ => ∀ st ∈ s.threads[i]?, s.Alone st
  | _ => True

instance (a : RuleSetAction) : Decidable (s.Undisturbed a) :=
  match a with
  | .next i _ => inferInstanceAs (Decidable (∀ st ∈ s.threads[i]?, s.Alone st))
  | .create _ _ _ | .update _ _ _ => inferInstanceAs (Decidable True)

/-- At most one rule set of a buyer is active. -/
def OneActive (b : Uuid) : Prop :=
  ∀ r ∈ s.ruleSets.rows, ∀ r' ∈ s.ruleSets.rows, r.buyerId = b → r'.buyerId = b →
    r.isActive = true → r'.isActive = true → r = r'

variable {s}

theorem since_write {seen : ℕ} (h : seen ≤ s.activations.length) {ok : Bool} {st : RuleSetStage}
    {e : Uuid × Uuid} (he : e ∈ s.since seen) : e ∈ (s.write ok st).since seen := by
  rcases activations_write ok st with heq | ⟨b, id, seen', -, heq⟩
  · rw [since, heq]
    exact he
  · rw [since, heq, List.length_cons, Nat.succ_sub h, List.take_succ_cons]
    exact List.mem_cons_of_mem _ he

/-- A write keeps what is known of another request. -/
theorem covered_write {st : RuleSetStage} (h : s.Covered st) (ok : Bool) (st₀ : RuleSetStage) :
    (s.write ok st₀).Covered st := by
  intro b id seen hst
  obtain ⟨hseen, hrows⟩ := h b id seen hst
  have hlen : seen ≤ (s.write ok st₀).activations.length := by
    rcases activations_write ok st₀ with heq | ⟨b', id', seen', -, heq⟩
    · rw [heq]
      exact hseen
    · rw [heq, List.length_cons]
      exact Nat.le_succ_of_le hseen
  refine ⟨hlen, fun r hr hrb hact => ?_⟩
  rcases active_write hr hact with ⟨r₀, hr₀, hid, hbuyer, hact₀⟩ | heq
  · rcases hrows r₀ hr₀ (hbuyer.trans hrb) hact₀ with hown | hmem
    · exact Or.inl (hid ▸ hown)
    · exact Or.inr (since_write hseen (hid ▸ hmem))
  · right
    rw [since, heq, List.length_cons, Nat.succ_sub hseen, List.take_succ_cons, hrb]
    exact List.mem_cons_self

/-- A request that comes to its activation has just deactivated the others. -/
theorem active_covered {ok : Bool} {st st' : RuleSetStage} (hadv : s.advance ok st = some st') :
    (s.write ok st).Covered st' := by
  intro b id seen hst'
  cases st with
  | create buyerId id' req =>
    obtain rfl := Option.some_inj.mp hadv
    split at hst'
    · cases hst'
    split at hst'
    · cases hst'
    · cases hst'
    · simp only at hst'
      split at hst'
      · cases hst'
      · -- a rule set that is created inactive goes straight to its insertion, and activates nothing
        next hinactive => simp [RuleSetStage.activates, hinactive] at hst'
  | createDeactivate row =>
    obtain rfl := Option.some_inj.mp hadv
    cases ok with
    | false => cases hst'
    | true =>
      simp only [if_true, RuleSetStage.activates] at hst'
      split at hst'
      · cases hst'
        -- nothing of the buyer is active after the deactivation
        refine ⟨le_rfl, fun r hr hrb hact => ?_⟩
        have hout := (wasActive_deactivate hr hact).2
        rw [decide_eq_false_iff_not] at hout
        exact absurd hrb hout
      · cases hst'
  | createInsert row seen' =>
    obtain rfl := Option.some_inj.mp hadv
    cases hst'
  | update buyerId id' payload =>
    obtain rfl := Option.some_inj.mp hadv
    split at hst'
    · cases hst'
    split at hst'
    · simp only at hst'
      split at hst'
      · cases hst'
      · next hinactive =>
        split at hst'
        · simp [RuleSetStage.activates, hinactive] at hst'
        · cases hst'
    · cases hst'
  | updateDeactivate buyerId id' c =>
    obtain rfl := Option.some_inj.mp hadv
    cases ok with
    | false => cases hst'
    | true =>
      simp only [if_true, RuleSetStage.activates] at hst'
      split at hst'
      · cases hst'
        -- an update spares its own rule set
        refine ⟨le_rfl, fun r hr hrb hact => Or.inl ?_⟩
        have hout := (wasActive_deactivate hr hact).2
        rw [decide_eq_false_iff_not, not_and, not_not] at hout
        exact hout hrb
      · cases hst'
  | updateWrite buyerId id' c seen' =>
    obtain rfl := Option.some_inj.mp hadv
    cases hst'
  | done status => cases hadv

/-- An activation that is alone leaves its own rule set as the only active one. -/
theorem oneActive_write {b : Uuid} (h : s.OneActive b) {st : RuleSetStage} (hcov : s.Covered st)
    (halone : s.Alone st) (ok : Bool) : (s.write ok st).OneActive b := by
  -- a row that is active after an activation is the one that was activated
  have hids : ∀ r ∈ (s.write ok st).ruleSets.rows, ∀ r' ∈ (s.write ok st).ruleSets.rows,
      r.buyerId = b → r'.buyerId = b → r.isActive = true → r'.isActive = true →
      (s.write ok st).activations = (r.buyerId, r.id) :: s.activations → r'.id = r.id := by
    intro r _ r' hr' hrb hrb' _ hact' hnew
    obtain ⟨seen, hst⟩ : ∃ seen, st.activates = some (r.buyerId, r.id, seen) := by
      rcases activations_write ok st with heq | ⟨b', id', seen, hst, heq⟩
      · rw [heq] at hnew
        exact absurd (congrArg List.length hnew) (by simp)
      · rw [heq, List.cons_eq_cons] at hnew
        cases hnew.1
        exact ⟨seen, hst⟩
    rcases active_write hr' hact' with ⟨r₀, hr₀, hid, hbuyer, hact₀⟩ | hnew'
    · rcases (hcov _ _ _ hst).2 r₀ hr₀ (by rw [hbuyer, hrb', hrb]) hact₀ with hown | hmem
      · exact hid ▸ hown
      · exact hid ▸ halone _ hst _ hmem rfl
    · rw [hnew, List.cons_eq_cons] at hnew'
      exact (congrArg Prod.snd hnew'.1).symm
  -- two active rows were both there before, or one is the new one
  intro r hr r' hr' hrb hrb' hact hact'
  have hid : r.id = r'.id := by
    rcases active_write hr hact with ⟨r₀, hr₀, hid, hbuyer, hact₀⟩ | hnew
    · rcases active_write hr' hact' with ⟨r₁, hr₁, hid', hbuyer', hact₁⟩ | hnew'
      · rw [← hid, ← hid', h r₀ hr₀ r₁ hr₁ (hbuyer.trans hrb) (hbuyer'.trans hrb') hact₀ hact₁]
      · exact hids r' hr' r hr hrb' hrb hact' hact hnew'
    · exact (hids r hr r' hr' hrb hrb' hact hact' hnew).symm
  exact List.inj_on_of_nodup_map (s.write ok st).ruleSets.nodup hr hr' hid

/-! ### Runs -/

/-- At most one rule set of a buyer is active, and every request is covered. -/
structure RuleSetInv (b : Uuid) (s : RuleSetSys) : Prop where
  one : s.OneActive b
  covered : ∀ (i : ℕ) (st : RuleSetStage), s.threads[i]? = some st → s.Covered st

theorem ruleSetInv_step {b : Uuid} {s' : RuleSetSys} {a : RuleSetAction} (h : RuleSetInv b s)
    (halone : Undisturbed s a) (hstep : step s a = some s') : RuleSetInv b s' := by
  rcases step_cases hstep with ⟨st, hst, rfl⟩ | ⟨i, ok, st, st', rfl, hst, hadv, rfl⟩
  · refine ⟨h.one, fun j st₁ hst₁ => ?_⟩
    rcases Transition.get_concat_cases hst₁ with hst₁ | rfl
    · exact h.covered j st₁ hst₁
    · intro b id seen hact
      rw [hst] at hact
      cases hact
  · refine ⟨oneActive_write h.one (h.covered i st hst) (halone st hst) ok, fun j st₁ hst₁ => ?_⟩
    rcases Transition.get_set_cases hst₁ with ⟨-, rfl⟩ | ⟨-, hst₁⟩
    · exact active_covered hadv
    · exact covered_write (h.covered j st₁ hst₁) ok st

/-- Requests that create and update rule sets, interleaved statement by statement: if a buyer has
at most one active rule set at first, and no other rule set of the buyer is activated between the
two statements of a request, it has at most one in every state. -/
theorem one_active_rule_set {s₀ : RuleSetSys} {acts : List RuleSetAction} (hinit : s₀.threads = [])
    (hrun : Transition.run step s₀ acts = some s)
    (halone : Transition.Along step Undisturbed s₀ acts) {b : Uuid} (hone : s₀.OneActive b) :
    s.OneActive b := by
  have hstart : RuleSetInv b s₀ := by
    refine ⟨hone, fun i st hst => ?_⟩
    rw [hinit, List.getElem?_nil] at hst
    cases hst
  exact (Transition.inv_of_run
    (fun h hp hstep => ruleSetInv_step h hp hstep) hstart halone hrun).one

end RuleSetSys

namespace Sample

def newRuleSet (name : String) : CreateRuleSetRequest := ⟨name, none, none, some true, none, none⟩

/-- A buyer without rule sets. -/
def ruleSetSys : RuleSetSys := ⟨[(20, some 2)], Table.empty, [], []⟩

/-- Two requests that create an active rule set; both deactivate before either inserts. -/
def concurrentCreates : List RuleSetAction :=
  [.create 20 1 (newRuleSet "a"), .create 20 2 (newRuleSet "b"), .next 0 true, .next 1 true,
    .next 0 true, .next 1 true, .next 0 true, .next 1 true]

/-- The same requests, one after the other. -/
def sequentialCreates : List RuleSetAction :=
  [.create 20 1 (newRuleSet "a"), .next 0 true, .next 0 true, .next 0 true,
    .create 20 2 (newRuleSet "b"), .next 1 true, .next 1 true, .next 1 true]

end Sample

open Sample in
/-- Both rule sets are active in the end. -/
theorem two_active_rule_sets :
    ruleSetSys.threads = [] ∧ ruleSetSys.ruleSets.rows.map RuleSet.id = [] ∧
      (Transition.run RuleSetSys.step ruleSetSys concurrentCreates).map (fun s =>
        s.ruleSets.rows.map fun r => (r.id, r.buyerId, r.isActive)) =
          some [(1, 20, true), (2, 20, true)] := by
  decide

open Sample in
theorem one_active_rule_set_sequential :
    ∃ s, Transition.run RuleSetSys.step ruleSetSys sequentialCreates = some s ∧ s.OneActive 20 := by
  obtain ⟨s, hs⟩ : ∃ s, Transition.run RuleSetSys.step ruleSetSys sequentialCreates = some s :=
    Option.isSome_iff_exists.mp (by decide)
  exact ⟨s, hs, RuleSetSys.one_active_rule_set rfl hs (by decide) nofun⟩

end LeadsNebula
