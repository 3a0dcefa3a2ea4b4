/-
What the UPDATE statements of the dashboard set.

* `Says` — a statement sets the fields that are supplied, and `updated_at`, and
  nothing else;
* `updates_say_supplied` — so do the statements of all five handlers.
-/
import LeadsNebula.TenantIsolation
import LeadsNebula.Triple
import LeadsNebula.UpdateStatements

namespace LeadsNebula

namespace Dashboard

open QueryBuilder (Fields Expr Condition Update Reads Name given exprOf
  setTokens assignmentTokens run)

/-! ### What a payload supplies -/

/-- The columns that a handler sets, each with what it takes a value of the payload for. -/
abbrev Columns := List (String × (Json → Option (Option SqlValue)))

def fieldsOf (columns : Columns) (payload : Json) : List (String × Option (Option SqlValue)) :=
  columns.map fun c => (c.1, (payload.get c.1).bind c.2)

/-- The columns that the payload supplies, with their values. -/
def supplied (columns : Columns) (payload : Json) : List (String × Expr SqlValue) :=
  given (fieldsOf columns payload)

def takeText : Json → Option (Option SqlValue) := fun j => bound .text j.asStr

def takeBool : Json → Option (Option SqlValue) := fun j => bound .bool j.asBool

def takeUuid : Json → Option (Option SqlValue) := fun j => bound .uuid (j.asStr.bind Uuid.parseStr)

theorem bound_bind {α : Type} (f : α → SqlValue) (o : Option Json) (g : Json → Option α) :
    bound f (o.bind g) = o.bind fun j => bound f (g j) := by
  simp [bound, Option.map_bind]

/-- The statement sets what is supplied, and `updated_at`; all other columns keep their value. -/
structure SetsExactly (u : Update SqlValue) (supplied : List (String × Expr SqlValue)) : Prop where
  assignments : u.assignments = supplied ++ [("updated_at", .now)]
  set : ∀ now row, ∀ a ∈ supplied, u.apply now row a.1 = a.2.cell now
  keeps : ∀ now row col, col ∉ supplied.map Prod.fst → col ≠ "updated_at" →
    u.apply now row col = row col

/-- What is built is a statement that sets what is supplied.  Nothing is built where the request is
refused, or where it supplies nothing. -/
structure Says (built : Option Query) (refused : Bool) (table : String)
    (supplied : List (String × Expr SqlValue)) (conditions : List (Condition SqlValue)) : Prop where
  built_iff : built.isSome = (!refused && !supplied.isEmpty)
  statement : ∀ q ∈ built, ∃ u, q.statement = some u ∧ u.table = table ∧ SetsExactly u supplied ∧
    u.conditions = conditions

/-- `WHERE id = … AND deleted_at IS NULL`. -/
def live (id : Uuid) : List (Condition SqlValue) := [.eq "id" (.uuid id), .isNull "deleted_at"]

theorem setsExactly {u : Update SqlValue} {as : List (String × Expr SqlValue)}
    (h : u.assignments = as ++ [("updated_at", .now)]) : SetsExactly u as where
  assignments := h
  set := by
    intro now row a ha
    exact Update.apply_of_mem (h ▸ List.mem_append_left _ ha) now row
  keeps := by
    intro now row col hcol hupdated
    refine Update.apply_of_notMem ?_ now row
    rw [h, List.map_append, List.mem_append]
    rintro (hmem | hmem)
    · exact hcol hmem
    · exact hupdated (List.mem_singleton.mp hmem)

/-! ### Statements that are put together field by field -/

section

variable {table text : String} {fs : List (String × Option (Option SqlValue))}

/-- Columns that a handler may set. -/
def Settable (cols : List String) : Prop := (cols ++ ["updated_at"]).Nodup ∧ ∀ col ∈ cols, Name col

instance (cols : List String) : Decidable (Settable cols) := inferInstanceAs (Decidable (_ ∧ _))

theorem nodup_given (h : Settable (fs.map Prod.fst)) :
    ((given fs ++ [("updated_at", Expr.now)]).map Prod.fst).Nodup := by
  rw [List.map_append]
  exact h.1.sublist ((QueryBuilder.map_fst_given_sublist fs).append_right _)

/-- The statement that the fields make. -/
def statementOf (table : String) (conditions : List (Condition SqlValue))
    (h : Settable (fs.map Prod.fst)) : Update SqlValue :=
  ⟨table, given fs ++ [("updated_at", .now)], conditions, nodup_given h⟩

theorem plain_statementOf (h : Settable (fs.map Prod.fst)) (htable : Name table)
    {conditions : List (Condition SqlValue)} (hne : conditions ≠ [])
    (hcols : ∀ c ∈ conditions, Name c.column) : (statementOf table conditions h).Plain where
  table := htable.1
  assigns := by simp [statementOf]
  column := by
    intro a ha
    rcases List.mem_append.mp ha with hmem | hmem
    · exact (h.2 _ ((QueryBuilder.map_fst_given_sublist fs).mem (List.mem_map_of_mem hmem))).1
    · rw [List.mem_singleton.mp hmem]
      decide
  restricts := hne
  condition := fun c hc => (hcols c hc).1

theorem sets_pushFields (hcols : ∀ f ∈ fs, Name f.1)
    (htext : ∀ args : List SqlValue, run args .blank text.toList =
      some ([.word "UPDATE", .word table, .word "SET"], .blank)) :
    (pushFields text fs).Sets table (given fs) := by
  have hstart : Fields.Sets (⟨.new text, false⟩ : Fields SqlValue) table [] :=
    ⟨fun args _ => by simpa [setTokens, QueryBuilder.new] using htext args, rfl⟩
  exact hstart.fields fs hcols

theorem says_of_sets {b : Fields SqlValue} {as : List (String × Expr SqlValue)}
    (h : b.Sets table as)
    {q : Query} {u : Update SqlValue} (hq : q.statement = some u) (htable : u.table = table)
    (hassignments : u.assignments = as ++ [("updated_at", .now)]) :
    Says (if !b.hasUpdates then none else some q) false table as u.conditions := by
  rw [h.hasUpdates, Bool.not_not]
  cases hempty : as.isEmpty with
  | true => exact ⟨by rw [hempty]; rfl, fun q hq => (by cases hq)⟩
  | false =>
    refine ⟨by rw [hempty]; rfl, fun q' hq' => ?_⟩
    obtain rfl : q = q' := Option.some.inj hq'
    exact ⟨u, hq, htable, setsExactly hassignments, rfl⟩

/-- The tokens up to the id that a statement is restricted to. -/
def closing : List (QueryBuilder.Token SqlValue) :=
  assignmentTokens ("updated_at", .now) ++ [.word "WHERE", .word "id", .sym '=']

theorem run_closing (args : List SqlValue) :
    run args .blank "updated_at = NOW() WHERE id = ".toList = some (closing, .blank) := rfl

/-- The handlers of buyers and rule sets have one blank more. -/
theorem run_closing_blank (args : List SqlValue) :
    run args .blank " updated_at = NOW() WHERE id = ".toList = some (closing, .blank) := rfl

/-- The text goes on with the conditions. -/
theorem setTokens_closing (as : List (String × Expr SqlValue))
    (us : List (QueryBuilder.Token SqlValue)) :
    setTokens table as ++ closing ++ us = setTokens table as ++
      (assignmentTokens ("updated_at", .now) ++
        .word "WHERE" :: (.word "id" :: .sym '=' :: us)) := by
  rw [closing, List.append_assoc, List.append_assoc]
  rfl

theorem says_live (id : Uuid) (fs : List (String × Option (Option SqlValue))) {close : String}
    (hcols : Settable (fs.map Prod.fst)) (htable : Name table)
    (htext : ∀ args : List SqlValue, run args .blank text.toList =
      some ([.word "UPDATE", .word table, .word "SET"], .blank))
    (hclose : ∀ args : List SqlValue, run args .blank close.toList = some (closing, .blank)) :
    Says (if !(pushFields text fs).hasUpdates then none
      else some ((((pushFields text fs).query.push close).pushBind (.uuid id)).push
        " AND deleted_at IS NULL")) false table (given fs) (live id) := by
  have hsets := sets_pushFields (fun f hf => hcols.2 f.1 (List.mem_map_of_mem hf)) htext
  have hlive : ∀ args : List SqlValue, run args .blank " AND deleted_at IS NULL".toList =
      some ([.word "AND", .word "deleted_at", .word "IS"], .word ['N', 'U', 'L', 'L']) :=
    fun _ => rfl
  -- the text of the statement, as it is read back
  have hread := (hsets.reads.push hclose).bound (.uuid id) " AND deleted_at IS NULL" (by decide)
    hlive
  rw [setTokens_closing] at hread
  have hnames : ∀ c ∈ live id, Name c.column := by
    have hcols : ∀ col ∈ ["id", "deleted_at"], Name col := by decide
    intro c hc
    exact hcols c.column (List.mem_map_of_mem hc)
  have hplain : (statementOf table (live id) hcols).Plain :=
    plain_statementOf hcols htable (List.cons_ne_nil _ _) hnames
  -- the two conditions are on the id and on the deletion
  have hconditions : ([.word "id", .sym '=', .value (.uuid id), .word "AND", .word "deleted_at",
      .word "IS"] : List (QueryBuilder.Token SqlValue)) ++ [.word "NULL"] =
        [QueryBuilder.Token.word "AND"].intercalate ((live id).map Condition.tokens) := rfl
  have hstatement := hread.statement (u := statementOf table (live id) hcols)
    rfl rfl hconditions hplain
  exact says_of_sets hsets hstatement rfl rfl

/-- `WHERE id = … AND buyer_id = …`. -/
def ofBuyer (buyerId id : Uuid) : List (Condition SqlValue) :=
  [.eq "id" (.uuid id), .eq "buyer_id" (.uuid buyerId)]

theorem says_ofBuyer (buyerId id : Uuid) (fs : List (String × Option (Option SqlValue)))
    {close : String} (hcols : Settable (fs.map Prod.fst)) (htable : Name table)
    (htext : ∀ args : List SqlValue, run args .blank text.toList =
      some ([.word "UPDATE", .word table, .word "SET"], .blank))
    (hclose : ∀ args : List SqlValue, run args .blank close.toList = some (closing, .blank)) :
    Says (if !(pushFields text fs).hasUpdates then none
      else some (((((pushFields text fs).query.push close).pushBind (.uuid id)).push
        " AND buyer_id = ").pushBind (.uuid buyerId))) false table (given fs)
          (ofBuyer buyerId id) := by
  have hsets := sets_pushFields (fun f hf => hcols.2 f.1 (List.mem_map_of_mem hf)) htext
  have hbuyer : ∀ args : List SqlValue, run args .blank " AND buyer_id = ".toList =
      some ([.word "AND", .word "buyer_id", .sym '='], .blank) := fun _ => rfl
  -- the text of the statement, as it is read back
  have hread := ((hsets.reads.push hclose).bound (.uuid id) " AND buyer_id = " (by decide)
    hbuyer).pushBind (.uuid buyerId)
  rw [setTokens_closing] at hread
  have hnames : ∀ c ∈ ofBuyer buyerId id, Name c.column := by
    have hcols : ∀ col ∈ ["id", "buyer_id"], Name col := by decide
    intro c hc
    exact hcols c.column (List.mem_map_of_mem hc)
  have hplain : (statementOf table (ofBuyer buyerId id) hcols).Plain :=
    plain_statementOf hcols htable (List.cons_ne_nil _ _) hnames
  -- the two conditions are on the id and on the buyer
  have hconditions : ([.word "id", .sym '=', .value (.uuid id), .word "AND", .word "buyer_id",
      .sym '='] : List (QueryBuilder.Token SqlValue)) ++ [.value (.uuid buyerId)] =
        [QueryBuilder.Token.word "AND"].intercalate
          ((ofBuyer buyerId id).map Condition.tokens) := rfl
  have hstatement := hread.statement (u := statementOf table (ofBuyer buyerId id) hcols)
    (by simp [QueryBuilder.Pending.finish, QueryBuilder.pushBind, QueryBuilder.push])
      rfl hconditions
    hplain
  exact says_of_sets hsets hstatement rfl rfl

end

theorem Says.refuse {built : Option Query} {table : String} {as : List (String × Expr SqlValue)}
    {conditions : List (Condition SqlValue)} (h : Says built false table as conditions)
    (refused : Bool) : Says (if refused then none else built) refused table as conditions := by
  cases refused with
  | true => exact ⟨rfl, fun q hq => (by cases hq)⟩
  | false => exact h

/-! ### Publishers -/

def publisherColumns : Columns :=
  [("name", takeText), ("email", takeText), ("status", takeText), ("hmac_required", takeBool),
    ("representative_first_name", takeText), ("representative_last_name", takeText),
    ("address_street", takeText), ("address_city", takeText), ("address_state", takeText),
    ("address_zip", takeText), ("timezone", takeText), ("ein_tin", takeText)]

theorem bound_optionalField {α : Type} {f : Json → Option α} {j : Json} {k : String} {o : Option α}
    (h : optionalField f j k = some o) (hnull : f .null = none) (g : α → SqlValue) :
    bound g o = (j.get k).bind fun v => bound g (f v) := by
  rw [optionalField] at h
  cases hk : j.get k with
  | none =>
    rw [hk] at h
    cases h
    rfl
  | some v =>
    rw [hk] at h
    rw [Option.bind_some]
    cases v with
    | null =>
      cases h
      rw [hnull]
    | _ =>
      obtain ⟨a, ha, rfl⟩ := Option.map_eq_some_iff.mp h
      rw [ha]

theorem publisherFields_of_request {j : Json} {c : UpdatePublisherRequest}
    (h : publisherRequest j = some c) : publisherFields c = fieldsOf publisherColumns j := by
  unfold publisherRequest at h
  obtain ⟨name, hname, h⟩ := Option.bind_eq_some_iff.mp h
  obtain ⟨email, hemail, h⟩ := Option.bind_eq_some_iff.mp h
  obtain ⟨status, hstatus, h⟩ := Option.bind_eq_some_iff.mp h
  obtain ⟨hmac, hhmac, h⟩ := Option.bind_eq_some_iff.mp h
  obtain ⟨first, hfirst, h⟩ := Option.bind_eq_some_iff.mp h
  obtain ⟨last, hlast, h⟩ := Option.bind_eq_some_iff.mp h
  obtain ⟨street, hstreet, h⟩ := Option.bind_eq_some_iff.mp h
  obtain ⟨city, hcity, h⟩ := Option.bind_eq_some_iff.mp h
  obtain ⟨state, hstate, h⟩ := Option.bind_eq_some_iff.mp h
  obtain ⟨zip, hzip, h⟩ := Option.bind_eq_some_iff.mp h
  obtain ⟨zone, hzone, h⟩ := Option.bind_eq_some_iff.mp h
  obtain ⟨ein, hein, h⟩ := Option.bind_eq_some_iff.mp h
  cases h
  simp only [publisherFields, bound_optionalField hname rfl, bound_optionalField hemail rfl,
    bound_optionalField hstatus rfl, bound_optionalField hhmac rfl, bound_optionalField hfirst rfl,
    bound_optionalField hlast rfl, bound_optionalField hstreet rfl, bound_optionalField hcity rfl,
    bound_optionalField hstate rfl, bound_optionalField hzip rfl, bound_optionalField hzone rfl,
    bound_optionalField hein rfl]
  rfl

theorem says_updatePublisher (id : Uuid) {j : Json} {c : UpdatePublisherRequest}
    (h : publisherRequest j = some c) :
    Says (updatePublisherQuery id c) false "publishers" (supplied publisherColumns j)
      (live id) := by
  rw [supplied, ← publisherFields_of_request h]
  refine says_live id (publisherFields c) ?_ (by decide) (fun _ => rfl) run_closing
  exact (by decide : Settable (publisherColumns.map Prod.fst))

/-! ### Buyers -/

def buyerColumns : Columns :=
  [("name", takeText), ("email_address", takeText), ("ein_tin", takeText),
    ("address_street", takeText), ("address_city", takeText), ("address_state", takeText),
    ("address_zip", takeText), ("representative_first_name", takeText),
    ("representative_last_name", takeText),
    ("buyer_integration_id", fun j => (BuyerChanges.integrationOf j).map fun id => id.map .uuid),
    ("status", fun j => bound .buyerStatus (j.asStr.bind BuyerStatus.ofLabel))]

theorem buyerFields_ofPayload (payload : Json) :
    buyerFields (.ofPayload payload) = fieldsOf buyerColumns payload := by
  simp only [buyerFields, BuyerChanges.ofPayload, fieldsOf, buyerColumns,
    List.map_cons, List.map_nil,
    bound_bind, Option.map_bind, Option.bind_assoc, Function.comp_def]
  rfl

theorem says_updateBuyer (id : Uuid) (payload : Json) :
    Says (updateBuyerQuery id (.ofPayload payload))
      (BuyerChanges.ofPayload payload).invalidStatus.isSome
      "buyers" (supplied buyerColumns payload) (live id) := by
  rw [supplied, ← buyerFields_ofPayload]
  refine Says.refuse (says_live id _ ?_ (by decide) (fun _ => rfl) run_closing_blank) _
  exact (by decide : Settable (buyerColumns.map Prod.fst))

/-! ### Campaigns -/

def campaignColumns : Columns :=
  [("name", takeText), ("publisher_id", takeUuid), ("buyer_id", takeUuid)]

/-- The status that the payload asks for, `some none` if it is no label. -/
def askedStatus (member : Bool) (payload : Json) : Option (Option CampaignStatus) :=
  ((payload.get "status").bind Json.asStr).map (statusOfLabel member)

/-- The status, where it is another one than before. -/
def statusSet (member : Bool) (before : Campaign) (payload : Json) :
    List (String × Expr SqlValue) :=
  given [("status", bound .campaignStatus
    ((askedStatus member payload).join.filter (· ≠ before.status)))]

theorem says_campaignQuery (id : Uuid) (before : Campaign) (c : CampaignChanges) :
    Says (campaignQuery id before c) false "campaigns" (given (campaignFields before c))
      (live id) := by
  refine says_live id _ ?_ (by decide) (fun _ => rfl) run_closing
  exact (by decide : Settable ["name", "publisher_id", "buyer_id", "status"])

theorem campaignFields_ofPayload (before : Campaign) (payload : Json)
    (status : Option CampaignStatus) :
    campaignFields before { CampaignChanges.ofPayload payload with status := status } =
      fieldsOf campaignColumns payload ++
        [("status", bound .campaignStatus (status.filter (· ≠ before.status)))] := by
  simp only [campaignFields, CampaignChanges.ofPayload, fieldsOf, campaignColumns, List.map_cons,
    List.map_nil, bound_bind, Option.bind_assoc]
  rfl

theorem says_updateCampaign (member : Bool) (id : Uuid) (before : Campaign) (payload : Json) :
    Says (updateCampaignQuery member id before payload) (askedStatus member payload == some none)
      "campaigns" (supplied campaignColumns payload ++ statusSet member before payload)
        (live id) := by
  have hgiven : ∀ status, given (campaignFields before
      { CampaignChanges.ofPayload payload with status := status }) =
        supplied campaignColumns payload ++ given [("status", bound .campaignStatus
          (status.filter (· ≠ before.status)))] := by
    intro status
    rw [campaignFields_ofPayload, given, List.filterMap_append]
    rfl
  rw [updateCampaignQuery, statusSet, askedStatus]
  cases (payload.get "status").bind Json.asStr with
  | none =>
    rw [Option.map_none, Option.join_none, ← hgiven none]
    exact says_campaignQuery id before _
  | some label =>
    rw [Option.map_some, Option.join_some]
    simp only
    cases statusOfLabel member label with
    | none => exact ⟨rfl, fun q hq => (by cases hq)⟩
    | some status =>
      rw [← hgiven (some status)]
      exact says_campaignQuery id before _

/-! ### Ping trees -/

/-- `as_i64`. -/
def asI64 : Json → Option ℤ
  | .num q => if q.den = 1 ∧ -2 ^ 63 ≤ q.num ∧ q.num < 2 ^ 63 then some q.num else none
  | _ => none

theorem asI32_eq_asI64 {j : Json} (h : ∀ p ∈ asI64 j, -2 ^ 31 ≤ p ∧ p < 2 ^ 31) :
    asI32 j = asI64 j := by
  cases j with
  | num q =>
    simp only [asI32, asI64] at h ⊢
    split_ifs with hq
    · rw [if_pos hq] at h
      obtain ⟨hlow, hhigh⟩ := h q.num rfl
      rw [Int.bmod_eq_of_le (by omega) (by omega)]
    · rfl
  | _ => rfl

def pingTreeColumns : Columns := [("name", takeText), ("priority", fun j => bound .int (asI64 j))]

/-- Without a status. -/
theorem says_updatePingTree (id : Uuid) {payload : Json}
    (hstatus : (payload.get "status").bind Json.asStr = none)
    (hpriority : ∀ p ∈ (payload.get "priority").bind asI64, -2 ^ 31 ≤ p ∧ p < 2 ^ 31) :
    Says (updatePingTreeQuery id (.ofPayload payload)) false "ping_trees"
      (supplied pingTreeColumns payload) (live id) := by
  have hfields : pingTreeFields (.ofPayload payload) = fieldsOf pingTreeColumns payload := by
    have hint : (payload.get "priority").bind asI32 = (payload.get "priority").bind asI64 := by
      cases hj : payload.get "priority" with
      | none => rfl
      | some j =>
        rw [hj, Option.bind_some] at hpriority
        exact asI32_eq_asI64 hpriority
    simp only [pingTreeFields, PingTreeChanges.ofPayload, fieldsOf, pingTreeColumns, List.map_cons,
      List.map_nil, hint, bound_bind]
    rfl
  have hnone : (PingTreeChanges.ofPayload payload).status = none := hstatus
  rw [updatePingTreeQuery, hnone, supplied, ← hfields]
  refine says_live id _ ?_ (by decide) (fun _ => rfl) run_closing
  exact (by decide : Settable (pingTreeColumns.map Prod.fst))

/-- With a status the text lacks the comma before `updated_at`, and says nothing. -/
theorem updatePingTree_malformed (id : Uuid) {c : PingTreeChanges} (h : c.status.isSome = true) :
    ∃ q, updatePingTreeQuery id c = some q ∧ q.statement = none := by
  obtain ⟨status, hstatus⟩ := Option.isSome_iff_exists.mp h
  have hsets : (pushFields "UPDATE ping_trees SET " (pingTreeFields c)).Sets "ping_trees"
      (given (pingTreeFields c)) := by
    have hcols : ∀ col ∈ (pingTreeFields c).map Prod.fst, Name col :=
      (by decide : ∀ col ∈ pingTreeColumns.map Prod.fst, Name col)
    exact sets_pushFields (fun f hf => hcols f.1 (List.mem_map_of_mem hf)) fun _ => rfl
  -- whatever has been read, `status = $1updated_at` is no assignment
  have hread : ∀ {q : Query} {ts}, Reads q ts .blank →
      QueryBuilder.Broken (((q.push "status = ").pushBind (.text status)).push
        "updated_at = NOW() WHERE id = ") := by
    intro q ts hq
    have hcol : ∀ args : List SqlValue, run args .blank "status = ".toList =
        some ([.word "status", .sym '='], .blank) := fun _ => rfl
    exact (hq.push hcol).broken (.text status) _ (by decide)
  have hcomma : ∀ args : List SqlValue, run args .blank ", ".toList = some ([.sym ','], .blank) :=
    fun _ => rfl
  rw [updatePingTreeQuery, hstatus]
  refine ⟨_, rfl, ?_⟩
  -- with other columns or without, the missing comma comes after the status
  cases hhas : (pushFields "UPDATE ping_trees SET " (pingTreeFields c)).hasUpdates with
  | true =>
    simp only [pushStatus, hhas, if_true]
    exact (((hread (hsets.reads.push hcomma)).pushBind _).push _).statement
  | false =>
    simp only [pushStatus, hhas]
    exact (((hread hsets.reads).pushBind _).push _).statement

/-! ### Rule sets -/

/-- The columns of a rule set, with the config that has been left to store. -/
def ruleSetColumns (config : Option Json) : Columns :=
  [("rule_set_name", takeText), ("config", fun _ => bound .json config),
    ("rules_order", fun j => bound .texts (j.asArray.map fun l => l.filterMap Json.asStr)),
    ("enabled", takeBool), ("is_active", takeBool),
    ("timeout_seconds", fun j => bound .double j.asF64)]

theorem says_updateRuleSet (buyerId id : Uuid) {payload : Json} {config : Option Json}
    (hconfig : config.isSome = (payload.get "config").isSome) :
    Says (updateRuleSetQuery buyerId id
      { RuleSetChanges.ofPayload payload with config := config }) false
      "buyer_qualification_configs" (supplied (ruleSetColumns config) payload)
        (ofBuyer buyerId id) := by
  have hfields : ruleSetFields { RuleSetChanges.ofPayload payload with config := config } =
      fieldsOf (ruleSetColumns config) payload := by
    have hbound : bound .json config = (payload.get "config").bind fun _ => bound .json config := by
      cases hj : payload.get "config" with
      | none =>
        rw [hj, Option.isSome_none, Option.isSome_eq_false_iff,
          Option.isNone_iff_eq_none] at hconfig
        rw [hconfig]
        rfl
      | some j => rfl
    simp only [ruleSetFields, RuleSetChanges.ofPayload, fieldsOf, ruleSetColumns, List.map_cons,
      List.map_nil, ← hbound, bound_bind, Option.map_bind]
    rfl
  rw [supplied, ← hfields]
  refine says_ofBuyer buyerId id _ ?_ (by decide) (fun _ => rfl) run_closing_blank
  exact (by decide : Settable ((ruleSetColumns none).map Prod.fst))

/-- The config itself, or what is left of it once the ZIP codes of one kind or both are stored. -/
def leftOf (config : Json) : List Json :=
  [config, stripZips .blacklist config, stripZips .whitelist (stripZips .blacklist config)]

theorem triple_storeZipCodes (env : DashEnv) (b : Uuid) (listType : ListType) (config : Json) :
    Prog.Triple (fun _ => True) (storeZipCodes env b listType config)
      (fun o _ => ∀ c ∈ o, c = stripZips listType config) fun _ _ => True := by
  intro s _
  cases harray : zipArray listType config with
  | none =>
    -- no ZIP codes in the config: it is returned as it is
    rw [storeZipCodes_none harray]
    refine ⟨?_, fun e s' h => trivial⟩
    rintro o s' h c hc
    obtain rfl : some config = o := by
      cases h
      rfl
    cases hc
    simp [stripZips, harray]
  | some zips =>
    obtain ⟨m, rfl⟩ : ∃ m, config = .obj m := by
      cases config with
      | obj m => exact ⟨m, rfl⟩
      | _ => cases harray
    have hstrip : stripZips listType (.obj m) = .obj (m.filter (·.1 ≠ listType.field)) := by
      simp [stripZips, harray]
    rw [storeZipCodes_some harray, hstrip]
    -- a failure on the way leaves no config, otherwise the field is taken out
    refine Prog.Triple.bind (P := fun _ => True) Prog.Triple.any (fun listId => ?_) s trivial
    cases listId with
    | none => exact Prog.Triple.pure fun s _ c hc => (by cases hc)
    | some listId =>
      refine Prog.Triple.bind Prog.Triple.any fun codes => ?_
      cases codes with
      | none => exact Prog.Triple.pure fun s _ c hc => (by cases hc)
      | some codes =>
        refine Prog.Triple.bind Prog.Triple.any fun _ => Prog.Triple.pure fun s _ c hc => ?_
        cases hc
        rfl

theorem extractConfig_left {env : DashEnv} {b : Uuid} {payload config : Option Json} {s s' : Db}
    (h : extractConfig env b payload s = (.ok config, s')) :
    Option.Rel (fun j out => out ∈ leftOf j) payload config := by
  have htriple : Prog.Triple (fun _ => True) (extractConfig env b payload)
      (fun config _ => Option.Rel (fun j out => out ∈ leftOf j) payload config)
      fun _ _ => True := by
    cases payload with
    | none => exact Prog.Triple.pure fun s _ => Option.Rel.none
    | some j =>
      refine Prog.Triple.bind (Q := fun out _ => out ∈ leftOf j) ?_ fun out =>
        Prog.Triple.pure fun s h => Option.Rel.some h
      refine Prog.Triple.bind (triple_storeZipCodes env b .blacklist j) fun o => ?_
      cases o with
      | none => exact Prog.Triple.pure fun s _ => List.mem_cons_self
      | some config =>
        intro s hs
        obtain rfl := hs config rfl
        refine Prog.Triple.bind (triple_storeZipCodes env b .whitelist _)
          (fun o => Prog.Triple.pure fun s h => ?_) s trivial
        cases o with
        | none => simp [leftOf]
        | some config => simp [leftOf, h config rfl]
  exact (htriple s trivial).1 config s' h

/-! ### All of them -/

/-- Each statement that is built is well formed, sets what the payload supplies and nothing else,
and is restricted to the row.  A ping tree is given no status, and a priority of 32 bits.  The
config of a rule set is what is left of it once its ZIP codes are stored. -/
theorem updates_say_supplied :
    (∀ id payload j c, namedFields (publisherColumns.map Prod.fst) payload = some j →
      publisherRequest j = some c →
        Says (updatePublisherQuery id c) false "publishers" (supplied publisherColumns j)
          (live id)) ∧
    (∀ id payload, Says (updateBuyerQuery id (.ofPayload payload))
      (BuyerChanges.ofPayload payload).invalidStatus.isSome "buyers" (supplied buyerColumns payload)
        (live id)) ∧
    (∀ member id before payload, Says (updateCampaignQuery member id before payload)
      (askedStatus member payload == some none) "campaigns"
        (supplied campaignColumns payload ++ statusSet member before payload) (live id)) ∧
    (∀ id payload, (payload.get "status").bind Json.asStr = none →
      (∀ p ∈ (payload.get "priority").bind asI64, -2 ^ 31 ≤ p ∧ p < 2 ^ 31) →
        Says (updatePingTreeQuery id (.ofPayload payload)) false "ping_trees"
          (supplied pingTreeColumns payload) (live id)) ∧
    ∀ env buyerId id payload s config s',
      extractConfig env buyerId (payload.get "config") s = (.ok config, s') →
        Option.Rel (fun j out => out ∈ leftOf j) (payload.get "config") config ∧
        Says (updateRuleSetQuery buyerId id
          { RuleSetChanges.ofPayload payload with config := config })
          false "buyer_qualification_configs" (supplied (ruleSetColumns config) payload)
            (ofBuyer buyerId id) := by
  refine ⟨fun id payload j c _ hc => says_updatePublisher id hc,
    says_updateBuyer, says_updateCampaign,
    fun id payload hstatus hpriority => says_updatePingTree id hstatus hpriority, ?_⟩
  intro env buyerId id payload s config s' h
  -- the config has lost its ZIP codes by then
  have hleft := extractConfig_left h
  refine ⟨hleft, says_updateRuleSet buyerId id ?_⟩
  cases hconfig : payload.get "config" with
  | none =>
    rw [hconfig] at hleft
    cases hleft
    rfl
  | some j =>
    rw [hconfig] at hleft
    cases hleft
    rfl

end Dashboard

namespace Sample

open Dashboard

/-- A rule set with a list of ZIP codes. -/
def zipPayload : Json := .obj [("config", .obj [("zip_blacklist", .arr [.str "90210"])])]

def noTables : Dashboard.Db := ⟨fun _ => .empty⟩

theorem extract_zipPayload : ∃ s', extractConfig dashEnv 20 (zipPayload.get "config") noTables =
    (.ok (some (.obj [])), s') := by
  have hfirst : firstList 20 .blacklist noTables = none := by
    rw [firstList, orderAsc]
    exact congrArg List.head? List.mergeSort_nil
  have hfree : listIdFree dashEnv .blacklist noTables = true := by decide
  obtain ⟨o, s₁, hfind, -, hnone, hmem⟩ := findOrCreateZipList_new (n := 10) (b := 20)
    (show dashEnv.ok 10 = true from rfl) hfirst
  cases o with
  | none => cases (hnone.mp rfl).symm.trans hfree
  | some listId =>
    obtain ⟨s₂, hstore, -⟩ := does_storeInto dashEnv 10 [.str "90210"] (.obj []) (hmem listId rfl)
    have hblack : storeZipCodes dashEnv 20 .blacklist
        (.obj [("zip_blacklist", .arr [.str "90210"])])
        noTables = (.ok (some (.obj [])), s₂) := by
      rw [storeZipCodes_some rfl]
      exact (Prog.bind_of_ok hfind).trans hstore
    exact ⟨s₂, Prog.bind_of_ok (Prog.bind_of_ok hblack)⟩

/-- The list is not in the config that is bound. -/
theorem not_says_supplied : ¬∀ (payload : Json) (s : Dashboard.Db) (config : Option Json)
    (s' : Dashboard.Db), extractConfig dashEnv 20 (payload.get "config") s = (.ok config, s') →
      Says (updateRuleSetQuery 20 30
        { RuleSetChanges.ofPayload payload with config := config }) false
        "buyer_qualification_configs" (supplied (ruleSetColumns (payload.get "config")) payload)
          (Dashboard.ofBuyer 20 30) := by
  intro h
  obtain ⟨s', hextract⟩ := extract_zipPayload
  have hsays := h zipPayload noTables (some (.obj [])) s' hextract
  have hleft : Says (updateRuleSetQuery 20 30
      { RuleSetChanges.ofPayload zipPayload with config := some (.obj []) }) false
        "buyer_qualification_configs" (supplied (ruleSetColumns (some (.obj []))) zipPayload)
          (Dashboard.ofBuyer 20 30) := says_updateRuleSet 20 30 rfl
  obtain ⟨q, hq⟩ := Option.isSome_iff_exists.mp hsays.built_iff
  obtain ⟨u, hu, -, hset, -⟩ := hsays.statement q hq
  obtain ⟨u', hu', -, hset', -⟩ := hleft.statement q hq
  obtain rfl : u = u' := Option.some.inj (hu.symm.trans hu')
  have heq := hset.assignments.symm.trans hset'.assignments
  have hclaimed : supplied (ruleSetColumns (zipPayload.get "config")) zipPayload =
      [("config", .value (.json (.obj [("zip_blacklist", .arr [.str "90210"])])))] := rfl
  have hbound : supplied (ruleSetColumns (some (.obj []))) zipPayload =
      [("config", .value (.json (.obj [])))] := rfl
  rw [hclaimed, hbound] at heq
  simp at heq

/-- A new name, a new priority, and the rule set with its list. -/
theorem says_supplied :
    Says (updatePublisherQuery 6
      ⟨some "Two", none, none, none, none, none, none, none, none, none, none, none⟩) false
        "publishers"
        [("name", .value (.text "Two"))] (live 6) ∧
    Says (updatePingTreeQuery 50 (.ofPayload (.obj [("priority", .num 5)]))) false "ping_trees"
      [("priority", .value (.int 5))] (live 50) ∧
    Says (updateRuleSetQuery 20 30
      { RuleSetChanges.ofPayload zipPayload with config := some (.obj []) }) false
        "buyer_qualification_configs" [("config", .value (.json (.obj [])))]
          (Dashboard.ofBuyer 20 30) := by
  obtain ⟨s', hextract⟩ := extract_zipPayload
  have hpriority : asI64 (.num 5) = some 5 := by decide
  refine ⟨updates_say_supplied.1 6 (.obj [("name", .str "Two")]) (.obj [("name", .str "Two")]) _
    rfl rfl,
    updates_say_supplied.2.2.2.1 50 (.obj [("priority", .num 5)]) rfl ?_,
    (updates_say_supplied.2.2.2.2 dashEnv 20 30 zipPayload noTables (some (.obj [])) s' hextract).2⟩
  intro p hp
  obtain rfl : 5 = p := Option.some.inj (hpriority.symm.trans hp)
  decide

end Sample

end LeadsNebula
