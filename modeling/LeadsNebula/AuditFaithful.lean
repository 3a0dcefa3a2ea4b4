/-
What the audit records of `update_publisher` and `update_buyer` say
(`routes/dashboard.rs`).

`update_publisher` reads the row again and compares; `update_buyer` puts the row after
the update together from the row before it and the changes that it has noted.

* `lookup_changedFields` — the comparison of two rows finds exactly the columns that
  differ;
* `told_text_iff`, `told_status_iff`, `told_integration_iff` — when the record of a
  buyer tells a column as it is;
* `faithful_buyerUpdateLog_iff` — when it tells all of them;
* `audits_faithful_iff` — the records of both handlers.
-/
import LeadsNebula.ActiveCampaigns
import LeadsNebula.AssocList
import LeadsNebula.JsonRel

namespace LeadsNebula

namespace Dashboard

open Prog

theorem differs_iff {b a : Json} (hb : b.Scalar) : differs b a = true ↔ b ≠ a := by
  cases b with
  | arr l => cases hb
  | obj m => cases hb
  | _ => cases a <;> simp [differs]

theorem scalar_optStr (s : Option String) : (optStr s).Scalar := by
  cases s <;> trivial

theorem scalar_optId (id : Option Uuid) : (optId id).Scalar := by
  cases id <;> trivial

/-! ### Faithful records -/

/-- The change of a column between two rows. -/
def changeOf (before after : List (String × Json)) (k : String) : Option Json :=
  (before.lookup k).bind fun b => (after.lookup k).bind fun a =>
    if differs b a then some (changeJson b a) else none

/-- The details tell the columns before and after the update, and as changes exactly the columns
that differ, each with both values. -/
structure Faithful (details : Json) (old new : List (String × Json)) : Prop where
  before : ∃ m, details.get "before" = some (.obj m) ∧ ∀ k, m.lookup k = old.lookup k
  after : ∃ m, details.get "after" = some (.obj m) ∧ ∀ k, m.lookup k = new.lookup k
  changes : ∃ m, details.get "changes" = some (.obj m) ∧
    ∀ k v, m.lookup k = some v ↔
      ∃ b ∈ old.lookup k, ∃ a ∈ new.lookup k, b ≠ a ∧ v = changeJson b a

section Faithful

variable {before after m : List (String × Json)}

theorem changeOf_eq_some_iff (hscalar : ∀ p ∈ before, p.2.Scalar) {k : String} {v : Json} :
    changeOf before after k = some v ↔
      ∃ b ∈ before.lookup k, ∃ a ∈ after.lookup k, b ≠ a ∧ v = changeJson b a := by
  simp only [changeOf, Option.bind_eq_some_iff, Option.mem_def, Option.ite_none_right_eq_some,
    Option.some.injEq]
  refine exists_congr fun b => and_congr_right fun hb => exists_congr fun a =>
    and_congr_right fun _ => ?_
  rw [differs_iff (hscalar _ (AssocList.mem_of_lookup hb)), eq_comm (a := v)]

theorem changes_iff (hscalar : ∀ p ∈ before, p.2.Scalar) :
    (∀ k v, m.lookup k = some v ↔
      ∃ b ∈ before.lookup k, ∃ a ∈ after.lookup k, b ≠ a ∧ v = changeJson b a) ↔
        ∀ k, m.lookup k = changeOf before after k := by
  refine forall_congr' fun k => ?_
  simp only [← changeOf_eq_some_iff hscalar]
  exact Option.ext_iff.symm

theorem lookup_changedFields (h : (before.map Prod.fst).Nodup) (k : String) :
    (changedFields before after).lookup k = changeOf before after k := by
  have heq : changedFields before after = before.filterMap fun p =>
      ((after.lookup p.1).bind fun a => if differs p.2 a then some (changeJson p.2 a) else none).map
        fun v => (p.1, v) := by
    refine List.filterMap_congr fun p _ => ?_
    cases after.lookup p.1 with
    | none => rfl
    | some a =>
      simp only [Option.bind_some]
      split <;> rfl
  rw [heq, AssocList.lookup_filterMap_field (fun k b => (after.lookup k).bind fun a =>
    if differs b a then some (changeJson b a) else none) h]
  rfl

/-- The details of a record with these three objects. -/
theorem faithful_iff {action targetType : String} {targetId : Uuid} {targetName : Json}
    {context : List (String × Json)} {cfg : DashConfig} {env : DashEnv} {actor : Json}
    {old changes : List (String × Json)} (hscalar : ∀ p ∈ old, p.2.Scalar)
    (after : List (String × Json)) :
    Faithful (auditDetails cfg env action targetType targetId targetName context
      [("actor", actor), ("changes", .obj changes), ("before", .obj old), ("after", .obj m)])
      old after ↔
      ∀ k, m.lookup k = after.lookup k ∧ changes.lookup k = changeOf old after k := by
  rw [forall_and]
  constructor
  · rintro ⟨-, ⟨m', hm, hafter⟩, m'', hm', hchanges⟩
    cases hm
    cases hm'
    exact ⟨hafter, (changes_iff hscalar).mp hchanges⟩
  · rintro ⟨hafter, hchanges⟩
    exact ⟨⟨old, rfl, fun _ => rfl⟩, ⟨m, rfl, hafter⟩, changes, rfl,
      (changes_iff hscalar).mpr hchanges⟩

end Faithful

/-! ### Publishers -/

theorem scalar_publisherAuditFields (r : Publisher) : ∀ p ∈ publisherAuditFields r, p.2.Scalar := by
  intro p hp
  simp only [publisherAuditFields, List.mem_cons, List.not_mem_nil, or_false] at hp
  rcases hp with rfl | rfl | rfl | rfl | rfl | rfl | rfl | rfl | rfl | rfl | rfl | rfl <;>
    first | trivial | exact scalar_optStr _

theorem nodup_publisherAuditFields (r : Publisher) :
    ((publisherAuditFields r).map Prod.fst).Nodup := by
  show ["name", "email", "status", "representative_first_name", "representative_last_name",
    "address_street", "address_city", "address_state", "address_zip", "timezone", "ein_tin",
    "hmac_required"].Nodup
  decide

/-! ### Buyers -/

section Buyers

variable (c : BuyerChanges) (b : Buyer) (now : ℕ)

/-- The text columns: the text that is supplied for each, and the one that it has. -/
def textColumns : List (String × Option String × Option String) :=
  [("name", c.name, some b.name), ("email_address", c.emailAddress, b.emailAddress),
    ("ein_tin", c.einTin, b.einTin), ("address_street", c.addressStreet, b.addressStreet),
    ("address_city", c.addressCity, b.addressCity),
    ("address_state", c.addressState, b.addressState),
    ("address_zip", c.addressZip, b.addressZip),
    ("representative_first_name", c.representativeFirstName, b.representativeFirstName),
    ("representative_last_name", c.representativeLastName, b.representativeLastName)]

/-- The columns that no text is supplied for, apart from the status. -/
def otherColumns : List (String × Json) :=
  [("post_type", optStr b.postType), ("buyer_type", optStr b.buyerType),
    ("vertical_id", optId b.verticalId), ("buyer_integration_id", optId b.buyerIntegrationId)]

theorem buyerAuditFields_eq : buyerAuditFields b =
    (textColumns c b).map (fun p => (p.1, optStr p.2.2)) ++
      ("status", .str b.status.serdeName) :: otherColumns b := rfl

theorem buyerAuditFields_apply : buyerAuditFields (c.apply now b) =
    (textColumns c b).map (fun p => (p.1, optStr (p.2.1.or p.2.2))) ++
      ("status", .str (c.apply now b).status.serdeName) :: otherColumns (c.apply now b) := by
  have hname : optStr (c.name.or (some b.name)) = .str (c.name.getD b.name) := by
    cases c.name <;> rfl
  rw [textColumns, List.map_cons, hname]
  rfl

/-- What `update_buyer` compares: the texts that are supplied, and those before. -/
def comparedColumns : List (String × Option String × String) :=
  (textColumns c b).map (fun p => (p.1, p.2.1, p.2.2.getD "")) ++
    [("status", c.status, b.status.asStr)]

/-- The change that is noted for a column. -/
def noted (p : Option String × String) : Option Json :=
  p.1.bind fun after => if p.2 ≠ after then some (changeJson (.str p.2) (.str after)) else none

theorem nodup_comparedColumns : ((comparedColumns c b).map Prod.fst).Nodup := by
  show ["name", "email_address", "ein_tin", "address_street", "address_city", "address_state",
    "address_zip", "representative_first_name", "representative_last_name", "status"].Nodup
  decide

theorem changes_eq : c.changes b =
    (comparedColumns c b).filterMap fun p => (noted p.2).map fun v => (p.1, v) := by
  refine List.filterMap_congr fun p _ => ?_
  rw [noted]
  cases p.2.1 with
  | none => rfl
  | some after =>
    simp only [Option.bind_some]
    split <;> rfl

theorem lookup_changes (k : String) :
    (c.changes b).lookup k = ((comparedColumns c b).lookup k).bind noted := by
  rw [changes_eq]
  exact AssocList.lookup_filterMap_field (fun _ => noted) (nodup_comparedColumns c b) k

theorem lookup_buyerAfterFields (k : String) :
    (buyerAfterFields b (c.changes b)).lookup k =
      (((c.changes b).lookup k).bind fun v => v.get "after").or
        ((buyerAuditFields b).lookup k) := by
  have hkeys : ((c.changes b).map Prod.fst).Nodup := by
    rw [changes_eq]
    exact (nodup_comparedColumns c b).sublist (AssocList.map_fst_filterMap_sublist fun _ => noted)
  rw [buyerAfterFields, Json.lookup_mergeFields_of_nodup
    (hkeys.sublist (AssocList.map_fst_filterMap_sublist fun _ v => v.get "after"))]
  exact congrArg (fun o : Option Json => o.or ((buyerAuditFields b).lookup k))
    (AssocList.lookup_filterMap_field (fun _ v => v.get "after") hkeys k)

/-- The record tells the column after the update, and its change if it has one. -/
def Told (k : String) : Prop :=
  (buyerAfterFields b (c.changes b)).lookup k = (buyerAuditFields (c.apply now b)).lookup k ∧
    (c.changes b).lookup k = changeOf (buyerAuditFields b) (buyerAuditFields (c.apply now b)) k

/-- A column that is compared. -/
theorem told_iff_of_compared {k : String} {p : Option String × String} {old new : Json}
    (hp : (comparedColumns c b).lookup k = some p) (hold : (buyerAuditFields b).lookup k = some old)
    (hnew : (buyerAuditFields (c.apply now b)).lookup k = some new) :
    Told c b now k ↔ ((noted p).bind fun v => v.get "after").getD old = new ∧
      noted p = if differs old new then some (changeJson old new) else none := by
  rw [Told, lookup_buyerAfterFields, lookup_changes, changeOf, hp, hold, hnew]
  simp only [Option.bind_some, Option.or_some, Option.some.injEq]

/-- A column that is not. -/
theorem told_iff_of_not_compared {k : String} (hp : (comparedColumns c b).lookup k = none)
    (hscalar : ∀ p ∈ buyerAuditFields b, p.2.Scalar) :
    Told c b now k ↔
      (buyerAuditFields b).lookup k = (buyerAuditFields (c.apply now b)).lookup k := by
  rw [Told, lookup_buyerAfterFields, lookup_changes, hp, Option.bind_none, Option.bind_none,
    Option.none_or]
  refine and_iff_left_of_imp fun heq => ?_
  rw [changeOf, ← heq]
  cases hold : (buyerAuditFields b).lookup k with
  | none => rfl
  | some old =>
    have hsame : ¬differs old old = true :=
      fun h => (differs_iff (hscalar _ (AssocList.mem_of_lookup hold))).mp h rfl
    simp [hsame]

theorem get_after (before after : Json) : (changeJson before after).get "after" = some after := rfl

theorem lookup_map_snd {α β : Type} (f : α → β) (l : List (String × α)) (k : String) :
    (l.map fun p => (p.1, f p.2)).lookup k = (l.lookup k).map f := by
  induction l with
  | nil => rfl
  | cons p l ih =>
    rw [List.map_cons, List.lookup_cons, List.lookup_cons, ih]
    cases k == p.1 <;> rfl

/-- A text is told as it is, unless it is supplied for a column without one: the record has the
empty text in the place of `NULL`, and no change if the text is empty. -/
theorem told_text_iff {k : String} {p : Option String × Option String}
    (hp : (textColumns c b).lookup k = some p) :
    Told c b now k ↔ (p.1.isSome = true → p.2.isSome = true) := by
  obtain ⟨supplied, current⟩ := p
  -- what the code compares, and what the log should tell
  have hcompared : (comparedColumns c b).lookup k = some (supplied, current.getD "") := by
    rw [comparedColumns, List.lookup_append,
      lookup_map_snd (fun p : Option String × Option String => (p.1, p.2.getD "")), hp]
    rfl
  have hold : (buyerAuditFields b).lookup k = some (optStr current) := by
    rw [buyerAuditFields_eq c b, List.lookup_append,
      lookup_map_snd (fun p : Option String × Option String => optStr p.2), hp]
    rfl
  have hnew : (buyerAuditFields (c.apply now b)).lookup k = some
    (optStr (supplied.or current)) := by
    rw [buyerAuditFields_apply c b now, List.lookup_append,
      lookup_map_snd (fun p : Option String × Option String => optStr (p.1.or p.2)), hp]
    rfl
  rw [told_iff_of_compared c b now hcompared hold hnew, noted]
  cases supplied with
  | none =>
    have hsame : ¬differs (optStr current) (optStr current) = true :=
      fun h => (differs_iff (scalar_optStr current)).mp h rfl
    simp [hsame]
  | some after =>
    cases current with
    -- the old value is `NULL`, which the code compares as the empty text
    | none =>
      by_cases hafter : "" = after
      · simp [← hafter, optStr, Json.ofOption]
      · simp [optStr, Json.ofOption, differs, changeJson]
    | some before =>
      by_cases hafter : before = after
      · simp [hafter, optStr, Json.ofOption, differs]
      · simp [hafter, optStr, Json.ofOption, get_after, differs]

theorem asStr_of_ofLabel {label : String} {status : BuyerStatus}
    (h : BuyerStatus.ofLabel label = some status) : label = status.asStr := by
  unfold BuyerStatus.ofLabel at h
  split at h <;> cases h <;> rfl

theorem ofLabel_asStr (status : BuyerStatus) : BuyerStatus.ofLabel status.asStr = some status := by
  cases status <;> rfl

theorem asStr_ne_serdeName (status : BuyerStatus) : status.asStr ≠ status.serdeName := by
  cases status <;> decide

/-- The status is told as it is only if it does not change: the record has the label of the new
one, where the columns have its name. -/
theorem told_status_iff (hvalid : c.invalidStatus = none) :
    Told c b now "status" ↔ ∀ label ∈ c.status, label = b.status.asStr := by
  have hcompared : (comparedColumns c b).lookup "status" = some (c.status, b.status.asStr) := rfl
  have hold : (buyerAuditFields b).lookup "status" = some (.str b.status.serdeName) := rfl
  have hnew : (buyerAuditFields (c.apply now b)).lookup "status" =
      some (.str (c.apply now b).status.serdeName) := rfl
  rw [told_iff_of_compared c b now hcompared hold hnew, noted, BuyerChanges.apply]
  rw [BuyerChanges.invalidStatus, Option.filter_eq_none_iff] at hvalid
  cases hstatus : c.status with
  | none => simp [differs]
  | some label =>
    have hlabel := hvalid label hstatus
    rw [Option.isNone_iff_eq_none] at hlabel
    obtain ⟨status, hof⟩ := Option.ne_none_iff_exists'.mp hlabel
    obtain rfl := asStr_of_ofLabel hof
    simp only [Option.bind_some, hof, Option.getD_some, Option.mem_some_iff, forall_eq']
    by_cases hsame : b.status.asStr = status.asStr
    · have hst : status = b.status := by
        rw [← Option.some_inj, ← hof, ← hsame, ofLabel_asStr]
      simp [hst, differs]
    · have hname : Json.str status.asStr ≠ .str status.serdeName :=
        fun h => asStr_ne_serdeName status (Json.str.inj h)
      rw [if_pos hsame, Option.bind_some, get_after, Option.getD_some]
      exact iff_of_false (fun h => hname h.1) fun h => hsame h.symm

theorem scalar_buyerAuditFields : ∀ p ∈ buyerAuditFields b, p.2.Scalar := by
  intro p hp
  simp only [buyerAuditFields, List.mem_cons, List.not_mem_nil, or_false] at hp
  rcases hp with rfl | rfl | rfl | rfl | rfl | rfl | rfl | rfl | rfl | rfl | rfl | rfl | rfl |
    rfl <;>
    first | trivial | exact scalar_optStr _ | exact scalar_optId _

theorem optId_inj {id id' : Option Uuid} (h : optId id = optId id') : id = id' := by
  cases id with
  | none =>
    cases id' with
    | none => rfl
    | some v => cases h
  | some u =>
    cases id' with
    | none => cases h
    | some v => rw [Uuid.toString_inj (Json.str.inj h)]

/-- The record never tells a new integration. -/
theorem told_integration_iff :
    Told c b now "buyer_integration_id" ↔
      ∀ id ∈ c.buyerIntegrationId, id = b.buyerIntegrationId := by
  have hcompared : (comparedColumns c b).lookup "buyer_integration_id" = none := rfl
  have hold : (buyerAuditFields b).lookup "buyer_integration_id" =
      some (optId b.buyerIntegrationId) :=
    rfl
  have hnew : (buyerAuditFields (c.apply now b)).lookup "buyer_integration_id" =
      some (optId (c.buyerIntegrationId.getD b.buyerIntegrationId)) := rfl
  rw [told_iff_of_not_compared c b now hcompared (scalar_buyerAuditFields b), hold, hnew,
    Option.some_inj]
  cases c.buyerIntegrationId with
  | none => simp
  | some id =>
    simp only [Option.getD_some, Option.mem_some_iff, forall_eq']
    exact ⟨fun h => (optId_inj h).symm, fun h => h ▸ rfl⟩

theorem told_other {k : String} (hp : (comparedColumns c b).lookup k = none)
    (hk : k ≠ "buyer_integration_id") : Told c b now k := by
  rw [told_iff_of_not_compared c b now hp (scalar_buyerAuditFields b)]
  rw [comparedColumns, List.lookup_append, Option.or_eq_none_iff,
    lookup_map_snd (fun p : Option String × Option String => (p.1, p.2.getD "")),
    Option.map_eq_none_iff] at hp
  have hstatus : k ≠ "status" := by
    rintro rfl
    cases hp.2
  rw [buyerAuditFields_eq c b, buyerAuditFields_apply c b now,
    List.lookup_append, List.lookup_append,
    lookup_map_snd (fun p : Option String × Option String => optStr p.2),
    lookup_map_snd (fun p : Option String × Option String => optStr (p.1.or p.2)), hp.1,
    Option.map_none, Option.map_none, Option.none_or, Option.none_or, Json.lookup_cons_ite,
    Json.lookup_cons_ite, if_neg hstatus, if_neg hstatus]
  simp only [otherColumns, Json.lookup_cons_ite, if_neg hk]
  rfl

/-- What a record of `update_buyer` can tell: neither the status nor the integration changes, and
texts are supplied only for columns that have one. -/
structure Tellable : Prop where
  texts : ∀ p ∈ textColumns c b, p.2.1.isSome = true → p.2.2.isSome = true
  status : ∀ label ∈ c.status, label = b.status.asStr
  integration : ∀ id ∈ c.buyerIntegrationId, id = b.buyerIntegrationId

theorem nodup_textColumns : ((textColumns c b).map Prod.fst).Nodup := by
  show ["name", "email_address", "ein_tin", "address_street", "address_city", "address_state",
    "address_zip", "representative_first_name", "representative_last_name"].Nodup
  decide

theorem faithful_buyerUpdateLog_iff (cfg : DashConfig) (env : DashEnv) (user : User) (id : Uuid)
    (hvalid : c.invalidStatus = none) :
    Faithful (buyerUpdateLog cfg env user id (some b) c).details (buyerAuditFields b)
      (buyerAuditFields (c.apply now b)) ↔ Tellable c b := by
  have htold : Faithful (buyerUpdateLog cfg env user id (some b) c).details (buyerAuditFields b)
      (buyerAuditFields (c.apply now b)) ↔ ∀ k, Told c b now k :=
    faithful_iff (scalar_buyerAuditFields b) _
  rw [htold]
  constructor
  · -- each column, told rightly
    intro h
    refine ⟨fun p hp => ?_, (told_status_iff c b now hvalid).mp (h _),
      (told_integration_iff c b now).mp (h _)⟩
    exact (told_text_iff c b now (AssocList.lookup_of_mem (nodup_textColumns c b) hp)).mp (h p.1)
  · intro h k
    -- a text column, one of the two others, or one that is not compared
    cases htext : (textColumns c b).lookup k with
    | some p =>
      exact (told_text_iff c b now htext).mpr (h.texts (k, p) (AssocList.mem_of_lookup htext))
    | none =>
      by_cases hstatus : k = "status"
      · exact hstatus ▸ (told_status_iff c b now hvalid).mpr h.status
      by_cases hintegration : k = "buyer_integration_id"
      · exact hintegration ▸ (told_integration_iff c b now).mpr h.integration
      · refine told_other c b now ?_ hintegration
        rw [comparedColumns, List.lookup_append, Option.or_eq_none_iff,
          lookup_map_snd (fun p : Option String × Option String => (p.1, p.2.getD "")), htext]
        refine ⟨rfl, ?_⟩
        rw [List.lookup_cons, beq_eq_false_iff_ne.mpr hstatus]
        rfl

end Buyers

/-! ### The handlers -/

section Handlers

variable {cfg : DashConfig} {env : DashEnv} {s s₁ : Db}

/-- An update of the rows that meet `p`. -/
structure Updated (t : Relation) (p : Row t → Bool) (f : Row t → Row t) (s s' : Db) : Prop where
  rows : (s' t).rows = (s t).rows.map fun r => if p r then f r else r
  others : ∀ t', t' ≠ t → s' t' = s t'

theorem Updated.eq {t : Relation} {p : Row t → Bool} {f : Row t → Row t} (h : Updated t p f s s₁)
    (hf : ∀ r, key t (f r) = key t r) {r r' : Row t} (hr : r ∈ (s t).rows) (hp : p r = true)
    (hr' : r' ∈ (s₁ t).rows) (hkey : key t r' = key t r) : r' = f r := by
  rw [h.rows, List.mem_map] at hr'
  obtain ⟨r₀, hr₀, rfl⟩ := hr'
  have hsame : key t r₀ = key t r := by
    rw [← hkey]
    split
    · exact (hf r₀).symm
    · rfl
  obtain rfl : r₀ = r := List.inj_on_of_nodup_map (s t).nodup hr₀ hr hsame
  rw [if_pos hp]

theorem head_filter {t : Relation} {p : Row t → Bool} {r : Row t} (hr : r ∈ (s t).rows)
    (hp : p r = true) (hunique : ∀ r', p r' = true → key t r' = key t r) :
    ((s t).rows.filter p).head? = some r := by
  have hmem : r ∈ (s t).rows.filter p := List.mem_filter.mpr ⟨hr, hp⟩
  cases hhead : ((s t).rows.filter p).head? with
  | none =>
    rw [List.head?_eq_none_iff.mp hhead] at hmem
    exact absurd hmem List.not_mem_nil
  | some r' =>
    obtain ⟨hr', hp'⟩ := List.mem_filter.mp (List.mem_of_mem_head? hhead)
    rw [List.inj_on_of_nodup_map (s t).nodup hr' hr (hunique r' hp')]

/-- The statement on the log leaves the other tables as they are, and adds no other record. -/
theorem triple_log (n : ℕ) (log : AuditLog) :
    Triple (fun t => t = s₁) (createAuditLog env n log)
      (fun _ s' => (∀ t, t ≠ .auditLogs → s' t = s₁ t) ∧
        ∀ l ∈ (s' .auditLogs).rows, l ∈ (s₁ .auditLogs).rows ∨ l = log) fun _ _ => True := by
  refine Triple.attempt (Triple.bind (Triple.insert (R := fun _ s' =>
    (∀ t, t ≠ .auditLogs → s' t = s₁ t) ∧
      ∀ l ∈ (s' .auditLogs).rows, l ∈ (s₁ .auditLogs).rows ∨ l = log) ?_ ?_) fun _ =>
        Triple.pure fun _ h => h) ?_
  · rintro t rfl
    exact ⟨fun _ _ => rfl, fun _ h => Or.inl h⟩
  · rintro t s' rfl - hrows hothers
    refine ⟨hothers, fun l hl => ?_⟩
    rw [hrows, List.mem_append, List.mem_singleton] at hl
    exact hl
  · rintro - t rfl
    exact ⟨fun _ _ => rfl, fun _ h => Or.inl h⟩

/-- The record is added by the request. -/
def AddsLog (s s' : Db) (log : AuditLog) : Prop :=
  log ∈ (s' .auditLogs).rows ∧ log ∉ (s .auditLogs).rows

theorem triple_of_eq {α : Type} {P : Db → Prop} {m : Handler α} {Q : α → Db → Prop}
    {E : ℕ → Db → Prop} (h : ∀ s, P s → Triple (fun t => t = s) m Q E) : Triple P m Q E :=
  fun s hs => h s hs s rfl

theorem triple_logPublisher (n : ℕ) (user : User) (actionType : String)
    (id : Uuid) (details : Json) :
    Triple (fun t => t = s₁) (logPublisher env n user actionType id details)
      (fun _ s' => (∀ t, t ≠ .auditLogs → s' t = s₁ t) ∧
        ∀ l ∈ (s' .auditLogs).rows, l ∈ (s₁ .auditLogs).rows ∨ l.details = details)
      fun _ _ => True := by
  refine Triple.bind (Q := fun _ t => t = s₁)
    (Triple.attempt (Triple.post Triple.first fun _ _ h => h.1)
    fun _ _ h => h) fun r => ?_
  refine Triple.post (triple_log (n + 1) _) fun _ s' h => ⟨h.1, fun l hl => ?_⟩
  exact (h.2 l hl).imp_right fun hlog => congrArg AuditLog.details hlog

theorem triple_updatePublisher (user : User) (id : Uuid) (payload : UpdatePublisherRequest) :
    Triple (fun t => t = s) (updatePublisher cfg env user id payload)
      (fun _ s' => ∀ r ∈ (s .publishers).rows, livePublisher id r = true →
        ∀ r' ∈ (s' .publishers).rows, r'.id = id → ∀ log, AddsLog s s' log →
          Faithful log.details (publisherAuditFields r) (publisherAuditFields r'))
      fun _ _ => True := by
  refine Triple.bind (Triple.stmt Triple.first fun _ _ _ => trivial) fun publisher => ?_
  refine Triple.bind (Triple.orStop (Q := fun before t => t = s ∧ before ∈ (s .publishers).rows ∧
    livePublisher id before = true) (fun before hbefore t h => ?_) fun _ _ _ =>
      trivial) fun before => ?_
  · obtain ⟨rfl, rfl⟩ := h
    exact ⟨rfl, List.mem_filter.mp (List.mem_of_mem_head? hbefore)⟩
  refine Triple.bind (Triple.stopWhen fun _ _ _ => trivial) fun _ => ?_
  refine Triple.bind (Triple.stmt (Triple.update (R := fun t => (before ∈ (s .publishers).rows ∧
    livePublisher id before = true) ∧ Updated .publishers (livePublisher id)
      (payload.apply env.now) s t)
      ?_) fun _ _ _ => trivial) fun _ => ?_
  · rintro t s₁ ⟨⟨rfl, hbefore⟩, -⟩ hrows hothers
    exact ⟨hbefore, hrows, hothers⟩
  refine Triple.bind (Q := fun after t => ((before ∈ (s .publishers).rows ∧
    livePublisher id before = true) ∧ Updated .publishers (livePublisher id)
      (payload.apply env.now) s t) ∧
      ∀ a ∈ after, a ∈ (t .publishers).rows ∧ a.id = id) (Triple.attempt (Triple.post Triple.first
        fun o t h => ⟨h.1, fun a ha => ?_⟩) fun _ t h =>
          ⟨h, fun a ha => nomatch ha⟩) fun after => ?_
  · obtain ⟨-, rfl⟩ := h
    obtain ⟨hmem, hlive⟩ := List.mem_filter.mp (List.mem_of_mem_head? ha)
    exact ⟨hmem, (of_decide_eq_true hlive).1⟩
  refine Triple.bind (Triple.ifSome (R := fun s' => ∀ r ∈ (s .publishers).rows,
    livePublisher id r = true → ∀ r' ∈ (s' .publishers).rows, r'.id = id → ∀ log, AddsLog s s' log →
      Faithful log.details (publisherAuditFields r) (publisherAuditFields r'))
        (fun a ha => triple_of_eq fun s₁ hs₁ => ?_) fun hnone t h => ?_) fun _ =>
          Triple.pure fun _ h => h
  · obtain ⟨⟨⟨hbefore, hlive⟩, hupdated⟩, hafter⟩ := hs₁
    obtain ⟨ha, haid⟩ := hafter a ha
    refine Triple.post (triple_logPublisher 3 user _ id _) fun _ s' h r hr hrlive r'
      hr' hrid log hadds => ?_
    -- the rows that were read are the ones that there are
    obtain rfl : r = before := List.inj_on_of_nodup_map (s .publishers).nodup hr hbefore
      ((of_decide_eq_true hrlive).1.trans (of_decide_eq_true hlive).1.symm)
    rw [h.1 _ (by decide)] at hr'
    obtain rfl : r' = a :=
      List.inj_on_of_nodup_map (s₁ .publishers).nodup hr' ha (hrid.trans haid.symm)
    obtain hlog | hdetails := h.2 log hadds.1
    · rw [hupdated.others _ (by decide)] at hlog
      exact absurd hlog hadds.2
    · rw [hdetails]
      exact (faithful_iff (scalar_publisherAuditFields r) _).mpr fun k =>
        ⟨rfl, lookup_changedFields (nodup_publisherAuditFields r) k⟩
  · rintro r - - r' - - log ⟨hmem, hnew⟩
    rw [h.1.2.others _ (by decide)] at hmem
    exact absurd hmem hnew

theorem triple_updateBuyer (user : User) (id : Uuid) (payload : Json) :
    Triple (fun t => t = s) (updateBuyer cfg env user id payload)
      (fun _ s' => ∀ b ∈ (s .buyers).rows, liveBuyer id b = true →
        ∀ b' ∈ (s' .buyers).rows, b'.id = id → ∀ log, AddsLog s s' log →
          (Faithful log.details (buyerAuditFields b) (buyerAuditFields b') ↔
            Tellable (BuyerChanges.ofPayload payload) b))
      fun _ _ => True := by
  -- a request that is refused adds no log, so there is nothing to compare
  have hsilent : ∀ b ∈ (s .buyers).rows, liveBuyer id b = true → ∀ b' ∈ (s .buyers).rows,
      b'.id = id → ∀ log, AddsLog s s log →
        (Faithful log.details (buyerAuditFields b) (buyerAuditFields b') ↔
          Tellable (BuyerChanges.ofPayload payload) b) :=
    fun _ _ _ _ _ _ _ hadds => absurd hadds.1 hadds.2
  refine Triple.bind (Triple.stmt (Triple.post Triple.first fun _ _ h => h.1) fun _ _ _ => trivial)
    fun found => ?_
  refine Triple.bind (Q := fun _ t => t = s)
    (Triple.whenever (fun _ => Triple.stop fun _ _ => trivial)
    fun _ _ h => h) fun _ => ?_
  refine Triple.bind (Triple.stmt Triple.first fun _ _ _ => trivial) fun before => ?_
  dsimp only
  cases hvalid : (BuyerChanges.ofPayload payload).invalidStatus with
  | some label =>
    refine Triple.pure ?_
    rintro t ⟨rfl, -⟩
    exact hsilent
  | none =>
    dsimp only
    split
    · refine Triple.pure ?_
      rintro t ⟨rfl, -⟩
      exact hsilent
    · refine Triple.bind (Triple.stmt (Triple.update (R := fun t =>
        before = ((s .buyers).rows.filter (liveBuyer id)).head? ∧ Updated .buyers (liveBuyer id)
          ((BuyerChanges.ofPayload payload).apply env.now) s t) (E := fun _ _ => True) ?_)
            fun _ _ _ => trivial) fun _ => ?_
      · rintro t s₁ ⟨rfl, hbefore⟩ hrows hothers
        exact ⟨hbefore, hrows, hothers⟩
      · -- the buyer is updated, and the log that is added is about this row before and after
        refine triple_of_eq fun s₁ hs₁ => Triple.bind (triple_log 3 _) fun _ => Triple.pure ?_
        obtain ⟨hbefore, hupdated⟩ := hs₁
        rintro s' ⟨hothers, hlogs⟩ b hb hlive b' hb' hid log hadds
        have hfound : before = some b := hbefore.trans (head_filter hb hlive fun b₀ hb₀ =>
          (of_decide_eq_true hb₀).1.trans (of_decide_eq_true hlive).1.symm)
        rw [hothers _ (by decide)] at hb'
        obtain rfl := hupdated.eq (fun _ => rfl) hb hlive hb'
          (hid.trans (of_decide_eq_true hlive).1.symm)
        obtain hlog | rfl := hlogs log hadds.1
        · rw [hupdated.others _ (by decide)] at hlog
          exact absurd hlog hadds.2
        · rw [hfound]
          exact faithful_buyerUpdateLog_iff _ b env.now cfg env user id hvalid

end Handlers

/-- The records that `update_publisher` adds are faithful, and those that `update_buyer` adds are
faithful exactly if the status and the integration stay as they are, and no text is supplied for a
column without one. -/
theorem audits_faithful_iff (cfg : DashConfig) (user : User) (env : DashEnv) (id : Uuid) (s s' : Db)
    (body : Json) :
    (∀ payload, handle cfg user env (.updatePublisher id payload) s = (.ok body, s') →
      ∀ r ∈ (s .publishers).rows, livePublisher id r = true →
        ∀ r' ∈ (s' .publishers).rows, r'.id = id → ∀ log, AddsLog s s' log →
          Faithful log.details (publisherAuditFields r) (publisherAuditFields r')) ∧
    ∀ payload, handle cfg user env (.updateBuyer id payload) s = (.ok body, s') →
      ∀ b ∈ (s .buyers).rows, liveBuyer id b = true →
        ∀ b' ∈ (s' .buyers).rows, b'.id = id → ∀ log, AddsLog s s' log →
          (Faithful log.details (buyerAuditFields b) (buyerAuditFields b') ↔
            Tellable (BuyerChanges.ofPayload payload) b) :=
  ⟨fun payload h => (triple_updatePublisher user id payload s rfl).1 body s' h,
    fun payload h => (triple_updateBuyer user id payload s rfl).1 body s' h⟩

end Dashboard

/-! ### Records that are not faithful -/

namespace Sample

open Dashboard

/-- An active buyer without a zip code and an integration. -/
def activeBuyer : Dashboard.Buyer :=
  { (CreateBuyerRequest.mk "Solar Buyer" none none none none (some "b@example.com") none none none
    none
      none none none).row 20 1 0 with
    status := .active }

def buyerDb : Dashboard.Db where
  tables
    | .instances => oneTree .instances
    | .buyers => ⟨[activeBuyer], by decide⟩
    | _ => .empty

/-- The database after an update of the buyer. -/
def buyerDbAfter (payload : Json) : Dashboard.Db :=
  (handle dashConfig user dashEnv (.updateBuyer 20 payload) buyerDb).2

/-- The record of an update of the buyer. -/
def buyerRecord (payload : Json) : AuditLog :=
  buyerUpdateLog dashConfig dashEnv user 20 (some activeBuyer) (BuyerChanges.ofPayload payload)

theorem not_faithful_of_after {details : Json} {old new : List (String × Json)} (k : String)
    (h : ((details.get "after").bind fun m => m.get k).bind Json.asStr ≠
      (new.lookup k).bind Json.asStr) : ¬Faithful details old new := by
  rintro ⟨-, ⟨m, hm, hlookup⟩, -⟩
  rw [hm, Option.bind_some, Json.get_obj, hlookup] at h
  exact h rfl

/-- The record of the update does not tell the columns that the buyer has afterwards. -/
def Misrecorded (payload : Json) : Prop :=
  ∃ b' ∈ ((buyerDbAfter payload) .buyers).rows, b'.id = 20 ∧
    AddsLog buyerDb (buyerDbAfter payload) (buyerRecord payload) ∧
      ¬Faithful (buyerRecord payload).details (buyerAuditFields activeBuyer) (buyerAuditFields b')

/-- A new status, a new integration, and an empty zip code for a buyer without one. -/
theorem not_faithful :
    Misrecorded (.obj [("status", .str "suspended")]) ∧
      Misrecorded (.obj [("buyer_integration_id", .str "00000000-0000-0000-0000-00000000001e")]) ∧
        Misrecorded (.obj [("address_zip", .str "")]) := by
  refine ⟨?_, ?_, ?_⟩
  · exact ⟨_, List.mem_singleton.mpr rfl, rfl, ⟨List.mem_singleton.mpr rfl, List.not_mem_nil⟩,
      not_faithful_of_after "status" (by decide)⟩
  · exact ⟨_, List.mem_singleton.mpr rfl, rfl, ⟨List.mem_singleton.mpr rfl, List.not_mem_nil⟩,
      not_faithful_of_after "buyer_integration_id" (by decide)⟩
  · exact ⟨_, List.mem_singleton.mpr rfl, rfl, ⟨List.mem_singleton.mpr rfl, List.not_mem_nil⟩,
      not_faithful_of_after "address_zip" (by decide)⟩

def renamed : Json := .obj [("name", .str "Solar Two"), ("email_address", .str "two@example.com")]

def newName : UpdatePublisherRequest :=
  ⟨some "Two", none, none, none, none, none, none, none, none, none, none, none⟩

def publisherRenamed : Dashboard.Db :=
  (handle dashConfig user dashEnv (.updatePublisher 6 newName) oneTenant).2

/-- The records of new names are faithful. -/
theorem audits_faithful_renamed :
    (AddsLog buyerDb (buyerDbAfter renamed) (buyerRecord renamed) ∧
      Faithful (buyerRecord renamed).details (buyerAuditFields activeBuyer)
        (buyerAuditFields ((BuyerChanges.ofPayload renamed).apply 1000 activeBuyer))) ∧
    (∃ log, AddsLog oneTenant publisherRenamed log) ∧
      ∀ log, AddsLog oneTenant publisherRenamed log →
        Faithful log.details (publisherAuditFields ownPublisher)
          (publisherAuditFields { ownPublisher with name := "Two", updatedAt := 1000 }) := by
  have hadds : AddsLog buyerDb (buyerDbAfter renamed) (buyerRecord renamed) :=
    ⟨List.mem_singleton.mpr rfl, List.not_mem_nil⟩
  have hrecord := (audits_faithful_iff dashConfig user dashEnv 20 buyerDb (buyerDbAfter renamed)
    (messageJson "Buyer updated successfully")).2 renamed rfl activeBuyer List.mem_cons_self
      (by decide) ((BuyerChanges.ofPayload renamed).apply 1000 activeBuyer)
        List.mem_cons_self rfl _ hadds
  refine ⟨⟨hadds, hrecord.mpr ⟨by decide, by decide, by decide⟩⟩,
    ⟨_, List.mem_singleton.mpr rfl, List.not_mem_nil⟩, fun log hlog => ?_⟩
  exact (audits_faithful_iff dashConfig user dashEnv 6 oneTenant publisherRenamed
    (messageJson "Publisher updated successfully")).1 newName rfl ownPublisher List.mem_cons_self
      (by decide) _ List.mem_cons_self rfl log hlog

end Sample

end LeadsNebula
