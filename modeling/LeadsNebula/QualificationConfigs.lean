/-
The config a buyer's leads are judged by (`models/buyer_qualification_config.rs`).

The ping tree router loads the configs of all its buyers in one query, the
latest first, and keeps the first of each buyer.  A buyer may have configs for
several verticals; the query does not look at the vertical, and the dashboard
keeps at most one config of a buyer active, whatever its vertical.

* `findByBuyerIds_eq` — the map has the first config of each buyer asked for;
* `applied_of_lookup` — it is the latest of the buyer's enabled and active configs,
  and there is none exactly if the buyer has none.
-/
import LeadsNebula.IntegrationLookup
import LeadsNebula.RuleSets

namespace LeadsNebula

/-- A row of `buyer_qualification_configs` with its creation time. -/
structure StoredRuleSet extends RuleSet where
  createdAt : Timestamp

namespace StoredRuleSet

/-- The part of the row that the engine reads. -/
def toConfig (r : StoredRuleSet) : BuyerQualificationConfig where
  buyerId := r.buyerId
  config := r.config
  rulesOrder := r.rulesOrder
  enabled := r.enabled
  isActive := r.isActive

/-- The config is in use: enabled and active. -/
def inUse (r : StoredRuleSet) : Bool := r.enabled && r.isActive

end StoredRuleSet

/-- The table of configs, by id. -/
abbrev ConfigTable := Table fun r : StoredRuleSet => r.id

/-- What the query for the configs of some buyers returns: their enabled and active rows, the latest
first; rows of the same time come in any order. -/
structure Fetched (table : ConfigTable) (buyerIds : List Uuid) (configs : List StoredRuleSet) :
    Prop where
  rows : configs.Perm (table.rows.filter fun r => buyerIds.contains r.buyerId && r.inUse)
  latestFirst : configs.Pairwise fun a b => b.createdAt ≤ a.createdAt

/-- A map from buyers to configs; a buyer that was asked for has an entry. -/
abbrev ConfigMap := Uuid → Option (Option StoredRuleSet)

/-- `entry(…).and_modify(…)`: the first config of a buyer stays. -/
def ConfigMap.keepFirst (m : ConfigMap) (r : StoredRuleSet) : ConfigMap :=
  fun id => if id = r.buyerId then (m id).map fun e => e.or (some r) else m id

/-- The map with an entry for every buyer, and no config. -/
def ConfigMap.ofBuyers (buyerIds : List Uuid) : ConfigMap :=
  buyerIds.foldl (fun m id => Function.update m id (some none)) fun _ => none

/-- `BuyerQualificationConfig::find_by_buyer_ids`; `configs` is what its second query returns. -/
def findByBuyerIds (table : ConfigTable) (buyerIds : List Uuid) (configs : List StoredRuleSet) :
    ConfigMap :=
  if buyerIds.isEmpty then fun _ => none
  else if !table.rows.any fun r => buyerIds.contains r.buyerId && r.inUse then
    ConfigMap.ofBuyers buyerIds
  else configs.foldl ConfigMap.keepFirst (ConfigMap.ofBuyers buyerIds)

theorem ofBuyers_apply (buyerIds : List Uuid) (id : Uuid) :
    ConfigMap.ofBuyers buyerIds id = if id ∈ buyerIds then some none else none := by
  have hfold : ∀ m : ConfigMap,
      buyerIds.foldl (fun m id => Function.update m id (some none)) m id =
        if id ∈ buyerIds then some none else m id := by
    induction buyerIds with
    | nil => exact fun m => (if_neg List.not_mem_nil).symm
    | cons b buyerIds ih =>
      intro m
      rw [List.foldl_cons, ih, Function.update_apply]
      by_cases hmem : id ∈ buyerIds
      · rw [if_pos hmem, if_pos (List.mem_cons_of_mem b hmem)]
      · rw [if_neg hmem]
        by_cases hb : id = b
        · rw [if_pos hb, if_pos (hb ▸ List.mem_cons_self)]
        · rw [if_neg hb, if_neg (by rw [List.mem_cons, not_or]; exact ⟨hb, hmem⟩)]
  exact hfold _

theorem foldl_keepFirst (configs : List StoredRuleSet) (m : ConfigMap) (id : Uuid) :
    configs.foldl ConfigMap.keepFirst m id =
      (m id).map fun e => e.or (configs.find? fun r => id = r.buyerId) := by
  induction configs generalizing m with
  | nil =>
    rw [List.foldl_nil, List.find?_nil]
    cases m id with
    | none => rfl
    | some e => exact congrArg some Option.or_none.symm
  | cons r configs ih =>
    rw [List.foldl_cons, ih, ConfigMap.keepFirst, List.find?_cons]
    by_cases h : id = r.buyerId
    · rw [if_pos h, decide_eq_true h]
      cases m id with
      | none => rfl
      | some e => cases e <;> rfl
    · rw [if_neg h, decide_eq_false h]

/-- The map has an entry for every buyer asked for: its first config. -/
theorem findByBuyerIds_eq {table : ConfigTable} {buyerIds : List Uuid}
    {configs : List StoredRuleSet} (h : Fetched table buyerIds configs) {id : Uuid}
    (hid : id ∈ buyerIds) :
    findByBuyerIds table buyerIds configs id =
      some (configs.find? fun r => id = r.buyerId) := by
  rw [findByBuyerIds, if_neg (by rw [List.isEmpty_iff]; exact List.ne_nil_of_mem hid)]
  by_cases hany : (table.rows.any fun r => buyerIds.contains r.buyerId && r.inUse) = true
  · rw [if_neg (by rw [hany]; decide), foldl_keepFirst, ofBuyers_apply, if_pos hid]
    rfl
  · -- the early exit: the second query would return no row
    rw [Bool.not_eq_true] at hany
    have hnone : table.rows.filter (fun r => buyerIds.contains r.buyerId && r.inUse) = [] :=
      List.filter_eq_nil_iff.mpr fun r hr => List.any_eq_false.mp hany r hr
    have hrows := h.rows
    rw [hnone] at hrows
    rw [if_pos (by rw [hany]; rfl), ofBuyers_apply, if_pos hid, hrows.eq_nil]
    rfl

/-- A buyer that was not asked for has no entry. -/
theorem findByBuyerIds_of_not_mem (table : ConfigTable) {buyerIds : List Uuid}
    (configs : List StoredRuleSet) {id : Uuid} (hid : id ∉ buyerIds) :
    findByBuyerIds table buyerIds configs id = none := by
  have hnone : ConfigMap.ofBuyers buyerIds id = none := by
    rw [ofBuyers_apply, if_neg hid]
  rw [findByBuyerIds]
  split
  · rfl
  · split
    · exact hnone
    · rw [foldl_keepFirst, hnone, Option.map_none]

/-- The config is the latest of those that meet `p`, and there is none exactly if none does. -/
structure Applied (table : ConfigTable) (p : StoredRuleSet → Bool)
    (config : Option BuyerQualificationConfig) : Prop where
  latest : ∀ c, config = some c → ∃ r ∈ table.rows, r.toConfig = c ∧ p r = true ∧
    ∀ r' ∈ table.rows, p r' = true → r'.createdAt ≤ r.createdAt
  none_iff : config = none ↔ ∀ r ∈ table.rows, p r = false

/-- The enabled and active configs of a buyer. -/
def ofBuyer (buyerId : Uuid) (r : StoredRuleSet) : Bool := decide (buyerId = r.buyerId) && r.inUse

/-- The enabled and active configs of a buyer for a vertical. -/
def ofVertical (buyerId verticalId : Uuid) (r : StoredRuleSet) : Bool :=
  ofBuyer buyerId r && r.verticalId = verticalId

/-- The first config of a buyer among those the query returns is its latest. -/
theorem first_is_latest {table : ConfigTable} {buyerIds : List Uuid} {configs : List StoredRuleSet}
    (h : Fetched table buyerIds configs) {buyerId : Uuid} (hid : buyerId ∈ buyerIds) :
    Applied table (ofBuyer buyerId)
      ((configs.find? fun r => buyerId = r.buyerId).map StoredRuleSet.toConfig) := by
  -- the rows of the buyer that the query returns are those in use
  have hmem : ∀ r, r ∈ configs ∧ buyerId = r.buyerId ↔
      r ∈ table.rows ∧ ofBuyer buyerId r = true := by
    intro r
    rw [h.rows.mem_iff, List.mem_filter, ofBuyer, Bool.and_eq_true, Bool.and_eq_true,
      decide_eq_true_iff, List.contains_iff_mem]
    constructor
    · rintro ⟨⟨hr, -, huse⟩, hb⟩
      exact ⟨hr, hb, huse⟩
    · rintro ⟨hr, hb, huse⟩
      exact ⟨⟨hr, hb ▸ hid, huse⟩, hb⟩
  refine ⟨fun c hc => ?_, ?_⟩
  · obtain ⟨r, hfind, hrc⟩ := Option.map_eq_some_iff.mp hc
    obtain ⟨hb, before, after, hsplit, hbefore⟩ := List.find?_eq_some_iff_append.mp hfind
    have hr : r ∈ configs := List.mem_of_find?_eq_some hfind
    obtain ⟨hrow, huse⟩ := (hmem r).mp ⟨hr, of_decide_eq_true hb⟩
    refine ⟨r, hrow, hrc, huse, fun r' hr' huse' => ?_⟩
    obtain ⟨hr'c, hb'⟩ := (hmem r').mpr ⟨hr', huse'⟩
    rw [hsplit, List.mem_append, List.mem_cons] at hr'c
    rcases hr'c with hin | rfl | hin
    · -- no config of the buyer comes before the first
      have hne := hbefore r' hin
      rw [decide_eq_true hb'] at hne
      cases hne
    · exact le_rfl
    · have hsorted := h.latestFirst
      rw [hsplit, List.pairwise_append] at hsorted
      exact List.rel_of_pairwise_cons hsorted.2.1 hin
  · rw [Option.map_eq_none_iff, List.find?_eq_none]
    constructor
    · intro hnone r hr
      by_contra huse
      obtain ⟨hrc, hb⟩ := (hmem r).mpr ⟨hr, Bool.not_eq_false _ ▸ huse⟩
      exact hnone r hrc (decide_eq_true hb)
    · intro hnone r hr hb
      obtain ⟨hrow, huse⟩ := (hmem r).mp ⟨hr, of_decide_eq_true hb⟩
      rw [hnone r hrow] at huse
      cases huse

/-- The config of a buyer in the map is the latest of its enabled and active ones; a buyer that was
not asked for has none. -/
theorem applied_of_lookup {table : ConfigTable} {buyerIds : List Uuid}
    {configs : List StoredRuleSet} (h : Fetched table buyerIds configs) (buyerId : Uuid)
    {config : Option BuyerQualificationConfig}
    (hconfig : config =
      (findByBuyerIds table buyerIds configs buyerId).join.map StoredRuleSet.toConfig) :
    (buyerId ∈ buyerIds → Applied table (ofBuyer buyerId) config) ∧
      (buyerId ∉ buyerIds → config = none) := by
  refine ⟨fun hid => ?_, fun hid => ?_⟩
  · rw [hconfig, findByBuyerIds_eq h hid, Option.join_some]
    exact first_is_latest h hid
  · rw [hconfig, findByBuyerIds_of_not_mem table configs hid]
    rfl

/-- The buyers of the campaigns: `SELECT DISTINCT buyer_id FROM campaigns WHERE …`. -/
def BuyerTables.buyerIdsOf (db : BuyerTables) (ids : List Uuid) : List Uuid :=
  ((db.campaigns.rows.filter fun c => ids.contains c.id && c.deletedAt.isNone).map
    Campaign.buyerId).dedup

end LeadsNebula
