/-
The ZIP codes of a rule set, saved and read back.

The lists of ZIP codes belong to the buyer: saving a rule set adds the codes of its
config to them, and every rule set of the buyer is shown with both lists.

* `storeZipCodes_spec`, `extract_spec` — the buyer holds the codes that it held, and
  those of the config;
* `getBuyerRuleSet_shows` — a rule set is shown with the codes that the buyer holds;
* `saved_zips_shown` — what is shown after a rule set has been saved.
-/
import LeadsNebula.PartialUpdates

namespace LeadsNebula

namespace Dashboard

variable {env : DashEnv} {b : Uuid} {s s' : Db} {k : ListType} {z : String}

/-! ### The codes that a buyer holds -/

/-- A list of the buyer, of this kind, has the code. -/
def Holds (b : Uuid) (k : ListType) (z : String) (s : Db) : Prop :=
  ∃ l ∈ (s .buyerZipLists).rows, l.buyerId = b ∧ l.listType = k ∧
    ∃ c ∈ (s .buyerZipCodes).rows, c.buyerZipListId = l.id ∧ c.zip = z

/-- The codes of this kind, as they are shown. -/
def storedZips (b : Uuid) (s : Db) (k : ListType) : List String :=
  zipsOf (buyerLists b s) (buyerCodes b s) k

theorem mem_storedZips : z ∈ storedZips b s k ↔ Holds b k z s := by
  simp only [storedZips, zipsOf, List.mem_mergeSort, List.mem_dedup, List.mem_map, List.mem_filter,
    List.any_eq_true, buyerLists, buyerCodes, decide_eq_true_eq]
  constructor
  · rintro ⟨c, ⟨⟨hc, -⟩, l, ⟨hl, hb⟩, hid, hk⟩, rfl⟩
    exact ⟨l, hl, hb, hk, c, hc, hid.symm, rfl⟩
  · rintro ⟨l, hl, hb, hk, c, hc, hid, rfl⟩
    have hlist : c.buyerZipListId ∈ ((s .buyerZipLists).rows.filter fun l => l.buyerId = b).map
        ZipList.id :=
      List.mem_map.mpr ⟨l, List.mem_filter.mpr ⟨hl, decide_eq_true hb⟩, hid.symm⟩
    exact ⟨c, ⟨⟨hc, decide_eq_true hlist⟩, l, ⟨hl, hb⟩, hid.symm, hk⟩, rfl⟩

/-- In ascending order, each once. -/
theorem storedZips_sorted (b : Uuid) (s : Db) (k : ListType) :
    (storedZips b s k).Pairwise (· < ·) := by
  have hle : (storedZips b s k).Pairwise (· ≤ ·) := by
    refine (List.pairwise_mergeSort (fun x y z hxy hyz => ?_) (fun x y => ?_) _).imp fun h =>
      of_decide_eq_true h
    · exact decide_eq_true (String.le_trans (of_decide_eq_true hxy) (of_decide_eq_true hyz))
    · rcases String.le_total x y with h | h
      · simp [h]
      · simp [h]
  have hnodup : (storedZips b s k).Nodup :=
    (List.mergeSort_perm _ _).nodup_iff.mpr (List.nodup_dedup _)
  refine (hle.and hnodup).imp fun {x y} h => String.not_le.mp fun hyx => ?_
  exact h.2 (String.le_antisymm h.1 hyx)

/-- The trimmed five-digit texts of an array. -/
def trimmedZips (zips : List Json) : List String :=
  (zips.filterMap fun z => z.asStr.map trim).filter isZip

/-! ### Storing -/

/-- The id that is drawn for a list of this kind is new. -/
def FreshList (env : DashEnv) (k : ListType) (s : Db) : Prop :=
  env.uuid (2 + k.place) ∉ (s .buyerZipLists).rows.map ZipList.id ∧
    env.uuid (2 + k.place) ∉ (s .buyerZipCodes).rows.map ZipCode.buyerZipListId

theorem insertZips_rows {n : ℕ} (listId : Uuid) {l : List (String × ℕ)}
    (hok : ∀ z ∈ l, env.ok (n + z.2) = true) (s : Db) :
    ∃ us s', Prog.collect (insertZip env n listId) l s = (.ok us, s') ∧
      (∀ t, t ≠ .buyerZipCodes → s' t = s t) ∧
      ∀ c, c ∈ (s' .buyerZipCodes).rows ↔
        c ∈ (s .buyerZipCodes).rows ∨ c.buyerZipListId = listId ∧ c.zip ∈ l.map Prod.fst := by
  induction l generalizing s with
  | nil => exact ⟨[], s, rfl, fun _ _ => rfl, by simp⟩
  | cons z l ih =>
    obtain ⟨s₁, hfirst, hothers₁, hrows₁⟩ : ∃ s₁, insertZip env n listId z s = (.ok (), s₁) ∧
        (∀ t, t ≠ .buyerZipCodes → s₁ t = s t) ∧ ∀ c, c ∈ (s₁ .buyerZipCodes).rows ↔
          c ∈ (s .buyerZipCodes).rows ∨ c = ⟨listId, z.1⟩ := by
      have hrun : ∀ inserted s₁, (Database.insert .buyerZipCodes ⟨listId, z.1⟩ : Handler Bool) s =
          (.ok inserted, s₁) → insertZip env n listId z s = (.ok (), s₁) := by
        intro inserted s₁ hinsert
        rw [insertZip, executeIgnored, Prog.attempt_of_ok (hok z List.mem_cons_self)]
        exact Prog.bind_of_ok hinsert
      by_cases hmem : (listId, z.1) ∈ (s .buyerZipCodes).rows.map fun c => (c.buyerZipListId, c.zip)
      · -- the conflict: the row is there already, with the same list and ZIP
        refine ⟨s, hrun false s (Database.insert_of_mem hmem), fun _ _ => rfl, fun c => ?_⟩
        obtain ⟨c', hc', heq⟩ := List.mem_map.mp hmem
        have hsame : c' = ⟨listId, z.1⟩ := by
          obtain ⟨id, zip⟩ := c'
          obtain ⟨hid, hzip⟩ := Prod.mk.inj heq
          exact congrArg₂ ZipCode.mk hid hzip
        exact ⟨Or.inl, fun h => h.elim id fun h => h ▸ hsame ▸ hc'⟩
      · obtain ⟨s₁, hinsert, hrows, hothers⟩ : ∃ s₁, (Database.insert .buyerZipCodes
            ⟨listId, z.1⟩ : Handler Bool) s = (.ok true, s₁) ∧ (s₁ .buyerZipCodes).rows =
              (s .buyerZipCodes).rows ++ [⟨listId, z.1⟩] ∧ ∀ t, t ≠ .buyerZipCodes → s₁ t = s t :=
          Database.insert_of_not_mem hmem
        refine ⟨s₁, hrun true s₁ hinsert, hothers, fun c => ?_⟩
        rw [hrows, List.mem_append, List.mem_singleton]
    obtain ⟨us, s₂, hrest, hothers₂, hrows₂⟩ :=
      ih (fun z hz => hok z (List.mem_cons_of_mem _ hz)) s₁
    refine ⟨() :: us, s₂, (Prog.bind_of_ok hfirst).trans (Prog.bind_of_ok hrest),
      fun t ht => (hothers₂ t ht).trans (hothers₁ t ht), fun c => ?_⟩
    -- the rows that were there, the first ZIP, and the others
    rw [hrows₂, hrows₁, List.map_cons, List.mem_cons]
    constructor
    · rintro ((hc | rfl) | ⟨hid, hzip⟩)
      · exact Or.inl hc
      · exact Or.inr ⟨rfl, Or.inl rfl⟩
      · exact Or.inr ⟨hid, Or.inr hzip⟩
    · rintro (hc | ⟨hid, hzip | hzip⟩)
      · exact Or.inl (Or.inl hc)
      · refine Or.inl (Or.inr ?_)
        obtain ⟨id, zip⟩ := c
        exact congrArg₂ ZipCode.mk hid hzip
      · exact Or.inr ⟨hid, hzip⟩

/-- What storing the codes of one kind does. -/
structure StoresZips (env : DashEnv) (b : Uuid) (k : ListType) (zips : List Json) (s s' : Db) :
    Prop where
  others : ∀ t, t ≠ .buyerZipLists → t ≠ .buyerZipCodes → s' t = s t
  holds : ∀ k' z, Holds b k' z s' ↔ Holds b k' z s ∨ k' = k ∧ z ∈ trimmedZips zips
  fresh : ∀ k', env.uuid (2 + k'.place) ≠ env.uuid (2 + k.place) → FreshList env k' s →
    FreshList env k' s'

/-- The codes go into a list of the buyer. -/
theorem stores_insertZips {n : ℕ} {l : ZipList} (zips : List Json) (out : Json)
    (hok : ∀ m, n ≤ m → env.ok m = true) (hl : l ∈ (s .buyerZipLists).rows) (hb : l.buyerId = b)
    (hk : l.listType = k) :
    ∃ s', storeInto env n l.id zips out s = (.ok (some out), s') ∧
      (∀ t, t ≠ .buyerZipCodes → s' t = s t) ∧
      (∀ k' z, Holds b k' z s' ↔ Holds b k' z s ∨ k' = k ∧ z ∈ trimmedZips zips) ∧
      ∀ c ∈ (s' .buyerZipCodes).rows, c ∈ (s .buyerZipCodes).rows ∨ c.buyerZipListId = l.id := by
  obtain ⟨us, s', hcollect, hothers, hrows⟩ := insertZips_rows l.id (n := n + 3)
    (l := (newZips s l.id zips).zipIdx) (fun z _ => hok _ (by omega)) s
  rw [List.zipIdx_map_fst] at hrows
  have hnew : ∀ z, z ∈ newZips s l.id zips ↔ z ∈ trimmedZips zips ∧
      ∀ c ∈ (s .buyerZipCodes).rows, c.buyerZipListId = l.id → c.zip ≠ z := by
    intro z
    simp [newZips, trimmedZips]
    tauto
  refine ⟨s', ?_, hothers, fun k' z => ?_, fun c hc => ((hrows c).mp hc).imp_right And.left⟩
  · have hinsert : insertZipCodes env (n + 3) l.id (((s .buyerZipCodes).rows.filter fun c =>
        c.buyerZipListId = l.id).map ZipCode.zip) zips s = (.ok (), s') := Prog.bind_of_ok hcollect
    simp only [storeInto, Prog.attempt, hok (n + 2) (by omega), if_true]
    exact Prog.bind_of_ok hinsert
  · rw [Holds, hothers .buyerZipLists (by decide)]
    constructor
    · rintro ⟨l', hl', hb', hk', c, hc, hid, rfl⟩
      rcases (hrows c).mp hc with hold | ⟨hlist, hzip⟩
      · exact Or.inl ⟨l', hl', hb', hk', c, hold, hid, rfl⟩
      · -- the list of the code is the one that was found
        obtain rfl : l' = l := List.inj_on_of_nodup_map (s .buyerZipLists).nodup hl' hl
          (hid.symm.trans hlist)
        exact Or.inr ⟨hk'.symm.trans hk, ((hnew c.zip).mp hzip).1⟩
    · rintro (⟨l', hl', hb', hk', c, hc, hid, rfl⟩ | ⟨rfl, hz⟩)
      · exact ⟨l', hl', hb', hk', c, (hrows c).mpr (Or.inl hc), hid, rfl⟩
      · by_cases hold : ∃ c ∈ (s .buyerZipCodes).rows, c.buyerZipListId = l.id ∧ c.zip = z
        · obtain ⟨c, hc, hid, rfl⟩ := hold
          exact ⟨l, hl, hb, hk, c, (hrows c).mpr (Or.inl hc), hid, rfl⟩
        · have hz' : z ∈ newZips s l.id zips :=
            (hnew z).mpr ⟨hz, fun c hc hid hzip => hold ⟨c, hc, hid, hzip⟩⟩
          exact ⟨l, hl, hb, hk, ⟨l.id, z⟩, (hrows _).mpr (Or.inr ⟨rfl, hz'⟩), rfl, rfl⟩

/-- A new list of the buyer, for codes of one kind. -/
theorem insert_list {l : ZipList} (hid : l.id ∉ (s .buyerZipLists).rows.map ZipList.id)
    (hcodes : l.id ∉ (s .buyerZipCodes).rows.map ZipCode.buyerZipListId) :
    ∃ s', (Database.insert .buyerZipLists l : Handler Bool) s = (.ok true, s') ∧
      (s' .buyerZipLists).rows = (s .buyerZipLists).rows ++ [l] ∧
      (∀ t, t ≠ .buyerZipLists → s' t = s t) ∧ ∀ k z, Holds b k z s' ↔ Holds b k z s := by
  obtain ⟨s', hinsert, hrows, hothers⟩ : ∃ s', (Database.insert .buyerZipLists l : Handler Bool) s =
      (.ok true, s') ∧ (s' .buyerZipLists).rows = (s .buyerZipLists).rows ++ [l] ∧
        ∀ t, t ≠ .buyerZipLists → s' t = s t := Database.insert_of_not_mem hid
  refine ⟨s', hinsert, hrows, hothers, fun k z => ?_⟩
  rw [Holds, Holds, hrows, hothers .buyerZipCodes (by decide)]
  constructor
  · rintro ⟨l', hl', hb, hk, c, hc, hlist, hzip⟩
    rcases List.mem_append.mp hl' with hold | hnew
    · exact ⟨l', hold, hb, hk, c, hc, hlist, hzip⟩
    · -- no code is in the new list yet
      rw [List.mem_singleton.mp hnew] at hlist
      exact absurd (List.mem_map.mpr ⟨c, hc, hlist⟩) hcodes
  · rintro ⟨l', hl', hrest⟩
    exact ⟨l', List.mem_append_left _ hl', hrest⟩

/-- The list of the kind, and what finding or making it does. -/
theorem findOrCreate_spec (hok : ∀ m, 10 ≤ m → env.ok m = true) {n : ℕ} (hn : 10 ≤ n)
    (hfresh : FreshList env k s) :
    ∃ l s', findOrCreateZipList env n b k s = (.ok (some l.id), s') ∧
      l ∈ (s' .buyerZipLists).rows ∧ l.buyerId = b ∧ l.listType = k ∧
      (∀ t, t ≠ .buyerZipLists → s' t = s t) ∧ (∀ k z, Holds b k z s' ↔ Holds b k z s) ∧
      ∀ id, id ≠ env.uuid (2 + k.place) → id ∉ (s .buyerZipLists).rows.map ZipList.id →
        id ∉ (s' .buyerZipLists).rows.map ZipList.id := by
  cases hfirst : firstList b k s with
  | some l =>
    -- the first list of the kind is taken
    have hmem := List.mem_filter.mp (List.mem_mergeSort.mp (List.mem_of_mem_head? hfirst))
    have hlist := of_decide_eq_true hmem.2
    exact ⟨l, s, findOrCreateZipList_found (hok n hn) hfirst, hmem.1, hlist.1, hlist.2,
      fun _ _ => rfl, fun _ _ => Iff.rfl, fun _ _ h => h⟩
  | none =>
    -- there is none, so one is inserted under the next id
    let l : ZipList := ⟨env.uuid (2 + k.place), b, k.listName, k, env.now⟩
    obtain ⟨s', hinsert, hrows, hothers, hholds⟩ := insert_list (b := b) (l := l) hfresh.1 hfresh.2
    refine ⟨l, s', ?_, ?_, rfl, rfl, hothers, hholds, fun id hne hid => ?_⟩
    · rw [findOrCreateZipList_eq (hok n hn), hfirst]
      exact Prog.bind_of_ok ((Prog.attempt_of_ok (hok (n + 1) (by omega)) _ _ s).trans hinsert)
    · rw [hrows]
      exact List.mem_append_right _ List.mem_cons_self
    · rw [hrows, List.map_append, List.mem_append]
      rintro (hold | hnew)
      · exact hid hold
      · exact hne (List.mem_singleton.mp hnew)

theorem storeZipCodes_spec (hok : ∀ m, 10 ≤ m → env.ok m = true) (hfresh : FreshList env k s)
    {config : Json} {zips : List Json} (hzips : zipArray k config = some zips) :
    ∃ s', storeZipCodes env b k config s = (.ok (some (stripZips k config)), s') ∧
      StoresZips env b k zips s s' := by
  obtain ⟨m, rfl⟩ : ∃ m, config = .obj m := by
    cases config with
    | obj m => exact ⟨m, rfl⟩
    | _ => cases hzips
  have hstrip : stripZips k (.obj m) = .obj (m.filter (·.1 ≠ k.field)) := by
    simp [stripZips, hzips]
  -- first the list of the buyer, then its codes
  obtain ⟨l, s₁, hfind, hl, hb, hk, hothers₁, hholds₁, hids⟩ := findOrCreate_spec (b := b) hok
    (show 10 ≤ 10 + 1000 * k.place by omega) hfresh
  obtain ⟨s₂, hstore, hothers₂, hholds₂, hcodes⟩ := stores_insertZips (n := 10 + 1000 * k.place)
    zips (.obj (m.filter (·.1 ≠ k.field))) (fun n hn => hok n (by omega)) hl hb hk
  refine ⟨s₂, ?_, ?_, ?_, ?_⟩
  · rw [hstrip, storeZipCodes_some hzips]
    exact (Prog.bind_of_ok hfind).trans hstore
  · intro t hlists hcodes
    rw [hothers₂ t hcodes, hothers₁ t hlists]
  · intro k' z
    rw [hholds₂, hholds₁]
  · rintro k' hne ⟨hlist, hcode⟩
    have hlist₁ := hids _ hne hlist
    constructor
    · rw [hothers₂ .buyerZipLists (by decide)]
      exact hlist₁
    · intro hmem
      obtain ⟨c, hc, hid⟩ := List.mem_map.mp hmem
      -- a code that is there was there before, or is of the list just found
      rcases hcodes c hc with hold | hnew
      · rw [hothers₁ .buyerZipCodes (by decide)] at hold
        exact hcode (List.mem_map.mpr ⟨c, hold, hid⟩)
      · exact hlist₁ (List.mem_map.mpr ⟨l, hl, hnew.symm.trans hid⟩)

/-- The config without its ZIP codes. -/
def stripBoth (config : Json) : Json := stripZips .whitelist (stripZips .blacklist config)

/-- The buyer holds the codes that it held in `s`, and those of the arrays. -/
def HoldsMore (b : Uuid) (arr : ListType → List Json) (s s' : Db) : Prop :=
  ∀ k z, Holds b k z s' ↔ Holds b k z s ∨ z ∈ trimmedZips (arr k)

/-- The arrays of ZIP codes of a config. -/
def HasZips (config : Json) (arr : ListType → List Json) : Prop :=
  ∀ k, zipArray k config = some (arr k)

theorem get_stripZips {config : Json} {zips : List Json} (h : zipArray k config = some zips)
    (key : String) : (stripZips k config).get key = if key = k.field then
      none else config.get key := by
  cases config with
  | obj m =>
    simp only [stripZips, h]
    exact AssocList.lookup_filter_ne k.field key m
  | _ => cases h

theorem zipArray_stripZips {config : Json} {zips : List Json}
    (h : zipArray .blacklist config = some zips) :
    zipArray .whitelist (stripZips .blacklist config) = zipArray .whitelist config := by
  have hget := get_stripZips h ListType.whitelist.field
  rw [if_neg (by decide)] at hget
  cases config with
  | obj m =>
    simp only [stripZips, h] at hget ⊢
    simp only [zipArray, hget]
  | _ => cases h

/-- The ids that are drawn for lists are new. -/
structure FreshLists (env : DashEnv) (s : Db) : Prop where
  fresh : ∀ k, FreshList env k s
  distinct : env.uuid (2 + ListType.blacklist.place) ≠ env.uuid (2 + ListType.whitelist.place)

theorem extract_spec (hok : ∀ m, 10 ≤ m → env.ok m = true)
    (hfresh : FreshLists env s) {config : Json}
    {arr : ListType → List Json} (harr : HasZips config arr) :
    ∃ s', extractAndStoreZipCodes env b config s = (.ok (stripBoth config), s') ∧
      (∀ t, t ≠ .buyerZipLists → t ≠ .buyerZipCodes → s' t = s t) ∧ HoldsMore b arr s s' := by
  obtain ⟨s₁, hblack, hstores₁⟩ := storeZipCodes_spec (b := b) hok (hfresh.fresh .blacklist)
    (harr .blacklist)
  have hfresh₁ : FreshList env .whitelist s₁ :=
    hstores₁.fresh .whitelist hfresh.distinct.symm (hfresh.fresh .whitelist)
  obtain ⟨s₂, hwhite, hstores₂⟩ := storeZipCodes_spec (b := b) hok hfresh₁
    ((zipArray_stripZips (harr .blacklist)).trans (harr .whitelist))
  refine ⟨s₂, (Prog.bind_of_ok hblack).trans (Prog.bind_of_ok hwhite), fun t hlists hcodes => ?_,
    fun k z => ?_⟩
  · rw [hstores₂.others t hlists hcodes, hstores₁.others t hlists hcodes]
  · rw [hstores₂.holds, hstores₁.holds]
    cases k with
    | blacklist => simp
    | whitelist => simp

/-! ### Reading -/

/-- A rule set is shown with the codes that its buyer holds. -/
theorem getBuyerRuleSet_shows (cfg : DashConfig) (hok : ∀ n, n < 3 → env.ok n = true) {r : RuleSet}
    (hr : r ∈ (s .buyerQualificationConfigs).rows) (hb : r.buyerId = b) :
    getBuyerRuleSet cfg env b r.id s = (.ok (successJson [("rule_set", ruleSetJson cfg r
      (mergeZips (storedZips b s .blacklist, storedZips b s .whitelist) r.config))]), s) := by
  have hfind : ((s .buyerQualificationConfigs).rows.filter (isRuleSet b r.id)).head? = some r := by
    have hmem : r ∈ (s .buyerQualificationConfigs).rows.filter (isRuleSet b r.id) :=
      List.mem_filter.mpr ⟨hr, decide_eq_true ⟨rfl, hb⟩⟩
    -- the identifier is unique, so the first row is the one
    have hall : ∀ r' ∈ (s .buyerQualificationConfigs).rows.filter (isRuleSet b r.id), r' = r := by
      intro r' hr'
      obtain ⟨hmem, his⟩ := List.mem_filter.mp hr'
      exact List.inj_on_of_nodup_map (s .buyerQualificationConfigs).nodup hmem hr
        (of_decide_eq_true his).1
    cases hl : (s .buyerQualificationConfigs).rows.filter (isRuleSet b r.id) with
    | nil =>
      rw [hl] at hmem
      cases hmem
    | cons r₀ l =>
      rw [hall r₀ (hl ▸ List.mem_cons_self)]
      rfl
  have hfetch : fetchOptional env 0 .buyerQualificationConfigs (isRuleSet b r.id) s =
      (.ok (some r), s) :=
    (Prog.stmt_of_ok (hok 0 (by decide)) _ _ s).trans (congrArg (fun o => (Except.ok o, s)) hfind)
  have hload : loadZipCodesFromTables env 1 b s =
      (.ok (some (storedZips b s .blacklist, storedZips b s .whitelist)), s) := by
    rw [loadZipCodesFromTables, Prog.attempt_of_ok (by
      rw [hok 1 (by decide), hok 2 (by decide)]
      rfl)]
    rfl
  exact (Prog.bind_of_ok hfetch).trans ((Prog.bind_of_ok rfl).trans (Prog.bind_of_ok hload))

/-- What is shown of one kind. -/
def listJson (zips : List String) : Option Json :=
  if zips.isEmpty then none else some (.arr (zips.map .str))

/-- The config, with these lists. -/
def Shows (config : Json) (lists : ListType → List String) (shown : Json) : Prop :=
  (∀ k : ListType, shown.get k.field = listJson (lists k)) ∧
    ∀ key, (∀ k : ListType, key ≠ k.field) → shown.get key = config.get key

theorem lookup_putZips (field key : String) (zips : List String) (m : List (String × Json)) :
    (putZips field zips m).lookup key = if key = field then listJson zips else m.lookup key := by
  unfold putZips listJson
  cases zips.isEmpty with
  | true => exact AssocList.lookup_filter_ne field key m
  | false => exact Json.lookup_insertField field key _ m

theorem shows_mergeZips (lists : ListType → List String) (m : List (String × Json)) :
    Shows (.obj m) lists (mergeZips (lists .blacklist, lists .whitelist) (.obj m)) := by
  have hget : ∀ key, (mergeZips (lists .blacklist, lists .whitelist) (.obj m)).get key =
      if key = "zip_whitelist" then listJson (lists .whitelist)
      else if key = "zip_blacklist" then listJson (lists .blacklist) else m.lookup key := by
    intro key
    rw [mergeZips, Json.get_obj, lookup_putZips, lookup_putZips]
  constructor
  · intro k
    rw [hget]
    cases k with
    | blacklist => rfl
    | whitelist => rfl
  · intro key hkey
    rw [hget, if_neg (show key ≠ "zip_whitelist" from hkey .whitelist),
      if_neg (show key ≠ "zip_blacklist" from hkey .blacklist)]
    rfl

/-! ### Saving -/

/-- The rule set is there with this config, and the buyer holds the codes of the arrays too. -/
def Saved (b id : Uuid) (out : Json) (arr : ListType → List Json) (s s' : Db) : Prop :=
  (∃ r ∈ (s' .buyerQualificationConfigs).rows, r.id = id ∧ r.buyerId = b ∧ r.config = out) ∧
    HoldsMore b arr s s'

theorem holdsMore_congr {arr : ListType → List Json} {t t' : Db}
    (hlists : t' .buyerZipLists = t .buyerZipLists) (hcodes : t' .buyerZipCodes = t .buyerZipCodes)
    (h : HoldsMore b arr s t) : HoldsMore b arr s t' := by
  intro k z
  rw [Holds, hlists, hcodes]
  exact h k z

theorem Saved.congr {id : Uuid} {out : Json} {arr : ListType → List Json} {t t' : Db}
    (hothers : ∀ u, u ≠ .auditLogs → t' u = t u) (h : Saved b id out arr s t) :
    Saved b id out arr s t' := by
  refine ⟨?_, holdsMore_congr (hothers _ (by decide)) (hothers _ (by decide)) h.2⟩
  rw [hothers .buyerQualificationConfigs (by decide)]
  exact h.1

open Prog (Triple)

theorem triple_log_saved {id : Uuid} {out : Json} {arr : ListType → List Json}
    (n : ℕ) (log : AuditLog) :
    Triple (Saved b id out arr s) (createAuditLog env n log) (fun _ => Saved b id out arr s)
      fun _ _ => True := by
  refine Triple.attempt (Triple.bind (Triple.insert_other fun t t' hothers h => ?_) fun _ =>
    Triple.pure fun _ h => h) fun _ _ h => h
  exact h.congr hothers

/-- The lists of ZIP codes are the same. -/
def SameZips (s t : Db) : Prop :=
  t .buyerZipLists = s .buyerZipLists ∧ t .buyerZipCodes = s .buyerZipCodes

theorem SameZips.congr {t t' : Db} (hothers : ∀ u, u ≠ .buyerQualificationConfigs → t' u = t u)
    (h : SameZips s t) : SameZips s t' :=
  ⟨(hothers _ (by decide)).trans h.1, (hothers _ (by decide)).trans h.2⟩

/-- The extraction, from a state with the same lists. -/
theorem triple_extract (hok : ∀ m, 10 ≤ m → env.ok m = true) (hfresh : FreshLists env s)
    {config : Json} {arr : ListType → List Json} (harr : HasZips config arr) {P : Db → Prop}
    (hP : ∀ t t', (∀ u, u ≠ .buyerZipLists → u ≠ .buyerZipCodes → t' u = t u) → P t → P t') :
    Triple (fun t => P t ∧ SameZips s t) (extractAndStoreZipCodes env b config)
      (fun out t => P t ∧ out = stripBoth config ∧ HoldsMore b arr s t) fun _ _ => True := by
  rintro t ⟨ht, hlists, hcodes⟩
  have hfresh' : FreshLists env t := by
    refine ⟨fun k => ?_, hfresh.distinct⟩
    rw [FreshList, hlists, hcodes]
    exact hfresh.fresh k
  obtain ⟨t₁, hrun, hothers, hholds⟩ := extract_spec (b := b) hok hfresh' harr
  rw [hrun]
  constructor
  · rintro out t₂ heq
    cases heq
    refine ⟨hP t _ hothers ht, rfl, fun k z => ?_⟩
    rw [hholds, Holds, Holds, hlists, hcodes]
  · rintro e t₂ heq
    cases heq

theorem triple_createBuyerRuleSet (hok : ∀ m, 10 ≤ m → env.ok m = true) (hfresh : FreshLists env s)
    {req : CreateRuleSetRequest} {config : Json} {arr : ListType → List Json}
    (hconfig : req.config = some config) (harr : HasZips config arr) :
    Triple (SameZips s) (createBuyerRuleSet env b req)
      (fun _ => Saved b (env.uuid 0) (stripBoth config) arr s) fun _ _ => True := by
  refine Triple.bind (Triple.stmt (Triple.post Triple.first fun _ _ h => h.1) fun _ _ _ => trivial)
    fun buyer => ?_
  refine Triple.bind (Triple.orStop (Q := fun _ => SameZips s)
    (fun _ _ _ h => h) fun _ _ _ => trivial)
    fun buyer => ?_
  refine Triple.bind (Triple.orStop (Q := fun _ => SameZips s)
    (fun _ _ _ h => h) fun _ _ _ => trivial)
    fun verticalId => ?_
  refine Triple.bind (Q := fun _ => SameZips s) (Triple.whenever (fun _ => Triple.stmt
    (Triple.update_other fun t t' hothers h => h.congr hothers) fun _ _ _ => trivial)
      fun _ _ h => h) fun _ => ?_
  rw [hconfig, Option.getD_some]
  refine Triple.bind ((triple_extract hok hfresh harr (P := fun _ => True)
    fun _ _ _ h => h).pre fun _ h => ⟨trivial, h⟩) fun out => ?_
  refine Triple.bind (Triple.stmt
    (Triple.post Triple.present fun _ _ h => h.1) fun _ _ _ => trivial)
    fun taken => ?_
  refine Triple.bind (Triple.post Triple.present fun _ _ h => h.1) fun hasVertical => ?_
  refine Triple.bind (Triple.post (Triple.stopWhen fun _ _ _ => trivial)
    fun _ _ h => h.1) fun _ => ?_
  -- the row is there, unless its id is taken
  refine Triple.bind (Triple.insert (R := fun inserted t => inserted = true →
    Saved b (env.uuid 0) (stripBoth config) arr s t) (fun _ _ h => (by cases h))
      fun t t' h _ hrows hothers _ => ⟨?_, ?_⟩) fun inserted => ?_
  · refine ⟨newRuleSet (req.row (env.uuid 0) b verticalId) out env.now, ?_, rfl, rfl, h.2.1⟩
    rw [hrows]
    exact List.mem_append_right _ List.mem_cons_self
  · exact holdsMore_congr (hothers _ (by decide)) (hothers _ (by decide)) h.2.2
  refine Triple.bind (Q := fun _ => Saved b (env.uuid 0) (stripBoth config) arr s)
    (Triple.whenever (fun _ => Triple.stop fun _ _ => trivial) fun hins t h => ?_) fun _ => ?_
  · exact h (by simpa using hins)
  refine Triple.bind (Q := fun _ => Saved b (env.uuid 0) (stripBoth config) arr s)
    (Triple.bind (Triple.attempt (Triple.post Triple.first fun _ _ h => h.1) fun _ _ h => h)
      fun _ => Triple.pure fun _ h => h) fun instanceId => ?_
  exact Triple.bind (triple_log_saved 4 _) fun _ => Triple.pure fun _ h => h

/-- The rule set is there. -/
def Present (b id : Uuid) (t : Db) : Prop :=
  ∃ r ∈ (t .buyerQualificationConfigs).rows, isRuleSet b id r = true

theorem present_of_map {id : Uuid} {t t' : Db} {f : RuleSet → RuleSet}
    (hrows : (t' .buyerQualificationConfigs).rows = (t .buyerQualificationConfigs).rows.map f)
    (hf : ∀ r, isRuleSet b id (f r) = isRuleSet b id r) (h : Present b id t) : Present b id t' := by
  obtain ⟨r, hr, his⟩ := h
  refine ⟨f r, ?_, (hf r).trans his⟩
  rw [hrows]
  exact List.mem_map_of_mem hr

theorem triple_updateBuyerRuleSet (cfg : DashConfig) (hok : ∀ m, 10 ≤ m → env.ok m = true)
    (hfresh : FreshLists env s) (user : User) (id : Uuid) {payload config : Json}
    {arr : ListType → List Json} (hconfig : payload.get "config" = some config)
    (harr : HasZips config arr) :
    Triple (SameZips s) (updateBuyerRuleSet cfg env user b id payload)
      (fun _ => Saved b id (stripBoth config) arr s) fun _ _ => True := by
  refine Triple.bind (Triple.stmt Triple.first fun _ _ _ => trivial) fun ruleSet => ?_
  refine Triple.bind (Triple.orStop (Q := fun _ t => Present b id t ∧ SameZips s t)
    (fun r hr t h => ⟨?_, h.1⟩) fun _ _ _ => trivial) fun before => ?_
  · have hmem := List.mem_filter.mp (List.mem_of_mem_head? (h.2.symm.trans hr))
    exact ⟨r, hmem.1, hmem.2⟩
  rw [hconfig]
  -- the lists of the payload are moved out, and the config goes on without them
  have hextract := triple_extract (b := b) hok hfresh harr
    (P := Present b id) fun t t' hothers h => by
    rw [Present, hothers .buyerQualificationConfigs (by decide) (by decide)]
    exact h
  refine Triple.bind (Q := fun out t => Present b id t ∧ out = some (stripBoth config) ∧
    HoldsMore b arr s t) (Triple.bind hextract fun out => Triple.pure fun t h =>
      ⟨h.1, congrArg some h.2.1, h.2.2⟩) fun out => ?_
  refine Triple.bind (Q := fun _ t => Present b id t ∧ out = some (stripBoth config) ∧
    HoldsMore b arr s t) (Triple.whenever (fun _ => Triple.stmt (Triple.update
      fun t t' h hrows hothers => ?_) fun _ _ _ => trivial) fun _ _ h => h) fun _ => ?_
  · refine ⟨present_of_map hrows (fun r => ?_) h.1, h.2.1,
      holdsMore_congr (hothers _ (by decide)) (hothers _ (by decide)) h.2.2⟩
    split
    · rfl
    · rfl
  -- there is always something to update: the config
  intro t ht
  obtain rfl := ht.2.1
  have hhas : ({ RuleSetChanges.ofPayload payload with config := some (stripBoth config) } :
      RuleSetChanges).hasUpdates = true := by
    simp [RuleSetChanges.hasUpdates]
  rw [hhas, Bool.not_true, if_neg (by decide)]
  refine Triple.bind (P := fun t => Present b id t ∧ HoldsMore b arr s t) (Triple.stmt
    (Triple.post Triple.present fun _ _ h => h.1) fun _ _ _ => trivial) (fun taken => ?_) t
      ⟨ht.1, ht.2.2⟩
  refine Triple.bind (Triple.post (Triple.stopWhen fun _ _ _ => trivial)
    fun _ _ h => h.1) fun _ => ?_
  -- the row of the rule set takes the stripped config, and the lists stay as they are
  refine Triple.bind (Q := fun _ => Saved b id (stripBoth config) arr s)
    (Triple.update fun t t' h hrows hothers => ⟨?_, ?_⟩) fun _ => ?_
  · obtain ⟨r, hr, his⟩ := h.1
    refine ⟨updatedRuleSet
      { RuleSetChanges.ofPayload payload with config := some (stripBoth config) } env.now r, ?_,
      (of_decide_eq_true his).1, (of_decide_eq_true his).2, rfl⟩
    rw [hrows]
    refine List.mem_map.mpr ⟨r, hr, ?_⟩
    rw [if_pos his]
  · exact holdsMore_congr (hothers _ (by decide)) (hothers _ (by decide)) h.2
  -- the audit log reads more rows and changes none of these
  refine Triple.bind (Q := fun _ => Saved b id (stripBoth config) arr s)
    (Triple.bind (Triple.attempt (Triple.post Triple.first fun _ _ h => h.1) fun _ _ h => h)
      fun _ => Triple.pure fun _ h => h) fun instanceId => ?_
  refine Triple.bind (Q := fun _ => Saved b id (stripBoth config) arr s)
    (Triple.attempt (Triple.post Triple.first fun _ _ h => h.1) fun _ _ h => h) fun after => ?_
  exact Triple.bind (triple_log_saved 5 _) fun _ => Triple.pure fun _ h => h

/-- A request that saves a rule set of the buyer with this config, and goes through. -/
inductive Saves (cfg : DashConfig) (env : DashEnv) (b : Uuid) (config : Json)
  (s : Db) : Uuid → Db → Prop
  | create (req : CreateRuleSetRequest) (answer : Json) (s' : Db)
    (hconfig : req.config = some config)
      (hrun : createBuyerRuleSet env b req s = (.ok answer, s')) :
      Saves cfg env b config s (env.uuid 0) s'
  | update (user : User) (id : Uuid) (payload answer : Json) (s' : Db)
      (hconfig : payload.get "config" = some config)
      (hrun : updateBuyerRuleSet cfg env user b id payload s = (.ok answer, s')) :
      Saves cfg env b config s id s'

theorem Saves.saved {cfg : DashConfig} {config : Json} {id : Uuid} {arr : ListType → List Json}
    (h : Saves cfg env b config s id s') (hok : ∀ m, 10 ≤ m → env.ok m = true)
    (hfresh : FreshLists env s) (harr : HasZips config arr) :
    Saved b id (stripBoth config) arr s s' := by
  cases h with
  | create req answer s' hconfig hrun =>
    exact (triple_createBuyerRuleSet hok hfresh hconfig harr s ⟨rfl, rfl⟩).1 answer s' hrun
  | update user id payload answer s' hconfig hrun =>
    exact (triple_updateBuyerRuleSet cfg hok hfresh user id hconfig harr s
      ⟨rfl, rfl⟩).1 answer s' hrun

/-- The rule set is shown with a config. -/
def ShownAs (cfg : DashConfig) (env : DashEnv) (b : Uuid) (s : Db) (r : RuleSet)
    (shown : Json) : Prop :=
  getBuyerRuleSet cfg env b r.id s = (.ok (successJson [("rule_set", ruleSetJson cfg r shown)]), s)

theorem shownAs_of_mem (cfg : DashConfig) (hok : ∀ n, n < 3 → env.ok n = true) {r : RuleSet}
    (hr : r ∈ (s .buyerQualificationConfigs).rows) (hb : r.buyerId = b) {m : List (String × Json)}
    (hconfig : r.config = .obj m) :
    ∃ shown, ShownAs cfg env b s r shown ∧ Shows r.config (storedZips b s) shown := by
  have hshown := getBuyerRuleSet_shows cfg hok hr hb
  rw [hconfig] at hshown
  exact ⟨_, hshown, hconfig ▸ shows_mergeZips (storedZips b s) m⟩

/-- After a rule set has been saved, it is shown with its config but for the two lists.  They are in
ascending order, have the five-digit texts of the arrays, and no others than these and the ones that
the buyer held before.  All rule sets of the buyer are shown with the same two lists. -/
theorem saved_zips_shown (cfg : DashConfig) {env read : DashEnv} {b : Uuid}
    {s s' : Db} {config : Json}
    {id : Uuid} {arr : ListType → List Json} (hok : ∀ m, 10 ≤ m → env.ok m = true)
    (hread : ∀ n, n < 3 → read.ok n = true) (hfresh : FreshLists env s) (harr : HasZips config arr)
    (hsaves : Saves cfg env b config s id s') :
    ∃ lists : ListType → List String,
      (∀ k, (lists k).Pairwise (· < ·) ∧ (∀ z ∈ trimmedZips (arr k), z ∈ lists k) ∧
        ∀ z ∈ lists k, z ∈ trimmedZips (arr k) ∨ z ∈ storedZips b s k) ∧
      (∃ r ∈ (s' .buyerQualificationConfigs).rows, r.id = id ∧ r.buyerId = b ∧
        ∃ shown, ShownAs cfg read b s' r shown ∧ Shows config lists shown) ∧
      ∀ r ∈ (s' .buyerQualificationConfigs).rows, r.buyerId = b → ∀ m, r.config = .obj m →
        ∃ shown, ShownAs cfg read b s' r shown ∧ Shows r.config lists shown := by
  obtain ⟨⟨r, hr, hid, hb, hconfig⟩, hholds⟩ := hsaves.saved hok hfresh harr
  refine ⟨storedZips b s', fun k => ⟨storedZips_sorted b s' k, fun z hz => ?_, fun z hz => ?_⟩,
    ⟨r, hr, hid, hb, ?_⟩, fun r hr hb m hm => shownAs_of_mem cfg hread hr hb hm⟩
  · exact mem_storedZips.mpr ((hholds k z).mpr (Or.inr hz))
  · rw [mem_storedZips, hholds k z, ← mem_storedZips] at hz
    exact hz.symm
  · obtain ⟨m, hm⟩ : ∃ m, stripBoth config = .obj m := by
      cases config with
      | obj m =>
        have hblack := harr .blacklist
        have hwhite := (zipArray_stripZips hblack).trans (harr .whitelist)
        simp only [stripZips, hblack] at hwhite
        simp only [stripBoth, stripZips, hblack, hwhite]
        exact ⟨_, rfl⟩
      | _ => cases harr .blacklist
    obtain ⟨shown, hshown, hlists, hkeys⟩ := shownAs_of_mem cfg hread hr hb (hconfig.trans hm)
    refine ⟨shown, hshown, hlists, fun key hkey => ?_⟩
    -- the other fields are those of the config that was saved
    rw [hkeys key hkey, hconfig, stripBoth,
      get_stripZips ((zipArray_stripZips (harr .blacklist)).trans (harr .whitelist)),
      if_neg (hkey .whitelist), get_stripZips (harr .blacklist), if_neg (hkey .blacklist)]

end Dashboard

/-! ### Two rule sets of one buyer -/

namespace Sample

open Dashboard

def zipConfig : Json :=
  .obj [("zip_blacklist", .arr [.str " 90210", .num 5]), ("zip_whitelist", .arr [])]

def zipRules : CreateRuleSetRequest where
  ruleSetName := "Local"
  timeoutSeconds := none
  enabled := none
  isActive := none
  config := some zipConfig
  rulesOrder := none

/-- The arrays of its config. -/
def zipArrays : ListType → List Json
  | .blacklist => [.str " 90210", .num 5]
  | .whitelist => []

/-- The buyer after a second rule set has been saved. -/
def zipsSaved : Dashboard.Db := (createBuyerRuleSet dashEnv 9 zipRules guardedBuyer).2

theorem hasZips_zipConfig : HasZips zipConfig zipArrays := by
  intro k
  cases k with
  | blacklist => rfl
  | whitelist => rfl

theorem freshLists_guardedBuyer : FreshLists dashEnv guardedBuyer where
  fresh := by
    intro k
    exact ⟨List.not_mem_nil, List.not_mem_nil⟩
  distinct := by decide

theorem saves_zipRules : Saves dashConfig dashEnv 9 zipConfig guardedBuyer
    (dashEnv.uuid 0) zipsSaved := by
  have hok : (createBuyerRuleSet dashEnv 9 zipRules guardedBuyer).1.isOk = true := by decide +kernel
  cases hrun : (createBuyerRuleSet dashEnv 9 zipRules guardedBuyer).1 with
  | ok answer => exact .create zipRules answer zipsSaved rfl (Prod.ext hrun rfl)
  | error e =>
    rw [hrun] at hok
    cases hok

/-- The other rule set of the buyer had no list, and is shown with one after this one is saved. -/
theorem other_rule_set_gets_zips :
    Saves dashConfig dashEnv 9 zipConfig guardedBuyer (dashEnv.uuid 0) zipsSaved ∧
      ∃ r₀ ∈ (guardedBuyer .buyerQualificationConfigs).rows,
        ∃ r ∈ (zipsSaved .buyerQualificationConfigs).rows, r₀.id = 20 ∧ r.id = 20 ∧
          ∃ before after : Json, ShownAs dashConfig dashEnv 9 guardedBuyer r₀ before ∧
            ShownAs dashConfig dashEnv 9 zipsSaved r after ∧
              before.get "zip_blacklist" ≠ after.get "zip_blacklist" := by
  have hrow : (zipsSaved .buyerQualificationConfigs).rows.any (fun r => decide (r.id = 20) &&
      (decide (r.buyerId = 9) && r.config.asObject.isSome)) = true := by
    decide +kernel
  obtain ⟨r, hr, hmatch⟩ := List.any_eq_true.mp hrow
  obtain ⟨hid, hmatch⟩ := Bool.and_eq_true_iff.mp hmatch
  obtain ⟨hb, hobj⟩ := Bool.and_eq_true_iff.mp hmatch
  obtain ⟨m, hm⟩ : ∃ m, r.config = .obj m := by
    cases hconfig : r.config with
    | obj m => exact ⟨m, rfl⟩
    | _ =>
      rw [hconfig] at hobj
      cases hobj
  obtain ⟨after, hafter, hlists, -⟩ : ∃ shown, ShownAs dashConfig dashEnv 9 zipsSaved r shown ∧
      Shows r.config (storedZips 9 zipsSaved) shown :=
    shownAs_of_mem dashConfig (fun _ _ => rfl) hr (of_decide_eq_true hb) hm
  have hsaved := saves_zipRules.saved (fun _ _ => rfl) freshLists_guardedBuyer hasZips_zipConfig
  obtain ⟨before, hbefore, hnone, -⟩ : ∃ shown, ShownAs dashConfig dashEnv 9 guardedBuyer
      (Dashboard.newRuleSet (ownersOnly.row 20 9 4) (ownersOnly.config.getD (.obj [])) 0) shown ∧
        Shows (ownersOnly.config.getD (.obj [])) (storedZips 9 guardedBuyer) shown :=
    shownAs_of_mem dashConfig (fun _ _ => rfl) List.mem_cons_self rfl rfl
  refine ⟨saves_zipRules, _, List.mem_cons_self, r, hr, rfl, of_decide_eq_true hid, before, after,
    hbefore, hafter, fun heq => ?_⟩
  have hold : storedZips 9 guardedBuyer .blacklist = [] := by
    refine List.eq_nil_iff_forall_not_mem.mpr fun z hz => ?_
    obtain ⟨l, hl, -⟩ := mem_storedZips.mp hz
    cases hl
  have hnew : "90210" ∈ storedZips 9 zipsSaved .blacklist :=
    mem_storedZips.mpr ((hsaved.2 .blacklist "90210").mpr (Or.inr (by decide)))
  have hshown := (hnone .blacklist).symm.trans (heq.trans (hlists .blacklist))
  have hshown : listJson [] = listJson (storedZips 9 zipsSaved .blacklist) := hold ▸ hshown
  cases hl : storedZips 9 zipsSaved .blacklist with
  | nil =>
    rw [hl] at hnew
    cases hnew
  | cons z zs =>
    rw [hl] at hshown
    cases hshown

/-- The rule set itself, and the other one. -/
theorem zips_shown_guardedBuyer :
    ∃ lists : ListType → List String,
      (∀ k, (lists k).Pairwise (· < ·) ∧ (∀ z ∈ trimmedZips (zipArrays k), z ∈ lists k) ∧
        ∀ z ∈ lists k, z ∈ trimmedZips (zipArrays k) ∨ z ∈ storedZips 9 guardedBuyer k) ∧
      (∃ r ∈ (zipsSaved .buyerQualificationConfigs).rows, r.id = dashEnv.uuid 0 ∧ r.buyerId = 9 ∧
        ∃ shown, ShownAs dashConfig dashEnv 9 zipsSaved r shown ∧ Shows zipConfig lists shown) ∧
      ∀ r ∈ (zipsSaved .buyerQualificationConfigs).rows, r.buyerId = 9 → ∀ m, r.config = .obj m →
        ∃ shown, ShownAs dashConfig dashEnv 9 zipsSaved r shown ∧ Shows r.config lists shown :=
  saved_zips_shown dashConfig (fun _ _ => rfl) (fun _ _ => rfl) freshLists_guardedBuyer
    hasZips_zipConfig saves_zipRules

end Sample

end LeadsNebula
