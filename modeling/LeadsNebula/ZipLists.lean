/-
Storing the ZIP codes of a config (`extract_and_store_zip_codes` of
`routes/dashboard.rs`).

The statements that store the codes fail one by one, and what has been stored stays.

* `does_storeZipCodes` — storing the codes of one kind adds a list or a code of the
  buyer if `storesZips` says so, and else changes nothing;
* `does_extract` — the same for a config.
-/
import LeadsNebula.DashboardRuleSets

namespace LeadsNebula

namespace Dashboard

variable {env : DashEnv} {b : Uuid} {s s' : Db}

/-! ### The lists of a buyer -/

def buyerLists (b : Uuid) (s : Db) : List ZipList :=
  (s .buyerZipLists).rows.filter fun l => l.buyerId = b

def buyerCodes (b : Uuid) (s : Db) : List ZipCode :=
  (s .buyerZipCodes).rows.filter fun c => c.buyerZipListId ∈ (buyerLists b s).map ZipList.id

/-- The number of lists and codes. -/
def zipCount (b : Uuid) (s : Db) : ℕ := (buyerLists b s).length + (buyerCodes b s).length

/-- The two differ in the lists at most, and the second has no fewer of the buyer. -/
structure Adds (b : Uuid) (s s' : Db) : Prop where
  others : ∀ t, t ≠ .buyerZipLists → t ≠ .buyerZipCodes → s' t = s t
  count : zipCount b s ≤ zipCount b s'

theorem Adds.refl (b : Uuid) (s : Db) : Adds b s s := ⟨fun _ _ _ => rfl, le_rfl⟩

theorem Adds.trans {s'' : Db} (h : Adds b s s') (h' : Adds b s' s'') : Adds b s s'' :=
  ⟨fun t hl hc => (h'.others t hl hc).trans (h.others t hl hc), h.count.trans h'.count⟩

/-- What a statement does: it adds something to the lists, or nothing changes. -/
structure Does (stores : Bool) (b : Uuid) (s s' : Db) : Prop where
  adds : Adds b s s'
  same : stores = false → s' = s
  more : stores = true → zipCount b s < zipCount b s'

theorem Does.nothing (b : Uuid) (s : Db) : Does false b s s :=
  ⟨Adds.refl b s, fun _ => rfl, fun h => (by cases h)⟩

/-- What follows a statement does, is done from the state before it if that does nothing. -/
theorem Does.trans {x y : Bool} {s'' : Db} (h : Does x b s s') (hadds : Adds b s' s'')
    (h' : x = false → Does y b s' s'') : Does (x || y) b s s'' where
  adds := h.adds.trans hadds
  same := by
    intro hxy
    obtain ⟨hx, hy⟩ := Bool.or_eq_false_iff.mp hxy
    rw [(h' hx).same hy, h.same hx]
  more := by
    intro hxy
    cases hx : x with
    | true => exact lt_of_lt_of_le (h.more hx) hadds.count
    | false =>
      rw [hx, Bool.false_or] at hxy
      exact lt_of_le_of_lt h.adds.count ((h' hx).more hxy)

theorem does_insert_list {l : ZipList} (hl : l.buyerId = b) :
    ∃ inserted s', (Database.insert .buyerZipLists l : Handler Bool) s = (.ok inserted, s') ∧
      inserted = decide (l.id ∉ (s .buyerZipLists).rows.map ZipList.id) ∧ Does inserted b s s' ∧
      (inserted = true → l.id ∈ (buyerLists b s').map ZipList.id) := by
  by_cases hmem : l.id ∈ (s .buyerZipLists).rows.map ZipList.id
  · refine ⟨false, s, Database.insert_of_mem hmem, ?_, Does.nothing b s, fun h => (by cases h)⟩
    rw [decide_eq_false (not_not_intro hmem)]
  · obtain ⟨s', hinsert, hrows, hothers⟩ : ∃ s',
      (Database.insert .buyerZipLists l : Handler Bool) s =
        (.ok true, s') ∧ (s' .buyerZipLists).rows = (s .buyerZipLists).rows ++ [l] ∧
          ∀ t, t ≠ .buyerZipLists → s' t = s t := Database.insert_of_not_mem hmem
    have hlists : buyerLists b s' = buyerLists b s ++ [l] := by
      simp [buyerLists, hrows, hl]
    -- the codes of the old lists are still there
    have hcodes : (buyerCodes b s).length ≤ (buyerCodes b s').length := by
      unfold buyerCodes
      rw [hothers .buyerZipCodes (by decide), ← List.countP_eq_length_filter,
        ← List.countP_eq_length_filter]
      refine List.countP_mono_left fun c _ hc => ?_
      rw [decide_eq_true_eq] at hc ⊢
      rw [hlists, List.map_append]
      exact List.mem_append_left _ hc
    have hcount : zipCount b s < zipCount b s' := by
      unfold zipCount
      rw [hlists, List.length_append, List.length_singleton]
      omega
    refine ⟨true, s', hinsert, (decide_eq_true hmem).symm, ⟨⟨fun t ht _ => hothers t ht, hcount.le⟩,
      fun h => (by cases h), fun _ => hcount⟩, fun _ => ?_⟩
    rw [hlists, List.map_append]
    exact List.mem_append_right _ List.mem_cons_self

theorem does_insert_code {c : ZipCode} (hc : c.buyerZipListId ∈ (buyerLists b s).map ZipList.id) :
    ∃ inserted s', (Database.insert .buyerZipCodes c : Handler Bool) s = (.ok inserted, s') ∧
      inserted = decide ((c.buyerZipListId, c.zip) ∉ (s .buyerZipCodes).rows.map
        fun c => (c.buyerZipListId, c.zip)) ∧ Does inserted b s s' ∧
      buyerLists b s' = buyerLists b s := by
  by_cases hmem : (c.buyerZipListId, c.zip) ∈ (s .buyerZipCodes).rows.map
      fun c => (c.buyerZipListId, c.zip)
  · refine ⟨false, s, Database.insert_of_mem hmem, ?_, Does.nothing b s, rfl⟩
    rw [decide_eq_false (not_not_intro hmem)]
  · obtain ⟨s', hinsert, hrows, hothers⟩ : ∃ s',
      (Database.insert .buyerZipCodes c : Handler Bool) s =
        (.ok true, s') ∧ (s' .buyerZipCodes).rows = (s .buyerZipCodes).rows ++ [c] ∧
          ∀ t, t ≠ .buyerZipCodes → s' t = s t := Database.insert_of_not_mem hmem
    have hlists : buyerLists b s' = buyerLists b s := by
      unfold buyerLists
      rw [hothers .buyerZipLists (by decide)]
    -- the code is one of this buyer's, since the list is
    have hcodes : buyerCodes b s' = buyerCodes b s ++ [c] := by
      unfold buyerCodes
      rw [hlists, hrows, List.filter_append, List.filter_cons_of_pos (by simpa using hc),
        List.filter_nil]
    have hcount : zipCount b s < zipCount b s' := by
      unfold zipCount
      rw [hlists, hcodes, List.length_append, List.length_singleton]
      omega
    refine ⟨true, s', hinsert, (decide_eq_true hmem).symm, ⟨⟨fun t _ ht => hothers t ht, hcount.le⟩,
      fun h => (by cases h), fun _ => hcount⟩, hlists⟩

/-! ### Storing ZIP codes -/

/-- The statement that stores one code. -/
abbrev insertZip (env : DashEnv) (n : ℕ) (listId : Uuid) (z : String × ℕ) : Handler Unit :=
  executeIgnored env (n + z.2) do
    let _ ← Database.insert .buyerZipCodes ⟨listId, z.1⟩
    pure ()

theorem does_insertZip (env : DashEnv) (n : ℕ) {listId : Uuid} (z : String × ℕ)
    (hlist : listId ∈ (buyerLists b s).map ZipList.id) :
    ∃ s', insertZip env n listId z s = (.ok (), s') ∧
      Does (env.ok (n + z.2) && decide ((listId, z.1) ∉ (s .buyerZipCodes).rows.map
        fun c => (c.buyerZipListId, c.zip))) b s s' ∧ buyerLists b s' = buyerLists b s := by
  cases hok : env.ok (n + z.2) with
  | false =>
    exact ⟨s, Prog.attempt_of_fail hok _ _ s, Does.nothing b s, rfl⟩
  | true =>
    obtain ⟨inserted, s', hinsert, rfl, hdoes, hlists⟩ :=
      does_insert_code (c := ⟨listId, z.1⟩) (s := s) hlist
    refine ⟨s', ?_, hdoes, hlists⟩
    rw [insertZip, executeIgnored, Prog.attempt_of_ok hok]
    exact Prog.bind_of_ok hinsert

theorem adds_insertZips (env : DashEnv) (n : ℕ) {listId : Uuid} (l : List (String × ℕ))
    (hlist : listId ∈ (buyerLists b s).map ZipList.id) :
    ∃ us s', Prog.collect (insertZip env n listId) l s = (.ok us, s') ∧ Adds b s s' := by
  induction l generalizing s with
  | nil => exact ⟨[], s, rfl, Adds.refl b s⟩
  | cons z l ih =>
    obtain ⟨s₁, hfirst, hdoes, hlists⟩ := does_insertZip env n z hlist
    obtain ⟨us, s₂, hrest, hadds⟩ := ih (hlists ▸ hlist)
    refine ⟨() :: us, s₂, ?_, hdoes.adds.trans hadds⟩
    exact (Prog.bind_of_ok hfirst).trans (Prog.bind_of_ok hrest)

/-- Codes that the list does not have: the first statement that goes through stores one. -/
theorem does_insertZips (env : DashEnv) (n : ℕ) {listId : Uuid} {l : List (String × ℕ)}
    (hlist : listId ∈ (buyerLists b s).map ZipList.id)
    (hnew : ∀ z ∈ l, (listId, z.1) ∉ (s .buyerZipCodes).rows.map
      fun c => (c.buyerZipListId, c.zip)) :
    ∃ us s', Prog.collect (insertZip env n listId) l s = (.ok us, s') ∧
      Does (l.any fun z => env.ok (n + z.2)) b s s' := by
  induction l generalizing s with
  | nil => exact ⟨[], s, rfl, Does.nothing b s⟩
  | cons z l ih =>
    obtain ⟨s₁, hfirst, hdoes, hlists⟩ := does_insertZip env n z hlist
    rw [decide_eq_true (hnew z List.mem_cons_self), Bool.and_true] at hdoes
    have hlist₁ : listId ∈ (buyerLists b s₁).map ZipList.id := hlists ▸ hlist
    cases hok : env.ok (n + z.2) with
    | true =>
      obtain ⟨us, s₂, hrest, hadds⟩ := adds_insertZips env n l hlist₁
      refine ⟨() :: us, s₂, (Prog.bind_of_ok hfirst).trans (Prog.bind_of_ok hrest), ?_⟩
      rw [List.any_cons]
      exact hdoes.trans hadds fun h => (by rw [hok] at h; cases h)
    | false =>
      -- nothing has happened yet
      have hsame : s₁ = s := hdoes.same hok
      subst hsame
      obtain ⟨us, s₂, hrest, hdoes₂⟩ := ih hlist₁ fun z hz => hnew z (List.mem_cons_of_mem _ hz)
      refine ⟨() :: us, s₂, (Prog.bind_of_ok hfirst).trans (Prog.bind_of_ok hrest), ?_⟩
      rw [List.any_cons, hok, Bool.false_or]
      exact hdoes₂

/-- The array of one kind of ZIP codes in a config. -/
def zipArray (listType : ListType) (config : Json) : Option (List Json) :=
  match config with
  | .obj _ => (config.get listType.field).bind Json.asArray
  | _ => none

/-- The config without it. -/
def stripZips (listType : ListType) (config : Json) : Json :=
  match config, zipArray listType config with
  | .obj m, some _ => .obj (m.filter (·.1 ≠ listType.field))
  | config, _ => config

/-- The list of one kind that `find_or_create_zip_list` finds. -/
def firstList (b : Uuid) (listType : ListType) (s : Db) : Option ZipList :=
  (orderAsc ZipList.createdAt ((s .buyerZipLists).rows.filter fun l =>
    l.buyerId = b ∧ l.listType = listType)).head?

/-- The codes of an array that are not in a list. -/
def newZips (s : Db) (listId : Uuid) (zips : List Json) : List String :=
  (zips.filterMap fun z => z.asStr.map trim).filter fun z => isZip z &&
    z ∉ ((s .buyerZipCodes).rows.filter fun c => c.buyerZipListId = listId).map ZipCode.zip

/-- The id of a new list is not taken. -/
def listIdFree (env : DashEnv) (listType : ListType) (s : Db) : Bool :=
  env.uuid (2 + listType.place) ∉ (s .buyerZipLists).rows.map ZipList.id

/-- Something of one kind is stored: a new list, or a code that the list does not have. -/
def storesZips (env : DashEnv) (b : Uuid) (listType : ListType) (config : Json) (s : Db) : Bool :=
  let n := 10 + 1000 * listType.place
  (zipArray listType config).any fun zips => env.ok n &&
    match firstList b listType s with
    | none => env.ok (n + 1) && listIdFree env listType s
    | some l => env.ok (n + 2) && (newZips s l.id zips).zipIdx.any fun z => env.ok (n + 3 + z.2)

/-- A statement fails before the codes of one kind are stored. -/
def zipsFail (env : DashEnv) (b : Uuid) (listType : ListType) (config : Json) (s : Db) : Bool :=
  let n := 10 + 1000 * listType.place
  (zipArray listType config).isSome &&
    !(env.ok n && env.ok (n + 2) && (firstList b listType s).isSome)

theorem firstList_mem {listType : ListType} {l : ZipList} (h : firstList b listType s = some l) :
    l.id ∈ (buyerLists b s).map ZipList.id := by
  have hmem := List.mem_filter.mp (List.mem_mergeSort.mp (List.mem_of_mem_head? h))
  exact List.mem_map_of_mem
    (List.mem_filter.mpr ⟨hmem.1, decide_eq_true (of_decide_eq_true hmem.2).1⟩)

theorem newZips_not_mem {listId : Uuid} {zips : List Json} :
    ∀ z ∈ (newZips s listId zips).zipIdx, (listId, z.1) ∉ (s .buyerZipCodes).rows.map
      fun c => (c.buyerZipListId, c.zip) := by
  intro z hz hmem
  have hz' := (List.mem_filter.mp (List.mem_of_getElem? (List.mem_zipIdx_iff_getElem?.mp hz))).2
  obtain ⟨c, hc, heq⟩ := List.mem_map.mp hmem
  obtain ⟨hid, hzip⟩ := Prod.mk.inj heq
  simp only [Bool.and_eq_true, decide_eq_true_eq] at hz'
  refine hz'.2 (List.mem_map.mpr ⟨c, List.mem_filter.mpr ⟨hc, decide_eq_true hid⟩, hzip⟩)

section

variable {n : ℕ} {listType : ListType}

theorem findOrCreateZipList_failed (h : env.ok n = false) :
    findOrCreateZipList env n b listType s = (.ok none, s) := by
  exact Prog.bind_of_ok (Prog.attempt_of_fail h _ _ s)

/-- The first list of the type is taken, and one is made if there is none. -/
theorem findOrCreateZipList_eq (h : env.ok n = true) :
    findOrCreateZipList env n b listType s =
      (match firstList b listType s with
        | some l => pure (some l.id)
        | none => do
          let inserted ← Prog.attempt (env.ok (n + 1)) false (Database.insert .buyerZipLists
            ⟨env.uuid (2 + listType.place), b, listType.listName, listType, env.now⟩)
          pure (if inserted then some (env.uuid (2 + listType.place)) else none) :
        Handler (Option Uuid)) s := by
  simp only [findOrCreateZipList, Prog.run_bind, Prog.attempt, h, if_true, Database.rows]
  rfl

theorem findOrCreateZipList_found (h : env.ok n = true) {l : ZipList}
    (hl : firstList b listType s = some l) :
    findOrCreateZipList env n b listType s = (.ok (some l.id), s) := by
  rw [findOrCreateZipList_eq h, hl]
  rfl

/-- A new list, if the statement goes through and its id is free. -/
theorem findOrCreateZipList_new (h : env.ok n = true) (hl : firstList b listType s = none) :
    ∃ o s', findOrCreateZipList env n b listType s = (.ok o, s') ∧
      Does (env.ok (n + 1) && listIdFree env listType s) b s s' ∧
      (o = none ↔ (env.ok (n + 1) && listIdFree env listType s) = false) ∧
      ∀ id ∈ o, id ∈ (buyerLists b s').map ZipList.id := by
  have hcall : findOrCreateZipList env n b listType s = (do
      let inserted ← Prog.attempt (env.ok (n + 1)) false (Database.insert .buyerZipLists
        ⟨env.uuid (2 + listType.place), b, listType.listName, listType, env.now⟩)
      pure (if inserted then some (env.uuid (2 + listType.place)) else none) :
        Handler (Option Uuid)) s := by
    rw [findOrCreateZipList_eq h, hl]
  rw [hcall]
  cases hok : env.ok (n + 1) with
  | false =>
    -- the INSERT fails
    refine ⟨none, s, ?_, Does.nothing b s, ⟨fun _ => rfl, fun _ => rfl⟩,
      fun _ hid => (by cases hid)⟩
    exact Prog.bind_of_ok (Prog.attempt_of_fail rfl _ _ s)
  | true =>
    -- the INSERT goes through, and has a list to return if there is no conflict
    obtain ⟨inserted, s', hinsert, hfree, hdoes, hmem⟩ := does_insert_list (s := s)
      (l := ⟨env.uuid (2 + listType.place), b, listType.listName, listType, env.now⟩) rfl
    have hfree' : inserted = listIdFree env listType s := hfree
    refine ⟨if inserted then some (env.uuid (2 + listType.place)) else none, s', ?_, ?_, ?_, ?_⟩
    · exact Prog.bind_of_ok ((Prog.attempt_of_ok rfl _ _ s).trans hinsert)
    · rw [Bool.true_and, ← hfree']
      exact hdoes
    · rw [Bool.true_and, ← hfree']
      cases inserted with
      | true => simp
      | false => simp
    · intro id hid
      cases inserted with
      | false => cases hid
      | true =>
        cases hid
        exact hmem rfl

/-- The codes of a list that has been found are stored. -/
theorem does_insertZipCodes (env : DashEnv) (n : ℕ) {listId : Uuid} (zips : List Json)
    (hlist : listId ∈ (buyerLists b s).map ZipList.id) :
    ∃ s', insertZipCodes env n listId (((s .buyerZipCodes).rows.filter fun c =>
        c.buyerZipListId = listId).map ZipCode.zip) zips s = (.ok (), s') ∧
      Does ((newZips s listId zips).zipIdx.any fun z => env.ok (n + z.2)) b s s' := by
  obtain ⟨us, s', hcollect, hdoes⟩ := does_insertZips env n hlist newZips_not_mem
  exact ⟨s', Prog.bind_of_ok hcollect, hdoes⟩

theorem storeZipCodes_none {config : Json} (h : zipArray listType config = none) :
    storeZipCodes env b listType config s = (.ok (some config), s) := by
  unfold zipArray at h
  cases config with
  | obj m =>
    simp only at h
    simp only [storeZipCodes, h]
    rfl
  | _ => rfl

/-- What is left to do once the list is there. -/
def storeInto (env : DashEnv) (n : ℕ) (listId : Uuid) (zips : List Json) (out : Json) :
    Handler (Option Json) := do
  let codes ← Prog.attempt (env.ok (n + 2)) none do
    let codes ← Database.rows .buyerZipCodes fun c : ZipCode => c.buyerZipListId = listId
    pure (some codes)
  match codes with
  | none => pure none
  | some codes => do
    insertZipCodes env (n + 3) listId (codes.map ZipCode.zip) zips
    pure (some out)

theorem storeZipCodes_some {m : List (String × Json)} {zips : List Json}
    (h : zipArray listType (.obj m) = some zips) :
    storeZipCodes env b listType (.obj m) s = (do
      let listId ← findOrCreateZipList env (10 + 1000 * listType.place) b listType
      match listId with
        | none => pure none
        | some listId =>
          storeInto env (10 + 1000 * listType.place) listId zips
            (.obj (m.filter (·.1 ≠ listType.field))) : Handler (Option Json)) s := by
  simp only [zipArray] at h
  simp only [storeZipCodes, h]
  rfl

theorem does_storeInto (env : DashEnv) (n : ℕ) {listId : Uuid} (zips : List Json) (out : Json)
    (hlist : listId ∈ (buyerLists b s).map ZipList.id) :
    ∃ s', storeInto env n listId zips out s =
        (.ok (if env.ok (n + 2) then some out else none), s') ∧
      Does (env.ok (n + 2) && (newZips s listId zips).zipIdx.any fun z => env.ok (n + 3 + z.2))
        b s s' := by
  cases hok : env.ok (n + 2) with
  | false =>
    exact ⟨s, Prog.bind_of_ok (Prog.attempt_of_fail hok _ _ s), Does.nothing b s⟩
  | true =>
    obtain ⟨s', hinsert, hdoes⟩ := does_insertZipCodes env (n + 3) zips hlist
    refine ⟨s', ?_, hdoes⟩
    simp only [storeInto, Prog.attempt, hok, if_true]
    exact Prog.bind_of_ok hinsert

/-- Storing the codes of one kind: what it does, and what is left of the config. -/
theorem does_storeZipCodes (env : DashEnv) (b : Uuid) (listType : ListType)
    (config : Json) (s : Db) :
    ∃ o s', storeZipCodes env b listType config s = (.ok o, s') ∧
      Does (storesZips env b listType config s) b s s' ∧
      (storesZips env b listType config s = false →
        o = if zipsFail env b listType config s then none else some
          (stripZips listType config)) := by
  cases harray : zipArray listType config with
  | none =>
    refine ⟨some config, s, storeZipCodes_none harray, ?_, fun _ => ?_⟩
    · simp only [storesZips, harray, Option.any_none]
      exact Does.nothing b s
    · simp [zipsFail, stripZips, harray]
  | some zips =>
    obtain ⟨m, rfl⟩ : ∃ m, config = .obj m := by
      cases config with
      | obj m => exact ⟨m, rfl⟩
      | _ => cases harray
    rw [storeZipCodes_some harray]
    cases hn : env.ok (10 + 1000 * listType.place) with
    | false =>
      refine ⟨none, s, Prog.bind_of_ok (findOrCreateZipList_failed hn), ?_, fun _ => ?_⟩
      · simp only [storesZips, harray, hn, Option.any_some, Bool.false_and]
        exact Does.nothing b s
      · simp [zipsFail, harray, hn]
    | true =>
      cases hfirst : firstList b listType s with
      | some l =>
        obtain ⟨s', hstore, hdoes⟩ := does_storeInto env (10 + 1000 * listType.place) zips
          (.obj (m.filter (·.1 ≠ listType.field))) (firstList_mem hfirst)
        refine ⟨_, s', (Prog.bind_of_ok (findOrCreateZipList_found hn hfirst)).trans hstore, ?_,
          fun _ => ?_⟩
        · simp only [storesZips, harray, hn, hfirst, Option.any_some, Bool.true_and]
          exact hdoes
        · cases hok : env.ok (10 + 1000 * listType.place + 2) with
          | true => simp [zipsFail, stripZips, harray, hn, hfirst, hok]
          | false => simp [zipsFail, harray, hn, hfirst, hok]
      | none =>
        obtain ⟨o, s₁, hfind, hdoes, hnone, hmem⟩ := findOrCreateZipList_new hn hfirst
        have hstores : storesZips env b listType (.obj m) s =
            (env.ok (10 + 1000 * listType.place + 1) && listIdFree env listType s) := by
          simp only [storesZips, harray, hn, hfirst, Option.any_some, Bool.true_and]
        rw [hstores]
        cases o with
        | none =>
          refine ⟨none, s₁, Prog.bind_of_ok hfind, hdoes, fun _ => ?_⟩
          simp [zipsFail, harray, hfirst]
        | some listId =>
          -- the list is new, so something has been stored already
          obtain ⟨s', hstore, hrest⟩ := does_storeInto env (10 + 1000 * listType.place) zips
            (.obj (m.filter (·.1 ≠ listType.field))) (hmem listId rfl)
          have htrue : (env.ok (10 + 1000 * listType.place + 1) && listIdFree env
            listType s) = true := by
            by_contra hne
            cases hnone.mpr (Bool.not_eq_true _ ▸ hne)
          refine ⟨_, s', (Prog.bind_of_ok hfind).trans hstore, ?_, fun h => ?_⟩
          · rw [htrue] at hdoes ⊢
            exact hdoes.trans (y := false) hrest.adds fun h => (by cases h)
          · rw [htrue] at h
            cases h

end

/-- Something of the config is stored. -/
def extractStores (env : DashEnv) (b : Uuid) (config : Json) (s : Db) : Bool :=
  storesZips env b .blacklist config s || (!zipsFail env b .blacklist config s &&
    storesZips env b .whitelist (stripZips .blacklist config) s)

theorem does_extract (env : DashEnv) (b : Uuid) (config : Json) (s : Db) :
    ∃ out s', extractAndStoreZipCodes env b config s = (.ok out, s') ∧
      Does (extractStores env b config s) b s s' := by
  obtain ⟨o, s₁, hblack, hdoes, hout⟩ := does_storeZipCodes env b .blacklist config s
  cases o with
  | none =>
    refine ⟨config, s₁, Prog.bind_of_ok hblack, hdoes.trans (Adds.refl b s₁) fun hx => ?_⟩
    -- a statement has failed, so the other kind is not looked at
    have hfail : zipsFail env b .blacklist config s = true := by
      by_contra hne
      have := hout hx
      rw [if_neg hne] at this
      cases this
    rw [hfail]
    exact Does.nothing b s₁
  | some config₁ =>
    obtain ⟨o₂, s₂, hwhite, hdoes₂, -⟩ := does_storeZipCodes env b .whitelist config₁ s₁
    refine ⟨o₂.getD config₁, s₂, ?_, hdoes.trans hdoes₂.adds fun hx => ?_⟩
    · exact (Prog.bind_of_ok hblack).trans (Prog.bind_of_ok hwhite)
    · have hsome := hout hx
      cases hfail : zipsFail env b .blacklist config s with
      | true =>
        rw [hfail] at hsome
        cases hsome
      | false =>
        rw [hfail] at hsome
        cases hsome
        have hsame : s₁ = s := hdoes.same hx
        subst hsame
        exact hdoes₂

/-- Whether something is stored depends on the lists only. -/
theorem extractStores_congr (h : s' .buyerZipLists = s .buyerZipLists)
    (h' : s' .buyerZipCodes = s .buyerZipCodes) (config : Json) :
    extractStores env b config s' = extractStores env b config s := by
  simp only [extractStores, storesZips, zipsFail, firstList, newZips, listIdFree, h, h']

end Dashboard

end LeadsNebula
