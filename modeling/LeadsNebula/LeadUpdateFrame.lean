/-
What the updates of a lead leave as it was (`services/write_behind_queue.rs`).

A lead update sets each of six columns to `COALESCE` of the value it carries and
the column, so that a column it carries no value for should keep its own.  The
`post_id` is bound as `unwrap_or("")`, never as `NULL`, and so it is erased.
The sold statements put the `vertical_data` they carry in the place of the
stored one; the standard statement merges the two.

* `frame_law_iff` — an update keeps the columns it carries no value for exactly
  where it carries a `post_id`, the lead has none, or no statement reaches it;
* `vertical_data_grows_iff` — along a run of updates the stored data keeps its
  keys exactly where no sold statement reaches a row with a key that the update
  does not carry.
-/
import LeadsNebula.System

namespace LeadsNebula

open Transition

/-! ### The frame -/

namespace LeadUpdate

/-- The row changes in the columns that the update carries a value for, in its status and in its
times, and nowhere else. -/
structure Frame (u : LeadUpdate) (r r' : Lead) : Prop where
  campaignId : u.campaignId = none → r'.campaignId = r.campaignId
  buyerId : u.buyerId = none → r'.buyerId = r.buyerId
  promiseId : u.promiseId = none → r'.promiseId = r.promiseId
  pingId : u.pingId = none → r'.pingId = r.pingId
  postId : u.postId = none → r'.postId = r.postId
  verticalData : u.verticalData = none → r'.verticalData = r.verticalData
  others : r' = { r with
    status := r'.status
    campaignId := r'.campaignId
    buyerId := r'.buyerId
    promiseId := r'.promiseId
    pingId := r'.pingId
    postId := r'.postId
    soldAt := r'.soldAt
    verticalData := r'.verticalData
    updatedAt := r'.updatedAt }

end LeadUpdate

/-- One statement on the row of a lead. -/
def rowStep (now : Timestamp) (r : Lead) (st : LeadStatement) : Option Lead :=
  some (st.applyRow now r)

namespace LeadUpdate

variable (u : LeadUpdate) (now : Timestamp)

/-- Each `UPDATE` of columns that the update runs keeps the frame at the row it meets.  The reset
of the token is not one of them. -/
def FrameLaw (r : Lead) : Prop :=
  Along (rowStep now) (fun r st => st = .updateSold u ∨ st = .updateStandard u →
    u.Frame r (st.applyRow now r)) r u.statements

/-- An `UPDATE` of columns of the update reaches the row. -/
def Reaches (r : Lead) : Prop :=
  r.uuid = u.leadId ∧
    ∀ token, u.inprogToken = some token → u.shouldUpdateAsSold = true ∧ r.postId = some token

variable {u now}

theorem frame_refl (r : Lead) : u.Frame r r :=
  ⟨fun _ => rfl, fun _ => rfl, fun _ => rfl, fun _ => rfl, fun _ => rfl, fun _ => rfl, rfl⟩

/-- A statement that sets the columns keeps the frame but for the `post_id`. -/
theorem frame_setRow_iff {st : LeadStatement} (h : st = .updateSold u ∨ st = .updateStandard u)
    (r : Lead) : u.Frame r (st.setRow now r) ↔ (u.postId = none → r.postId = some "") := by
  have hpost : (st.setRow now r).postId = some (u.postId.getD "") := by
    rcases h with rfl | rfl <;> rfl
  constructor
  · intro hframe hnone
    rw [← hframe.postId hnone, hpost, hnone, Option.getD_none]
  · intro hempty
    have hkeep : u.postId = none → (st.setRow now r).postId = r.postId := by
      intro hnone
      rw [hpost, hnone, hempty hnone, Option.getD_none]
    rcases h with rfl | rfl
    · exact ⟨fun h => by simp [LeadStatement.setRow, h], fun h => by simp [LeadStatement.setRow, h],
        fun h => by simp [LeadStatement.setRow, h], fun h => by simp [LeadStatement.setRow, h],
        hkeep, fun h => by simp [LeadStatement.setRow, h], rfl⟩
    · exact ⟨fun h => by simp [LeadStatement.setRow, h], fun h => by simp [LeadStatement.setRow, h],
        fun h => by simp [LeadStatement.setRow, h], fun h => by simp [LeadStatement.setRow, h],
        hkeep, fun h => by simp [LeadStatement.setRow, h], rfl⟩

theorem frame_applyRow_iff {st : LeadStatement} (h : st = .updateSold u ∨ st = .updateStandard u)
    (r : Lead) : u.Frame r (st.applyRow now r) ↔
      (st.matchesRow now r = true → u.postId = none → r.postId = some "") := by
  rw [LeadStatement.applyRow]
  by_cases hm : st.matchesRow now r = true
  · rw [if_pos hm, frame_setRow_iff h, forall_prop_of_true hm]
  · rw [if_neg hm]
    exact iff_of_true (frame_refl r) fun hm' => absurd hm' hm

/-- The rows that the sold statement and, without a token, the standard one are for. -/
theorem matches_sold_iff {r : Lead} : (LeadStatement.updateSold u).matchesRow now r = true ↔
    r.uuid = u.leadId ∧ ∀ token, u.inprogToken = some token → r.postId = some token := by
  cases htoken : u.inprogToken with
  | none => simp [LeadStatement.matchesRow, htoken]
  | some token => simp [LeadStatement.matchesRow, htoken]

theorem matches_standard_iff {r : Lead} : (LeadStatement.updateStandard u).matchesRow now r = true ↔
    r.uuid = u.leadId := by
  simp [LeadStatement.matchesRow]

/-- An update keeps the frame exactly if a lead that it reaches without a `post_id` has an empty
one. -/
theorem frameLaw_iff_of_reaches (r : Lead) :
    u.FrameLaw now r ↔ (u.Reaches r → u.postId = none → r.postId = some "") := by
  have hfirst : u.Frame r ((LeadStatement.updateSold u).applyRow now r) ↔ _ :=
    frame_applyRow_iff (Or.inl rfl) r
  have hsecond : ∀ r, u.Frame r ((LeadStatement.updateStandard u).applyRow now r) ↔ _ :=
    frame_applyRow_iff (Or.inr rfl)
  rw [matches_sold_iff] at hfirst
  simp only [matches_standard_iff] at hsecond
  rw [FrameLaw, Reaches, statements]
  cases htoken : u.inprogToken with
  | some token =>
    have hreset : ∀ r' : Lead, LeadStatement.resetToken u.leadId token = .updateSold u ∨
        LeadStatement.resetToken u.leadId token = .updateStandard u →
          u.Frame r' ((LeadStatement.resetToken u.leadId token).applyRow now r') := by
      rintro r' (h | h)
      · cases h
      · cases h
    cases hsold : u.shouldUpdateAsSold with
    | false =>
      refine iff_of_true ⟨hreset r, trivial⟩ fun hreach => ?_
      cases (hreach.2 token rfl).1
    | true =>
      simp only [htoken, Option.some_inj, forall_eq'] at hfirst
      constructor
      · rintro ⟨hframe, -⟩ ⟨hid, hpost⟩
        exact hfirst.mp (hframe (Or.inl rfl)) ⟨hid, (hpost token rfl).2⟩
      · intro h
        refine ⟨fun _ => hfirst.mpr fun hm => h ⟨hm.1, fun t ht => ⟨rfl, ?_⟩⟩, hreset _, trivial⟩
        rw [← Option.some_inj.mp ht]
        exact hm.2
  | none =>
    simp only [htoken, reduceCtorEq, false_imp_iff, implies_true, and_true] at hfirst ⊢
    cases hsold : u.shouldUpdateAsSold with
    | false =>
      constructor
      · rintro ⟨hframe, -⟩
        exact (hsecond r).mp (hframe (Or.inr rfl))
      · intro h
        exact ⟨fun _ => (hsecond r).mpr h, trivial⟩
    | true =>
      constructor
      · rintro ⟨hframe, -⟩
        exact hfirst.mp (hframe (Or.inl rfl))
      · intro h
        refine ⟨fun _ => hfirst.mpr h, fun _ => (hsecond _).mpr fun hid hnone => ?_, trivial⟩
        -- the sold statement has left an empty `post_id`
        rw [LeadStatement.applyRow] at hid ⊢
        split
        · rw [LeadStatement.setRow, hnone]
          rfl
        · next hm =>
          rw [if_neg hm] at hid
          exact absurd (matches_sold_iff.mpr ⟨hid, by simp [htoken]⟩) hm

/-- An update keeps the frame exactly where it carries a `post_id`, the lead has an empty one, or
none of its statements reaches the lead. -/
theorem frame_law_iff (u : LeadUpdate) (now : Timestamp) (r : Lead) :
    u.FrameLaw now r ↔ u.postId.isSome = true ∨ r.postId = some "" ∨ ¬ u.Reaches r := by
  rw [frameLaw_iff_of_reaches]
  constructor
  · intro h
    cases hpost : u.postId with
    | some postId => exact Or.inl rfl
    | none =>
      by_cases hreach : u.Reaches r
      · exact Or.inr (Or.inl (h hreach hpost))
      · exact Or.inr (Or.inr hreach)
  · rintro (hsome | hempty | hnot) hreach hnone
    · rw [hnone] at hsome
      cases hsome
    · exact hempty
    · exact absurd hreach hnot

/-! ### The keys of `vertical_data` -/

/-- The update carries an object, if it carries any `vertical_data`. -/
def CarriesObject (u : LeadUpdate) : Prop := ∀ data, u.verticalData = some data → ∃ m, data = .obj m

/-- A sold statement of the update reaches the row, and the update carries `vertical_data` without
some key of it. -/
def ReplacesKeys (u : LeadUpdate) (r : Lead) : Prop :=
  u.shouldUpdateAsSold = true ∧ r.uuid = u.leadId ∧
    (∀ token, u.inprogToken = some token → r.postId = some token) ∧
    ∃ data, u.verticalData = some data ∧
      ∃ k, (r.verticalData.get k).isSome = true ∧ data.get k = none

end LeadUpdate

/-- One update on the row of a lead: its statements in order. -/
def taskStep (r : Lead) (a : Timestamp × LeadUpdate) : Option Lead :=
  run (rowStep a.1) r a.2.statements

/-- Every key of the stored data is still there. -/
def KeepsKeys (r r' : Lead) : Prop :=
  ∀ k, (r.verticalData.get k).isSome = true → (r'.verticalData.get k).isSome = true

section Keys

variable {u : LeadUpdate} {now : Timestamp} {r r' : Lead}

/-- The data is an object. -/
def HasObject (r : Lead) : Prop := ∃ m, r.verticalData = .obj m

/-- The sold statement puts the data of the update in the place of the stored data. -/
theorem verticalData_sold (u : LeadUpdate) (now : Timestamp) (r : Lead) :
    ((LeadStatement.updateSold u).applyRow now r).verticalData =
      if (LeadStatement.updateSold u).matchesRow now r then u.verticalData.getD r.verticalData
      else r.verticalData := by
  rw [LeadStatement.applyRow]
  split <;> rfl

/-- The statement after it leaves the data or merges the data of the update into it. -/
theorem verticalData_last (now : Timestamp) (hu : u.CarriesObject)
    {m : List (String × Json)} (hm : r.verticalData = .obj m) {st : LeadStatement}
    (hst : st = .updateStandard u ∨ ∃ token, st = .resetToken u.leadId token) :
    (st.applyRow now r).verticalData = .obj m ∨
      ∃ m', u.verticalData = some (.obj m') ∧
        (st.applyRow now r).verticalData = .obj (Json.mergeFields m m') := by
  rw [LeadStatement.applyRow]
  split
  · rcases hst with rfl | ⟨token, rfl⟩
    · rw [LeadStatement.setRow]
      cases hdata : u.verticalData with
      | none => exact Or.inl hm
      | some data =>
        obtain ⟨m', rfl⟩ := hu data hdata
        refine Or.inr ⟨m', rfl, ?_⟩
        show r.verticalData.concat (.obj m') = _
        rw [hm]
        rfl
    · exact Or.inl hm
  · exact Or.inl hm

/-- So it keeps an object, and adds at most the keys of the update. -/
theorem keys_last (now : Timestamp) (hu : u.CarriesObject) (hr : HasObject r)
    {st : LeadStatement}
    (hst : st = .updateStandard u ∨ ∃ token, st = .resetToken u.leadId token) :
    HasObject (st.applyRow now r) ∧ KeepsKeys r (st.applyRow now r) ∧
      ∀ k, ((st.applyRow now r).verticalData.get k).isSome = true →
        (r.verticalData.get k).isSome = true ∨
          ∃ data, u.verticalData = some data ∧ (data.get k).isSome = true := by
  obtain ⟨m, hm⟩ := hr
  rcases verticalData_last now hu hm hst with hsame | ⟨m', hdata, hmerge⟩
  · refine ⟨⟨m, hsame⟩, fun k hk => ?_, fun k hk => Or.inl ?_⟩
    · rw [hsame, ← hm]
      exact hk
    · rw [hsame, ← hm] at hk
      exact hk
  · refine ⟨⟨_, hmerge⟩, fun k hk => ?_, fun k hk => ?_⟩
    · rw [hm] at hk
      rw [hmerge]
      exact (Json.isSome_lookup_mergeFields k m m').mpr (Or.inl hk)
    · rw [hmerge] at hk
      rcases (Json.isSome_lookup_mergeFields k m m').mp hk with h | h
      · rw [hm]
        exact Or.inl h
      · exact Or.inr ⟨_, hdata, h⟩

/-- The two parts of an update: the sold statement, if it is one, and the last statement. -/
theorem taskStep_cases (h : taskStep r (now, u) = some r') :
    ∃ (r₁ : Lead) (st : LeadStatement),
      (st = .updateStandard u ∨ ∃ token, st = .resetToken u.leadId token) ∧
      r₁ = (if u.shouldUpdateAsSold then (LeadStatement.updateSold u).applyRow now r else r) ∧
      r' = st.applyRow now r₁ := by
  have hlast : ∃ st : LeadStatement,
      (st = .updateStandard u ∨ ∃ token, st = .resetToken u.leadId token) ∧
      u.statements = (if u.shouldUpdateAsSold then [.updateSold u] else []) ++ [st] := by
    rw [LeadUpdate.statements]
    cases u.inprogToken with
    | none => exact ⟨_, Or.inl rfl, rfl⟩
    | some token => exact ⟨_, Or.inr ⟨token, rfl⟩, rfl⟩
  obtain ⟨st, hst, hsts⟩ := hlast
  rw [taskStep, hsts] at h
  refine ⟨_, st, hst, rfl, ?_⟩
  cases hsold : u.shouldUpdateAsSold with
  | false =>
    rw [hsold] at h
    exact (Option.some_inj.mp h).symm
  | true =>
    rw [hsold] at h
    exact (Option.some_inj.mp h).symm

/-- One update keeps the object, and keeps its keys exactly if the sold statement does. -/
theorem keepsKeys_iff (hu : u.CarriesObject) (hr : HasObject r)
    (h : taskStep r (now, u) = some r') :
    HasObject r' ∧ (KeepsKeys r r' ↔ ¬ u.ReplacesKeys r) := by
  obtain ⟨r₁, st, hst, hr₁, rfl⟩ := taskStep_cases h
  have hdata : r₁.verticalData = if u.shouldUpdateAsSold = true ∧
      (LeadStatement.updateSold u).matchesRow now r = true then u.verticalData.getD r.verticalData
      else r.verticalData := by
    rw [hr₁]
    by_cases hsold : u.shouldUpdateAsSold = true
    · rw [if_pos hsold, verticalData_sold]
      simp [hsold]
    · rw [if_neg hsold, if_neg fun hboth => hsold hboth.1]
  have hobj : HasObject r₁ := by
    obtain ⟨m, hm⟩ := hr
    rw [HasObject, hdata]
    split
    · cases hdata : u.verticalData with
      | none => exact ⟨m, hm⟩
      | some data => exact hu data hdata
    · exact ⟨m, hm⟩
  obtain ⟨hobj', hkeep, hadd⟩ := keys_last now hu hobj hst
  refine ⟨hobj', fun hkeeps => ?_, fun hgood k hk => hkeep k ?_⟩
  · rintro ⟨hsold, hid, htoken, data, hcarried, k, hk, hmissing⟩
    -- the key is neither in the data of the update nor in what the sold statement has left
    rw [if_pos ⟨hsold, LeadUpdate.matches_sold_iff.mpr ⟨hid, htoken⟩⟩, hcarried,
      Option.getD_some] at hdata
    rcases hadd k (hkeeps k hk) with h₁ | ⟨data', hdata', h₁⟩
    · rw [hdata, hmissing] at h₁
      cases h₁
    · rw [hcarried, Option.some_inj] at hdata'
      rw [← hdata', hmissing] at h₁
      cases h₁
  · rw [hdata]
    split
    · next hboth =>
      obtain ⟨hsold, hmatch⟩ := hboth
      obtain ⟨hid, htoken⟩ := LeadUpdate.matches_sold_iff.mp hmatch
      cases hcarried : u.verticalData with
      | none => exact hk
      | some data =>
        by_contra hmissing
        refine hgood ⟨hsold, hid, htoken, data, hcarried, k, hk, ?_⟩
        rw [Option.getD_some, Option.not_isSome_iff_eq_none] at hmissing
        exact hmissing
    · exact hk

/-- Statements always run on a row. -/
theorem taskStep_total (r : Lead) (a : Timestamp × LeadUpdate) : ∃ r', taskStep r a = some r' := by
  rw [taskStep]
  generalize a.2.statements = sts
  induction sts generalizing r with
  | nil => exact ⟨r, rfl⟩
  | cons st sts ih =>
    obtain ⟨r', hr'⟩ := ih (st.applyRow a.1 r)
    exact ⟨r', run_cons_eq_some.mpr ⟨_, rfl, hr'⟩⟩

/-- Along a run of updates that carry objects, every update keeps the keys of the stored object
exactly if no sold statement replaces keys; and then every row reached has the keys of the first. -/
theorem vertical_data_grows_iff (hr : HasObject r) {as : List (Timestamp × LeadUpdate)}
    (has : ∀ a ∈ as, a.2.CarriesObject) :
    (Along taskStep (fun r a => ∀ r', taskStep r a = some r' → KeepsKeys r r') r as ↔
      Along taskStep (fun r a => ¬ a.2.ReplacesKeys r) r as) ∧
    (Along taskStep (fun r a => ¬ a.2.ReplacesKeys r) r as →
      ∀ before after r', as = before ++ after → run taskStep r before = some r' →
        KeepsKeys r r') := by
  -- the row is an object all along
  have hobj : ∀ {P : Lead → Timestamp × LeadUpdate → Prop} {s : Lead} {a : Timestamp × LeadUpdate}
      {s' : Lead}, HasObject s → P s a ∧ a.2.CarriesObject → taskStep s a = some s' →
      HasObject s' := fun hs hP h => (keepsKeys_iff hP.2 hs h).1
  refine ⟨⟨fun h => ?_, fun h => ?_⟩, fun h before after r' heq hrun => ?_⟩
  · refine along_of_inv hobj (fun {s a} hs hP => ?_) hr (along_and h has)
    obtain ⟨s', hs'⟩ := taskStep_total s a
    exact (keepsKeys_iff hP.2 hs hs').2.mp (hP.1 s' hs')
  · exact along_of_inv hobj (fun hs hP s' hs' => (keepsKeys_iff hP.2 hs hs').2.mpr hP.1) hr
      (along_and h has)
  · -- the invariant of the run: the row is an object with the keys of the first row
    have hinv : ∀ {s : Lead} {a : Timestamp × LeadUpdate} {s' : Lead},
        HasObject s ∧ KeepsKeys r s → ¬ a.2.ReplacesKeys s ∧ a.2.CarriesObject →
        taskStep s a = some s' → HasObject s' ∧ KeepsKeys r s' := by
      rintro s a s' ⟨hs, hkeeps⟩ ⟨hgood, hcarries⟩ hstep
      obtain ⟨hs', hiff⟩ := keepsKeys_iff hcarries hs hstep
      exact ⟨hs', fun k hk => hiff.mpr hgood k (hkeeps k hk)⟩
    subst heq
    have halong := along_append_left (along_and h has)
    exact (inv_of_run hinv ⟨hr, fun k hk => hk⟩ halong hrun).2

end Keys

/-! ### A claim that is erased, and a bid that is lost -/

/-- A standard update that carries nothing. -/
def bareUpdate (status : LeadStatus) (leadId : Uuid) : LeadUpdate where
  leadId := leadId
  status := status
  campaignId := none
  buyerId := none
  promiseId := none
  pingId := none
  postId := none
  soldAt := false
  inprogToken := none
  verticalData := none

open Sample

/-- The update of a claimed lead carries no `post_id`, and erases the token of the claim. -/
theorem bare_update_erases_token :
    ¬ ∀ (u : LeadUpdate) (now : Timestamp) (r : Lead), u.FrameLaw now r := by
  intro h
  have hlaw := h (bareUpdate .pingAccepted 7) 0
    { (ping true).newLead new 0 with uuid := 7, postId := some "inprog:1" }
  have hpost := (LeadUpdate.frameLaw_iff_of_reaches _).mp hlaw ⟨rfl, nofun⟩ rfl
  exact absurd (Option.some_inj.mp hpost) (by decide)

/-- A lead that has won its ping. -/
def wonLead : Lead :=
  { (ping true).newLead new 0 with
    uuid := 7
    verticalData := .obj [("winning_bid", .num 50)] }

/-- An update that carries one key of its own, with the given status. -/
def timingUpdate (status : LeadStatus) : LeadUpdate :=
  { bareUpdate status 7 with
    soldAt := true
    verticalData := some (.obj [("auction_timing", .obj [])]) }

theorem timingUpdate_carriesObject (status : LeadStatus) :
    (timingUpdate status).CarriesObject := by
  intro data hdata
  exact ⟨_, (Option.some_inj.mp hdata).symm⟩

/-- A sold update without the winning bid drops it. -/
theorem sold_update_drops_winning_bid :
    HasObject wonLead ∧ (timingUpdate .sold).CarriesObject ∧
    ∃ r, run taskStep wonLead [(0, timingUpdate .sold)] = some r ∧
      (wonLead.verticalData.get "winning_bid").isSome = true ∧
      (r.verticalData.get "winning_bid").isSome = false ∧ ¬ KeepsKeys wonLead r := by
  have hlost : ∀ r, run taskStep wonLead [(0, timingUpdate .sold)] = some r →
      (r.verticalData.get "winning_bid").isSome = false := by
    intro r hr
    obtain rfl := Option.some_inj.mp hr
    decide
  refine ⟨⟨_, rfl⟩, timingUpdate_carriesObject .sold, _, rfl, by decide, hlost _ rfl, ?_⟩
  intro hkeeps
  have hkept := hkeeps "winning_bid" (by decide)
  rw [hlost _ rfl] at hkept
  cases hkept

/-- Updates of a lead that is not sold keep the winning bid, and add to it. -/
theorem standard_updates_keep_winning_bid :
    ∃ r, run taskStep wonLead [(0, timingUpdate .pingAccepted), (1, timingUpdate .rejected)] =
      some r ∧ KeepsKeys wonLead r := by
  have hcarries : ∀ a ∈ [(0, timingUpdate .pingAccepted), (1, timingUpdate .rejected)],
      LeadUpdate.CarriesObject a.2 := by
    intro a ha
    rcases List.mem_cons.mp ha with rfl | ha
    · exact timingUpdate_carriesObject .pingAccepted
    · obtain rfl := List.mem_singleton.mp ha
      exact timingUpdate_carriesObject .rejected
  have hgood : Along taskStep (fun r a => ¬ LeadUpdate.ReplacesKeys a.2 r) wonLead
      [(0, timingUpdate .pingAccepted), (1, timingUpdate .rejected)] :=
    ⟨fun h => absurd h.1 (by decide), fun h => absurd h.1 (by decide), trivial⟩
  have hobj : HasObject wonLead := ⟨_, rfl⟩
  obtain ⟨-, hgrows⟩ := vertical_data_grows_iff hobj hcarries
  exact ⟨_, rfl, hgrows hgood _ [] _ (List.append_nil _).symm rfl⟩

end LeadsNebula
