/-
The handlers of buyers and rule sets keep to the instance of the user, for requests
that name no buyer and no rule set of another instance.
-/
import LeadsNebula.TenantStatements

namespace LeadsNebula

namespace Dashboard

open DbPart

variable {cfg : DashConfig} {env : DashEnv} {user : User} {i : Uuid} {db : Db}

/-! ### Buyers -/

/-- No other instance has an integration. -/
theorem free_buyerIntegrations (p : BuyerIntegration → Bool) :
    Free (others i db) .buyerIntegrations p :=
  free_of_foreign_eq_false fun _ _ => rfl

theorem free_buyers_of_instance {p : Buyer → Bool} (hp : ∀ b, p b = true → b.instanceId = i) :
    Free (others i db) .buyers p := by
  refine free_of_foreign_eq_false fun b hb => ?_
  simp [Foreign, hp b hb]

theorem owned_buyer {b : Buyer} (h : (partOf i db).Owned .buyers b) : b.instanceId = i := by
  simpa [partOf, Foreign] using h.foreign

theorem Free.liveBuyer {F : Db} {id : Uuid} (h : Free F .buyers fun b => b.id = id) :
    Free F .buyers (liveBuyer id) :=
  h.mono fun _ hb => decide_eq_true (of_decide_eq_true hb).1

theorem confined_listBuyers (hu : Free (others i db) .instances (isInstanceOf user)) :
    (partOf i db).Confined (listBuyers cfg env user) fun _ => True := by
  refine Confined.bind (confined_requireInstance hu 0) fun id hid => ?_
  subst hid
  refine Confined.bind (confined_fetchAll (free_buyers_of_instance ?_)) fun active _ => ?_
  · exact fun b hb => (of_decide_eq_true hb).1
  refine Confined.bind (confined_fetchAll (free_buyers_of_instance ?_)) fun deleted _ => ?_
  · exact fun b hb => (of_decide_eq_true hb).1
  exact Confined.bind (confined_fetchAllOrNone (free_verticals _)) fun _ _ => Confined.pure trivial

theorem confined_pulsarIntegration (v : Vertical) :
    (partOf i db).Confined (pulsarIntegration env v) fun _ => True := by
  refine Confined.bind (confined_fetchOrNone (free_buyerIntegrations _)) fun found _ => ?_
  split
  · exact Confined.pure trivial
  refine Confined.bind (Q := fun _ => True) (Confined.attempt ?_ trivial) fun _ _ =>
    Confined.pure trivial
  refine Confined.bind (confined_present (free_buyerIntegrations _)) fun taken _ => ?_
  refine Confined.whenever fun _ => ?_
  exact Confined.bind (confined_insert rfl (free_buyerIntegrations _) trivial) fun _ _ =>
    Confined.pure trivial

theorem confined_selectPulsar {id : Uuid} (hid : Free (others i db) .buyers fun b => b.id = id)
    (verticalId : Uuid) :
    (partOf i db).Confined (selectPulsar env id verticalId) fun _ => True := by
  refine Confined.bind (confined_fetchOrNone (free_verticals _)) fun vertical _ => ?_
  refine Confined.ifSome fun v _ => ?_
  refine Confined.bind (confined_pulsarIntegration v) fun pulsarId _ => ?_
  exact Confined.attempt (confined_update hid fun b hb => ⟨hb.foreign, hb.ok⟩) trivial

theorem confined_createBuyer (hu : Free (others i db) .instances (isInstanceOf user))
    (hd : FreshDraws cfg (others i db) env) {req : CreateBuyerRequest}
    (hi : SaysInstance i req.instanceId) :
    (partOf i db).Confined (createBuyer env user req) fun _ => True := by
  refine Confined.bind (confined_targetInstance hu 0 hi) fun id hid => ?_
  subst hid
  split
  · exact Confined.pure trivial
  refine Confined.bind (confined_fetchOptional (free_buyers_of_instance ?_)) fun existing _ => ?_
  · exact fun b hb => (of_decide_eq_true hb).1
  split
  · exact Confined.pure trivial
  have hfresh := hd.id 0
  refine Confined.bind (Confined.stmt (confined_insert ?_ hfresh.buyers hfresh.buyerOf))
    fun inserted _ => ?_
  · simp [Foreign, CreateBuyerRequest.row]
  refine Confined.bind confined_stopWhen fun _ _ => ?_
  refine Confined.bind (Confined.ifSome fun v _ => confined_selectPulsar hfresh.buyers v)
    fun _ _ => ?_
  refine Confined.bind (confined_fetchOrNone hfresh.buyers) fun created _ => ?_
  refine Confined.bind (confined_createAuditLog (hd.id 1) ?_) fun _ _ => Confined.pure trivial
  exact fun j hj => (Option.some_inj.mp hj).symm

theorem confined_getBuyer {id : Uuid} (h : Free (others i db) .buyers fun b => b.id = id) :
    (partOf i db).Confined (getBuyer cfg env id) fun _ => True := by
  refine Confined.bind (confined_fetchOptional h) fun o ho => ?_
  refine Confined.bind (Confined.orStop ho) fun b _ => ?_
  refine Confined.bind (confined_fetchOrNone (free_verticals _)) fun _ _ => ?_
  exact Confined.bind (confined_fetchOrNone (free_buyerIntegrations _)) fun _ _ =>
    Confined.pure trivial

theorem confined_updateBuyer (hd : FreshDraws cfg (others i db) env) {id : Uuid} {payload : Json}
    (h : Free (others i db) .buyers fun b => b.id = id) :
    (partOf i db).Confined (updateBuyer cfg env user id payload) fun _ => True := by
  refine Confined.bind (confined_fetchOptional h) fun found _ => ?_
  refine Confined.bind confined_stopWhen fun _ _ => ?_
  refine Confined.bind (confined_fetchOptional h.liveBuyer) fun before hbefore => ?_
  dsimp only
  split
  · exact Confined.pure trivial
  split
  · exact Confined.pure trivial
  refine Confined.bind (Confined.stmt (confined_update h.liveBuyer
    fun b hb => ⟨hb.foreign, hb.ok⟩)) fun _ _ => ?_
  refine Confined.bind (confined_createAuditLog (hd.id 1) ?_) fun _ _ => Confined.pure trivial
  -- the log is put in the instance of the buyer, if there is one
  intro j hj
  obtain ⟨b, hb, rfl⟩ := Option.mem_map.mp hj
  exact owned_buyer (hbefore b hb).1

theorem confined_deleteBuyer (hd : FreshDraws cfg (others i db) env) {id : Uuid}
    (h : Free (others i db) .buyers (liveBuyer id)) :
    (partOf i db).Confined (deleteBuyer env id) fun _ => True := by
  refine Confined.bind (confined_fetchOptional h) fun o ho => ?_
  refine Confined.bind (Confined.orStop ho) fun b hb => ?_
  have hid : b.id = id := (of_decide_eq_true hb.2).1
  subst hid
  -- no campaign of another instance has the buyer
  refine Confined.bind (confined_fetchAllOrNone hb.1.ok) fun affected _ => ?_
  refine Confined.bind (Confined.stmt (confined_update (Owned.free_key hb.1)
    fun b hb => ⟨hb.foreign, hb.ok⟩)) fun _ _ => ?_
  refine Confined.bind (confined_createAuditLog (hd.id 1) ?_) fun _ _ => Confined.pure trivial
  intro j hj
  rw [← Option.some_inj.mp hj]
  exact owned_buyer hb.1

/-! ### ZIP codes -/

theorem free_zipLists {buyerId : Uuid} {p : ZipList → Bool}
    (h : foreignBuyer i db buyerId = false) (hp : ∀ l, p l = true → l.buyerId = buyerId) :
    Free (others i db) .buyerZipLists p :=
  free_of_foreign_eq_false fun l hl => (congrArg (foreignBuyer i db) (hp l hl)).trans h

theorem free_zipCodes {listId : Uuid} {p : ZipCode → Bool}
    (h : foreignZipList i db listId = false) (hp : ∀ c, p c = true → c.buyerZipListId = listId) :
    Free (others i db) .buyerZipCodes p :=
  free_of_foreign_eq_false fun c hc => (congrArg (foreignZipList i db) (hp c hc)).trans h

theorem owned_zipList {l : ZipList} (h : (partOf i db).Owned .buyerZipLists l) :
    foreignZipList i db l.id = false := foreignZipList_eq_false.mpr (Owned.free_key h)

theorem confined_findOrCreateZipList (hd : FreshDraws cfg (others i db) env) {n : ℕ}
    {buyerId : Uuid} (hb : foreignBuyer i db buyerId = false) (listType : ListType) :
    (partOf i db).Confined (findOrCreateZipList env n buyerId listType)
      fun o => ∀ id ∈ o, foreignZipList i db id = false := by
  have hnone : ∀ id ∈ (none : Option Uuid), foreignZipList i db id = false :=
    fun _ h => (by cases h)
  refine Confined.bind (Q := fun o => ∀ lists ∈ o, ∀ l ∈ lists,
    (partOf i db).Owned .buyerZipLists l)
    (Confined.attempt (Confined.bind (confined_rows (free_zipLists hb ?_)) ?_)
      (fun _ h => (by cases h))) fun o ho => ?_
  · exact fun l hl => (of_decide_eq_true hl).1
  · intro lists hlists
    refine Confined.pure fun lists' h l hl => ?_
    cases h
    exact (hlists l hl).1
  -- the lists of a buyer that is not foreign are not foreign
  split
  · exact Confined.pure hnone
  next lists =>
  split
  · next l hl =>
    refine Confined.pure fun id hid => ?_
    cases hid
    exact owned_zipList (ho lists rfl l (List.mem_mergeSort.mp (List.mem_of_mem_head? hl)))
  · -- a new list is of this buyer, under an id that nobody has
    have hfresh := hd.id (2 + listType.place)
    refine Confined.bind (Confined.attempt (confined_insert hb hfresh.zipLists trivial) trivial)
      fun inserted _ => Confined.pure ?_
    intro id hid
    split at hid
    · cases hid
      exact foreignZipList_eq_false.mpr hfresh.zipLists
    · exact hnone id hid

theorem confined_insertZipCodes {n : ℕ} {listId : Uuid} (h : foreignZipList i db listId = false)
    (existing : List String) (zips : List Json) :
    (partOf i db).Confined (insertZipCodes env n listId existing zips) fun _ => True := by
  refine Confined.bind (Confined.collect (R := fun _ => True) fun z _ => ?_) fun _ _ =>
    Confined.pure trivial
  refine Confined.attempt (Confined.bind (confined_insert h ?_ trivial) fun _ _ =>
    Confined.pure trivial) trivial
  exact free_zipCodes h fun c hc => congrArg Prod.fst (of_decide_eq_true hc)

theorem confined_storeZipCodes (hd : FreshDraws cfg (others i db) env) {buyerId : Uuid}
    (hb : foreignBuyer i db buyerId = false) (listType : ListType) (config : Json) :
    (partOf i db).Confined (storeZipCodes env buyerId listType config) fun _ => True := by
  unfold storeZipCodes
  dsimp only
  split
  · refine Confined.bind (confined_findOrCreateZipList hd hb listType) fun o ho => ?_
    split
    · exact Confined.pure trivial
    next listId =>
    refine Confined.bind (Q := fun _ => True) (Confined.attempt (Confined.bind
      (confined_rows (free_zipCodes (ho listId rfl) ?_)) fun _ _ => Confined.pure trivial) trivial)
      fun codes _ => ?_
    · exact fun c hc => of_decide_eq_true hc
    split
    · exact Confined.pure trivial
    exact Confined.bind (confined_insertZipCodes (ho listId rfl) _ _) fun _ _ =>
      Confined.pure trivial
  · exact Confined.pure trivial

theorem confined_extractAndStoreZipCodes (hd : FreshDraws cfg (others i db) env) {buyerId : Uuid}
    (hb : foreignBuyer i db buyerId = false) (config : Json) :
    (partOf i db).Confined (extractAndStoreZipCodes env buyerId config) fun _ => True := by
  refine Confined.bind (confined_storeZipCodes hd hb .blacklist config) fun cleaned _ => ?_
  split
  · exact Confined.pure trivial
  · exact Confined.bind (confined_storeZipCodes hd hb .whitelist _) fun _ _ => Confined.pure trivial

theorem confined_loadZipCodesFromTables {n : ℕ} {buyerId : Uuid}
    (hb : foreignBuyer i db buyerId = false) :
    (partOf i db).Confined (loadZipCodesFromTables env n buyerId) fun _ => True := by
  refine Confined.attempt ?_ trivial
  refine Confined.bind (confined_rows (free_zipLists hb ?_)) fun lists hlists => ?_
  · exact fun l hl => of_decide_eq_true hl
  refine Confined.bind (confined_rows (free_of_foreign_eq_false ?_)) fun _ _ =>
    Confined.pure trivial
  intro c hc
  obtain ⟨l, hl, hid⟩ := List.mem_map.mp (of_decide_eq_true hc)
  exact (congrArg _ hid.symm).trans (owned_zipList (hlists l hl).1)

/-! ### Rule sets -/

theorem free_ruleSets {buyerId : Uuid} {p : RuleSet → Bool}
    (h : foreignBuyer i db buyerId = false) (hp : ∀ r, p r = true → r.buyerId = buyerId) :
    Free (others i db) .buyerQualificationConfigs p :=
  free_of_foreign_eq_false fun r hr => (congrArg (foreignBuyer i db) (hp r hr)).trans h

theorem confined_instanceOfBuyer {n : ℕ} {buyerId : Uuid}
    (hb : foreignBuyer i db buyerId = false) :
    (partOf i db).Confined (instanceOfBuyer env n buyerId) fun o => ∀ j ∈ o, j = i := by
  refine Confined.bind (confined_fetchOrNone (foreignBuyer_eq_false.mp hb)) fun o ho =>
    Confined.pure ?_
  intro j hj
  obtain ⟨b, hb, rfl⟩ := Option.mem_map.mp hj
  exact owned_buyer (ho b hb).1

theorem confined_ruleSetNameTaken {r : RuleSet} (hb : foreignBuyer i db r.buyerId = false) :
    (partOf i db).Confined (ruleSetNameTaken r) fun _ => True :=
  confined_present (free_ruleSets hb fun _ hr => (of_decide_eq_true hr).1)

theorem confined_deactivateRuleSets {p : RuleSet → Bool}
    (h : Free (others i db) .buyerQualificationConfigs p) :
    (partOf i db).Confined (deactivateRuleSets p) fun _ => True :=
  confined_update h fun _ hr => ⟨hr.foreign, trivial⟩

theorem confined_listBuyerRuleSets {buyerId : Uuid}
    (h : Free (others i db) .buyers fun b => b.id = buyerId) :
    (partOf i db).Confined (listBuyerRuleSets cfg env buyerId) fun _ => True := by
  have hb := foreignBuyer_eq_false.mpr h
  refine Confined.bind (confined_fetchAll (free_ruleSets hb ?_)) fun ruleSets _ => ?_
  · exact fun r hr => of_decide_eq_true hr
  exact Confined.bind (confined_loadZipCodesFromTables hb) fun _ _ => Confined.pure trivial

/-- The buyer of a rule set of the instance. -/
theorem owned_ruleSet {buyerId id : Uuid} {r : RuleSet}
    (h : (partOf i db).Owned .buyerQualificationConfigs r ∧ isRuleSet buyerId id r = true) :
    foreignBuyer i db buyerId = false := by
  have hb : r.buyerId = buyerId := (of_decide_eq_true h.2).2
  rw [← hb]
  exact h.1.foreign

theorem confined_getBuyerRuleSet {buyerId id : Uuid}
    (h : Free (others i db) .buyerQualificationConfigs (isRuleSet buyerId id)) :
    (partOf i db).Confined (getBuyerRuleSet cfg env buyerId id) fun _ => True := by
  refine Confined.bind (confined_fetchOptional h) fun o ho => ?_
  refine Confined.bind (Confined.orStop ho) fun r hr => ?_
  exact Confined.bind (confined_loadZipCodesFromTables (owned_ruleSet hr)) fun _ _ =>
    Confined.pure trivial

theorem confined_createBuyerRuleSet (hd : FreshDraws cfg (others i db) env) {buyerId : Uuid}
    {req : CreateRuleSetRequest} (h : Free (others i db) .buyers (liveBuyer buyerId)) :
    (partOf i db).Confined (createBuyerRuleSet env buyerId req) fun _ => True := by
  refine Confined.bind (confined_fetchOptional h) fun o ho => ?_
  refine Confined.bind (Confined.orStop ho) fun b hb => ?_
  refine Confined.bind (Confined.orStop (Q := fun _ => True) fun _ _ => trivial)
    fun verticalId _ => ?_
  have hid : b.id = buyerId := (of_decide_eq_true hb.2).1
  subst hid
  have hbuyer : foreignBuyer i db b.id = false := foreignBuyer_eq_false.mpr (Owned.free_key hb.1)
  refine Confined.bind (Confined.whenever fun _ => Confined.stmt (confined_deactivateRuleSets
    (free_ruleSets hbuyer ?_))) fun _ _ => ?_
  · exact fun r hr => of_decide_eq_true hr
  refine Confined.bind (confined_extractAndStoreZipCodes hd hbuyer _) fun config _ => ?_
  refine Confined.bind (Confined.stmt (confined_ruleSetNameTaken hbuyer)) fun taken _ => ?_
  refine Confined.bind (confined_present (free_verticals _)) fun hasVertical _ => ?_
  refine Confined.bind confined_stopWhen fun _ _ => ?_
  refine Confined.bind (confined_insert hbuyer (hd.id 0).ruleSets trivial) fun inserted _ => ?_
  refine Confined.bind confined_stopWhen fun _ _ => ?_
  refine Confined.bind (confined_instanceOfBuyer hbuyer) fun instanceId hinstance => ?_
  exact Confined.bind (confined_createAuditLog (hd.id 1) hinstance) fun _ _ => Confined.pure trivial

theorem confined_extractConfig (hd : FreshDraws cfg (others i db) env) {buyerId : Uuid}
    (hb : foreignBuyer i db buyerId = false) (config : Option Json) :
    (partOf i db).Confined (extractConfig env buyerId config) fun _ => True := by
  cases config with
  | none => exact Confined.pure trivial
  | some config =>
    exact Confined.bind (confined_extractAndStoreZipCodes hd hb config) fun _ _ =>
      Confined.pure trivial

theorem confined_updateBuyerRuleSet (hd : FreshDraws cfg (others i db) env) {buyerId id : Uuid}
    {payload : Json} (h : Free (others i db) .buyerQualificationConfigs (isRuleSet buyerId id)) :
    (partOf i db).Confined (updateBuyerRuleSet cfg env user buyerId id payload) fun _ => True := by
  refine Confined.bind (confined_fetchOptional h) fun o ho => ?_
  refine Confined.bind (Confined.orStop ho) fun before hbefore => ?_
  have hb := owned_ruleSet hbefore
  refine Confined.bind (confined_extractConfig hd hb _) fun config _ => ?_
  refine Confined.bind (Confined.whenever fun _ => Confined.stmt (confined_deactivateRuleSets
    (free_ruleSets hb ?_))) fun _ _ => ?_
  · exact fun r hr => (of_decide_eq_true hr).1
  split
  · exact Confined.pure trivial
  refine Confined.bind (Confined.stmt (confined_ruleSetNameTaken hbefore.1.foreign))
    fun taken _ => ?_
  refine Confined.bind confined_stopWhen fun _ _ => ?_
  refine Confined.bind (confined_update h fun r hr => ⟨hr.foreign, trivial⟩) fun _ _ => ?_
  refine Confined.bind (confined_instanceOfBuyer hb) fun instanceId hinstance => ?_
  refine Confined.bind (confined_fetchOrNone h) fun after _ => ?_
  exact Confined.bind (confined_createAuditLog (hd.id 1) hinstance) fun _ _ => Confined.pure trivial

theorem confined_deleteBuyerRuleSet (hd : FreshDraws cfg (others i db) env) {buyerId id : Uuid}
    (h : Free (others i db) .buyerQualificationConfigs (isRuleSet buyerId id)) :
    (partOf i db).Confined (deleteBuyerRuleSet env buyerId id) fun _ => True := by
  refine Confined.bind (confined_fetchOptional h) fun before _ => ?_
  refine Confined.bind (confined_fetchAll h) fun deleted hdeleted => ?_
  refine Confined.bind (confined_delete h) fun _ _ => ?_
  refine Confined.bind confined_stopWhen fun _ hne => ?_
  -- a rule set that was deleted tells that the buyer is of the instance
  obtain ⟨r, hr⟩ := List.exists_mem_of_ne_nil deleted (by simpa using hne)
  refine Confined.bind (confined_instanceOfBuyer (owned_ruleSet (hdeleted r hr)))
    fun instanceId hinstance => ?_
  exact Confined.bind (confined_createAuditLog (hd.id 1) hinstance) fun _ _ => Confined.pure trivial

end Dashboard

end LeadsNebula
