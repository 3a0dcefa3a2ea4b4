/-
What the requests of the dashboard do to the rows that the router reads.

An `Edit` is what one statement does to the publishers, the campaigns, the ping trees,
and the campaigns and publishers of a ping tree, or to the other tables; it says what
the handler has checked before.

* `chains_handle` — every request is a chain of edits, whichever of its statements fail;
* `edits_run` — what every edit keeps, holds after every sequence of requests.
-/
import LeadsNebula.ActiveCampaigns
import LeadsNebula.DatabaseEffects

namespace LeadsNebula

namespace Dashboard

open Prog Database

/-! ### Edits -/

/-- The tables that an edit says something about. -/
def routed : Relation → Bool
  | .publishers | .campaigns | .pingTrees | .pingTreeCampaigns | .pingTreePublishers => true
  | _ => false

/-- What a statement does. -/
inductive Edit (s s' : Db) : Prop where
  | other (h : ∀ t, routed t = true → s' t = s t)
  /-- A publisher with a new key. -/
  | newPublisher (r : Publisher)
    (hfree : ((s .publishers).rows.any fun r' => r'.apiKeyHash = r.apiKeyHash) = false)
    (hrows : (s' .publishers).rows = (s .publishers).rows ++ [r]) (hothers : Only .publishers s s')
  /-- Publishers keep their ids and keys. -/
  | editPublishers (p : Publisher → Bool) (f : Publisher → Publisher)
    (hf : ∀ r, ((f r).id, (f r).apiKeyHash) = (r.id, r.apiKeyHash))
    (hrows : (s' .publishers).rows = (s .publishers).rows.map fun r => if p r then f r else r)
    (hothers : Only .publishers s s')
  /-- A live publisher gets a key that no other publisher has. -/
  | rekeyPublisher (id : Uuid) (hash : String) (f : Publisher → Publisher)
    (hf : ∀ r, ((f r).id, (f r).apiKeyHash) = (r.id, hash))
    (hfree : ((s .publishers).rows.any fun r => r.id ≠ id ∧ r.apiKeyHash = hash) = false)
    (hrows : (s' .publishers).rows =
      (s .publishers).rows.map fun r => if livePublisher id r then f r else r)
    (hothers : Only .publishers s s')
  /-- A campaign with a new token. -/
  | newCampaign (c : Campaign)
    (hfree : ((s .campaigns).rows.any fun c' => c'.campaignToken = c.campaignToken) = false)
    (hrows : (s' .campaigns).rows = (s .campaigns).rows ++ [c]) (hothers : Only .campaigns s s')
  /-- Campaigns keep their ids and tokens. -/
  | editCampaigns (p : Campaign → Bool) (f : Campaign → Campaign)
    (hf : ∀ c, ((f c).id, (f c).campaignToken) = (c.id, c.campaignToken))
    (hrows : (s' .campaigns).rows = (s .campaigns).rows.map fun c => if p c then f c else c)
    (hothers : Only .campaigns s s')
  | newPingTree (t : PingTree) (hlive : t.deletedAt = none)
    (hrows : (s' .pingTrees).rows = (s .pingTrees).rows ++ [t]) (hothers : Only .pingTrees s s')
  /-- Ping trees keep their ids and verticals, and no one is undeleted. -/
  | editPingTrees (p : PingTree → Bool) (f : PingTree → PingTree)
    (hf : ∀ t, ((f t).id, (f t).vertical) = (t.id, t.vertical))
    (hdeleted : ∀ t, t.deletedAt.isSome = true → (f t).deletedAt.isSome = true)
    (hrows : (s' .pingTrees).rows = (s .pingTrees).rows.map fun t => if p t then f t else t)
    (hothers : Only .pingTrees s s')
  /-- A campaign that is not in the ping tree is put in it. -/
  | link (l : PingTreeCampaign)
    (htree : ((s .pingTrees).rows.any fun t => t.id = l.pingTreeId) = true)
    (hcampaign : ((s .campaigns).rows.any fun c => c.id = l.campaignId) = true)
    (hfree : ((s .pingTreeCampaigns).rows.any fun l' =>
      l'.pingTreeId = l.pingTreeId ∧ l'.campaignId = l.campaignId) = false)
    (hrows : (s' .pingTreeCampaigns).rows = (s .pingTreeCampaigns).rows ++ [l])
    (hothers : Only .pingTreeCampaigns s s')
  | relink (p : PingTreeCampaign → Bool) (f : PingTreeCampaign → PingTreeCampaign)
    (hf : ∀ l, ((f l).pingTreeId, (f l).campaignId) = (l.pingTreeId, l.campaignId))
    (hrows : (s' .pingTreeCampaigns).rows =
      (s .pingTreeCampaigns).rows.map fun l => if p l then f l else l)
    (hothers : Only .pingTreeCampaigns s s')
  | unlink (p : PingTreeCampaign → Bool)
    (hrows : (s' .pingTreeCampaigns).rows = (s .pingTreeCampaigns).rows.filter fun l => !p l)
    (hothers : Only .pingTreeCampaigns s s')
  /-- A publisher that has no ping tree of the vertical gets a live one. -/
  | assign (a : PingTreePublisher) (t : PingTree) (r : Publisher) (ht : t ∈ (s .pingTrees).rows)
    (hlive : t.deletedAt = none) (htree : (a.pingTreeId, a.vertical) = (t.id, t.vertical))
    (hr : r ∈ (s .publishers).rows) (hpublisher : a.publisherId = r.id)
    (hfree : ((s .pingTreePublishers).rows.any fun a' => a'.publisherId = a.publisherId ∧
      (a'.vertical = a.vertical ∨ a'.pingTreeId = a.pingTreeId)) = false)
    (hrows : (s' .pingTreePublishers).rows = (s .pingTreePublishers).rows ++ [a])
    (hothers : Only .pingTreePublishers s s')
  | reassign (p : PingTreePublisher → Bool) (f : PingTreePublisher → PingTreePublisher)
    (hf : ∀ a, ((f a).pingTreeId, (f a).publisherId, (f a).vertical) =
      (a.pingTreeId, a.publisherId, a.vertical))
    (hrows : (s' .pingTreePublishers).rows =
      (s .pingTreePublishers).rows.map fun a => if p a then f a else a)
    (hothers : Only .pingTreePublishers s s')
  /-- A publisher is taken from a live ping tree. -/
  | unassign (t : PingTree) (publisherId : Uuid) (ht : t ∈ (s .pingTrees).rows)
    (hlive : t.deletedAt = none)
    (hrows : (s' .pingTreePublishers).rows =
      (s .pingTreePublishers).rows.filter fun a =>
        !decide (a.pingTreeId = t.id ∧ a.publisherId = publisherId))
    (hothers : Only .pingTreePublishers s s')

/-! ### Statements -/

section

variable {t : Relation} {p : Row t → Bool} {r : Row t} {n : ℕ} (env : DashEnv)

theorem chains_fetchAll : Chains Edit (fetchAll env n t p) := .stmt _ _ (chains_rows t p)

theorem chains_fetchAllOrNone : Chains Edit (fetchAllOrNone env n t p) :=
    .attempt _ _ (chains_rows t p)

theorem chains_fetchOptional : Chains Edit (fetchOptional env n t p) := .stmt _ _ (chains_first t p)

theorem chains_fetchOrNone : Chains Edit (fetchOrNone env n t p) := .attempt _ _ (chains_first t p)

theorem Edit.of_only {s s' : Db} (ht : routed t = false) (h : Only t s s') : Edit s s' := by
  refine .other fun t' ht' => h t' ?_
  rintro rfl
  rw [ht] at ht'
  cases ht'

/-- A row of another table. -/
theorem chains_insert_other (ht : routed t = false) :
    Chains Edit (Database.insert t r : Handler Bool) := chains_insert fun _ _ _ h => .of_only ht h

theorem chains_update_other {f : Row t → Row t} {hf : ∀ r, key t (f r) = key t r}
    (ht : routed t = false) : Chains Edit (Database.update t p f hf : Handler Unit) :=
  chains_update fun _ _ _ h => .of_only ht h

theorem chains_delete_other (ht : routed t = false) :
    Chains Edit (Database.delete t p : Handler Unit) := chains_delete fun _ _ _ h => .of_only ht h

theorem chains_update_publishers {p : Publisher → Bool} {f : Publisher → Publisher}
    {hf : ∀ r, key .publishers (f r) = key .publishers r}
    (h : ∀ r, ((f r).id, (f r).apiKeyHash) = (r.id, r.apiKeyHash)) :
    Chains Edit (Database.update .publishers p f hf : Handler Unit) :=
  chains_update fun _ _ hrows hothers => .editPublishers p f h hrows hothers

theorem chains_update_campaigns {p : Campaign → Bool} {f : Campaign → Campaign}
    {hf : ∀ r, key .campaigns (f r) = key .campaigns r}
    (h : ∀ c, ((f c).id, (f c).campaignToken) = (c.id, c.campaignToken)) :
    Chains Edit (Database.update .campaigns p f hf : Handler Unit) :=
  chains_update fun _ _ hrows hothers => .editCampaigns p f h hrows hothers

theorem chains_update_pingTrees {p : PingTree → Bool} {f : PingTree → PingTree}
    {hf : ∀ r, key .pingTrees (f r) = key .pingTrees r}
    (h : ∀ t, ((f t).id, (f t).vertical) = (t.id, t.vertical))
    (hdeleted : ∀ t, t.deletedAt.isSome = true → (f t).deletedAt.isSome = true) :
    Chains Edit (Database.update .pingTrees p f hf : Handler Unit) :=
  chains_update fun _ _ hrows hothers => .editPingTrees p f h hdeleted hrows hothers

theorem chains_update_pingTreePublishers {p : PingTreePublisher → Bool}
    {f : PingTreePublisher → PingTreePublisher}
    {hf : ∀ r, key .pingTreePublishers (f r) = key .pingTreePublishers r}
    (h : ∀ a, ((f a).pingTreeId, (f a).publisherId, (f a).vertical) =
      (a.pingTreeId, a.publisherId, a.vertical)) :
    Chains Edit (Database.update .pingTreePublishers p f hf : Handler Unit) :=
  chains_update fun _ _ hrows hothers => .reassign p f h hrows hothers

theorem chains_getInstanceIdForUser (user : User) : Chains Edit (getInstanceIdForUser env n user) :=
  .bind (chains_fetchOptional env) fun _ => .pure _

theorem chains_requireInstance (user : User) : Chains Edit (requireInstance env n user) :=
  .bind (chains_getInstanceIdForUser env user) fun _ => .orStop _ _

theorem chains_targetInstance (user : User) (id : Option Uuid) :
    Chains Edit (targetInstance env n user id) := by
  cases id with
  | some id => exact .pure id
  | none => exact chains_requireInstance env user

theorem chains_createAuditLog (log : AuditLog) : Chains Edit (createAuditLog env n log) :=
  .attempt _ _ (.bind (chains_insert_other rfl) fun _ => .pure ())

end

/-! ### Publishers -/

section

variable (cfg : DashConfig) (env : DashEnv) (user : User) (id : Uuid)

theorem chains_logPublisher (n : ℕ) (actionType : String) (details : Json) :
    Chains Edit (logPublisher env n user actionType id details) :=
  .bind (chains_fetchOrNone env) fun _ => chains_createAuditLog env _

theorem chains_listPublishers : Chains Edit (listPublishers cfg env user) := by
  refine .bind (chains_requireInstance env user) fun instanceId => ?_
  refine .bind (chains_fetchAll env) fun publishers => ?_
  refine .bind (.attempt _ _ (chains_fetchAll env)) fun links => ?_
  exact .bind (chains_rows _ _) fun verticals => .pure _

theorem chains_insertPublisherVerticals (verticalIds : List Uuid) :
    Chains Edit (insertPublisherVerticals env id verticalIds) := by
  refine .bind (.collect (fun v => .attempt _ _ ?_) _) fun _ => .pure ()
  refine .bind (chains_present _ _) fun found => .whenever _ ?_
  exact .bind (chains_insert_other rfl) fun _ => .pure ()

/-- The new key is no key of another publisher. -/
theorem chains_createPublisher (req : CreatePublisherRequest) :
    Chains Edit (createPublisher cfg env user req) := by
  refine .bind (chains_targetInstance env user _) fun instanceId => ?_
  refine .bind (.orStop _ _) fun encrypted => ?_
  refine .bind (.stmt _ _ (chains_present _ _)) fun taken => ?_
  split
  · exact .pure _
  · refine .of_triple fun s₀ => Triple.bind (Triple.stmt Triple.present fun _ _ hs => hs ▸ .refl)
      fun hashTaken => ?_
    cases hashTaken with
    | true => exact Triple.pure fun s hs => hs.1 ▸ .refl
    | false =>
      refine Triple.bind (Triple.insert (R := fun _ => Relation.ReflTransGen Edit s₀)
        (fun s hs => hs.1 ▸ .refl) fun s s' hs _ hrows hothers => ?_) fun inserted => ?_
      · obtain ⟨rfl, hfree⟩ := hs
        exact .single (.newPublisher _ hfree.symm hrows hothers)
      · refine Triple.bind (Triple.whenever (fun _ => Triple.stop fun _ hs => hs) fun _ _ hs => hs)
          fun _ => Chains.triple ?_ s₀
        refine .bind (chains_insertPublisherVerticals env _ _) fun _ => ?_
        exact .bind (chains_logPublisher env user _ _ _ _) fun _ => .pure _

theorem chains_getPublisher : Chains Edit (getPublisher cfg env id) := by
  refine .bind (chains_fetchOptional env) fun publisher => ?_
  refine .bind (.orStop _ _) fun r => ?_
  refine .bind (chains_fetchAllOrNone env) fun links => ?_
  exact .bind (chains_rows _ _) fun verticals => .pure _

theorem chains_updatePublisher (payload : UpdatePublisherRequest) :
    Chains Edit (updatePublisher cfg env user id payload) := by
  refine .bind (chains_fetchOptional env) fun publisher => ?_
  refine .bind (.orStop _ _) fun before => ?_
  refine .bind (.whenever _ (.stop _)) fun _ => ?_
  refine .bind (.stmt _ _ (chains_update_publishers fun _ => rfl)) fun _ => ?_
  refine .bind (chains_fetchOrNone env) fun after => ?_
  exact .bind (.ifSome _ fun _ => chains_logPublisher env user _ _ _ _) fun _ => .pure _

theorem chains_deletePublisher : Chains Edit (deletePublisher cfg env user id) := by
  refine .bind (chains_fetchOptional env) fun before => ?_
  refine .bind (.stmt _ _ (chains_update_publishers fun _ => rfl)) fun _ => ?_
  exact .bind (.ifSome _ fun _ => chains_logPublisher env user _ _ _ _) fun _ => .pure _

/-- The new key is no key of another publisher. -/
theorem chains_regeneratePublisherApiKey :
    Chains Edit (regeneratePublisherApiKey cfg env user id) := by
  refine .bind (chains_fetchOptional env) fun publisher => ?_
  refine .bind (.orStop _ _) fun r => ?_
  refine .bind (.orStop _ _) fun encrypted => ?_
  refine .of_triple fun s₀ => Triple.bind (Triple.stmt Triple.present fun _ _ hs => hs ▸ .refl)
    fun hashTaken => ?_
  refine Triple.bind (Triple.stopWhen fun _ _ hs => hs.1 ▸ .refl) fun _ => ?_
  refine Triple.bind (Triple.update (R := Relation.ReflTransGen Edit s₀)
    fun s s' hs hrows hothers => ?_)
    fun _ => Chains.triple (.bind (chains_logPublisher env user _ _ _ _) fun _ => .pure _) s₀
  obtain ⟨⟨rfl, hfree⟩, rfl⟩ := hs
  exact .single (.rekeyPublisher id _ _ (fun _ => rfl) hfree.symm hrows hothers)

theorem chains_getPublisherApiKey : Chains Edit (getPublisherApiKey cfg env user id) := by
  refine .bind (chains_fetchOptional env) fun publisher => ?_
  refine .bind (.orStop _ _) fun r => ?_
  refine .bind (.stmt _ _ (chains_present _ _)) fun isAdmin => ?_
  refine .bind (.whenever _ (.stop _)) fun _ => ?_
  split
  · exact .pure _
  · exact .bind (.orStop _ _) fun _ => .pure _

theorem chains_generatePublisherHmacSecretEncrypted :
    Chains Edit (generatePublisherHmacSecretEncrypted cfg env user id) := by
  refine .bind (chains_fetchOptional env) fun publisher => ?_
  refine .bind (.orStop _ _) fun r => ?_
  refine .bind (.stmt _ _ (chains_update_publishers fun _ => rfl)) fun _ => ?_
  exact .bind (chains_logPublisher env user _ _ _ _) fun _ => .pure _

theorem chains_getPublisherRevenueShare : Chains Edit (getPublisherRevenueShare cfg env id) := by
  refine .bind (chains_fetchOptional env) fun publisher => ?_
  refine .bind (.orStop _ _) fun _ => ?_
  refine .bind (chains_fetchAll env) fun assignments => ?_
  exact .bind (.collect (fun a => .bind (chains_fetchOrNone env) fun _ => .pure _) _)
    fun _ => .pure _

end

/-! ### Buyers and rule sets -/

section

variable (cfg : DashConfig) (env : DashEnv) (user : User) (id buyerId : Uuid)

theorem chains_listBuyers : Chains Edit (listBuyers cfg env user) := by
  refine .bind (chains_requireInstance env user) fun instanceId => ?_
  refine .bind (chains_fetchAll env) fun active => ?_
  refine .bind (chains_fetchAll env) fun deleted => ?_
  exact .bind (chains_fetchAllOrNone env) fun _ => .pure _

theorem chains_pulsarIntegration (v : Vertical) : Chains Edit (pulsarIntegration env v) := by
  refine .bind (chains_fetchOrNone env) fun found => ?_
  cases found with
  | some i => exact .pure _
  | none =>
    refine .bind (.attempt _ _ (.bind (chains_present _ _) fun taken => ?_)) fun _ => .pure _
    exact .whenever _ (.bind (chains_insert_other rfl) fun _ => .pure _)

theorem chains_selectPulsar (verticalId : Uuid) : Chains Edit (selectPulsar env id verticalId) := by
  refine .bind (chains_fetchOrNone env) fun vertical => .ifSome _ fun v => ?_
  exact .bind (chains_pulsarIntegration env v) fun _ =>
    .attempt _ _ (chains_update_other rfl)

theorem chains_createBuyer (req : CreateBuyerRequest) : Chains Edit (createBuyer env user req) := by
  refine .bind (chains_targetInstance env user _) fun instanceId => ?_
  cases req.invalid with
  | some error => exact .pure _
  | none =>
    refine .bind (chains_fetchOptional env) fun existing => ?_
    split
    · exact .pure _
    · refine .bind (.stmt _ _ (chains_insert_other rfl)) fun inserted => ?_
      refine .bind (.whenever _ (.stop _)) fun _ => ?_
      refine .bind (.ifSome _ fun _ => chains_selectPulsar env _ _) fun _ => ?_
      refine .bind (chains_fetchOrNone env) fun created => ?_
      exact .bind (chains_createAuditLog env _) fun _ => .pure _

theorem chains_getBuyer : Chains Edit (getBuyer cfg env id) := by
  refine .bind (chains_fetchOptional env) fun buyer => ?_
  refine .bind (.orStop _ _) fun b => ?_
  refine .bind (chains_fetchOrNone env) fun vertical => ?_
  exact .bind (chains_fetchOrNone env) fun integration => .pure _

theorem chains_updateBuyer (payload : Json) :
    Chains Edit (updateBuyer cfg env user id payload) := by
  refine .bind (chains_fetchOptional env) fun found => ?_
  refine .bind (.whenever _ (.stop _)) fun _ => ?_
  refine .bind (chains_fetchOptional env) fun before => ?_
  dsimp only
  split
  · exact .pure _
  · split
    · exact .pure _
    · refine .bind (.stmt _ _ (chains_update_other rfl)) fun _ => ?_
      exact .bind (chains_createAuditLog env _) fun _ => .pure _

theorem chains_deleteBuyer : Chains Edit (deleteBuyer env id) := by
  refine .bind (chains_fetchOptional env) fun buyer => ?_
  refine .bind (.orStop _ _) fun b => ?_
  refine .bind (chains_fetchAllOrNone env) fun affected => ?_
  refine .bind (.stmt _ _ (chains_update_other rfl)) fun _ => ?_
  exact .bind (chains_createAuditLog env _) fun _ => .pure _

theorem chains_loadZipCodesFromTables (n : ℕ) :
    Chains Edit (loadZipCodesFromTables env n buyerId) :=
  .attempt _ _ (.bind (chains_rows _ _) fun _ => .bind (chains_rows _ _) fun _ => .pure _)

theorem chains_findOrCreateZipList (n : ℕ) (listType : ListType) :
    Chains Edit (findOrCreateZipList env n buyerId listType) := by
  refine .bind (.attempt _ _ (.bind (chains_rows _ _) fun _ => .pure _)) fun lists => ?_
  cases lists with
  | none => exact .pure _
  | some lists =>
    dsimp only
    split
    · exact .pure _
    · exact .bind (.attempt _ _ (chains_insert_other rfl)) fun _ => .pure _

theorem chains_insertZipCodes (n : ℕ) (listId : Uuid) (existing : List String) (zips : List Json) :
    Chains Edit (insertZipCodes env n listId existing zips) := by
  refine .bind (.collect (fun z => .attempt _ _ ?_) _) fun _ => .pure _
  exact .bind (chains_insert_other rfl) fun _ => .pure _

theorem chains_storeZipCodes (listType : ListType) (config : Json) :
    Chains Edit (storeZipCodes env buyerId listType config) := by
  unfold storeZipCodes
  dsimp only
  split
  · refine .bind (chains_findOrCreateZipList env buyerId _ listType) fun listId => ?_
    cases listId with
    | none => exact .pure _
    | some listId =>
      refine .bind (.attempt _ _ (.bind (chains_rows _ _) fun _ => .pure _)) fun codes => ?_
      cases codes with
      | none => exact .pure _
      | some codes => exact .bind (chains_insertZipCodes env _ listId _ _) fun _ => .pure _
  · exact .pure _

theorem chains_extractAndStoreZipCodes (config : Json) :
    Chains Edit (extractAndStoreZipCodes env buyerId config) := by
  refine .bind (chains_storeZipCodes env buyerId _ config) fun cleaned => ?_
  cases cleaned with
  | none => exact .pure _
  | some config => exact .bind (chains_storeZipCodes env buyerId _ config) fun _ => .pure _

theorem chains_listBuyerRuleSets : Chains Edit (listBuyerRuleSets cfg env buyerId) := by
  refine .bind (chains_fetchAll env) fun ruleSets => ?_
  exact .bind (chains_loadZipCodesFromTables env buyerId 1) fun _ => .pure _

theorem chains_getBuyerRuleSet : Chains Edit (getBuyerRuleSet cfg env buyerId id) := by
  refine .bind (chains_fetchOptional env) fun ruleSet => ?_
  refine .bind (.orStop _ _) fun r => ?_
  exact .bind (chains_loadZipCodesFromTables env buyerId 1) fun _ => .pure _

theorem chains_instanceOfBuyer (n : ℕ) : Chains Edit (instanceOfBuyer env n buyerId) :=
  .bind (chains_fetchOrNone env) fun _ => .pure _

theorem chains_createBuyerRuleSet (req : CreateRuleSetRequest) :
    Chains Edit (createBuyerRuleSet env buyerId req) := by
  refine .bind (chains_fetchOptional env) fun buyer => ?_
  refine .bind (.orStop _ _) fun b => ?_
  refine .bind (.orStop _ _) fun verticalId => ?_
  refine .bind (.whenever _ (.stmt _ _ (chains_update_other rfl))) fun _ => ?_
  refine .bind (chains_extractAndStoreZipCodes env buyerId _) fun config => ?_
  refine .bind (.stmt _ _ (chains_present _ _)) fun taken => ?_
  refine .bind (chains_present _ _) fun hasVertical => ?_
  refine .bind (.whenever _ (.stop _)) fun _ => ?_
  refine .bind (chains_insert_other rfl) fun inserted => ?_
  refine .bind (.whenever _ (.stop _)) fun _ => ?_
  refine .bind (chains_instanceOfBuyer env buyerId 3) fun instanceId => ?_
  exact .bind (chains_createAuditLog env _) fun _ => .pure _

theorem chains_extractConfig (config : Option Json) :
    Chains Edit (extractConfig env buyerId config) := by
  cases config with
  | none => exact .pure _
  | some config => exact .bind (chains_extractAndStoreZipCodes env buyerId config) fun _ => .pure _

theorem chains_updateBuyerRuleSet (payload : Json) :
    Chains Edit (updateBuyerRuleSet cfg env user buyerId id payload) := by
  refine .bind (chains_fetchOptional env) fun ruleSet => ?_
  refine .bind (.orStop _ _) fun before => ?_
  refine .bind (chains_extractConfig env buyerId _) fun config => ?_
  refine .bind (.whenever _ (.stmt _ _ (chains_update_other rfl))) fun _ => ?_
  split
  · exact .pure _
  · refine .bind (.stmt _ _ (chains_present _ _)) fun taken => ?_
    refine .bind (.whenever _ (.stop _)) fun _ => ?_
    refine .bind (chains_update_other rfl) fun _ => ?_
    refine .bind (chains_instanceOfBuyer env buyerId 3) fun instanceId => ?_
    refine .bind (chains_fetchOrNone env) fun after => ?_
    exact .bind (chains_createAuditLog env _) fun _ => .pure _

theorem chains_deleteBuyerRuleSet : Chains Edit (deleteBuyerRuleSet env buyerId id) := by
  refine .bind (chains_fetchOptional env) fun before => ?_
  refine .bind (chains_fetchAll env) fun deleted => ?_
  refine .bind (chains_delete_other rfl) fun _ => ?_
  refine .bind (.whenever _ (.stop _)) fun _ => ?_
  refine .bind (chains_instanceOfBuyer env buyerId 2) fun instanceId => ?_
  exact .bind (chains_createAuditLog env _) fun _ => .pure _

end

/-! ### Campaigns and ping trees -/

section

variable (cfg : DashConfig) (env : DashEnv) (user : User)
  (id pingTreeId campaignId publisherId : Uuid)

theorem chains_listCampaigns : Chains Edit (listCampaigns cfg env user) := by
  refine .bind (chains_requireInstance env user) fun instanceId => ?_
  refine .bind (chains_fetchAll env) fun campaigns => ?_
  exact .bind (.attempt _ _ (chains_rows _ _)) fun members => .pure _

theorem chains_linkCampaign {link : PingTreeCampaign} {f : PingTreeCampaign → PingTreeCampaign}
    {hf : ∀ l, (f l).id = l.id}
    (h : ∀ l, ((f l).pingTreeId, (f l).campaignId) = (l.pingTreeId, l.campaignId)) :
    Chains Edit (linkCampaign link f hf) := by
  refine .of_triple fun s₀ => Triple.bind Triple.present fun hasTree => ?_
  refine Triple.bind (Triple.stopWhen fun _ _ hs => hs.1 ▸ .refl) fun _ => ?_
  refine Triple.bind Triple.present fun hasCampaign => ?_
  refine Triple.bind (Triple.stopWhen fun _ _ hs => hs.1.1.1 ▸ .refl) fun _ => ?_
  refine Triple.bind Triple.present fun linked => ?_
  cases linked with
  | true =>
    refine Triple.update fun s s' hs hrows hothers => ?_
    obtain rfl := hs.1.1.1.1.1
    exact .single (.relink _ f h hrows hothers)
  | false =>
    refine Triple.bind (Triple.insert (R := fun _ => Relation.ReflTransGen Edit s₀)
      (fun s hs => hs.1.1.1.1.1 ▸ .refl) fun s s' hs _ hrows hothers => ?_) fun inserted =>
      Triple.whenever (fun _ => Triple.stop fun _ hs => hs) fun _ _ hs => hs
    obtain ⟨⟨⟨⟨⟨rfl, htree⟩, hhas⟩, hcampaign⟩, hhas'⟩, hfree⟩ := hs
    rw [htree, Bool.not_eq_false'] at hhas
    rw [hcampaign, Bool.not_eq_false'] at hhas'
    exact .single (.link link hhas hhas' hfree.symm hrows hothers)

/-- The token of a new campaign is no token of another one. -/
theorem chains_createCampaign (req : CreateCampaignRequest) :
    Chains Edit (createCampaign env user req) := by
  refine .bind (chains_targetInstance env user _) fun instanceId => ?_
  refine .of_triple fun s₀ => Triple.bind (Triple.stmt Triple.present fun _ _ hs => hs ▸ .refl)
    fun taken => ?_
  refine Triple.bind (Triple.stopWhen fun _ _ hs => hs.1 ▸ .refl) fun _ => ?_
  refine Triple.bind (Triple.insert (R := fun _ => Relation.ReflTransGen Edit s₀)
    (fun s hs => hs.1.1 ▸ .refl) fun s s' hs _ hrows hothers => ?_) fun inserted => ?_
  · obtain ⟨⟨rfl, hfree⟩, rfl⟩ := hs
    exact .single (.newCampaign _ hfree.symm hrows hothers)
  · refine Triple.bind (Triple.whenever (fun _ => Triple.stop fun _ hs => hs) fun _ _ hs => hs)
      fun _ => Chains.triple ?_ s₀
    refine .bind (.ifSome _ fun pingTreeId => .stmt _ _ ?_) fun _ => .pure _
    exact chains_linkCampaign fun _ => rfl

theorem chains_getCampaign : Chains Edit (getCampaign cfg env user id) := by
  refine .bind (chains_requireInstance env user) fun instanceId => ?_
  refine .bind (chains_fetchOptional env) fun campaign => ?_
  refine .bind (.orStop _ _) fun c => ?_
  exact .bind (.attempt _ _ (chains_present _ _)) fun member => .pure _

theorem chains_applyCampaignChanges (before : Campaign) (c : CampaignChanges) :
    Chains Edit (applyCampaignChanges cfg env id before c) := by
  unfold applyCampaignChanges
  split
  · exact .pure _
  · refine .bind (.stmt _ _ (chains_update_campaigns fun _ => rfl)) fun _ => ?_
    refine .bind (chains_fetchOrNone env) fun after => ?_
    exact .bind (chains_createAuditLog env _) fun _ => .pure _

theorem chains_updateCampaign (payload : Json) :
    Chains Edit (updateCampaign cfg env id payload) := by
  refine .bind (chains_fetchOptional env) fun campaign => ?_
  refine .bind (.orStop _ _) fun before => ?_
  dsimp only
  split
  · exact chains_applyCampaignChanges cfg env id before _
  · refine .bind (.attempt _ _ (chains_present _ _)) fun member => ?_
    split
    · exact .pure _
    · exact chains_applyCampaignChanges cfg env id before _

theorem chains_deleteCampaign : Chains Edit (deleteCampaign env id) :=
  .bind (.stmt _ _ (chains_update_campaigns fun _ => rfl)) fun _ => .pure _

theorem chains_listPingTrees : Chains Edit (listPingTrees cfg env user) := by
  refine .bind (chains_requireInstance env user) fun instanceId => ?_
  refine .bind (chains_fetchAll env) fun trees => ?_
  refine .bind (.collect (fun t => ?_) _) fun _ => .pure _
  exact .bind (chains_fetchAllOrNone env) fun _ => .pure _

theorem chains_getPingTree : Chains Edit (getPingTree cfg env user id) := by
  refine .bind (chains_requireInstance env user) fun instanceId => ?_
  refine .bind (chains_fetchOptional env) fun pingTree => ?_
  refine .bind (.orStop _ _) fun t => ?_
  refine .bind (chains_fetchAll env) fun campaigns => ?_
  exact .bind (chains_fetchAll env) fun publishers => .pure _

theorem chains_createPingTree (req : CreatePingTreeRequest) :
    Chains Edit (createPingTree env user req) := by
  refine .bind (.whenever _ (.stop _)) fun _ => ?_
  refine .bind (chains_targetInstance env user _) fun instanceId => ?_
  refine .bind (.stmt _ _ (chains_present _ _)) fun hasInstance => ?_
  refine .bind (chains_present _ _) fun taken => ?_
  refine .bind (.whenever _ (.stop _)) fun _ => ?_
  refine .bind (chains_insert fun _ _ hrows hothers => .newPingTree _ rfl hrows hothers)
    fun inserted => ?_
  exact .bind (.whenever _ (.stop _)) fun _ => .pure _

theorem chains_updatePingTree (payload : Json) :
    Chains Edit (updatePingTree cfg env id payload) := by
  refine .bind (chains_fetchOptional env) fun pingTree => ?_
  refine .bind (.orStop _ _) fun before => ?_
  dsimp only
  split
  · exact .pure _
  · refine .bind (.stmt _ _ (chains_present _ _)) fun taken => ?_
    refine .bind (.whenever _ (.stop _)) fun _ => ?_
    refine .bind (chains_update_pingTrees (fun _ => rfl) fun _ h => h) fun _ => ?_
    refine .bind (chains_fetchOrNone env) fun after => ?_
    exact .bind (chains_createAuditLog env _) fun _ => .pure _

theorem chains_campaignsOfPingTree : Chains Edit (campaignsOfPingTree id) :=
  .bind (chains_rows _ _) fun _ => .bind (chains_rows _ _) fun _ => .pure _

theorem chains_deletePingTree : Chains Edit (deletePingTree env id) := by
  refine .bind (chains_fetchOptional env) fun pingTree => ?_
  refine .bind (.orStop _ _) fun t => ?_
  refine .bind (.attempt _ _ (chains_campaignsOfPingTree id)) fun affected => ?_
  refine .bind (.stmt _ _ (chains_update_pingTrees (fun _ => rfl) fun _ _ => rfl)) fun _ => ?_
  exact .bind (chains_createAuditLog env _) fun _ => .pure _

theorem chains_addCampaignToPingTree (priority : Option ℤ) :
    Chains Edit (addCampaignToPingTree cfg env pingTreeId campaignId priority) := by
  refine .bind (chains_fetchOptional env) fun pingTree => ?_
  refine .bind (.orStop _ _) fun t => ?_
  refine .bind (chains_fetchOrNone env) fun campaign => ?_
  refine .bind (.stmt _ _ (chains_linkCampaign fun _ => rfl)) fun _ => ?_
  exact .bind (chains_createAuditLog env _) fun _ => .pure _

theorem chains_deactivateRonin : Chains Edit (deactivateRonin env pingTreeId campaignId) :=
  .bind (chains_fetchAllOrNone env) fun _ =>
    .whenever _ (.attempt _ _ (chains_update_campaigns fun _ => rfl))

theorem chains_removeCampaignFromPingTree :
    Chains Edit (removeCampaignFromPingTree cfg env pingTreeId campaignId) := by
  refine .bind (chains_fetchOptional env) fun pingTree => ?_
  refine .bind (.orStop _ _) fun t => ?_
  refine .bind (chains_fetchOrNone env) fun campaign => ?_
  refine .bind (.stmt _ _ (chains_delete fun _ _ hrows hothers => .unlink _ hrows hothers))
    fun _ => ?_
  refine .bind (chains_deactivateRonin env pingTreeId campaignId) fun _ => ?_
  exact .bind (chains_createAuditLog env _) fun _ => .pure _

theorem chains_listPingTreePublishers : Chains Edit (listPingTreePublishers cfg env id) := by
  refine .bind (chains_fetchOptional env) fun pingTree => ?_
  refine .bind (.orStop _ _) fun _ => ?_
  refine .bind (chains_fetchAll env) fun assignments => ?_
  exact .bind (.collect (fun a => .bind (chains_fetchOrNone env) fun _ => .pure _) _)
    fun _ => .pure _

/-- The row that a query finds. -/
theorem mem_of_head {t : Relation} {s : Db} {p : Row t → Bool} {r : Row t}
    (h : some r = ((s t).rows.filter p).head?) : r ∈ (s t).rows ∧ p r = true :=
  List.mem_filter.mp (List.mem_of_mem_head? h.symm)

/-- A ping tree is looked up, and must be there. -/
theorem triple_getPingTree {β : Type} {s₀ : Db} {f : PingTree → Handler β} {R : β → Db → Prop}
    (hf : ∀ t, t ∈ (s₀ .pingTrees).rows → t.id = id → t.deletedAt = none →
      Triple (fun s => s = s₀) (f t) R fun _ => Relation.ReflTransGen Edit s₀) :
    Triple (fun s => s = s₀) (do
      let pingTree ← fetchOptional env 0 .pingTrees (livePingTree id)
      let t ← Prog.orStop 404 pingTree
      f t) R fun _ => Relation.ReflTransGen Edit s₀ := by
  refine Triple.bind (Triple.stmt Triple.first fun _ _ hs => hs ▸ .refl) fun pingTree => ?_
  refine Triple.bind (Triple.orStop (Q := fun t s => s = s₀ ∧ t ∈ (s₀ .pingTrees).rows ∧
    livePingTree id t = true) (fun t ht s hs => ?_) fun _ _ hs => hs.1 ▸ .refl) fun t => ?_
  · cases ht
    obtain ⟨rfl, hhead⟩ := hs
    exact ⟨rfl, mem_of_head hhead⟩
  · rintro s ⟨hs, hmem, hlive⟩
    exact hf t hmem (of_decide_eq_true hlive).1 (of_decide_eq_true hlive).2 s hs

theorem chains_addPublisherToPingTree (percentage flatAmount : Option F64) :
    Chains Edit (addPublisherToPingTree cfg env id publisherId percentage flatAmount) := by
  refine .of_triple fun s₀ => triple_getPingTree env id fun t ht hid hlive => ?_
  refine Triple.bind (Triple.stmt Triple.first fun _ _ hs => hs ▸ .refl) fun publisher => ?_
  refine Triple.bind (Triple.orStop (Q := fun r s => s = s₀ ∧ r ∈ (s₀ .publishers).rows ∧
    livePublisher publisherId r = true) (fun r hr s hs => ?_) fun _ _ hs =>
      hs.1 ▸ .refl) fun r => ?_
  · cases hr
    obtain ⟨rfl, hhead⟩ := hs
    exact ⟨rfl, mem_of_head hhead⟩
  refine Triple.bind (Triple.stopWhen fun _ _ hs => hs.1 ▸ .refl) fun _ => ?_
  refine Triple.bind (Triple.orStop (Q := fun _ s => s = s₀ ∧ r ∈ (s₀ .publishers).rows ∧
    livePublisher publisherId r = true) (fun _ _ _ hs => hs.1) fun _ _ hs => hs.1.1 ▸ .refl)
    fun share => ?_
  refine Triple.bind (Triple.stmt Triple.present fun _ _ hs => hs.1 ▸ .refl) fun taken => ?_
  refine Triple.bind (Triple.stopWhen fun _ _ hs => hs.1.1 ▸ .refl) fun _ => ?_
  refine Triple.bind (Triple.insert (R := fun _ => Relation.ReflTransGen Edit s₀)
    (fun s hs => hs.1.1.1 ▸ .refl) fun s s' hs _ hrows hothers => ?_) fun inserted => ?_
  · obtain ⟨⟨⟨rfl, hr, hpublisher⟩, hfree⟩, rfl⟩ := hs
    refine .single (.assign _ t r ht hlive (by rw [hid]) hr ?_ hfree.symm hrows hothers)
    exact (of_decide_eq_true hpublisher).1.symm
  · exact Triple.bind (Triple.whenever (fun _ => Triple.stop fun _ hs => hs) fun _ _ hs => hs)
      fun _ => Triple.pure fun _ hs => hs

theorem chains_removePublisherFromPingTree :
    Chains Edit (removePublisherFromPingTree env id publisherId) := by
  refine .of_triple fun s₀ => triple_getPingTree env id fun t ht hid hlive => ?_
  refine Triple.bind (Triple.stmt (Triple.delete (R := Relation.ReflTransGen Edit s₀)
    fun s s' hs hrows hothers => ?_) fun _ _ hs => hs ▸ .refl) fun _ => Triple.pure fun _ hs => hs
  subst hs hid
  exact .single (.unassign t publisherId ht hlive hrows hothers)

theorem chains_updatePingTreePublisherRevshare (percentage flatAmount : Option F64) :
    Chains Edit (updatePingTreePublisherRevshare cfg env id publisherId percentage flatAmount) := by
  refine .bind (chains_fetchOptional env) fun assignment => ?_
  refine .bind (.orStop _ _) fun a => ?_
  refine .bind (.whenever _ (.stop _)) fun _ => ?_
  refine .bind (.orStop _ _) fun share => ?_
  exact .bind (.stmt _ _ (chains_update_pingTreePublishers fun _ => rfl)) fun _ => .pure _

theorem chains_listAuditLogs (resourceType : ResourceType) (resourceId : Uuid) :
    Chains Edit (listAuditLogs cfg env resourceType resourceId) := by
  refine .bind (chains_fetchAll env) fun logs => ?_
  exact .bind (chains_rows _ _) fun users => .pure _

end

/-! ### Runs -/

theorem chains_handle (cfg : DashConfig) (user : User) (env : DashEnv) (req : Request) :
    Chains Edit (handle cfg user env req) := by
  -- one request for each handler
  cases req with
  | listPublishers => exact chains_listPublishers cfg env user
  | createPublisher req => exact chains_createPublisher cfg env user req
  | getPublisher id => exact chains_getPublisher cfg env id
  | updatePublisher id payload => exact chains_updatePublisher cfg env user id payload
  | deletePublisher id => exact chains_deletePublisher cfg env user id
  | regeneratePublisherApiKey id => exact chains_regeneratePublisherApiKey cfg env user id
  | getPublisherApiKey id => exact chains_getPublisherApiKey cfg env user id
  | generatePublisherHmacSecretEncrypted id =>
    exact chains_generatePublisherHmacSecretEncrypted cfg env user id
  | getPublisherRevenueShare id => exact chains_getPublisherRevenueShare cfg env id
  | listBuyers => exact chains_listBuyers cfg env user
  | createBuyer req => exact chains_createBuyer env user req
  | getBuyer id => exact chains_getBuyer cfg env id
  | updateBuyer id payload => exact chains_updateBuyer cfg env user id payload
  | deleteBuyer id => exact chains_deleteBuyer env id
  | listCampaigns => exact chains_listCampaigns cfg env user
  | createCampaign req => exact chains_createCampaign env user req
  | getCampaign id => exact chains_getCampaign cfg env user id
  | updateCampaign id payload => exact chains_updateCampaign cfg env id payload
  | deleteCampaign id => exact chains_deleteCampaign env id
  | listPingTrees => exact chains_listPingTrees cfg env user
  | createPingTree req => exact chains_createPingTree env user req
  | getPingTree id => exact chains_getPingTree cfg env user id
  | updatePingTree id payload => exact chains_updatePingTree cfg env id payload
  | deletePingTree id => exact chains_deletePingTree env id
  | addCampaignToPingTree pingTreeId campaignId priority =>
    exact chains_addCampaignToPingTree cfg env pingTreeId campaignId priority
  | removeCampaignFromPingTree pingTreeId campaignId =>
    exact chains_removeCampaignFromPingTree cfg env pingTreeId campaignId
  | listPingTreePublishers id => exact chains_listPingTreePublishers cfg env id
  | addPublisherToPingTree id publisherId percentage flatAmount =>
    exact chains_addPublisherToPingTree cfg env id publisherId percentage flatAmount
  | removePublisherFromPingTree id publisherId =>
    exact chains_removePublisherFromPingTree env id publisherId
  | updatePingTreePublisherRevshare id publisherId percentage flatAmount =>
    exact chains_updatePingTreePublisherRevshare cfg env id publisherId percentage flatAmount
  | listBuyerRuleSets buyerId => exact chains_listBuyerRuleSets cfg env buyerId
  | createBuyerRuleSet buyerId req => exact chains_createBuyerRuleSet env buyerId req
  | getBuyerRuleSet buyerId id => exact chains_getBuyerRuleSet cfg env id buyerId
  | updateBuyerRuleSet buyerId id payload =>
    exact chains_updateBuyerRuleSet cfg env user id buyerId payload
  | deleteBuyerRuleSet buyerId id => exact chains_deleteBuyerRuleSet env id buyerId
  | listAuditLogs resourceType resourceId =>
    exact chains_listAuditLogs cfg env resourceType resourceId

theorem edits_step {I : Db → Prop} (hI : ∀ s s', Edit s s' → I s → I s') {cfg : DashConfig}
    {call : DashCall} {s s' : Db} (hs : I s) (hstep : dashStep cfg s call = some s') : I s' := by
  obtain rfl := Option.some.inj hstep
  exact (chains_handle cfg _ _ _).keeps hI hs

/-- What every edit keeps, every sequence of requests keeps. -/
theorem edits_run {I : Db → Prop} (hI : ∀ s s', Edit s s' → I s → I s') {cfg : DashConfig}
    {calls : List DashCall} {s s' : Db} (hs : I s)
    (hrun : Transition.run (dashStep cfg) s calls = some s') : I s' := by
  exact Transition.inv_of_run (fun hs _ hstep => edits_step hI hs hstep) hs
    (Transition.along_true s calls) hrun

end Dashboard

end LeadsNebula
