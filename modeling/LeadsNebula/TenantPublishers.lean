/-
The handlers of publishers keep to the instance of the user, for requests that name
no publisher of another instance.
-/
import LeadsNebula.TenantStatements

namespace LeadsNebula

namespace Dashboard

open DbPart

variable {cfg : DashConfig} {env : DashEnv} {user : User} {i : Uuid} {db : Db}

theorem confined_logPublisher (hu : Free (others i db) .instances (isInstanceOf user))
    (hd : FreshDraws cfg (others i db) env) {n : ℕ} {actionType : String} {id : Uuid}
    {details : Json} :
    (partOf i db).Confined (logPublisher env n user actionType id details) fun _ => True := by
  refine Confined.bind (confined_fetchOrNone hu) fun o ho => ?_
  refine confined_createAuditLog (hd.id 1) ?_
  intro j hj
  obtain ⟨r, hr, rfl⟩ := Option.mem_map.mp hj
  exact owned_instance (ho r hr).1

theorem free_publisherVerticals {id : Uuid} {p : PublisherVertical → Bool}
    (h : foreignPublisher i db id = false) (hp : ∀ l, p l = true → l.publisherId = id) :
    Free (others i db) .publisherVerticals p :=
  free_of_foreign_eq_false fun l hl => (congrArg (foreignPublisher i db) (hp l hl)).trans h

theorem confined_listPublishers (hu : Free (others i db) .instances (isInstanceOf user)) :
    (partOf i db).Confined (listPublishers cfg env user) fun _ => True := by
  refine Confined.bind (confined_requireInstance hu 0) fun id hid => ?_
  subst hid
  refine Confined.bind (confined_fetchAll (free_of_foreign_eq_false ?_)) fun l hl => ?_
  · intro r hr
    simp_all [Foreign]
  refine Confined.bind (Confined.attempt (confined_fetchAll (free_of_foreign_eq_false ?_))
    (fun _ h => (by cases h))) fun links _ => ?_
  · -- the links hang on publishers of the list
    intro link hlink
    obtain ⟨r, hr, hid⟩ := List.mem_map.mp (of_decide_eq_true hlink)
    exact (congrArg _ hid.symm).trans (foreignPublisher_eq_false.mpr (Owned.free_key (hl r hr).1))
  exact Confined.bind (confined_rows (free_verticals _)) fun _ _ => Confined.pure trivial

theorem confined_insertPublisherVerticals {id : Uuid} (hid : foreignPublisher i db id = false)
    (verticalIds : List Uuid) :
    (partOf i db).Confined (insertPublisherVerticals env id verticalIds) fun _ => True := by
  refine Confined.bind (Confined.collect (R := fun _ => True) fun v _ => ?_) fun _ _ =>
    Confined.pure trivial
  refine Confined.attempt
    (Confined.bind (confined_present (free_verticals _)) fun found _ => ?_) trivial
  refine Confined.whenever fun _ => Confined.bind (confined_insert hid ?_ trivial) fun _ _ =>
    Confined.pure trivial
  exact free_publisherVerticals hid fun l hl => congrArg Prod.fst (of_decide_eq_true hl)

theorem confined_createPublisher (hu : Free (others i db) .instances (isInstanceOf user))
    (hd : FreshDraws cfg (others i db) env) {req : CreatePublisherRequest}
    (hi : SaysInstance i req.instanceId)
    (hemail : Free (others i db) .publishers fun r => r.email = req.email ∧ r.deletedAt = none) :
    (partOf i db).Confined (createPublisher cfg env user req) fun _ => True := by
  refine Confined.bind (confined_targetInstance hu 0 hi) fun id hid => ?_
  subst hid
  refine Confined.bind (Confined.orStop (Q := fun _ => True) fun _ _ => trivial)
    fun encrypted _ => ?_
  refine Confined.bind (Confined.stmt (confined_present hemail)) fun taken _ => ?_
  split
  · exact Confined.pure trivial
  refine Confined.bind (Confined.stmt (confined_present hd.apiKey)) fun hashTaken _ => ?_
  split
  · exact Confined.pure trivial
  refine Confined.bind (confined_insert ?_ (hd.id 0).publishers (hd.id 0).publisherOf)
    fun inserted _ => ?_
  · simp [Foreign, CreatePublisherRequest.row]
  refine Confined.bind confined_stopWhen fun _ _ => ?_
  refine Confined.bind (confined_insertPublisherVerticals
    (foreignPublisher_eq_false.mpr (hd.id 0).publishers) _) fun _ _ => ?_
  exact Confined.bind (confined_logPublisher hu hd) fun _ _ => Confined.pure trivial

theorem confined_getPublisher {id : Uuid}
    (h : Free (others i db) .publishers fun r => r.id = id) :
    (partOf i db).Confined (getPublisher cfg env id) fun _ => True := by
  refine Confined.bind (confined_fetchOptional h) fun o ho => ?_
  refine Confined.bind (Confined.orStop ho) fun r _ => ?_
  refine Confined.bind
    (confined_fetchAllOrNone (free_publisherVerticals (foreignPublisher_eq_false.mpr h)
    fun l hl => of_decide_eq_true hl)) fun _ _ => ?_
  exact Confined.bind (confined_rows (free_verticals _)) fun _ _ => Confined.pure trivial

theorem confined_updatePublisher (hu : Free (others i db) .instances (isInstanceOf user))
    (hd : FreshDraws cfg (others i db) env) {id : Uuid} {payload : UpdatePublisherRequest}
    (h : Free (others i db) .publishers (livePublisher id)) :
    (partOf i db).Confined (updatePublisher cfg env user id payload) fun _ => True := by
  refine Confined.bind (confined_fetchOptional h) fun o ho => ?_
  refine Confined.bind (Confined.orStop ho) fun before _ => ?_
  refine Confined.bind confined_stopWhen fun _ _ => ?_
  refine Confined.bind
    (Confined.stmt (confined_update h fun r hr => ⟨hr.foreign, hr.ok⟩)) fun _ _ => ?_
  refine Confined.bind (confined_fetchOrNone h) fun after _ => ?_
  refine Confined.bind (Confined.ifSome fun after _ => confined_logPublisher hu hd) fun _ _ => ?_
  exact Confined.pure trivial

theorem confined_deletePublisher (hu : Free (others i db) .instances (isInstanceOf user))
    (hd : FreshDraws cfg (others i db) env) {id : Uuid}
    (h : Free (others i db) .publishers fun r => r.id = id) :
    (partOf i db).Confined (deletePublisher cfg env user id) fun _ => True := by
  refine Confined.bind (confined_fetchOptional (h.mono fun r hr => ?_)) fun before _ => ?_
  · exact decide_eq_true (of_decide_eq_true hr).1
  refine Confined.bind
    (Confined.stmt (confined_update h fun r hr => ⟨hr.foreign, hr.ok⟩)) fun _ _ => ?_
  refine Confined.bind (Confined.ifSome fun r _ => confined_logPublisher hu hd) fun _ _ => ?_
  exact Confined.pure trivial

theorem confined_regeneratePublisherApiKey
    (hu : Free (others i db) .instances (isInstanceOf user))
    (hd : FreshDraws cfg (others i db) env) {id : Uuid}
    (h : Free (others i db) .publishers (livePublisher id)) :
    (partOf i db).Confined (regeneratePublisherApiKey cfg env user id) fun _ => True := by
  refine Confined.bind (confined_fetchOptional h) fun o ho => ?_
  refine Confined.bind (Confined.orStop ho) fun r _ => ?_
  refine Confined.bind (Confined.orStop (Q := fun _ => True) fun _ _ => trivial)
    fun encrypted _ => ?_
  refine Confined.bind
    (Confined.stmt (confined_present (hd.apiKey.mono fun r hr => ?_))) fun _ _ => ?_
  · exact decide_eq_true (of_decide_eq_true hr).2
  refine Confined.bind confined_stopWhen fun _ _ => ?_
  refine Confined.bind (confined_update h fun r hr => ⟨hr.foreign, hr.ok⟩) fun _ _ => ?_
  exact Confined.bind (confined_logPublisher hu hd) fun _ _ => Confined.pure trivial

theorem confined_getPublisherApiKey {id : Uuid}
    (h : Free (others i db) .publishers (livePublisher id)) :
    (partOf i db).Confined (getPublisherApiKey cfg env user id) fun _ => True := by
  refine Confined.bind (confined_fetchOptional h) fun o ho => ?_
  refine Confined.bind (Confined.orStop ho) fun r hr => ?_
  have hinstance : r.instanceId = i := by simpa [partOf, Foreign] using hr.1.foreign
  refine Confined.bind
    (Confined.stmt (confined_present (free_of_foreign_eq_false ?_))) fun _ _ => ?_
  · intro j hj
    simp_all [Foreign]
  refine Confined.bind confined_stopWhen fun _ _ => ?_
  split
  · exact Confined.pure trivial
  · exact Confined.bind (Confined.orStop (Q := fun _ => True) fun _ _ => trivial) fun _ _ =>
      Confined.pure trivial

theorem confined_generatePublisherHmacSecretEncrypted
    (hu : Free (others i db) .instances (isInstanceOf user))
    (hd : FreshDraws cfg (others i db) env) {id : Uuid}
    (h : Free (others i db) .publishers (livePublisher id)) :
    (partOf i db).Confined (generatePublisherHmacSecretEncrypted cfg env user id)
      fun _ => True := by
  refine Confined.bind (confined_fetchOptional h) fun o ho => ?_
  refine Confined.bind (Confined.orStop ho) fun r _ => ?_
  refine Confined.bind
    (Confined.stmt (confined_update h fun r hr => ⟨hr.foreign, hr.ok⟩)) fun _ _ => ?_
  exact Confined.bind (confined_logPublisher hu hd) fun _ _ => Confined.pure trivial

theorem confined_getPublisherRevenueShare {id : Uuid}
    (h : Free (others i db) .publishers (livePublisher id)) :
    (partOf i db).Confined (getPublisherRevenueShare cfg env id) fun _ => True := by
  refine Confined.bind (confined_fetchOptional h) fun o ho => ?_
  refine Confined.bind (Confined.orStop ho) fun r hr => ?_
  have hid : r.id = id := (of_decide_eq_true hr.2).1
  -- no ping tree of another instance has the publisher
  have hfree : Free (others i db) .pingTreePublishers fun a => a.publisherId = id := by
    rw [← hid]
    exact hr.1.ok
  refine Confined.bind (confined_fetchAll hfree) fun assignments hassign => ?_
  refine Confined.bind (Confined.collect (R := fun _ => True) fun a ha => ?_) fun _ _ =>
    Confined.pure trivial
  have hmem : a.1 ∈ assignments := List.mem_mergeSort.mp (fst_mem_of_mem_zipIdx ha)
  have htree : foreignPingTree i db a.1.pingTreeId = false := (hassign a.1 hmem).1.foreign
  refine Confined.bind (confined_fetchOrNone ((foreignPingTree_eq_false.mp htree).mono ?_))
    fun _ _ => Confined.pure trivial
  exact fun t ht => decide_eq_true (of_decide_eq_true ht).1

end Dashboard

end LeadsNebula
