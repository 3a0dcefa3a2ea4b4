/-
Tenant isolation on the dashboard.

Most handlers find a row by the id of the path and do not ask whose it is, and some
put a new row in the instance of the body; so the isolation fails
(`tenant_isolation_fails`: a user rotates the key of another tenant's publisher).
It holds along every run of requests that name no row of another instance
(`tenant_isolation`).

* `confined_handle` — a request that names no row of another instance is confined to
  the instance;
* `serve_confined` — a run of such requests leaves the rows of other instances as they
  are, and its answers are those on the database without them.
-/
import LeadsNebula.TenantBuyers
import LeadsNebula.TenantPingTrees
import LeadsNebula.TenantPublishers
import LeadsNebula.Revocation

namespace LeadsNebula

namespace Dashboard

open DbPart

variable {cfg : DashConfig} {env : DashEnv} {user : User} {i : Uuid} {db : Db}

theorem confined_listAuditLogs {resourceType : ResourceType} {resourceId : Uuid}
    (h : Free (others i db) .auditLogs fun log =>
      log.resourceType = resourceType ∧ log.resourceId = resourceId) :
    (partOf i db).Confined (listAuditLogs cfg env resourceType resourceId) fun _ => True := by
  refine Confined.bind (confined_fetchAll h) fun logs _ => ?_
  -- the users belong to no instance
  refine Confined.bind (confined_rows (free_of_foreign_eq_false fun _ _ => rfl)) fun users _ => ?_
  exact Confined.pure trivial

theorem OwnsOnly.free (h : OwnsOnly i user db) :
    Free (others i db) .instances (isInstanceOf user) := by
  intro r hr
  obtain ⟨hmem, hforeign⟩ := mem_others.mp hr
  by_contra hne
  have hid := h r hmem (Bool.not_eq_false _ ▸ hne)
  simp [Foreign, hid] at hforeign

/-! ### Runs -/

theorem confined_handle (hu : Free (others i db) .instances (isInstanceOf user))
    (hd : FreshDraws cfg (others i db) env) {req : Request} (h : Permitted i (others i db) req) :
    (partOf i db).Confined (handle cfg user env req) fun _ => True := by
  -- one request for each handler, with what the middleware has checked about it
  cases req with
  | listPublishers => exact confined_listPublishers hu
  | createPublisher req => exact confined_createPublisher hu hd h.1 h.2
  | getPublisher id => exact confined_getPublisher h
  | updatePublisher id payload => exact confined_updatePublisher hu hd h
  | deletePublisher id => exact confined_deletePublisher hu hd h
  | regeneratePublisherApiKey id => exact confined_regeneratePublisherApiKey hu hd h
  | getPublisherApiKey id => exact confined_getPublisherApiKey h
  | generatePublisherHmacSecretEncrypted id =>
    exact confined_generatePublisherHmacSecretEncrypted hu hd h
  | getPublisherRevenueShare id => exact confined_getPublisherRevenueShare h
  | listBuyers => exact confined_listBuyers hu
  | createBuyer req => exact confined_createBuyer hu hd h
  | getBuyer id => exact confined_getBuyer h
  | updateBuyer id payload => exact confined_updateBuyer hd h
  | deleteBuyer id => exact confined_deleteBuyer hd h
  | listCampaigns => exact confined_listCampaigns hu
  | createCampaign req => exact confined_createCampaign hu hd h.1 h.2
  | getCampaign id => exact confined_getCampaign hu
  | updateCampaign id payload => exact confined_updateCampaign hd h
  | deleteCampaign id => exact confined_deleteCampaign h
  | listPingTrees => exact confined_listPingTrees hu
  | createPingTree req => exact confined_createPingTree hu hd h
  | getPingTree id => exact confined_getPingTree hu
  | updatePingTree id payload => exact confined_updatePingTree hd h
  | deletePingTree id => exact confined_deletePingTree hd h
  | addCampaignToPingTree pingTreeId campaignId priority =>
    exact confined_addCampaignToPingTree hd h.1 h.2
  | removeCampaignFromPingTree pingTreeId campaignId =>
    exact confined_removeCampaignFromPingTree hd h.1 h.2
  | listPingTreePublishers id => exact confined_listPingTreePublishers h
  | addPublisherToPingTree id publisherId percentage flatAmount =>
    exact confined_addPublisherToPingTree hd h.1 h.2
  | removePublisherFromPingTree id publisherId => exact confined_removePublisherFromPingTree h
  | updatePingTreePublisherRevshare id publisherId percentage flatAmount =>
    exact confined_updatePingTreePublisherRevshare h
  | listBuyerRuleSets buyerId => exact confined_listBuyerRuleSets h
  | createBuyerRuleSet buyerId req => exact confined_createBuyerRuleSet hd h
  | getBuyerRuleSet buyerId id => exact confined_getBuyerRuleSet h
  | updateBuyerRuleSet buyerId id payload => exact confined_updateBuyerRuleSet hd h
  | deleteBuyerRuleSet buyerId id => exact confined_deleteBuyerRuleSet hd h
  | listAuditLogs resourceType resourceId => exact confined_listAuditLogs h

/-- A run of requests that stay within the instance `i` of the user. -/
structure StaysWithin (cfg : DashConfig) (i : Uuid) (user : User) (db : Db)
    (requests : List (DashEnv × Request)) : Prop where
  ownsOnly : OwnsOnly i user db
  separate : Separate i db
  permitted : ∀ r ∈ requests, Permitted i (others i db) r.2
  fresh : ∀ r ∈ requests, FreshDraws cfg (others i db) r.1

theorem StaysWithin.sublist {requests requests' : List (DashEnv × Request)}
    (h : StaysWithin cfg i user db requests) (hsub : requests' ⊆ requests) :
    StaysWithin cfg i user db requests' :=
  ⟨h.ownsOnly, h.separate, fun r hr => h.permitted r (hsub hr), fun r hr => h.fresh r (hsub hr)⟩

theorem serve_confined {requests : List (DashEnv × Request)}
    (h : StaysWithin cfg i user db requests) :
    (serve cfg user requests (mine i db)).1 = (serve cfg user requests db).1 ∧
      others i (serve cfg user requests db).2 = others i db := by
  have hconfined : ∀ m ∈ requests.map (fun r => handle cfg user r.1 r.2),
      (partOf i db).Confined m fun _ => True := by
    intro m hm
    obtain ⟨r, hr, rfl⟩ := List.mem_map.mp hm
    exact confined_handle h.ownsOnly.free (h.fresh r hr) (h.permitted r hr)
  obtain ⟨hown, hwithin⟩ := Confined.answers hconfined (within_partOf h.separate)
  have hanswers := congrArg Prod.fst hown
  refine ⟨hanswers, ?_⟩
  -- the rows that belong to others are found by the same test as before the run
  have hforeign : Foreign i (serve cfg user requests db).2 = Foreign i db :=
    foreign_congr hwithin.foreign_eq
  unfold others
  rw [hforeign]
  exact hwithin.foreign_eq

/-- Along a run of requests that stay within an instance the rows of the others stay as they are,
and the answers do not depend on them. -/
theorem tenant_isolation (cfg : DashConfig) (user : User) (i : Uuid) (db db' : Db)
    (requests : List (DashEnv × Request)) (h : StaysWithin cfg i user db requests)
    (h' : StaysWithin cfg i user db' requests) (hmine : mine i db = mine i db') :
    (∀ k, others i (serve cfg user (requests.take k) db).2 = others i db) ∧
      (serve cfg user requests db).1 = (serve cfg user requests db').1 := by
  refine ⟨fun k => (serve_confined (h.sublist (List.take_subset k requests))).2, ?_⟩
  rw [← (serve_confined h).1, ← (serve_confined h').1, hmine]

end Dashboard

namespace Sample

open Dashboard

def dashConfig : DashConfig where
  hash := apiEnv.hash
  decrypt _ := none
  rfc3339 _ := "2024-01-01T00:00:00+00:00"
  decimalText _ := ""
  decimal q := if fitsDecimal q then some q else none

/-- Every statement goes through; the draws are new. -/
def dashEnv : DashEnv where
  now := 1000
  ok _ := true
  uuid n := ⟨BitVec.ofNat 128 (1000 + n % 1000)⟩
  random := "1111111111111111111111111111111111111111111111111111111111111111"
  encrypted := some "sealed"
  ipAddress := none
  userAgent := none
  requestId := "r-1"
  sessionId := none
  referer := none

/-- The instance of the user, another one, and their publishers. -/
def tenants (publishers : List Publisher)
    (h : (publishers.map (key .publishers)).Nodup) : Dashboard.Db where
  tables
    | .instances => ⟨[⟨1, some 7, none⟩, ⟨2, some 8, none⟩], by decide⟩
    | .publishers => ⟨publishers, h⟩
    | _ => .empty

/-- The publisher of the user, and the one of the other instance. -/
def ownPublisher : Publisher := newPublisher.row 6 1 "" "" 0

def otherPublisher : Publisher := newPublisher.row 5 2 (apiEnv.hash oldKey) "" 0

def twoTenants : Dashboard.Db := tenants [ownPublisher, otherPublisher] (by decide)

def oneTenant : Dashboard.Db := tenants [ownPublisher] (by decide)

/-- The two databases differ in a row of the other instance. -/
theorem mine_twoTenants : mine 1 twoTenants = mine 1 oneTenant := by
  refine congrArg Database.mk (funext fun t => Table.ext ?_)
  cases t <;> rfl

theorem dashEnv_uuid_ne (n : ℕ) : dashEnv.uuid n ≠ 5 := by
  intro h
  have hbits : (1000 + n % 1000) % 2 ^ 128 = 5 := congrArg (fun id : Uuid => id.bits.toNat) h
  omega

/-- The draws are new if the other instance has the publisher at most. -/
theorem freshDraws_tenants {F : Dashboard.Db} (hempty : ∀ t, t ≠ .instances → t ≠ .publishers →
    (F t).rows = []) (hpublishers : ∀ r ∈ (F .publishers).rows, r = otherPublisher) :
    FreshDraws dashConfig F dashEnv where
  id n :=
    -- every table but two is empty in the part of the others
    have hfree : ∀ {t : Relation} {p : Row t → Bool}, t ≠ .instances → t ≠ .publishers →
        Free F t p := by
      intro t p hi hp r hr
      rw [hempty t hi hp] at hr
      cases hr
    { publishers := by
        intro r hr
        rw [hpublishers r hr]
        exact decide_eq_false fun h => dashEnv_uuid_ne n h.symm
      buyers := hfree (by decide) (by decide)
      ruleSets := hfree (by decide) (by decide)
      zipLists := hfree (by decide) (by decide)
      campaigns := hfree (by decide) (by decide)
      pingTrees := hfree (by decide) (by decide)
      pingTreeCampaigns := hfree (by decide) (by decide)
      pingTreePublishers := hfree (by decide) (by decide)
      auditLogs := hfree (by decide) (by decide)
      campaignOf := hfree (by decide) (by decide)
      publisherOf := hfree (by decide) (by decide)
      buyerOf := hfree (by decide) (by decide) }
  apiKey := by
    intro r hr
    rw [hpublishers r hr]
    decide
  token := by
    intro c hc
    rw [hempty .campaigns (by decide) (by decide)] at hc
    cases hc

theorem ownsOnly_tenants {publishers : List Publisher}
    {h : (publishers.map (key .publishers)).Nodup} : OwnsOnly 1 user (tenants publishers h) := by
  show ∀ r ∈ [(⟨1, some 7, none⟩ : Instance), ⟨2, some 8, none⟩], _
  decide

/-- The user rotates a key of the own instance. -/
theorem staysWithin_tenants {publishers : List Publisher}
    {h : (publishers.map (key .publishers)).Nodup}
    (hothers : ∀ r ∈ (others 1 (tenants publishers h) .publishers).rows, r = otherPublisher) :
    StaysWithin dashConfig 1 user (tenants publishers h)
      [(dashEnv, .regeneratePublisherApiKey 6)] where
  ownsOnly := ownsOnly_tenants
  separate := by
    intro t r hr hforeign
    cases t <;> first | trivial | exact fun _ ha => (by cases ha)
  permitted := by
    intro req hreq
    rw [List.mem_singleton.mp hreq]
    intro r hr
    rw [hothers r hr]
    decide
  fresh := by
    intro req hreq
    rw [List.mem_singleton.mp hreq]
    refine freshDraws_tenants (fun t hi hp => ?_) hothers
    cases t <;> first | rfl | exact absurd rfl hi | exact absurd rfl hp

end Sample

namespace Dashboard

open Sample

/-- A user rotates the key of a publisher of another instance, and is given the new one. -/
theorem tenant_isolation_fails :
    ¬ ∀ (cfg : DashConfig) (user : User) (i : Uuid) (db db' : Dashboard.Db)
        (requests : List (DashEnv × Request)), OwnsOnly i user db → OwnsOnly i user db' →
        mine i db = mine i db' →
        (∀ k, others i (serve cfg user (requests.take k) db).2 = others i db) ∧
          (serve cfg user requests db).1 = (serve cfg user requests db').1 := by
  intro h
  have hfails := (h dashConfig Sample.user 1 twoTenants oneTenant
    [(dashEnv, .regeneratePublisherApiKey 5)] ownsOnly_tenants
    ownsOnly_tenants mine_twoTenants).1 1
  have hhash := congrArg
    (fun db : Dashboard.Db => (db .publishers).rows.map Publisher.apiKeyHash) hfails
  revert hhash
  decide

theorem tenant_isolation_twoTenants :
    (∀ k, others 1 (serve dashConfig Sample.user
        ([(dashEnv, .regeneratePublisherApiKey 6)].take k) twoTenants).2 = others 1 twoTenants) ∧
      (serve dashConfig Sample.user [(dashEnv, .regeneratePublisherApiKey 6)] twoTenants).1 =
        (serve dashConfig Sample.user [(dashEnv, .regeneratePublisherApiKey 6)] oneTenant).1 :=
  tenant_isolation dashConfig Sample.user 1 twoTenants oneTenant _
    (staysWithin_tenants fun _ hr => List.mem_singleton.mp hr)
    (staysWithin_tenants fun _ hr => (by cases hr)) mine_twoTenants

end Dashboard

end LeadsNebula
