/-
The keys of the cache (`api/src/routes/leads.rs`, `api/src/middleware/api_auth.rs`,
`core/src/services/ping_tree_router.rs`, `core/src/services/buyer_router.rs`,
`api/src/cache_warmup.rs`).

Every call of the cache makes its key with a `format!` of its own.  A key is a fixed
start, which says what is cached, and a parameter.

* `CacheKind.eq_of_prefix` — no start is the beginning of another one;
* `CacheKey.text_injective` — so two calls share an entry only if they ask for the same
  thing, unless a slug has a colon (`prechecks_keys_collide`).
-/
import LeadsNebula.CacheService
import LeadsNebula.UuidText

namespace LeadsNebula

/-! ### Lists of ids -/

/-- A list of ids in ascending order, as `sort` leaves it. -/
structure SortedIds where
  ids : List Uuid
  sorted : ids.Pairwise fun u v => u.bits.toNat ≤ v.bits.toNat

namespace SortedIds

/-- `ids.sort()`. -/
def of (ids : List Uuid) : SortedIds where
  ids := ids.mergeSort fun u v => u.bits.toNat ≤ v.bits.toNat
  sorted := by
    have htrans : ∀ u v w : Uuid, decide (u.bits.toNat ≤ v.bits.toNat) = true →
        decide (v.bits.toNat ≤ w.bits.toNat) = true →
          decide (u.bits.toNat ≤ w.bits.toNat) = true := by
      intro u v w huv hvw
      rw [decide_eq_true_eq] at huv hvw ⊢
      omega
    have htotal : ∀ u v : Uuid,
        (decide (u.bits.toNat ≤ v.bits.toNat) || decide (v.bits.toNat ≤ u.bits.toNat)) = true := by
      intro u v
      rw [Bool.or_eq_true, decide_eq_true_eq, decide_eq_true_eq]
      omega
    have h := List.pairwise_mergeSort htrans htotal ids
    exact h.imp fun h => of_decide_eq_true h

theorem of_perm (ids : List Uuid) : (of ids).ids.Perm ids := List.mergeSort_perm _ _

theorem mem_of {ids : List Uuid} {id : Uuid} : id ∈ (of ids).ids ↔ id ∈ ids := (of_perm ids).mem_iff

@[simp] theorem ids_of_singleton (id : Uuid) : (of [id]).ids = [id] := List.mergeSort_singleton id

theorem ext_ids {s t : SortedIds} (h : s.ids = t.ids) : s = t := by
  cases s
  cases t
  cases h
  rfl

/-- The order in which the ids are given does not matter. -/
theorem of_eq_iff {ids ids' : List Uuid} : of ids = of ids' ↔ ids.Perm ids' := by
  constructor
  · intro h
    have hids : (of ids).ids = (of ids').ids := congrArg SortedIds.ids h
    exact (of_perm ids).symm.trans (hids ▸ of_perm ids')
  · intro h
    have hperm : (of ids).ids.Perm (of ids').ids :=
      (of_perm ids).trans (h.trans (of_perm ids').symm)
    refine ext_ids (hperm.eq_of_pairwise ?_ (of ids).sorted (of ids').sorted)
    intro u v _ _ huv hvu
    have hbits : u.bits.toNat = v.bits.toNat := le_antisymm huv hvu
    cases u
    cases v
    exact congrArg Uuid.mk (BitVec.eq_of_toNat_eq hbits)

/-- `iter().map(to_string).collect().join(",")`. -/
def joined (s : SortedIds) : String := ",".intercalate (s.ids.map Uuid.toString)

end SortedIds

/-! ### Keys -/

/-- What a key is a key of. -/
inductive CacheKind where
  | verticalSlug
  | pingTree
  | pingTreeCampaigns
  | campaignBuyerId
  | campaignsAssociations
  | qualBuyers
  | buyerName
  | campaignName
  | buyerId
  | buyerIntegrationId
  | leadPromiseId
  | prechecks
  | publisherApiKey
  deriving DecidableEq

/-- The text that the keys of a kind start with. -/
def CacheKind.start : CacheKind → String
  | verticalSlug => "vertical:slug:"
  | pingTree => "pingtree:pub:"
  | pingTreeCampaigns => "campaigns:pingtree:"
  | campaignBuyerId => "campaign:buyer_id:"
  | campaignsAssociations => "campaigns:associations:"
  | qualBuyers => "qual:buyers:"
  | buyerName => "buyer:name:"
  | campaignName => "campaign:name:"
  | buyerId => "buyer:id:"
  | buyerIntegrationId => "buyer_integration:id:"
  | leadPromiseId => "lead:promise_id:"
  | prechecks => "prechecks:publisher:"
  | publisherApiKey => "publisher:api_key:"

inductive CacheKey where
  | verticalSlug (slug : String)
  | pingTree (publisherId : Uuid) (vertical : String)
  | pingTreeCampaigns (pingTreeId : Uuid)
  | campaignBuyerId (campaignId : Uuid)
  | campaignsAssociations (campaignIds : SortedIds)
  | qualBuyers (buyerIds : SortedIds)
  | buyerName (buyerId : Uuid)
  | campaignName (campaignId : Uuid)
  | buyerId (buyerId : Uuid)
  | buyerIntegrationId (integrationId : Uuid)
  | leadPromiseId (promiseId : String)
  | prechecks (publisherId : Uuid) (slug campaignToken : String)
  /-- The hash of the key, as hexadecimal text. -/
  | publisherApiKey (keyHash : String)

namespace CacheKey

def kind : CacheKey → CacheKind
  | verticalSlug _ => .verticalSlug
  | pingTree _ _ => .pingTree
  | pingTreeCampaigns _ => .pingTreeCampaigns
  | campaignBuyerId _ => .campaignBuyerId
  | campaignsAssociations _ => .campaignsAssociations
  | qualBuyers _ => .qualBuyers
  | buyerName _ => .buyerName
  | campaignName _ => .campaignName
  | buyerId _ => .buyerId
  | buyerIntegrationId _ => .buyerIntegrationId
  | leadPromiseId _ => .leadPromiseId
  | prechecks _ _ _ => .prechecks
  | publisherApiKey _ => .publisherApiKey

/-- What follows the start of the key. -/
def param : CacheKey → String
  | verticalSlug slug => slug
  | pingTree publisherId vertical => publisherId.toString ++ ":vert:" ++ vertical
  | pingTreeCampaigns id | campaignBuyerId id | buyerName id | campaignName id | buyerId id
  | buyerIntegrationId id => id.toString
  | campaignsAssociations ids | qualBuyers ids => ids.joined
  | leadPromiseId promiseId => promiseId
  | prechecks publisherId slug campaignToken =>
    publisherId.toString ++ ":vertical:" ++ slug ++ ":token:" ++ campaignToken
  | publisherApiKey keyHash => keyHash

/-- The key that is passed to the cache. -/
def text (k : CacheKey) : String := k.kind.start ++ k.param

/-- A slug in the key of the pre-checks has no colon. -/
def Plain : CacheKey → Prop
  | prechecks _ slug _ => ':' ∉ slug.toList
  | _ => True

end CacheKey

/-- Of two starts neither is the beginning of the other. -/
theorem CacheKind.eq_of_prefix {a b : CacheKind}
    (h : a.start.toList <+: b.start.toList) : a = b := by
  revert h
  cases a <;> cases b <;> decide

/-! ### Different keys have different texts -/

theorem Uuid.toString_ne_empty (u : Uuid) : u.toString ≠ "" := by
  intro h
  have hlen := u.length_toString
  rw [h] at hlen
  cases hlen

/-- The text of an id and what follows it can be told apart. -/
theorem Uuid.toString_append_inj {u v : Uuid} {s t : String}
    (h : u.toString ++ s = v.toString ++ t) :
    u = v ∧ s = t := by
  have hlist := congrArg String.toList h
  rw [String.toList_append, String.toList_append] at hlist
  obtain ⟨hid, hrest⟩ := List.append_inj hlist (by rw [length_toString, length_toString])
  exact ⟨toString_inj (String.toList_inj.mp hid), String.toList_inj.mp hrest⟩

/-- The text up to the first colon. -/
theorem slug_append_inj {s t u v : String} (hs : ':' ∉ s.toList) (ht : ':' ∉ t.toList)
    (h : s ++ ":token:" ++ u = t ++ ":token:" ++ v) : s = t ∧ u = v := by
  have htake : ∀ w x : String, ':' ∉ w.toList →
      (w ++ ":token:" ++ x).toList.takeWhile (· ≠ ':') = w.toList := by
    intro w x hw
    have hcolon : ":token:".toList = ':' :: "token:".toList := rfl
    rw [String.toList_append, String.toList_append, hcolon, List.append_assoc,
      List.takeWhile_append_of_pos]
    · simp
    · intro c hc
      exact decide_eq_true fun heq => hw (heq ▸ hc)
  have hst : s = t := String.toList_inj.mp (by rw [← htake s u hs, h, htake t v ht])
  subst hst
  exact ⟨rfl, String.append_right_inj _ |>.mp h⟩

namespace SortedIds

theorem intercalate_inj {ids ids' : List Uuid}
    (h : ",".intercalate (ids.map Uuid.toString) = ",".intercalate (ids'.map Uuid.toString)) :
    ids = ids' := by
  -- one identifier is followed by nothing, several by a comma after the first
  have hcons : ∀ (u v : Uuid) (l : List Uuid), ",".intercalate ((u :: v :: l).map Uuid.toString) =
      u.toString ++ ("," ++ ",".intercalate ((v :: l).map Uuid.toString)) := by
    intro u v l
    rw [List.map_cons, List.map_cons, String.intercalate_cons_cons, String.append_assoc]
  have hsingle : ∀ u : Uuid, ",".intercalate ([u].map Uuid.toString) = u.toString ++ "" := by
    intro u
    rw [List.map_singleton, String.intercalate_singleton, String.append_empty]
  have hne : ∀ s : String, "" ≠ "," ++ s := by
    intro s h
    have hlist := congrArg String.toList h
    rw [String.toList_append] at hlist
    cases hlist
  have hnil : ∀ (u : Uuid) (l : List Uuid), ",".intercalate ((u :: l).map Uuid.toString) ≠ "" := by
    intro u l h
    have hempty : u.toString = "" := by
      cases l with
      | nil =>
        rw [hsingle, String.append_empty] at h
        exact h
      | cons v l =>
        rw [hcons] at h
        exact (String.append_eq_empty_iff.mp h).1
    exact u.toString_ne_empty hempty
  induction ids generalizing ids' with
  | nil =>
    cases ids' with
    | nil => rfl
    | cons u l => exact absurd h.symm (hnil u l)
  | cons u l ih =>
    cases ids' with
    | nil => exact absurd h (hnil u l)
    | cons u' l' =>
      cases l with
      | nil =>
        cases l' with
        | nil =>
          -- the identifiers have one length, so the first ones are equal, and so are the rests
          rw [hsingle, hsingle] at h
          rw [(Uuid.toString_append_inj h).1]
        | cons v' l' =>
          rw [hsingle, hcons] at h
          exact absurd (Uuid.toString_append_inj h).2 (hne _)
      | cons v l =>
        cases l' with
        | nil =>
          rw [hsingle, hcons] at h
          exact absurd (Uuid.toString_append_inj h).2.symm (hne _)
        | cons v' l' =>
          rw [hcons, hcons] at h
          obtain ⟨hu, hrest⟩ := Uuid.toString_append_inj h
          rw [hu, ih ((String.append_right_inj _).mp hrest)]

theorem joined_inj {s t : SortedIds} (h : s.joined = t.joined) : s = t :=
  ext_ids (intercalate_inj h)

end SortedIds

namespace CacheKey

/-- The kind of a key can be read off its text. -/
theorem kind_eq_of_text {k k' : CacheKey} (h : k.text = k'.text) :
    k.kind = k'.kind ∧ k.param = k'.param := by
  have hlist : k.kind.start.toList ++ k.param.toList = k'.kind.start.toList ++ k'.param.toList := by
    rw [← String.toList_append, ← String.toList_append]
    exact congrArg String.toList h
  have hkind : k.kind = k'.kind := by
    rcases List.prefix_or_prefix_of_prefix (List.prefix_append _ k.param.toList)
      (hlist ▸ List.prefix_append k'.kind.start.toList k'.param.toList) with hpre | hpre
    · exact CacheKind.eq_of_prefix hpre
    · exact (CacheKind.eq_of_prefix hpre).symm
  refine ⟨hkind, String.toList_inj.mp ?_⟩
  rw [hkind] at hlist
  exact List.append_cancel_left hlist

theorem text_injective {k k' : CacheKey} (hk : k.Plain) (hk' : k'.Plain) (h : k.text = k'.text) :
    k = k' := by
  obtain ⟨hkind, hparam⟩ := kind_eq_of_text h
  -- the kinds are equal by the start of the texts, and what is left is the parameter
  cases k with
  | verticalSlug slug =>
    cases k' <;> cases hkind
    exact congrArg verticalSlug hparam
  | pingTree publisherId vertical =>
    cases k' <;> cases hkind
    rw [param, param, String.append_assoc, String.append_assoc] at hparam
    obtain ⟨hid, hrest⟩ := Uuid.toString_append_inj hparam
    rw [hid, (String.append_right_inj _).mp hrest]
  | pingTreeCampaigns id =>
    cases k' <;> cases hkind
    exact congrArg pingTreeCampaigns (Uuid.toString_inj hparam)
  | campaignBuyerId id =>
    cases k' <;> cases hkind
    exact congrArg campaignBuyerId (Uuid.toString_inj hparam)
  | campaignsAssociations ids =>
    cases k' <;> cases hkind
    exact congrArg campaignsAssociations (SortedIds.joined_inj hparam)
  | qualBuyers ids =>
    cases k' <;> cases hkind
    exact congrArg qualBuyers (SortedIds.joined_inj hparam)
  | buyerName id =>
    cases k' <;> cases hkind
    exact congrArg buyerName (Uuid.toString_inj hparam)
  | campaignName id =>
    cases k' <;> cases hkind
    exact congrArg campaignName (Uuid.toString_inj hparam)
  | buyerId id =>
    cases k' <;> cases hkind
    exact congrArg buyerId (Uuid.toString_inj hparam)
  | buyerIntegrationId id =>
    cases k' <;> cases hkind
    exact congrArg buyerIntegrationId (Uuid.toString_inj hparam)
  | leadPromiseId promiseId =>
    cases k' <;> cases hkind
    exact congrArg leadPromiseId hparam
  | prechecks publisherId slug token =>
    cases k' <;> cases hkind
    -- the identifier ends where it must, the slug at the colon that is not part of it
    rw [param, param] at hparam
    simp only [String.append_assoc] at hparam
    obtain ⟨hid, hrest⟩ := Uuid.toString_append_inj hparam
    have hslug := (String.append_right_inj _).mp hrest
    rw [← String.append_assoc, ← String.append_assoc] at hslug
    obtain ⟨hs, ht⟩ := slug_append_inj hk hk' hslug
    rw [hid, hs, ht]
  | publisherApiKey keyHash =>
    cases k' <;> cases hkind
    exact congrArg publisherApiKey hparam

end CacheKey

/-! ### A slug with a colon -/

theorem prechecks_keys_collide : ∃ k k' : CacheKey, k ≠ k' ∧ k.text = k'.text := by
  refine ⟨.prechecks 1 "solar" "token:x", .prechecks 1 "solar:token" "x", ?_, rfl⟩
  intro h
  injection h with _ hslug _
  exact absurd hslug (by decide)

end LeadsNebula
