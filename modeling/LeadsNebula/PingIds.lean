/-
The identifiers under which the answers to a ping are stored.

The router makes the `ping_id` of an answer unique per campaign: it appends `_C` and the
first eight digits of the campaign's id, unless the text has a `_C` already.  Buyers
choose the texts.  Without a queue the answers are inserted in one statement, and the
insertion is refused if two of them have one `ping_id`.

* `uniquePingId_eq_iff` — when two answers get the same identifier;
* `ping_ids_unique_iff` — the stored identifiers are distinct, and the insertion is not
  refused, exactly if no two campaigns' answers collide.
-/
import LeadsNebula.AuditRecords
import LeadsNebula.UuidText
import Mathlib.Data.List.Dedup
import Mathlib.Data.List.Nodup

namespace LeadsNebula

/-! ### Suffixes -/

/-- The text has a `_C` already. -/
def MarkedPingId (pingId : String) : Prop := "_C".toList <:+: pingId.toList

instance (pingId : String) : Decidable (MarkedPingId pingId) :=
  inferInstanceAs (Decidable ("_C".toList <:+: pingId.toList))

/-- The first eight digits of a campaign's id. -/
def campaignSuffix (id : Uuid) : String := String.ofList (id.hexDigits 0 8)

/-- The identifier stored for an answer with this `ping_id`. -/
def uniquePingId (pingId : String) (id : Uuid) : String :=
  if MarkedPingId pingId then pingId else pingId ++ "_C" ++ campaignSuffix id

theorem hexDigits_ne_hyphen (u : Uuid) (start count : ℕ) :
    ∀ ch ∈ u.hexDigits start count, ch ≠ '-' := by
  have hdigit : ∀ n < 16, Nat.digitChar n ≠ '-' := by decide
  intro ch hch
  obtain ⟨i, -, rfl⟩ := List.mem_map.mp hch
  exact hdigit _ (Nat.mod_lt _ (by decide))

/-- The suffix as the router computes it. -/
theorem campaignSuffix_eq (id : Uuid) :
    String.ofList ((id.toString.toList.filter fun ch => ch ≠ '-').take 8) = campaignSuffix id := by
  have hself : ((id.hexDigits 0 8).filter fun ch => decide (ch ≠ '-')) = id.hexDigits 0 8 :=
    List.filter_eq_self.mpr fun ch hch => decide_eq_true (hexDigits_ne_hyphen id 0 8 ch hch)
  have hlen : (id.hexDigits 0 8).length = 8 := by simp [Uuid.hexDigits]
  rw [campaignSuffix, Uuid.toList_toString, List.append_assoc, List.append_assoc,
    List.append_assoc, List.filter_append, hself, List.take_left' hlen]

theorem length_campaignSuffix (id : Uuid) : (campaignSuffix id).toList.length = 8 := by
  rw [campaignSuffix, String.toList_ofList]
  simp [Uuid.hexDigits]

theorem markedPingId_append (pingId suffix : String) : MarkedPingId (pingId ++ "_C" ++ suffix) := by
  rw [MarkedPingId, String.toList_append, String.toList_append]
  exact ⟨_, _, rfl⟩

/-- Two answers that get the same identifier: the same marked text, the same text and suffix, or
one text that is the other one's with its suffix. -/
def PingIdsCollide (pingId : String) (id : Uuid) (pingId' : String) (id' : Uuid) : Prop :=
  pingId = pingId' ∧ (MarkedPingId pingId ∨ campaignSuffix id = campaignSuffix id') ∨
    ¬ MarkedPingId pingId' ∧ pingId = pingId' ++ "_C" ++ campaignSuffix id' ∨
    ¬ MarkedPingId pingId ∧ pingId' = pingId ++ "_C" ++ campaignSuffix id

instance (pingId : String) (id : Uuid) (pingId' : String) (id' : Uuid) :
    Decidable (PingIdsCollide pingId id pingId' id') :=
  inferInstanceAs (Decidable (_ ∧ (_ ∨ _) ∨ _ ∧ _ ∨ _ ∧ _))

theorem uniquePingId_eq_iff (pingId pingId' : String) (id id' : Uuid) :
    uniquePingId pingId id = uniquePingId pingId' id' ↔ PingIdsCollide pingId id pingId' id' := by
  rw [uniquePingId, uniquePingId, PingIdsCollide]
  by_cases h : MarkedPingId pingId
  · by_cases h' : MarkedPingId pingId'
    · rw [if_pos h, if_pos h']
      refine ⟨fun heq => Or.inl ⟨heq, Or.inl h⟩, ?_⟩
      rintro (⟨heq, -⟩ | ⟨hn, -⟩ | ⟨hn, -⟩)
      · exact heq
      · exact absurd h' hn
      · exact absurd h hn
    · rw [if_pos h, if_neg h']
      refine ⟨fun heq => Or.inr (Or.inl ⟨h', heq⟩), ?_⟩
      rintro (⟨rfl, -⟩ | ⟨-, heq⟩ | ⟨hn, -⟩)
      · exact absurd h h'
      · exact heq
      · exact absurd h hn
  · by_cases h' : MarkedPingId pingId'
    · rw [if_neg h, if_pos h']
      refine ⟨fun heq => Or.inr (Or.inr ⟨h, heq.symm⟩), ?_⟩
      rintro (⟨rfl, -⟩ | ⟨hn, -⟩ | ⟨-, heq⟩)
      · exact absurd h' h
      · exact absurd h' hn
      · exact heq.symm
    · rw [if_neg h, if_neg h']
      constructor
      · -- the suffixes have the same length
        intro heq
        rw [← String.toList_inj, String.toList_append, String.toList_append, String.toList_append,
          String.toList_append] at heq
        obtain ⟨htext, hsuffix⟩ := List.append_inj' heq
          ((length_campaignSuffix id).trans (length_campaignSuffix id').symm)
        have htext := List.append_cancel_right htext
        exact Or.inl ⟨String.toList_inj.mp htext, Or.inr (String.toList_inj.mp hsuffix)⟩
      · rintro (⟨rfl, hm | hsuffix⟩ | ⟨-, heq⟩ | ⟨-, heq⟩)
        · exact absurd hm h
        · rw [hsuffix]
        · exact absurd (heq ▸ markedPingId_append _ _) h
        · exact absurd (heq ▸ markedPingId_append _ _) h'

/-! ### The batch -/

/-- Why an insertion of answers fails. -/
inductive InsertError where
  | duplicatePingIds
  | database (e : String)

/-- `batch_insert_buyer_responses`; `insert` is what the database says to the statement. -/
def batchInsertBuyerResponses (responses : List BuyerResponseTask)
    (insert : Except String Unit) : Except InsertError Unit :=
  if responses.isEmpty then .ok ()
  else
    let pingIds := responses.map BuyerResponseTask.pingId
    if pingIds.length ≠ pingIds.dedup.length then .error .duplicatePingIds
    else insert.mapError .database

theorem nodup_iff_length_dedup {α : Type} [DecidableEq α] (l : List α) :
    l.Nodup ↔ l.length = l.dedup.length := by
  rw [← List.dedup_eq_self]
  constructor
  · intro h
    rw [h]
  · intro h
    exact (List.dedup_sublist l).eq_of_length h.symm

/-- The insertion is refused exactly if two answers have one `ping_id`. -/
theorem batchInsertBuyerResponses_ne_duplicate_iff (responses : List BuyerResponseTask)
    (insert : Except String Unit) :
    batchInsertBuyerResponses responses insert ≠ .error .duplicatePingIds ↔
      (responses.map BuyerResponseTask.pingId).Nodup := by
  rw [batchInsertBuyerResponses]
  cases responses with
  | nil => exact iff_of_true nofun List.nodup_nil
  | cons t responses =>
    rw [nodup_iff_length_dedup]
    simp only [List.isEmpty_cons, Bool.false_eq_true, if_false]
    by_cases h : ((t :: responses).map BuyerResponseTask.pingId).length =
        ((t :: responses).map BuyerResponseTask.pingId).dedup.length
    · rw [if_neg (not_not.mpr h)]
      refine iff_of_true ?_ h
      cases insert <;> exact nofun
    · rw [if_pos h]
      exact iff_of_false (fun hne => hne rfl) h

namespace PingTreeRouter

section PingIds

variable [StdText] {r : PingTreeRouter} {env : RouteEnv} {priority : Uuid → Option ℤ}
  {campaigns : List Campaign}

/-- The `ping_id` of a campaign's answer. -/
def rawPingId (r : PingTreeRouter) (env : RouteEnv) (c : Campaign) : String :=
  (r.pingResponse env c).pingId.getD ("ping_" ++ (env.pingTask c.id).call.newId)

/-- The answers of an auction as they are stored. -/
def storedResponses (r : PingTreeRouter) (env : RouteEnv) (priority : Uuid → Option ℤ)
    (campaigns : List Campaign) : List BuyerResponseTask :=
  records (r.pingAudit env campaigns (r.pingResponses env priority campaigns))

omit [StdText] in
theorem storedPingId_eq (hr : r.requestType = .ping) (response : BuyerResponse) (id : Uuid)
    (newId : String) : r.storedPingId response id newId =
      some (uniquePingId (response.pingId.getD ("ping_" ++ newId)) id) := by
  simp only [storedPingId, hr, if_true, campaignSuffix_eq]
  cases response.pingId <;> rfl

theorem map_pingId_storedResponses (hr : r.requestType = .ping) :
    (r.storedResponses env priority campaigns).map BuyerResponseTask.pingId =
      (Completion.inOrder env.order campaigns).map fun c =>
        some (uniquePingId (r.rawPingId env c) c.id) := by
  rw [storedResponses, records, pingAudit, pingResponses, List.filterMap_map, List.filterMap_map,
    List.map_filterMap, ← List.filterMap_eq_map]
  refine List.filterMap_congr fun c _ => ?_
  simp only [Function.comp_apply, Option.map_some, storedPingId_eq hr]
  rfl

/-- The stored identifiers of an auction are distinct, and the insertion of its answers is not
refused for a duplicate, exactly if the answers of no two campaigns collide. -/
theorem ping_ids_unique_iff (hr : r.requestType = .ping)
    (hids : (campaigns.map Campaign.id).Nodup)
    (horder : env.order.Perm (List.range campaigns.length)) :
    (((r.storedResponses env priority campaigns).map BuyerResponseTask.pingId).Nodup ∧
        ∀ insert, batchInsertBuyerResponses (r.storedResponses env priority campaigns) insert ≠
          .error .duplicatePingIds) ↔
      ∀ c ∈ campaigns, ∀ c' ∈ campaigns, c.id ≠ c'.id →
        ¬ PingIdsCollide (r.rawPingId env c) c.id (r.rawPingId env c') c'.id := by
  have hnodup : campaigns.Nodup := hids.of_map _
  have hinj : ∀ c ∈ campaigns, ∀ c' ∈ campaigns, c.id = c'.id → c = c' :=
    (List.nodup_map_iff_inj_on hnodup).mp hids
  simp only [batchInsertBuyerResponses_ne_duplicate_iff, forall_const, and_self]
  rw [map_pingId_storedResponses hr,
    ((Completion.inOrder_perm horder).map _).nodup_iff, List.nodup_map_iff_inj_on hnodup]
  constructor
  · intro h c hc c' hc' hne hcollide
    refine hne (congrArg Campaign.id (h c hc c' hc' ?_))
    rw [(uniquePingId_eq_iff _ _ _ _).mpr hcollide]
  · intro h c hc c' hc' heq
    by_contra hne
    refine h c hc c' hc' (fun hid => hne (hinj c hc c' hc' hid)) ?_
    exact (uniquePingId_eq_iff _ _ _ _).mp (Option.some_inj.mp heq)

end PingIds

/-! ### Two campaigns -/

open Sample

/-- Two campaigns of external buyers; each answers a ping with these fields. -/
def twoPingsEnv (fields : Uuid → List (String × Json)) : RouteEnv :=
  { rejectedPostEnv with
    campaignsWithAssociations :=
      [(campaign, some external), (⟨11, 21, .active, none⟩, some external)]
    order := [1, 0]
    pingTask := fun id => ⟨⟨.answered 200 (.json (.obj (fields id))), draw,
      if id = 10 then "1" else "2"⟩, false, 3⟩ }

/-- Both buyers answer with a `ping_id` that has a `_C`. -/
theorem marked_ping_ids_collide :
    ([campaign, ⟨11, 21, .active, none⟩].map Campaign.id).Nodup ∧
      ¬ ((((ping false).router new 0).storedResponses (twoPingsEnv fun _ => [("ping_id",
        .str "P_C1")]) (fun _ => some 1) [campaign, ⟨11, 21, .active, none⟩]).map
          BuyerResponseTask.pingId).Nodup ∧
      batchInsertBuyerResponses (((ping false).router new 0).storedResponses (twoPingsEnv fun _ =>
        [("ping_id", .str "P_C1")]) (fun _ => some 1) [campaign, ⟨11, 21, .active, none⟩])
          (.ok ()) = .error .duplicatePingIds := by
  refine ⟨by decide, by decide, ?_⟩
  rfl

/-- The buyers answer without a `ping_id`, and the router makes two up. -/
theorem ping_ids_unique_iff_made_up :
    (((ping false).router new 0).storedResponses (twoPingsEnv fun _ => []) (fun _ => some 1)
      [campaign, ⟨11, 21, .active, none⟩]).map BuyerResponseTask.pingId =
        [some "ping_2_C00000000", some "ping_1_C00000000"] ∧
    ∀ insert, batchInsertBuyerResponses (((ping false).router new 0).storedResponses
      (twoPingsEnv fun _ => []) (fun _ => some 1) [campaign, ⟨11, 21, .active, none⟩]) insert ≠
        .error .duplicatePingIds := by
  refine ⟨by decide, ?_⟩
  exact ((ping_ids_unique_iff rfl (by decide) (by decide)).mpr (by decide)).2

end PingTreeRouter

end LeadsNebula
