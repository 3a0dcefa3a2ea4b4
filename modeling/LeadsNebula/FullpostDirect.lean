/-
Direct fullposts: one call to every campaign of the tree at once.

The ids of the campaigns are kept in the order in which the calls are made, the
results in the order in which they complete, and the router pairs them by
position.  A buyer that answers out of turn is taken for another one, and its
price is charged to that one.

* `ownResponses` — every response with the campaign that gave it;
* `fullpost_attribution_iff` — the responses are attributed to the buyers that
  gave them exactly when every call that is answered completes in its place.
-/
import LeadsNebula.System

namespace LeadsNebula

open Completion (inOrder collect zipCollect InPlace)

namespace PingTreeRouter

section Direct

variable [StdText] {r : PingTreeRouter} {env : RouteEnv} {priority : Uuid → Option ℤ}
  {campaigns : List Campaign}

/-- The answer of a campaign to a direct fullpost, if there is one. -/
def fullpostAnswer (r : PingTreeRouter) (env : RouteEnv) (c : Campaign) : Option BuyerResponse :=
  (r.fullpostOutcome env c).toOption

/-- The answers in the order in which they arrive, each with the campaign that gave it. -/
def ownResponses (r : PingTreeRouter) (env : RouteEnv) (priority : Uuid → Option ℤ)
    (campaigns : List Campaign) : List Attributed :=
  (collect Campaign.id (r.fullpostAnswer env) (inOrder env.order campaigns)).map fun x =>
    (x.1, x.2, priority x.2)

/-- Every call that is answered completes in a place of its own campaign. -/
def AnswersInPlace (r : PingTreeRouter) (env : RouteEnv) (campaigns : List Campaign) : Prop :=
  InPlace Campaign.id (r.fullpostAnswer env) campaigns (inOrder env.order campaigns)

instance (r : PingTreeRouter) (env : RouteEnv) (campaigns : List Campaign) :
    Decidable (r.AnswersInPlace env campaigns) :=
  inferInstanceAs (Decidable (InPlace _ _ _ _))

/-! ### Pairing by position -/

theorem fullpostResponses_eq (r : PingTreeRouter) (env : RouteEnv) (priority : Uuid → Option ℤ)
    (campaigns : List Campaign) :
    r.fullpostResponses env priority campaigns =
      (zipCollect Campaign.id (r.fullpostAnswer env) campaigns
        (inOrder env.order campaigns)).map fun x => (x.1, x.2, priority x.2) := by
  have hmap : (inOrder env.order campaigns).map (r.fullpostAnswer env) =
      ((inOrder env.order campaigns).map (r.fullpostOutcome env)).map Except.toOption := by
    rw [List.map_map]
    rfl
  rw [fullpostResponses, zipCollect, hmap]
  generalize (inOrder env.order campaigns).map (r.fullpostOutcome env) = results
  rw [List.zip_map_right, List.filterMap_map, List.map_filterMap]
  congr 1
  funext p
  obtain ⟨id, e | b⟩ := p <;> rfl

theorem fullpostResponses_eq_own_iff
    (horder : env.order.Perm (List.range campaigns.length)) :
    r.fullpostResponses env priority campaigns = r.ownResponses env priority campaigns ↔
      r.AnswersInPlace env campaigns := by
  have hinj : Function.Injective
      (fun x : BuyerResponse × Uuid => ((x.1, x.2, priority x.2) : Attributed)) := by
    rintro ⟨b, id⟩ ⟨b', id'⟩ h
    obtain ⟨rfl, rfl, -⟩ : b = b' ∧ id = id' ∧ _ := by simpa using h
    rfl
  have hlen : campaigns.length = (inOrder env.order campaigns).length :=
    (Completion.inOrder_perm horder).length_eq.symm
  rw [fullpostResponses_eq, ownResponses, List.map_inj_right (fun _ _ h => hinj h)]
  exact Completion.zipCollect_eq_collect_iff hlen

theorem mem_ownResponses {x : Attributed}
    (horder : env.order.Perm (List.range campaigns.length))
    (h : x ∈ r.ownResponses env priority campaigns) :
    ∃ c ∈ campaigns, r.fullpostOutcome env c = .ok x.1 ∧ x.2.1 = c.id := by
  obtain ⟨⟨b, id⟩, hmem, rfl⟩ := List.mem_map.mp h
  obtain ⟨c, hc, hb⟩ := List.mem_filterMap.mp hmem
  obtain ⟨b', hb', hpair⟩ := Option.map_eq_some_iff.mp hb
  obtain ⟨rfl, rfl⟩ := Prod.mk.inj hpair
  exact ⟨c, (Completion.inOrder_perm horder).subset hc, ok_of_toOption hb', rfl⟩

/-! ### One buyer -/

/-- What a direct fullpost reports, writes to the row and stores comes from one buyer, and does
not depend on the order in which the buyers answer. -/
structure FromOneBuyer (r : PingTreeRouter) (env : RouteEnv) (priority : Uuid → Option ℤ)
    (campaigns : List Campaign) : Prop where
  responses : r.fullpostResponses env priority campaigns = r.ownResponses env priority campaigns
  winner : ∀ res, (r.routeFullpostDirect env priority campaigns).result = .ok res →
    res.success = true → ∃ c ∈ campaigns, ∃ b promiseId, r.fullpostOutcome env c = .ok b ∧
      res.campaignId = some c.id ∧ res.buyerId = some c.buyerId ∧ res.price = b.price ∧
      res.postId = b.postId ∧
      .exec (.setFullpostWinner r.lead.uuid c.id c.buyerId promiseId b.postId) ∈
        (r.routeFullpostDirect env priority campaigns).effects
  stored : ∀ t, .enqueue (.buyerResponse t) ∈
    (r.routeFullpostDirect env priority campaigns).effects →
    ∃ c ∈ campaigns, ∃ b, r.fullpostOutcome env c = .ok b ∧ t.campaignId = c.id ∧
      t.buyerId = some c.buyerId ∧ t.postId = b.postId ∧ t.payload = b.toJson
  order : r.routeFullpostDirect env priority campaigns =
    r.routeFullpostDirect { env with order := List.range campaigns.length } priority campaigns

omit [StdText] in
theorem find_campaign (hinj : ∀ c ∈ campaigns, ∀ c' ∈ campaigns, c.id = c'.id → c = c')
    {c : Campaign} (hc : c ∈ campaigns) :
    campaigns.find? (fun x => x.id = c.id) = some c := by
  cases h : campaigns.find? (fun x => x.id = c.id) with
  | none =>
    have hno := List.find?_eq_none.mp h c hc
    simp at hno
  | some c' =>
    have hid := List.find?_some h
    rw [decide_eq_true_iff] at hid
    rw [hinj c' (List.mem_of_find?_eq_some h) c hc hid]

/-- In submission order the collected answers are those of the campaigns, in their order. -/
theorem fullpostResponses_of_inPlace
    (hinj : ∀ c ∈ campaigns, ∀ c' ∈ campaigns, c.id = c'.id → c = c')
    (horder : env.order.Perm (List.range campaigns.length))
    (h : r.AnswersInPlace env campaigns) :
    r.fullpostResponses env priority campaigns =
      r.fullpostResponses { env with order := List.range campaigns.length } priority campaigns := by
  have hrefl : r.AnswersInPlace { env with order := List.range campaigns.length } campaigns := by
    rw [AnswersInPlace, Completion.inOrder_range]
    exact Completion.inPlace_refl campaigns
  rw [(fullpostResponses_eq_own_iff horder).mpr h,
    (fullpostResponses_eq_own_iff (List.Perm.refl _)).mpr hrefl, ownResponses, ownResponses,
    Completion.collect_eq_of_inPlace (Completion.inOrder_perm horder) hinj h,
    Completion.inOrder_range]
  rfl

theorem fromOneBuyer_of_inPlace
    (hinj : ∀ c ∈ campaigns, ∀ c' ∈ campaigns, c.id = c'.id → c = c')
    (horder : env.order.Perm (List.range campaigns.length))
    (h : r.AnswersInPlace env campaigns) : FromOneBuyer r env priority campaigns := by
  have hown : r.fullpostResponses env priority campaigns = r.ownResponses env priority campaigns :=
    (fullpostResponses_eq_own_iff horder).mpr h
  -- a collected response is the answer of the campaign it is attributed to
  have hresp : ∀ {x : Attributed}, x ∈ r.fullpostResponses env priority campaigns →
      ∃ c ∈ campaigns, r.fullpostOutcome env c = .ok x.1 ∧ x.2.1 = c.id := by
    intro x hx
    exact mem_ownResponses horder (hown ▸ hx)
  refine ⟨hown, ?_, ?_, ?_⟩
  · intro res hres hsuccess
    simp only [routeFullpostDirect] at hres ⊢
    split at hres
    · rw [← Except.ok.inj hres] at hsuccess
      cases hsuccess
    · next winner winnerId prio rest hsort =>
      have hmem : (winner, winnerId, prio) ∈ r.fullpostResponses env priority campaigns := by
        have hhead : (winner, winnerId, prio) ∈ (winner, winnerId, prio) :: rest :=
          List.mem_cons_self
        rw [← hsort, sortOffers, List.mem_mergeSort] at hhead
        exact List.mem_of_mem_filter hhead
      obtain ⟨c, hc, hout, hid⟩ := hresp hmem
      simp only at hid
      subst hid
      rw [find_campaign hinj hc] at hres ⊢
      refine ⟨c, hc, winner,
        winner.promiseId.or (some ("PROMISE_" ++ Encoding.hexUpper env.promiseBytes)), hout, ?_⟩
      rw [← Except.ok.inj hres]
      exact ⟨rfl, rfl, rfl, rfl, List.mem_cons_self⟩
  · intro t ht
    simp only [routeFullpostDirect] at ht
    split at ht
    · obtain ⟨vd, hvd, -⟩ := mem_updateLeadStatus ht
      cases hvd
    · split at ht
      · cases ht
      · rcases List.mem_cons.mp ht with ht | ht
        · cases ht
        · obtain ⟨x, hx, hxt⟩ := List.mem_map.mp ht
          obtain ⟨c, hc, hout, hid⟩ := hresp hx
          obtain rfl := BackgroundTask.buyerResponse.inj (Effect.enqueue.inj hxt)
          refine ⟨c, hc, x.1, hout, hid, ?_, rfl, rfl⟩
          show buyerOf campaigns x.2.1 = _
          rw [buyerOf, hid, find_campaign hinj hc]
          rfl
  · simp only [routeFullpostDirect, fullpostResponses_of_inPlace hinj horder h]
    rfl

/-- A direct fullpost to the campaigns of a ping tree, with every order in which the calls may
complete: the responses are attributed to the buyers that gave them, and all that follows comes
from one buyer, exactly when every call that is answered completes in its place. -/
theorem fullpost_attribution_iff (r : PingTreeRouter) (env : RouteEnv)
    (priority : Uuid → Option ℤ) (ptcs : List PingTreeCampaign)
    (horder : env.order.Perm (List.range (activeCampaigns env ptcs).length)) :
    FromOneBuyer r env priority (activeCampaigns env ptcs) ↔
      r.AnswersInPlace env (activeCampaigns env ptcs) := by
  constructor
  · intro h
    exact (fullpostResponses_eq_own_iff horder).mp h.responses
  · exact fromOneBuyer_of_inPlace (fun c hc c' hc' => activeCampaigns_inj hc hc') horder

end Direct

/-! ### Two buyers -/

open Sample

/-- Two campaigns of Pulsar: the first one offers 150, the second one 160. -/
def twoBuyersEnv (order : List ℕ) : RouteEnv :=
  { env with
    campaignsWithAssociations := [(campaign, some pulsar), (⟨11, 21, .active, none⟩, some pulsar)]
    order := order
    postCall := fun id => { call with draw := { draw with bid := if id = 10 then 50 else 60 } } }

/-- The sort is by well-founded recursion and does not compute; on two offers it is this. -/
theorem sortOffers_pair (value : BuyerResponse → Option F64) (a b : Attributed) :
    sortOffers value [a, b] = if compareOffers value a b != .gt then [a, b] else [b, a] := by
  simp [sortOffers, List.mergeSort, List.MergeSort.Internal.splitInTwo, List.merge]

/-- The tree holds both. -/
def twoBuyersTree : List PingTreeCampaign := [⟨10, some 1⟩, ⟨11, some 2⟩]

/-- The second buyer answers first: its price of 160 is charged to the first one, which offered
150. -/
theorem late_buyer_charged :
    (twoBuyersEnv [1, 0]).order.Perm
        (List.range (activeCampaigns (twoBuyersEnv [1, 0]) twoBuyersTree).length) ∧
      (∃ res, (((fullpost false).router new 0).routeFullpostDirect (twoBuyersEnv [1, 0])
          (priorityOf twoBuyersTree)
          (activeCampaigns (twoBuyersEnv [1, 0]) twoBuyersTree)).result = .ok res ∧
        res.campaignId = some 10 ∧ res.buyerId = some 20 ∧ res.price = some (.fin 160) ∧
        (((fullpost false).router new 0).fullpostAnswer (twoBuyersEnv [1, 0]) campaign).map
          BuyerResponse.price = some (some (.fin 150))) ∧
      ¬ FromOneBuyer ((fullpost false).router new 0) (twoBuyersEnv [1, 0])
        (priorityOf twoBuyersTree) (activeCampaigns (twoBuyersEnv [1, 0]) twoBuyersTree) := by
  refine ⟨by decide, ?_, ?_⟩
  · have hpair : ∃ a b, (((fullpost false).router new 0).fullpostResponses (twoBuyersEnv [1, 0])
        (priorityOf twoBuyersTree) (activeCampaigns (twoBuyersEnv [1, 0]) twoBuyersTree)).filter
          (fun x => validFullpost x.1) = [a, b] ∧ a.2.1 = 10 ∧ a.1.price = some (.fin 160) ∧
        (compareOffers BuyerResponse.price a b != .gt) = true :=
      ⟨_, _, rfl, by decide, by decide, by decide⟩
    -- the higher price comes first, whoever has offered it
    obtain ⟨⟨a, id, prio⟩, b, hpair, rfl, hprice, hle⟩ := hpair
    have hfind : (activeCampaigns (twoBuyersEnv [1, 0]) twoBuyersTree).find?
        (fun c => c.id = 10) = some campaign := by
      decide
    simp only [routeFullpostDirect, hpair, sortOffers_pair, hle, if_true, hfind]
    exact ⟨_, rfl, rfl, rfl, hprice, by decide⟩
  · -- the first answer is put down to the second campaign
    intro h
    have hsame : ((fullpost false).router new 0).fullpostResponses (twoBuyersEnv [1, 0])
        (priorityOf twoBuyersTree) (activeCampaigns (twoBuyersEnv [1, 0]) twoBuyersTree) ≠
        ((fullpost false).router new 0).ownResponses (twoBuyersEnv [1, 0])
        (priorityOf twoBuyersTree) (activeCampaigns (twoBuyersEnv [1, 0]) twoBuyersTree) := by
      decide +kernel
    exact hsame h.responses

/-- The buyers answer in turn. -/
theorem fullpost_attribution_iff_in_turn :
    FromOneBuyer ((fullpost false).router new 0) (twoBuyersEnv [0, 1]) (priorityOf twoBuyersTree)
        (activeCampaigns (twoBuyersEnv [0, 1]) twoBuyersTree) ∧
      ((fullpost false).router new 0).AnswersInPlace (twoBuyersEnv [0, 1])
        (activeCampaigns (twoBuyersEnv [0, 1]) twoBuyersTree) := by
  have horder : (twoBuyersEnv [0, 1]).order.Perm
      (List.range (activeCampaigns (twoBuyersEnv [0, 1]) twoBuyersTree).length) := by
    decide
  have hplace : ((fullpost false).router new 0).AnswersInPlace (twoBuyersEnv [0, 1])
      (activeCampaigns (twoBuyersEnv [0, 1]) twoBuyersTree) := by
    decide
  exact ⟨(fullpost_attribution_iff _ _ _ _ horder).mpr hplace, hplace⟩

end PingTreeRouter

end LeadsNebula
