/-
The statement that the router runs itself (`services/ping_tree_router.rs`).

Most of what `route` writes goes to the queue.  Beside that a call waits for at most one
statement on `leads`: `update_lead_status`, `update_lead_with_post`, or the update of the
winner of a direct fullpost.  If the statement fails, the call returns its error in the
place of the result.

* `execs_route_le` — a call waits for at most one statement;
* `runs_route_post_iff` — a post waits for one if its buyer accepts, or while the lead is
  being processed;
* `returns_post_error_iff` — when the routing of a post returns an error.
-/
import LeadsNebula.PingTreeRouter

namespace LeadsNebula

/-- The call waits for the effect. -/
def Effect.isExec : Effect → Bool
  | .exec _ => true
  | .enqueue _ | .spawn _ => false

namespace Routed

/-- The number of statements that the call waits for. -/
def execs (routed : Routed) : ℕ := routed.effects.countP Effect.isExec

def runs (routed : Routed) : Bool := routed.effects.any Effect.isExec

/-- What the call returns, if the statement that it waits for has this outcome. -/
def returns (routed : Routed) (statement : Except String Unit) : Except String RoutingResult :=
  match routed.result with
  | .error e => .error e
  | .ok r =>
    match statement with
    | .error e => if routed.runs then .error e else .ok r
    | .ok () => .ok r

theorem returns_error_iff {routed : Routed} {statement : Except String Unit} :
    (∃ e, routed.returns statement = .error e) ↔
      (∃ e, routed.result = .error e) ∨ routed.runs = true ∧ statement ≠ .ok () := by
  rw [returns]
  rcases routed.result with e | r
  · simp
  · cases statement with
    | ok => simp
    | error e =>
      cases hruns : routed.runs with
      | true => simp
      | false => simp

end Routed

namespace PingTreeRouter

variable {r : PingTreeRouter} {env : RouteEnv} {priority : Uuid → Option ℤ}
  {campaigns : List Campaign}

/-! ### At most one statement -/

theorem countP_updateLeadStatus {status : LeadStatus} {error : Option String} :
    (r.updateLeadStatus env status error).countP Effect.isExec =
      if r.lead.status = .processing ∨ r.lead.status = .test then 1 else 0 := by
  rw [updateLeadStatus]
  split <;> rfl

theorem countP_updateLeadStatus_le {status : LeadStatus} {error : Option String} :
    (r.updateLeadStatus env status error).countP Effect.isExec ≤ 1 := by
  rw [countP_updateLeadStatus]
  split <;> omega

theorem any_updateLeadStatus {status : LeadStatus} {error : Option String} :
    (r.updateLeadStatus env status error).any Effect.isExec = true ↔
      r.lead.status = .processing ∨ r.lead.status = .test := by
  rw [updateLeadStatus]
  split <;> simp_all [Effect.isExec]

/-- An audit record is not waited for. -/
theorem countP_map_buyerResponse {α : Type} (f : α → BuyerResponseTask) (xs : List α) :
    (xs.map fun x => Effect.enqueue (.buyerResponse (f x))).countP Effect.isExec = 0 := by
  rw [List.countP_eq_zero]
  intro e he
  obtain ⟨x, -, rfl⟩ := List.mem_map.mp he
  exact Bool.false_ne_true

variable [StdText]

theorem execs_pingAuction_le (r : PingTreeRouter) (env : RouteEnv) (priority : Uuid → Option ℤ)
    (campaigns : List Campaign) :
    (r.routePingAuction env priority campaigns).execs ≤ 1 ∧
      ((r.routePingAuction env priority campaigns).execs = 0 ∨
        ∃ ping, (r.routePingAuction env priority campaigns).result = .ok ping ∧
          ping.success = false) := by
  have haudit : ∀ responses, (r.pingAudit env campaigns responses).countP Effect.isExec = 0 :=
    fun responses => countP_map_buyerResponse _ _
  rw [Routed.execs]
  simp only [routePingAuction]
  split
  · simp only [List.countP_append, haudit, Nat.zero_add]
    exact ⟨countP_updateLeadStatus_le, Or.inr ⟨_, rfl, rfl⟩⟩
  · split
    · simp only [haudit]
      exact ⟨Nat.zero_le 1, Or.inl trivial⟩
    · split
      · simp only [haudit]
        exact ⟨Nat.zero_le 1, Or.inl trivial⟩
      · simp only [List.countP_append, haudit]
        exact ⟨Nat.zero_le 1, Or.inl rfl⟩

theorem execs_routePost_le : (r.routePost env campaigns).execs ≤ 1 := by
  rw [Routed.execs, routePost]
  split
  · exact countP_updateLeadStatus_le
  · split
    · exact countP_updateLeadStatus_le
    · split
      · rw [postAnswered]
        split
        · exact le_rfl
        · exact countP_updateLeadStatus_le
      · exact countP_updateLeadStatus_le

theorem execs_fullpostSplit_le :
    (r.routeFullpostSplit env priority campaigns).execs ≤ 1 := by
  obtain ⟨hle, hping⟩ := execs_pingAuction_le { r with requestType := .ping } env priority campaigns
  rw [Routed.execs] at hle hping ⊢
  simp only [routeFullpostSplit]
  split
  · exact hle
  · next ping hresult =>
    split
    · exact hle
    · next hsuccess =>
      -- the post follows an auction that has a winner
      have hnone := hping.resolve_right (by
        rintro ⟨ping', hping', hfailed⟩
        rw [hresult, Except.ok.injEq] at hping'
        exact hsuccess (by rw [hping', hfailed]; rfl))
      rw [List.countP_append, hnone, Nat.zero_add]
      exact execs_routePost_le

theorem execs_fullpostDirect_le :
    (r.routeFullpostDirect env priority campaigns).execs ≤ 1 := by
  rw [Routed.execs]
  simp only [routeFullpostDirect]
  split
  · exact countP_updateLeadStatus_le
  · split
    · exact Nat.zero_le 1
    · have haudit : ∀ responses, (r.fullpostAudit campaigns responses).countP Effect.isExec = 0 :=
        fun responses => countP_map_buyerResponse _ _
      rw [List.countP_cons, haudit]
      exact le_rfl

/-- A call waits for at most one statement. -/
theorem execs_route_le (r : PingTreeRouter) (env : RouteEnv) : (r.route env).execs ≤ 1 := by
  rcases r.route_cases env with ⟨-, -, e, h⟩ | ⟨-, logged, reported, h⟩ | ⟨tree, ptcs, -, h⟩
  · rw [h]
    exact Nat.zero_le 1
  · rw [h]
    exact countP_updateLeadStatus_le
  · rw [h]
    split
    · exact (execs_pingAuction_le r env _ _).1
    · exact execs_routePost_le
    · rw [routeFullpost]
      split
      · exact execs_fullpostSplit_le
      · exact execs_fullpostDirect_le
    · exact countP_updateLeadStatus_le

/-! ### The statement of a post -/

/-- The buyer of the post's campaign accepts. -/
def BuyerAccepts (r : PingTreeRouter) (env : RouteEnv) : Prop :=
  ∃ tree ptcs c b, env.callable = some (tree, ptcs) ∧
    r.postCampaign (activeCampaigns env ptcs) = some c ∧ r.postResponse env c = .ok b ∧
    postAccepted b = true

/-- The lead is being processed, or its buyer accepts. -/
def WritesPost (r : PingTreeRouter) (env : RouteEnv) : Prop :=
  (r.lead.status = .processing ∨ r.lead.status = .test) ∨ r.BuyerAccepts env

omit [StdText] in
/-- The campaign of a lead is one of the campaigns, if a post finds one. -/
theorem postCampaign_listed {c : Campaign} (hc : r.postCampaign campaigns = some c) :
    (r.lead.campaignId.any fun id => !campaigns.any fun c => c.id = id) = false := by
  rw [postCampaign] at hc
  split at hc
  · next id hid =>
    rw [hid, Option.any_some, Bool.not_eq_false', List.any_eq_true]
    have hfound := List.find?_some hc
    exact ⟨c, List.mem_of_find?_eq_some hc, hfound⟩
  · next hid =>
    rw [hid]
    rfl

theorem runs_routePost_iff (hr : r.requestType = .post) :
    (r.routePost env campaigns).runs = true ↔
      (r.lead.status = .processing ∨ r.lead.status = .test) ∨ ∃ c b,
        r.postCampaign campaigns = some c ∧ r.postResponse env c = .ok b ∧
          postAccepted b = true := by
  -- without an accepted answer only the status of the lead can make the router write
  have hstatus : ∀ status error (h : ¬ ∃ c b, r.postCampaign campaigns = some c ∧
      r.postResponse env c = .ok b ∧ postAccepted b = true),
      ((r.updateLeadStatus env status error).any Effect.isExec = true ↔
        (r.lead.status = .processing ∨ r.lead.status = .test) ∨ ∃ c b,
          r.postCampaign campaigns = some c ∧ r.postResponse env c = .ok b ∧
            postAccepted b = true) := by
    intro status error h
    rw [any_updateLeadStatus, or_iff_left h]
  rw [Routed.runs, routePost]
  split
  · next hlost =>
    refine hstatus _ _ ?_
    rintro ⟨c, b, hc, -⟩
    rw [postCampaign_listed hc] at hlost
    cases hlost
  · -- the campaign of the lead is not in the tree any more
    split
    · next hnone =>
      refine hstatus _ _ ?_
      rintro ⟨c, b, hc, -⟩
      rw [hnone] at hc
      cases hc
    · next c hc =>
      rw [hr]
      split
      · next b hb =>
        rw [postAnswered]
        split
        · next hacc => exact iff_of_true rfl (Or.inr ⟨c, b, hc, hb, hacc⟩)
        · next hrej =>
          refine hstatus _ _ ?_
          rintro ⟨c', b', hc', hb', hacc⟩
          obtain rfl := Option.some.inj (hc.symm.trans hc')
          obtain rfl := Except.ok.inj (hb.symm.trans hb')
          exact hrej hacc
      · next e he =>
        refine hstatus _ _ ?_
        rintro ⟨c', b', hc', hb', -⟩
        obtain rfl := Option.some.inj (hc.symm.trans hc')
        cases he.symm.trans hb'

/-- A post whose lookups succeed waits for a statement if its buyer accepts, or while the lead is
being processed. -/
theorem runs_route_post_iff (hr : r.requestType = .post) (hok : env.lookupsFail = false) :
    (r.route env).runs = true ↔ r.WritesPost env := by
  rw [WritesPost, BuyerAccepts]
  rcases r.route_cases env with ⟨-, hfail, -⟩ | ⟨hno, logged, reported, h⟩ | ⟨tree, ptcs, hcall, h⟩
  · rw [hok] at hfail
    cases hfail
  · -- no campaign is called
    rw [h, Routed.runs, failWith, any_updateLeadStatus]
    refine ⟨Or.inl, fun hwrites => hwrites.resolve_right ?_⟩
    rintro ⟨tree, ptcs, c, b, hcall, hc, -⟩
    rw [hno tree ptcs hcall, postCampaign] at hc
    split at hc <;> cases hc
  · simp only [hr] at h
    rw [h, runs_routePost_iff hr]
    refine or_congr_right ⟨?_, ?_⟩
    · rintro ⟨c, b, hc⟩
      exact ⟨tree, ptcs, c, b, hcall, hc⟩
    · rintro ⟨tree', ptcs', c, b, hcall', hc⟩
      rw [hcall, Option.some_inj, Prod.mk.injEq] at hcall'
      exact ⟨c, b, hcall'.2 ▸ hc⟩

/-- Routing a post returns an error if its lookups fail, or the statement that it waits for. -/
theorem returns_post_error_iff (hr : r.requestType = .post) (env : RouteEnv)
    (statement : Except String Unit) :
    (∃ e, ((r.route env).returns statement) = .error e) ↔
      env.lookupsFail = true ∨ r.WritesPost env ∧ statement ≠ .ok () := by
  rw [Routed.returns_error_iff, route_post_error_iff hr]
  cases hok : env.lookupsFail with
  | true => simp
  | false => rw [runs_route_post_iff hr hok]

end PingTreeRouter

end LeadsNebula
