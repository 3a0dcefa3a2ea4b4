/-
Qualification rules, from the request to the auction.

The engine reads the fields of a lead from its `vertical_data`.  The lead that
`create_lead` hands to the router has an empty `vertical_data`, whatever was
submitted, so the engine finds no field and accepts.

* `pingResponse_not_rejection` — no internal campaign rejects a ping;
* `qualification_enforced_iff` — the rules of a campaign are enforced only where
  none of them rejects what was submitted.
-/
import LeadsNebula.System

namespace LeadsNebula

/-- The submitted fields under the names by which the engine reads them. -/
def LeadData.qualificationFields (d : LeadData) : List (String × Json) :=
  (d.ownHome.map fun b => ("own_home", .bool b)).toList ++
    (d.roofShade.map fun s => ("roof_shade", .str s)).toList ++
    (d.creditRating.map fun s => ("credit_rating", .str s)).toList

/-- A buyer's answer that rejects the lead. -/
def BuyerResponse.isRejection (b : BuyerResponse) : Bool := !b.success && b.status = "rejected"

section Ping

variable [StdText]

/-- The new lead as it would be with the submitted fields in its `vertical_data`. -/
def LeadRequest.submittedLead (req : LeadRequest) (new : NewLead) (now : Timestamp) : Lead :=
  { req.newLead new now with verticalData := .obj req.data.qualificationFields }

/-- An enabled, active config has a rule on `own_home`, `roof_shade` or `credit_rating` that
rejects the submitted value. -/
def LeadRequest.rejectsSubmitted (req : LeadRequest) (new : NewLead) (now : Timestamp)
    (config : Option BuyerQualificationConfig) : Bool :=
  config.any fun c => c.enabled && c.isActive && c.rulesOrder.any fun rule =>
    (["own_home", "roof_shade", "credit_rating"].contains rule) &&
      !(QualificationEngine.evaluateRule ⟨req.submittedLead new now, .ping, some c⟩ rule
        c.config).accepted

/-- The call of the auction to a campaign. -/
def PingTreeRouter.pingRouter (r : PingTreeRouter) (env : RouteEnv) (c : Campaign) : BuyerRouter :=
  ⟨r.lead, [c], r.requestType, PingTreeRouter.preloadedIntegration env c.buyerId,
    env.qualificationConfigs c.buyerId⟩

/-- An internal buyer accepts the ping of a lead without fields, if it answers at all. -/
theorem routePing_of_no_fields {r : BuyerRouter} {dir : BuyerDirectory} {call : BuyerCall}
    {c : Campaign} {integration : BuyerIntegration} (hvd : r.lead.verticalData = .obj [])
    (hint : r.getBuyerIntegration dir c = .ok integration)
    (hinternal : integration.isInternal = true) :
    r.routePing dir call c = .ok (PulsarService.acceptedPing r.lead call.draw) ∨
      ∃ e, r.routePing dir call c = .error e := by
  have hacc : PulsarService.routePingDirectSync r.lead r.preloadedQualConfig call.draw =
      PulsarService.acceptedPing r.lead call.draw :=
    if_pos (QualificationEngine.evaluate_accepted_of_no_fields hvd)
  rw [BuyerRouter.routePing, hint]
  show (if integration.isInternal = true then _ else _) = _ ∨
    ∃ e, (if integration.isInternal = true then _ else _) = _
  rw [if_pos hinternal, hacc, BuyerRouter.callInternal]
  split
  · exact Or.inl rfl
  · exact Or.inr ⟨_, rfl⟩

/-- An internal campaign accepts a ping, or its task fails. -/
theorem pingResponse_internal {req : LeadRequest} (hping : req.requestType = .ping)
    (new : NewLead) (now : Timestamp) {env : RouteEnv} {c : Campaign}
    {integration : BuyerIntegration}
    (hint : ((req.router new now).pingRouter env c).getBuyerIntegration env.directory c =
      .ok integration) (hinternal : integration.isInternal = true) :
    (req.router new now).pingResponse env c =
        PulsarService.acceptedPing (req.newLead new now) (env.pingTask c.id).call.draw ∨
      ((req.router new now).pingResponse env c).success = false ∧
        ((req.router new now).pingResponse env c).isRejection = false := by
  have hroute : ∀ call, ((req.router new now).pingRouter env c).route env.directory call =
      ((req.router new now).pingRouter env c).routePing env.directory call c := by
    intro call
    have htype : ((req.router new now).pingRouter env c).requestType = .ping := hping
    have hc : ((req.router new now).pingRouter env c).campaigns = [c] := rfl
    rw [BuyerRouter.route, hc]
    simp only [htype]
  -- an answer, if there is one, accepts
  have hanswer : ∀ b, ((req.router new now).pingRouter env c).route env.directory
      (env.pingTask c.id).call = .ok b →
      b = PulsarService.acceptedPing (req.newLead new now) (env.pingTask c.id).call.draw := by
    intro b hb
    rw [hroute] at hb
    rcases routePing_of_no_fields rfl hint hinternal with h | ⟨e, h⟩
    · rw [h] at hb
      exact (Except.ok.inj hb).symm
    · rw [h] at hb
      cases hb
  have htask : ∀ b, (req.router new now).runPingTask env c = some (.ok b) →
      b = PulsarService.acceptedPing (req.newLead new now) (env.pingTask c.id).call.draw := by
    intro b hb
    simp only [PingTreeRouter.runPingTask] at hb
    split at hb
    · exact hanswer b (Option.some_inj.mp hb)
    · split at hb
      · cases hb
      · exact hanswer b (Option.some_inj.mp hb)
  rw [PingTreeRouter.pingResponse]
  split
  · next b hb => exact Or.inl (htask b hb)
  · exact Or.inr ⟨rfl, rfl⟩
  · exact Or.inr ⟨rfl, rfl⟩

/-- No internal campaign rejects a ping. -/
theorem pingResponse_not_rejection {req : LeadRequest} (hping : req.requestType = .ping)
    (new : NewLead) (now : Timestamp) {env : RouteEnv} {c : Campaign}
    {integration : BuyerIntegration}
    (hint : ((req.router new now).pingRouter env c).getBuyerIntegration env.directory c =
      .ok integration) (hinternal : integration.isInternal = true) :
    ((req.router new now).pingResponse env c).isRejection = false := by
  rcases pingResponse_internal hping new now hint hinternal with h | ⟨-, h⟩
  · rw [h]
    rfl
  · exact h

/-- What a rejecting rule asks of the auction is met only where no rule rejects. -/
theorem qualification_enforced_iff {req : LeadRequest} (hping : req.requestType = .ping)
    (new : NewLead) (now : Timestamp) {env : RouteEnv} {c : Campaign}
    {integration : BuyerIntegration}
    (hint : ((req.router new now).pingRouter env c).getBuyerIntegration env.directory c =
      .ok integration) (hinternal : integration.isInternal = true) :
    (req.rejectsSubmitted new now (env.qualificationConfigs c.buyerId) = true →
      ((req.router new now).pingResponse env c).isRejection = true) ↔
    req.rejectsSubmitted new now (env.qualificationConfigs c.buyerId) = false := by
  rw [pingResponse_not_rejection hping new now hint hinternal]
  cases req.rejectsSubmitted new now (env.qualificationConfigs c.buyerId) <;> decide

end Ping

/-! ### A rule that is not enforced -/

open Sample

/-- A config that rejects leads who do not own their home. -/
def homeOwnersOnly : BuyerQualificationConfig where
  buyerId := 20
  config := .obj [("own_home_rule", .obj [("rules", .arr
    [.obj [("value", .str "no"), ("action", .str "reject")]])])]
  rulesOrder := ["own_home"]
  enabled := true
  isActive := true

/-- The buyer of the campaign has the config. -/
def homeOwnersEnv : RouteEnv := { env with qualificationConfigs := fun _ => some homeOwnersOnly }

/-- The rule rejects the lead with the submitted fields. -/
example : QualificationEngine.evaluate
  ⟨(ping true).submittedLead new 0, .ping, some homeOwnersOnly⟩ =
    .reject "Lead does not meet own_home requirement (value: no)" := by decide

/-- The lead does not own their home, and the campaign accepts the ping. -/
theorem own_home_rule_not_enforced :
    (ping true).requestType = .ping ∧
    (ping true).rejectsSubmitted new 0 (homeOwnersEnv.qualificationConfigs campaign.buyerId) =
      true ∧
    (((ping true).router new 0).pingRouter homeOwnersEnv campaign).getBuyerIntegration
      homeOwnersEnv.directory campaign = .ok pulsar ∧ pulsar.isInternal = true ∧
    (((ping true).router new 0).pingResponse homeOwnersEnv campaign).isRejection = false ∧
    (((ping true).router new 0).pingResponse homeOwnersEnv campaign).status = "accepted" := by
  refine ⟨by decide, by decide, rfl, rfl, by decide, by decide⟩

/-- The ping of a lead that owns its home. -/
def ownerPing : LeadRequest :=
  { ping true with data := { body "ping" none with ownHome := some true } }

/-- The rule asks nothing of a lead that owns its home; of one that does not it asks a rejection. -/
theorem qualification_enforced_iff_home_owners :
    (ownerPing.rejectsSubmitted new 0 (homeOwnersEnv.qualificationConfigs campaign.buyerId) = true →
      ((ownerPing.router new 0).pingResponse homeOwnersEnv campaign).isRejection = true) ∧
    ¬((ping true).rejectsSubmitted new 0 (homeOwnersEnv.qualificationConfigs campaign.buyerId) =
      true → (((ping true).router new 0).pingResponse homeOwnersEnv campaign).isRejection = true) :=
  ⟨(qualification_enforced_iff (by decide) new 0 rfl (by decide)).mpr (by decide),
    mt (qualification_enforced_iff (by decide) new 0 rfl (by decide)).mp (by decide)⟩

end LeadsNebula
