/-
Qualification configs beyond the ping.

The auction passes each buyer's qualification config on to its call.  The post
and the direct fullpost build their calls without it, and the engine takes a
missing config for one that accepts every lead.

* `fullpostOutcome_internal` — an internal buyer accepts every direct fullpost
  (and every post, `postResponse_internal`);
* `config_used_iff` — the decisions agree with the config exactly where it
  accepts the lead.
-/
import LeadsNebula.FullpostSplit
import LeadsNebula.Qualification

namespace LeadsNebula

namespace PingTreeRouter

section Post

variable [StdText] {r : PingTreeRouter} {env : RouteEnv} {c : Campaign}

/-- The decision of the config of the campaign's buyer on the lead, for a post. -/
def configAccepts (r : PingTreeRouter) (env : RouteEnv) (c : Campaign) : Bool :=
  (QualificationEngine.evaluate ⟨r.lead, .post, env.qualificationConfigs c.buyerId⟩).accepted

/-- The post and the direct fullpost to a campaign decide as the config of its buyer does, and a
lead that the config rejects is not sold. -/
structure UsesConfig (r : PingTreeRouter) (env : RouteEnv) (c : Campaign) : Prop where
  post : ∀ b, r.postResponse env c = .ok b → b.success = r.configAccepts env c
  fullpost : ∀ b, r.fullpostOutcome env c = .ok b → b.success = r.configAccepts env c
  postSale : r.configAccepts env c = false → ∀ b, r.postResponse env c = .ok b →
    postAccepted b = false
  fullpostSale : r.configAccepts env c = false → ∀ b, r.fullpostOutcome env c = .ok b →
    validFullpost b = false

/-- An internal buyer answers and accepts every direct fullpost. -/
theorem fullpostOutcome_internal (hpulsar : CallsPulsar env.directory c) :
    ∃ b, r.fullpostOutcome env c = .ok b ∧ b.success = true := by
  obtain ⟨integration, hint, hp⟩ := hpulsar r.lead
  have hanswer : r.fullpostOutcome env c =
      PulsarService.routeFullpostDirectSync r.lead none (env.postCall c.id).draw := by
    show (BuyerRouter.new r.lead [c] .fullpost).routeFullpost env.directory (env.postCall c.id) c =
      _
    have hint' : (BuyerRouter.new r.lead [c] .fullpost).getBuyerIntegration env.directory c =
        .ok integration := hint
    rw [BuyerRouter.routeFullpost, hint']
    show (if integration.isInternal = true then _ else _) = _
    rw [if_pos hp.1, BuyerRouter.callInternal_of_isPulsar hp]
    rfl
  exact ⟨_, hanswer, rfl⟩

/-- For a campaign of an internal buyer: the config of the buyer is used exactly where it accepts
the lead. -/
theorem config_used_iff (r : PingTreeRouter) {env : RouteEnv} {c : Campaign}
    (hpulsar : CallsPulsar env.directory c) :
    UsesConfig r env c ↔ r.configAccepts env c = true := by
  constructor
  · intro h
    obtain ⟨b, hb, hsuccess⟩ := fullpostOutcome_internal (r := r) hpulsar
    rw [← h.fullpost b hb, hsuccess]
  · intro hacc
    refine ⟨?_, ?_, ?_, ?_⟩
    · intro b hb
      obtain ⟨promiseId, rfl⟩ := postResponse_internal hpulsar hb
      exact hacc.symm
    · intro b hb
      obtain ⟨b', hb', hsuccess⟩ := fullpostOutcome_internal (r := r) hpulsar
      rw [hb, Except.ok.injEq] at hb'
      rw [hacc, hb', hsuccess]
    · intro hrej
      rw [hacc] at hrej
      cases hrej
    · intro hrej
      rw [hacc] at hrej
      cases hrej

end Post

/-! ### A rejected lead that is sold -/

open Sample

/-- A post on a lead that does not own their home. -/
def rentedHome : PingTreeRouter where
  lead := { (ping true).newLead new 0 with verticalData := .obj [("own_home", .bool false)] }
  vertical := "solar"
  requestType := .post

/-- The config of the buyer rejects the lead, and both paths sell it. -/
theorem rejected_lead_sold :
    CallsPulsar homeOwnersEnv.directory campaign ∧
    homeOwnersOnly.enabled = true ∧ homeOwnersOnly.isActive = true ∧
    homeOwnersEnv.qualificationConfigs campaign.buyerId = some homeOwnersOnly ∧
    rentedHome.configAccepts homeOwnersEnv campaign = false ∧
    (∃ b, rentedHome.postResponse homeOwnersEnv campaign = .ok b ∧ postAccepted b = true) ∧
    ∃ b, rentedHome.fullpostOutcome homeOwnersEnv campaign = .ok b ∧ validFullpost b = true := by
  refine ⟨fun lead => ⟨pulsar, rfl, by decide⟩, rfl, rfl, rfl, by decide, ?_, ?_⟩
  · have h : (rentedHome.postResponse homeOwnersEnv campaign).toOption.any postAccepted = true := by
      decide
    obtain ⟨b, hb, hacc⟩ := (Option.any_eq_true _ _).mp h
    exact ⟨b, ok_of_toOption hb, hacc⟩
  · have h : (rentedHome.fullpostOutcome homeOwnersEnv campaign).toOption.any validFullpost =
        true := by
      decide
    obtain ⟨b, hb, hacc⟩ := (Option.any_eq_true _ _).mp h
    exact ⟨b, ok_of_toOption hb, hacc⟩

/-- Home owners are accepted by the config, and by both paths. -/
theorem config_used_iff_home_owner :
    UsesConfig { rentedHome with lead := { rentedHome.lead with
        verticalData := .obj [("own_home", .bool true)] } } homeOwnersEnv campaign :=
  (config_used_iff _ (fun lead => ⟨pulsar, rfl, by decide⟩)).mpr (by decide)

end PingTreeRouter

end LeadsNebula
