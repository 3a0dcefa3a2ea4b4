/-
Active campaigns and their ping trees.

A campaign that leaves its last ping tree becomes inactive, and a campaign in no ping
tree is not made active again; but `create_campaign` stores an active campaign whether
or not the request names a ping tree (`active_campaign_in_no_tree`).

* `triple_handle` — a request on campaigns or ping trees keeps active campaigns in a
  ping tree, unless it creates a campaign and names none;
* `active_campaigns_in_tree_iff` — in the states of a run every active campaign is in
  a ping tree, if and only if every campaign that is created is put in one.
-/
import LeadsNebula.TenantIsolation
import LeadsNebula.Transition
import LeadsNebula.Triple

namespace LeadsNebula

namespace Dashboard

open Prog

variable {cfg : DashConfig} {env : DashEnv} {user : User} {s s' : Db}

/-- The campaign has a row in `ping_tree_campaigns`. -/
def InTree (s : Db) (id : Uuid) : Prop := ∃ l ∈ (s .pingTreeCampaigns).rows, l.campaignId = id

/-- Every campaign that is active and not deleted is in a ping tree. -/
def ActiveInTree (s : Db) : Prop :=
  ∀ c ∈ (s .campaigns).rows, c.deletedAt = none → c.status = .active → InTree s c.id

/-- The same for all campaigns but one, and the foreign key of `ping_tree_campaigns`. -/
structure LinkedBut (id : Option Uuid) (s : Db) : Prop where
  active : ∀ c ∈ (s .campaigns).rows, some c.id ≠ id → c.deletedAt = none → c.status = .active →
    InTree s c.id
  known : ∀ l ∈ (s .pingTreeCampaigns).rows, ∃ c ∈ (s .campaigns).rows, c.id = l.campaignId

theorem LinkedBut.activeInTree (h : LinkedBut none s) : ActiveInTree s :=
  fun c hc => h.active c hc (fun heq => by cases heq)

theorem LinkedBut.except (h : LinkedBut none s) (id : Option Uuid) : LinkedBut id s where
  active := fun c hc _ => h.activeInTree c hc
  known := h.known

/-- Only the two tables matter. -/
theorem LinkedBut.congr {id : Option Uuid} (h : LinkedBut id s)
    (hcampaigns : s' .campaigns = s .campaigns)
    (hlinks : s' .pingTreeCampaigns = s .pingTreeCampaigns) : LinkedBut id s' := by
  obtain ⟨hactive, hknown⟩ := h
  constructor
  · unfold InTree
    rw [hcampaigns, hlinks]
    exact hactive
  · rw [hcampaigns, hlinks]
    exact hknown

/-- What holds when a request stops early: a statement has failed, or nothing is broken. -/
def Stopped (e : ℕ) (s : Db) : Prop := e = 500 ∨ LinkedBut none s

/-! ### Statements on the two tables -/

/-- A change to the rows of campaigns: a campaign that becomes active is in a ping tree. -/
theorem linked_of_campaigns {f : Campaign → Campaign} (h : LinkedBut none s)
    (hrows : (s' .campaigns).rows = (s .campaigns).rows.map f)
    (hothers : ∀ t, t ≠ .campaigns → s' t = s t) (hid : ∀ c, (f c).id = c.id)
    (hactive : ∀ c ∈ (s .campaigns).rows, (f c).deletedAt = none → (f c).status = .active →
      (c.deletedAt = none ∧ c.status = .active) ∨ InTree s c.id) : LinkedBut none s' := by
  have hlinks : s' .pingTreeCampaigns = s .pingTreeCampaigns := hothers _ (by decide)
  constructor
  · intro c hc _ hdeleted hstatus
    rw [hrows] at hc
    obtain ⟨c₀, hc₀, rfl⟩ := List.mem_map.mp hc
    unfold InTree
    rw [hlinks, hid]
    rcases hactive c₀ hc₀ hdeleted hstatus with ⟨hdeleted₀, hstatus₀⟩ | htree
    · exact h.activeInTree c₀ hc₀ hdeleted₀ hstatus₀
    · exact htree
  · intro l hl
    rw [hlinks] at hl
    obtain ⟨c, hc, hcl⟩ := h.known l hl
    refine ⟨f c, ?_, (hid c).trans hcl⟩
    rw [hrows]
    exact List.mem_map_of_mem hc

/-- The campaign is linked, in one way or the other. -/
theorem triple_linkCampaign {link : PingTreeCampaign} {f : PingTreeCampaign → PingTreeCampaign}
    {hf : ∀ l, (f l).id = l.id} (hcampaign : ∀ l, (f l).campaignId = l.campaignId) :
    Triple (LinkedBut (some link.campaignId)) (linkCampaign link f hf)
      (fun _ => LinkedBut none) Stopped := by
  refine Triple.bind Triple.present fun hasTree => ?_
  refine Triple.bind (Triple.stopWhen fun _ _ _ => Or.inl rfl) fun _ => ?_
  refine Triple.bind Triple.present fun hasCampaign => ?_
  refine Triple.bind (Triple.stopWhen fun _ _ _ => Or.inl rfl) fun _ => ?_
  refine Triple.bind Triple.present fun linked => ?_
  cases linked with
  | true =>
    -- the row is there already, and stays the row of the campaign
    refine Triple.update fun s s' hs hrows hothers => ?_
    obtain ⟨⟨⟨⟨⟨h, -⟩, -⟩, -⟩, -⟩, hany⟩ := hs
    have hcampaigns : s' .campaigns = s .campaigns := hothers _ (by decide)
    have htree : ∀ id, InTree s id → InTree s' id := by
      rintro id ⟨l, hl, hid⟩
      refine ⟨_, by rw [hrows]; exact List.mem_map_of_mem hl, ?_⟩
      split
      · exact (hcampaign l).trans hid
      · exact hid
    constructor
    · intro c hc _ hdeleted hstatus
      rw [hcampaigns] at hc
      by_cases hid : c.id = link.campaignId
      · obtain ⟨l, hl, hlink⟩ := List.any_eq_true.mp hany.symm
        exact htree c.id ⟨l, hl, (of_decide_eq_true hlink).2.trans hid.symm⟩
      · exact htree c.id (h.active c hc (fun heq => hid (Option.some_inj.mp heq)) hdeleted hstatus)
    · intro l hl
      rw [hrows] at hl
      obtain ⟨l₀, hl₀, rfl⟩ := List.mem_map.mp hl
      obtain ⟨c, hc, hid⟩ := h.known l₀ hl₀
      refine ⟨c, hcampaigns ▸ hc, hid.trans ?_⟩
      split
      · exact (hcampaign l₀).symm
      · rfl
  | false =>
    refine Triple.bind (Triple.insert (R := fun inserted s => inserted = true → LinkedBut none s)
      (fun _ _ h => (by cases h)) fun s s' hs _ hrows hothers _ => ?_) fun inserted => ?_
    · obtain ⟨⟨⟨⟨⟨h, -⟩, -⟩, hhas⟩, htrue⟩, -⟩ := hs
      have hcampaigns : s' .campaigns = s .campaigns := hothers _ (by decide)
      constructor
      · intro c hc _ hdeleted hstatus
        rw [hcampaigns] at hc
        unfold InTree
        rw [hrows]
        by_cases hid : c.id = link.campaignId
        · exact ⟨link, List.mem_append_right _ List.mem_cons_self, hid.symm⟩
        · obtain ⟨l, hl, hlc⟩ :=
            h.active c hc (fun heq => hid (Option.some_inj.mp heq)) hdeleted hstatus
          exact ⟨l, List.mem_append_left _ hl, hlc⟩
      · intro l hl
        rw [hrows] at hl
        rw [hcampaigns]
        rcases List.mem_append.mp hl with hl | hl
        · exact h.known l hl
        · rw [List.mem_singleton.mp hl]
          rw [hhas, Bool.not_eq_false'] at htrue
          obtain ⟨c, hc, hid⟩ := List.any_eq_true.mp htrue
          exact ⟨c, hc, of_decide_eq_true hid⟩
    · refine Triple.whenever (fun _ => Triple.stop fun _ _ => Or.inl rfl) fun hins s hs => ?_
      exact hs (Bool.not_eq_false' _ ▸ hins)

/-! ### The requests -/

theorem triple_createAuditLog {n : ℕ} {log : AuditLog} :
    Triple (LinkedBut none) (createAuditLog env n log) (fun _ => LinkedBut none) Stopped := by
  refine Triple.attempt (Triple.bind (Triple.insert_other fun s s' hothers h => ?_) fun _ =>
    Triple.pure fun _ h => h) fun _ _ h => h
  exact h.congr (hothers _ (by decide)) (hothers _ (by decide))

/-- There is an instance to put a new row in. -/
def hasTarget (user : User) (instanceId : Option Uuid) (s : Db) : Bool :=
  instanceId.isSome || (s .instances).rows.any (isInstanceOf user)

theorem triple_targetInstance {P : Db → Prop} {E : ℕ → Db → Prop} {instanceId : Option Uuid}
    (hfail : ∀ s, P s → E 500 s)
      (hnone : ∀ s, P s → hasTarget user instanceId s = false → E 400 s) :
    Triple P (targetInstance env 0 user instanceId)
      (fun _ s => P s ∧ hasTarget user instanceId s = true) E := by
  cases instanceId with
  | some id => exact Triple.pure fun s hs => ⟨hs, rfl⟩
  | none =>
    have hhead : ∀ s : Db, ((s .instances).rows.filter (isInstanceOf user)).head?.isSome =
        (s .instances).rows.any (isInstanceOf user) := by
      intro s
      rw [Bool.eq_iff_iff, List.isSome_head?]
      simp [List.any_eq_true]
    refine Triple.bind (Triple.bind (Triple.stmt Triple.first fun _ => hfail) fun o => Triple.pure
      (Q := fun (o : Option Uuid) s => P s ∧
        o.isSome = (s .instances).rows.any (isInstanceOf user)) ?_) fun o => ?_
    · rintro s ⟨hs, rfl⟩
      rw [Option.isSome_map]
      exact ⟨hs, hhead s⟩
    · refine Triple.orStop ?_ ?_
      · rintro id rfl s ⟨hs, hany⟩
        exact ⟨hs, hany.symm⟩
      · rintro rfl s ⟨hs, hany⟩
        exact hnone s hs hany.symm

/-- What a creation has written before it looks at the ping tree. -/
theorem insert_campaign {req : CreateCampaignRequest} {id instanceId : Uuid}
    {token : String} {now : ℕ}
    (h : LinkedBut none s) (hrows : (s' .campaigns).rows =
      (s .campaigns).rows ++ [req.row id instanceId token now])
    (hothers : ∀ t, t ≠ .campaigns → s' t = s t) : LinkedBut (some id) s' := by
  have hlinks : s' .pingTreeCampaigns = s .pingTreeCampaigns := hothers _ (by decide)
  constructor
  · intro c hc hne hdeleted hstatus
    unfold InTree
    rw [hlinks]
    rw [hrows] at hc
    rcases List.mem_append.mp hc with hc | hc
    · exact h.activeInTree c hc hdeleted hstatus
    · rw [List.mem_singleton.mp hc] at hne
      exact absurd rfl hne
  · intro l hl
    rw [hlinks] at hl
    obtain ⟨c, hc, hid⟩ := h.known l hl
    rw [hrows]
    exact ⟨c, List.mem_append_left _ hc, hid⟩

/-- A creation that names a ping tree. -/
theorem triple_createCampaign (req : CreateCampaignRequest) :
    Triple (fun s => LinkedBut none s ∧
      (hasTarget user req.instanceId s = true → req.pingTreeId.isSome = true))
      (createCampaign env user req) (fun _ => LinkedBut none) Stopped := by
  refine Triple.bind (triple_targetInstance (fun _ _ => Or.inl rfl) fun _ h _ => Or.inr h.1)
    fun instanceId => ?_
  refine Triple.bind (Triple.stmt Triple.present fun _ _ _ => Or.inl rfl) fun taken => ?_
  refine Triple.bind (Triple.stopWhen fun _ _ _ => Or.inl rfl) fun _ => ?_
  refine Triple.bind (Triple.insert (R := fun inserted s => inserted = true →
    LinkedBut (some (env.uuid 0)) s ∧ req.pingTreeId.isSome = true) (fun _ _ h => (by cases h))
      fun s s' hs _ hrows hothers _ => ?_) fun inserted => ?_
  · obtain ⟨⟨⟨⟨h, htree⟩, htarget⟩, -⟩, -⟩ := hs
    exact ⟨insert_campaign h hrows hothers, htree htarget⟩
  refine Triple.bind (Triple.stopWhen fun _ _ _ => Or.inl rfl) fun _ => ?_
  refine Triple.bind (Triple.ifSome (R := LinkedBut none) (fun pingTreeId _ => ?_) ?_) fun _ =>
    Triple.pure fun _ h => h
  · refine Triple.stmt (Triple.pre (triple_linkCampaign fun _ => rfl) ?_) fun _ _ _ => Or.inl rfl
    rintro s ⟨hs, hins⟩
    exact (hs (Bool.not_eq_false' _ ▸ hins)).1
  · rintro hnone s ⟨hs, hins⟩
    have hsome := (hs (Bool.not_eq_false' _ ▸ hins)).2
    rw [hnone] at hsome
    cases hsome

/-- A creation that names none leaves an active campaign in no ping tree. -/
theorem triple_createCampaign_unlinked (env : DashEnv) {req : CreateCampaignRequest}
    (hnone : req.pingTreeId = none) :
    Triple (fun s => LinkedBut none s ∧ hasTarget user req.instanceId s = true)
      (createCampaign env user req)
      (fun _ s => ¬ActiveInTree s) (fun e _ => e = 500) := by
  refine Triple.bind (triple_targetInstance (fun _ _ => rfl) fun s hs hfalse =>
    ?_) fun instanceId => ?_
  · rw [hs.2] at hfalse
    cases hfalse
  refine Triple.bind (Triple.stmt Triple.present fun _ _ _ => rfl) fun taken => ?_
  refine Triple.bind (Triple.stopWhen fun _ _ _ => rfl) fun _ => ?_
  refine Triple.bind (Triple.insert (R := fun inserted s => inserted = true → ¬ActiveInTree s)
    (fun _ _ h => (by cases h)) fun s s' hs hfree hrows hothers _ hactive => ?_) fun inserted => ?_
  · obtain ⟨⟨⟨⟨h, -⟩, -⟩, -⟩, -⟩ := hs
    -- a row of the new campaign would be the row of a campaign that was there before
    obtain ⟨l, hl, hid⟩ := hactive (req.row (env.uuid 0) instanceId env.random env.now)
      (by rw [hrows]; exact List.mem_append_right _ List.mem_cons_self) rfl rfl
    rw [hothers .pingTreeCampaigns (by decide)] at hl
    obtain ⟨c, hc, hcl⟩ := h.known l hl
    exact hfree (List.mem_map.mpr ⟨c, hc, hcl.trans hid⟩)
  refine Triple.bind (Triple.stopWhen fun _ _ _ => rfl) fun _ => ?_
  rw [hnone]
  refine Triple.bind (Triple.pure fun s hs => ?_) fun _ => Triple.pure fun _ h => h
  exact hs.1 (Bool.not_eq_false' _ ▸ hs.2)

/-- Changes that make a campaign active only if it is in a ping tree. -/
theorem triple_applyCampaignChanges {id : Uuid} {before : Campaign} {c : CampaignChanges} :
    Triple (fun s => LinkedBut none s ∧ (c.status = some .active → InTree s id))
      (applyCampaignChanges cfg env id before c) (fun _ => LinkedBut none) Stopped := by
  unfold applyCampaignChanges
  split
  · exact Triple.pure fun _ h => h.1
  refine Triple.bind (Triple.stmt (Triple.update (R := LinkedBut none)
    fun s s' hs hrows hothers => ?_) fun _ _ _ => Or.inl rfl) fun _ => ?_
  · refine linked_of_campaigns hs.1 hrows hothers (fun c₀ => ?_) fun c₀ hc₀ hdeleted hstatus => ?_
    · split
      · rfl
      · rfl
    · split at hdeleted
      · next hlive =>
        rw [if_pos hlive] at hstatus
        obtain ⟨hid, hlive⟩ := of_decide_eq_true hlive
        -- the status is the old one, or it is set
        cases hset : c.status with
        | none =>
          simp only [CampaignChanges.apply, hset, Option.getD_none] at hstatus
          exact Or.inl ⟨hlive, hstatus⟩
        | some status =>
          simp only [CampaignChanges.apply, hset, Option.getD_some] at hstatus
          rw [hstatus] at hset
          exact Or.inr (hid ▸ hs.2 hset)
      · next hlive =>
        rw [if_neg hlive] at hstatus
        exact Or.inl ⟨hdeleted, hstatus⟩
  refine Triple.bind (Triple.attempt (Triple.post Triple.first fun _ _ h => h.1) fun _ _ h => h)
    fun after => ?_
  exact Triple.bind triple_createAuditLog fun _ => Triple.pure fun _ h => h

theorem statusOfLabel_eq_active {member : Bool} {label : String}
    (h : statusOfLabel member label = some .active) : member = true := by
  unfold statusOfLabel at h
  split at h
  · cases member with
    | true => rfl
    | false => cases h
  · cases h
  · cases h
  · cases h

theorem triple_updateCampaign (hok : ∀ n, env.ok n = true) (id : Uuid) (payload : Json) :
    Triple (LinkedBut none) (updateCampaign cfg env id payload)
      (fun _ => LinkedBut none) Stopped := by
  refine Triple.bind (Triple.stmt (Triple.post Triple.first fun _ _ h => h.1)
    fun _ _ _ => Or.inl rfl)
    fun campaign => ?_
  refine Triple.bind (Triple.orStop (Q := fun _ => LinkedBut none) (fun _ _ _ h => h)
    fun _ _ h => Or.inr h) fun before => ?_
  split
  · exact triple_applyCampaignChanges.pre fun s h => ⟨h, fun hstatus => by cases hstatus⟩
  · next label _ =>
    refine Triple.bind (Triple.attempt Triple.present fun hfail => ?_) fun member => ?_
    · rw [hok] at hfail
      cases hfail
    split
    · exact Triple.pure fun _ h => h.1
    · next status hlabel =>
      refine triple_applyCampaignChanges.pre fun s hs => ⟨hs.1, fun hactive => ?_⟩
      -- the label stands for active only if a row of the campaign was found
      have hstatus : status = .active := Option.some_inj.mp hactive
      have hmember := statusOfLabel_eq_active (hstatus ▸ hlabel)
      obtain ⟨l, hl, hid⟩ := List.any_eq_true.mp (hs.2.symm.trans hmember)
      exact ⟨l, hl, of_decide_eq_true hid⟩

theorem triple_deleteCampaign (id : Uuid) :
    Triple (LinkedBut none) (deleteCampaign env id) (fun _ => LinkedBut none) Stopped := by
  refine Triple.bind (Triple.stmt (Triple.update (R := LinkedBut none)
    fun s s' hs hrows hothers => ?_) fun _ _ _ => Or.inl rfl) fun _ => Triple.pure fun _ h => h
  refine linked_of_campaigns hs hrows hothers (fun c => ?_) fun c _ hdeleted hstatus => ?_
  · split
    · rfl
    · rfl
  · split at hdeleted
    · cases hdeleted
    · next hne =>
      rw [if_neg hne] at hstatus
      exact Or.inl ⟨hdeleted, hstatus⟩

/-- A statement on the ping trees. -/
theorem linked_of_pingTrees {id : Option Uuid} (hothers : ∀ t, t ≠ .pingTrees → s' t = s t)
    (h : LinkedBut id s) : LinkedBut id s' :=
  h.congr (hothers _ (by decide)) (hothers _ (by decide))

/-- The ping tree of the path, or the status 404. -/
theorem triple_livePingTree {id : Uuid} {β : Type} {f : PingTree → Handler β} {R : β → Db → Prop}
    (hf : ∀ t, Triple (LinkedBut none) (f t) R Stopped) :
    Triple (LinkedBut none) (fetchOptional env 0 .pingTrees (livePingTree id) >>= fun pingTree =>
      Prog.orStop 404 pingTree >>= f) R Stopped := by
  refine Triple.bind (Triple.stmt (Triple.post Triple.first fun _ _ h => h.1)
    fun _ _ _ => Or.inl rfl)
    fun pingTree => ?_
  exact Triple.bind (Triple.orStop (Q := fun _ => LinkedBut none) (fun _ _ _ h => h)
    fun _ _ h => Or.inr h) hf

theorem triple_createPingTree (req : CreatePingTreeRequest) :
    Triple (LinkedBut none) (createPingTree env user req) (fun _ => LinkedBut none) Stopped := by
  refine Triple.bind (Triple.stopWhen fun _ _ h => Or.inr h) fun _ => ?_
  refine Triple.bind (triple_targetInstance (fun _ _ => Or.inl rfl) fun _ h _ => Or.inr h.1)
    fun instanceId => ?_
  refine Triple.bind (Triple.stmt Triple.present fun _ _ _ => Or.inl rfl) fun hasInstance => ?_
  refine Triple.bind Triple.present fun taken => ?_
  refine Triple.bind (Triple.stopWhen fun _ _ _ => Or.inl rfl) fun _ => ?_
  refine Triple.bind (Triple.pre (Triple.insert_other fun _ _ => linked_of_pingTrees)
    fun _ h => h.1.1.1.1.1) fun inserted => ?_
  exact Triple.bind (Triple.stopWhen fun _ _ _ => Or.inl rfl) fun _ => Triple.pure fun _ h => h.1

theorem triple_updatePingTree (id : Uuid) (payload : Json) :
    Triple (LinkedBut none) (updatePingTree cfg env id payload)
      (fun _ => LinkedBut none) Stopped := by
  refine triple_livePingTree fun before => ?_
  dsimp only
  split
  · exact Triple.pure fun _ h => h
  refine Triple.bind (Triple.stmt Triple.present fun _ _ _ => Or.inl rfl) fun taken => ?_
  refine Triple.bind (Triple.stopWhen fun _ _ _ => Or.inl rfl) fun _ => ?_
  refine Triple.bind (Triple.pre
    (Triple.update_other fun _ _ => linked_of_pingTrees) fun _ h => h.1.1)
    fun _ => ?_
  refine Triple.bind (Triple.attempt (Triple.post Triple.first fun _ _ h => h.1) fun _ _ h => h)
    fun after => ?_
  exact Triple.bind triple_createAuditLog fun _ => Triple.pure fun _ h => h

theorem triple_deletePingTree (id : Uuid) :
    Triple (LinkedBut none) (deletePingTree env id) (fun _ => LinkedBut none) Stopped := by
  refine triple_livePingTree fun t => ?_
  refine Triple.bind (Triple.attempt (Triple.bind Triple.rows fun links => Triple.bind Triple.rows
    fun campaigns => Triple.pure (Q := fun _ => LinkedBut none) fun _ h => h.1.1) fun _ _ h => h)
      fun affected => ?_
  refine Triple.bind (Triple.stmt (Triple.update_other fun _ _ => linked_of_pingTrees)
    fun _ _ _ => Or.inl rfl) fun _ => ?_
  exact Triple.bind triple_createAuditLog fun _ => Triple.pure fun _ h => h

theorem triple_addCampaignToPingTree (pingTreeId campaignId : Uuid) (priority : Option ℤ) :
    Triple (LinkedBut none) (addCampaignToPingTree cfg env pingTreeId campaignId priority)
      (fun _ => LinkedBut none) Stopped := by
  refine triple_livePingTree fun t => ?_
  refine Triple.bind (Triple.attempt (Triple.post Triple.first fun _ _ h => h.1) fun _ _ h => h)
    fun campaign => ?_
  refine Triple.bind (Triple.stmt
    (Triple.pre (triple_linkCampaign fun _ => rfl) fun _ h => h.except _)
    fun _ _ _ => Or.inl rfl) fun _ => ?_
  exact Triple.bind triple_createAuditLog fun _ => Triple.pure fun _ h => h

/-- The rows of a campaign in a ping tree are deleted; the campaign may be in others. -/
theorem delete_link {pingTreeId campaignId : Uuid} (h : LinkedBut none s)
    (hrows : (s' .pingTreeCampaigns).rows = (s .pingTreeCampaigns).rows.filter fun l =>
      !decide (l.pingTreeId = pingTreeId ∧ l.campaignId = campaignId))
    (hothers : ∀ t, t ≠ .pingTreeCampaigns → s' t = s t) : LinkedBut (some campaignId) s' := by
  have hcampaigns : s' .campaigns = s .campaigns := hothers _ (by decide)
  constructor
  · intro c hc hne hdeleted hstatus
    rw [hcampaigns] at hc
    obtain ⟨l, hl, hid⟩ := h.activeInTree c hc hdeleted hstatus
    refine ⟨l, ?_, hid⟩
    rw [hrows]
    refine List.mem_filter.mpr ⟨hl, ?_⟩
    rw [Bool.not_eq_true', decide_eq_false_iff_not]
    rintro ⟨-, hcampaign⟩
    exact hne (congrArg some (hid.symm.trans hcampaign))
  · intro l hl
    rw [hrows] at hl
    rw [hcampaigns]
    exact h.known l (List.mem_filter.mp hl).1

theorem triple_deactivateRonin (hok : ∀ n, env.ok n = true) (pingTreeId campaignId : Uuid) :
    Triple (LinkedBut (some campaignId)) (deactivateRonin env pingTreeId campaignId)
      (fun _ => LinkedBut none) Stopped := by
  refine Triple.bind (Triple.attempt Triple.rows fun hfail => ?_) fun others => ?_
  · rw [hok] at hfail
    cases hfail
  refine Triple.whenever (fun _ => Triple.attempt (Triple.update fun s s' hs hrows hothers => ?_)
    fun hfail => ?_) fun hempty s hs => ?_
  · -- the campaign is inactive now
    obtain ⟨h, -⟩ := hs
    have hlinks : s' .pingTreeCampaigns = s .pingTreeCampaigns := hothers _ (by decide)
    constructor
    · intro c hc _ hdeleted hstatus
      rw [hrows] at hc
      unfold InTree
      rw [hlinks]
      obtain ⟨c₀, hc₀, hc⟩ := List.mem_map.mp hc
      split at hc
      · subst hc
        cases hstatus
      · next hlive =>
        subst hc
        refine h.active c₀ hc₀ (fun heq => hlive ?_) hdeleted hstatus
        exact decide_eq_true ⟨Option.some_inj.mp heq, hdeleted⟩
    · intro l hl
      rw [hlinks] at hl
      obtain ⟨c, hc, hid⟩ := h.known l hl
      refine ⟨_, by rw [hrows]; exact List.mem_map_of_mem hc, ?_⟩
      split
      · exact hid
      · exact hid
  · rw [hok] at hfail
    cases hfail
  · -- the campaign is in another ping tree
    obtain ⟨h, hothers⟩ := hs
    refine ⟨fun c hc _ hdeleted hstatus => ?_, h.known⟩
    by_cases hid : c.id = campaignId
    · cases hl : others with
      | nil =>
        rw [hl] at hempty
        cases hempty
      | cons l rest =>
        have hmem : l ∈ (s .pingTreeCampaigns).rows.filter _ := hothers ▸ hl ▸ List.mem_cons_self
        obtain ⟨hmem, hlink⟩ := List.mem_filter.mp hmem
        exact ⟨l, hmem, (of_decide_eq_true hlink).1.trans hid.symm⟩
    · exact h.active c hc (fun heq => hid (Option.some_inj.mp heq)) hdeleted hstatus

theorem triple_removeCampaignFromPingTree (hok : ∀ n, env.ok n = true)
    (pingTreeId campaignId : Uuid) :
    Triple (LinkedBut none) (removeCampaignFromPingTree cfg env pingTreeId campaignId)
      (fun _ => LinkedBut none) Stopped := by
  refine triple_livePingTree fun t => ?_
  refine Triple.bind (Triple.attempt (Triple.post Triple.first fun _ _ h => h.1) fun _ _ h => h)
    fun campaign => ?_
  refine Triple.bind (Triple.stmt (Triple.delete fun _ _ => delete_link) fun _ _ _ => Or.inl rfl)
    fun _ => ?_
  refine Triple.bind (triple_deactivateRonin hok pingTreeId campaignId) fun _ => ?_
  exact Triple.bind triple_createAuditLog fun _ => Triple.pure fun _ h => h

/-! ### Runs -/

/-- A request of a user, with the inputs of its handler. -/
structure DashCall where
  user : User
  env : DashEnv
  req : Request

/-- The requests that write campaigns, ping trees or the campaigns of a ping tree. -/
def Request.editsCampaigns : Request → Bool
  | .createCampaign _ | .updateCampaign _ _ | .deleteCampaign _ | .createPingTree _
  | .updatePingTree _ _ | .deletePingTree _ | .addCampaignToPingTree _ _ _
  | .removeCampaignFromPingTree _ _ => true
  | _ => false

def dashStep (cfg : DashConfig) (s : Db) (c : DashCall) : Option Db :=
  some (handle cfg c.user c.env c.req s).2

/-- A request of that kind all of whose statements succeed. -/
structure Succeeds (cfg : DashConfig) (s : Db) (c : DashCall) : Prop where
  edits : c.req.editsCampaigns = true
  ok : ∀ n, c.env.ok n = true
  not_failed : (handle cfg c.user c.env c.req s).1 ≠ .error 500

/-- A campaign that is created is put in a ping tree. -/
def NamesTree (s : Db) (c : DashCall) : Prop :=
  ∀ req, c.req = .createCampaign req → hasTarget c.user req.instanceId s = true →
    req.pingTreeId.isSome = true

theorem triple_handle {req : Request} (hreq : req.editsCampaigns = true)
    (hok : ∀ n, env.ok n = true) :
    Triple (fun s => LinkedBut none s ∧ NamesTree s ⟨user, env, req⟩) (handle cfg user env req)
      (fun _ => LinkedBut none) Stopped := by
  cases req with
  | createCampaign req =>
    exact (triple_createCampaign req).pre fun s h => ⟨h.1, fun htarget => h.2 req rfl htarget⟩
  | updateCampaign id payload => exact (triple_updateCampaign hok id payload).pre fun _ h => h.1
  | deleteCampaign id => exact (triple_deleteCampaign id).pre fun _ h => h.1
  | createPingTree req => exact (triple_createPingTree req).pre fun _ h => h.1
  | updatePingTree id payload => exact (triple_updatePingTree id payload).pre fun _ h => h.1
  | deletePingTree id => exact (triple_deletePingTree id).pre fun _ h => h.1
  | addCampaignToPingTree pingTreeId campaignId priority =>
    exact (triple_addCampaignToPingTree pingTreeId campaignId priority).pre fun _ h => h.1
  | removeCampaignFromPingTree pingTreeId campaignId =>
    exact (triple_removeCampaignFromPingTree hok pingTreeId campaignId).pre fun _ h => h.1
  | _ => cases hreq

/-- A step that succeeds keeps active campaigns in a ping tree if and only if it puts the campaign
that it creates in one. -/
theorem dashStep_linked {c : DashCall} (h : LinkedBut none s) (hc : Succeeds cfg s c) :
    (NamesTree s c → LinkedBut none (handle cfg c.user c.env c.req s).2) ∧
      (ActiveInTree (handle cfg c.user c.env c.req s).2 → NamesTree s c) := by
  constructor
  · -- the tree is named, so the call links the campaign in the end
    intro hnames
    obtain ⟨hdone, hstopped⟩ := triple_handle hc.edits hc.ok s ⟨h, hnames⟩
    cases hrun : handle cfg c.user c.env c.req s with
    | mk r s' =>
      cases r with
      | ok a => exact hdone a s' hrun
      | error e =>
        rcases hstopped e s' hrun with rfl | h'
        · exact absurd (congrArg Prod.fst hrun) hc.not_failed
        · exact h'
  · -- no tree is named: the campaign is created and stays out of every tree
    intro hactive req hreq htarget
    by_contra hnone
    rw [Bool.not_eq_true, Option.isSome_eq_false_iff, Option.isNone_iff_eq_none] at hnone
    have hfailed := hc.not_failed
    rw [hreq] at hactive hfailed
    obtain ⟨hdone, hstopped⟩ := triple_createCampaign_unlinked c.env hnone s ⟨h, htarget⟩
    cases hrun : createCampaign c.env c.user req s with
    | mk r s' =>
      have hrun' : handle cfg c.user c.env (.createCampaign req) s = (r, s') := hrun
      rw [hrun'] at hactive hfailed
      cases r with
      | ok a => exact hdone a s' hrun hactive
      | error e => exact hfailed (congrArg Except.error (hstopped e s' hrun))

/-- In every state of a run. -/
theorem activeInTree_run_iff {calls : List DashCall} (h : LinkedBut none s)
    (hrun : Transition.Along (dashStep cfg) (Succeeds cfg) s calls) :
    (∀ k s', Transition.run (dashStep cfg) s (calls.take k) = some s' → ActiveInTree s') ↔
      Transition.Along (dashStep cfg) NamesTree s calls := by
  induction calls generalizing s with
  | nil =>
    refine iff_of_true (fun k s' hk => ?_) trivial
    rw [List.take_nil, Transition.run_nil, Option.some_inj] at hk
    exact hk ▸ h.activeInTree
  | cons c calls ih =>
    obtain ⟨hkeeps, hnamed⟩ := dashStep_linked h hrun.1
    constructor
    · intro hall
      -- the state after the first request, and the states after the others
      have hnames := hnamed (hall 1 _ rfl)
      exact ⟨hnames, (ih (hkeeps hnames) hrun.2).mp fun k s' hk => hall (k + 1) s' hk⟩
    · rintro ⟨hnames, hrest⟩ k s' hk
      cases k with
      | zero => exact Option.some_inj.mp hk ▸ h.activeInTree
      | succ k => exact (ih (hkeeps hnames) hrun.2).mpr hrest k s' hk

/-- From a database without campaigns, in a run all of whose statements succeed: every campaign that
is active and not deleted is in a ping tree, in every state that is reached, if and only if every
campaign that is created is put in one. -/
theorem active_campaigns_in_tree_iff (cfg : DashConfig) (s : Db) (calls : List DashCall)
    (hcampaigns : (s .campaigns).rows = []) (hlinks : (s .pingTreeCampaigns).rows = [])
    (hrun : Transition.Along (dashStep cfg) (Succeeds cfg) s calls) :
    (∀ k s', Transition.run (dashStep cfg) s (calls.take k) = some s' → ActiveInTree s') ↔
      Transition.Along (dashStep cfg) NamesTree s calls := by
  have hinit : LinkedBut none s := by
    constructor
    · intro c hc
      rw [hcampaigns] at hc
      cases hc
    · intro l hl
      rw [hlinks] at hl
      cases hl
  exact activeInTree_run_iff hinit hrun

end Dashboard

/-! ### A campaign in no ping tree -/

namespace Sample

open Dashboard

def newCampaign (pingTreeId : Option Uuid) : CreateCampaignRequest where
  name := some "Roofs"
  vertical := "solar"
  publisherId := 6
  buyerId := 9
  instanceId := some 1
  pingTreeId := pingTreeId

/-- Request number `i`, with draws of its own. -/
def dashCall (i : ℕ) (req : Request) : DashCall :=
  ⟨user, { dashEnv with uuid := fun n => ⟨BitVec.ofNat 128 (1000 * i + n % 1000)⟩ }, req⟩

/-- A campaign that is created in the empty database, and is active and in no ping tree. -/
theorem active_campaign_in_no_tree :
    ∃ s', Succeeds dashConfig ⟨fun _ => .empty⟩ (dashCall 1 (.createCampaign (newCampaign none))) ∧
      Transition.run (dashStep dashConfig) ⟨fun _ => .empty⟩
        [dashCall 1 (.createCampaign (newCampaign none))] = some s' ∧ ¬ActiveInTree s' := by
  refine ⟨_, ⟨rfl, fun _ => rfl, nofun⟩, rfl, fun hactive => ?_⟩
  obtain ⟨l, hl, -⟩ :=
    hactive ((newCampaign none).row 1000 1 dashEnv.random 1000) List.mem_cons_self rfl rfl
  cases hl

/-- An instance with a ping tree. -/
def oneTree : Dashboard.Db where
  tables
    | .instances => ⟨[⟨1, some 7, none⟩], by decide⟩
    | .pingTrees => ⟨[⟨40, 1, "Main", "solar", "ping_post", "active", none, none, 0, 0⟩], by decide⟩
    | _ => .empty

/-- A campaign is created in a ping tree, made active, and taken out of the tree. -/
def treeCalls : List DashCall :=
  [dashCall 1 (.createCampaign (newCampaign (some 40))),
    dashCall 2 (.updateCampaign 1000 (.obj [("status", .str "active")])),
    dashCall 3 (.removeCampaignFromPingTree 40 1000)]

theorem active_campaigns_in_tree_treeCalls :
    Transition.Along (dashStep dashConfig) (Succeeds dashConfig) oneTree treeCalls ∧
      ∀ k s', Transition.run (dashStep dashConfig) oneTree (treeCalls.take k) = some s' →
        ActiveInTree s' := by
  have hrun : Transition.Along (dashStep dashConfig) (Succeeds dashConfig) oneTree treeCalls :=
    ⟨⟨rfl, fun _ => rfl, nofun⟩, ⟨rfl, fun _ => rfl, nofun⟩, ⟨rfl, fun _ => rfl, nofun⟩, trivial⟩
  refine ⟨hrun, (active_campaigns_in_tree_iff dashConfig oneTree treeCalls rfl rfl hrun).mpr ?_⟩
  refine ⟨fun req hreq _ => ?_, fun req hreq _ => ?_, fun req hreq _ => ?_, trivial⟩
  · cases hreq
    rfl
  · cases hreq
  · cases hreq

end Sample

end LeadsNebula
