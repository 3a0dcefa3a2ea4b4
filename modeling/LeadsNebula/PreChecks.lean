/-
What the pre-checks of `create_lead` promise (`leads.rs`).

A ping or a fullpost that passes the pre-checks is stored with the campaign and
the buyer they found; the handler takes both out with `expect`, whose texts say
that they "must be present after pre-checks".  A missing buyer is always a
problem.  A missing campaign is one only if the request names a campaign token,
so a request without a token passes where a buyer is found and no campaign.

* `pre_checks_promise_iff` — the ids are there, and the handler does not panic,
  exactly where that is not the case;
* `createLead_panics_iff` — when a call of the handler panics.
-/
import LeadsNebula.LeadResponses

namespace LeadsNebula

namespace LeadSubmission

section Promise

variable [StdText] (sub : LeadSubmission) (env : SubmissionEnv)

/-- No pre-check problem means a campaign and a buyer. -/
def PreChecksPromise : Prop :=
  (sub.preChecks env).2.2 = [] →
    (sub.preChecks env).1.isSome = true ∧ (sub.preChecks env).2.1.isSome = true

/-- The request has no campaign token, and the pre-checks find a buyer but no campaign: the row of
the query has the buyer alone, or there is no row and the vertical has a buyer. -/
def BuyerWithoutCampaign : Prop :=
  sub.data.campaignToken = none ∧
    ((∃ row, throughCache env.cachedPreChecks env.dbPreChecks = .ok (some row) ∧
      row.campaignId = none ∧ row.effectiveBuyerId.isSome = true) ∨
    throughCache env.cachedPreChecks env.dbPreChecks = .ok none ∧
      ∃ id, env.buyerOfVertical = .ok (some id))

variable {sub env}

omit [StdText] in
/-- The problems of a row without campaign. -/
theorem rowProblems_eq_nil {row : PreChecks} (h : sub.rowProblems row = []) :
    row.effectiveBuyerId.isSome = true ∧
      (row.campaignId = none → sub.data.campaignToken = none) := by
  rw [rowProblems, List.append_eq_nil_iff, List.append_eq_nil_iff] at h
  obtain ⟨⟨-, hcampaign⟩, hbuyer⟩ := h
  constructor
  · cases hb : row.effectiveBuyerId with
    | none =>
      rw [hb] at hbuyer
      cases hbuyer
    | some id => rfl
  · intro hnone
    cases htoken : sub.data.campaignToken with
    | none => rfl
    | some token =>
      rw [hnone, htoken] at hcampaign
      cases hcampaign

omit [StdText] in
/-- A row with a buyer and no campaign is no problem for a request without a token. -/
theorem rowProblems_of_no_token {row : PreChecks} (htoken : sub.data.campaignToken = none)
    (hcampaign : row.campaignId = none) (hbuyer : row.effectiveBuyerId.isSome = true) :
    sub.rowProblems row = [] := by
  obtain ⟨id, hid⟩ := Option.isSome_iff_exists.mp hbuyer
  rw [rowProblems, htoken, hcampaign, hid]
  simp

omit [StdText] in
/-- Pre-checks without a problem found a buyer, and a campaign unless the request is one of those
that pass without. -/
theorem preChecks_of_no_problem (h : (sub.preChecks env).2.2 = []) :
    (sub.preChecks env).2.1.isSome = true ∧
      ((sub.preChecks env).1 = none ↔ sub.BuyerWithoutCampaign env) := by
  rw [preChecks] at h ⊢
  rw [BuyerWithoutCampaign]
  rcases hrow : throughCache env.cachedPreChecks env.dbPreChecks with _ | _ | row
  · rw [hrow] at h
    cases h
  · rw [hrow] at h
    dsimp only at h ⊢
    cases hbuyer : env.buyerOfVertical with
    | error e =>
      rw [hbuyer] at h
      cases h
    | ok found =>
      rw [hbuyer] at h
      cases found with
      | none => cases h
      | some id =>
        refine ⟨rfl, fun _ => ⟨?_, Or.inr ⟨rfl, id, rfl⟩⟩, fun _ => rfl⟩
        -- a token would be a problem
        cases htoken : sub.data.campaignToken with
        | none => rfl
        | some token =>
          simp only [htoken] at h
          cases h
  · rw [hrow] at h
    dsimp only at h ⊢
    obtain ⟨hbuyer, htoken⟩ := rowProblems_eq_nil h
    refine ⟨hbuyer, fun hnone => ⟨htoken hnone, Or.inl ⟨row, rfl, hnone, hbuyer⟩⟩, ?_⟩
    rintro ⟨-, ⟨row', hrow', hnone, -⟩ | ⟨hrow', -⟩⟩
    · obtain rfl : row = row' := Option.some_inj.mp (Except.ok.inj hrow')
      exact hnone
    · cases hrow'

omit [StdText] in
/-- The requests that pass without a campaign do pass. -/
theorem preChecks_of_buyerWithoutCampaign (h : sub.BuyerWithoutCampaign env) :
    (sub.preChecks env).2.2 = [] := by
  obtain ⟨htoken, ⟨row, hrow, hcampaign, hbuyer⟩ | ⟨hrow, id, hid⟩⟩ := h
  · rw [preChecks, hrow]
    exact rowProblems_of_no_token htoken hcampaign hbuyer
  · rw [preChecks, hrow]
    dsimp only
    rw [hid, htoken]
    rfl

/-- `create_lead` panics on a ping or a fullpost exactly if it passes without a campaign. -/
theorem createNew_eq_none_iff (vertical : Vertical) :
    sub.createNew env vertical = none ↔ sub.BuyerWithoutCampaign env := by
  rw [createNew]
  rcases hpre : sub.preChecks env with ⟨campaignId, buyerId, problems⟩
  cases problems with
  | cons p ps =>
    -- a problem is reported, and the reply is not a panic
    refine iff_of_false (Option.some_ne_none _) fun hbad => ?_
    have hnil := preChecks_of_buyerWithoutCampaign hbad
    rw [hpre] at hnil
    cases hnil
  | nil =>
    have hnil : (sub.preChecks env).2.2 = [] := by rw [hpre]
    obtain ⟨hbuyer, hcampaign⟩ := preChecks_of_no_problem hnil
    rw [hpre] at hbuyer hcampaign
    obtain ⟨buyer, rfl⟩ := Option.isSome_iff_exists.mp hbuyer
    rw [← hcampaign]
    -- the pre-checks have passed: the campaign is unwrapped
    cases campaignId with
    | none => exact iff_of_true rfl rfl
    | some campaign =>
      refine iff_of_false ?_ (Option.some_ne_none _)
      dsimp only [Option.bind_eq_bind, Option.bind_some]
      split
      · exact Option.some_ne_none _
      · split <;> exact Option.some_ne_none _

/-- The handler panics on the requests that are neither returned before the pre-checks nor posts,
and pass the pre-checks without a campaign. -/
theorem createLead_panics_iff :
    sub.createLead env = none ↔
      ∃ vertical, sub.admission env = .ok vertical ∧ sub.checkPublisher env = .ok () ∧
        sub.checkFields env = .ok () ∧ sub.data.type ≠ .post ∧ sub.BuyerWithoutCampaign env := by
  rw [createLead]
  cases hadm : sub.admission env with
  | error reply =>
    -- each check that fails answers the request
    refine iff_of_false (Option.some_ne_none _) ?_
    rintro ⟨_, h, -⟩
    cases h
  | ok vertical =>
    dsimp only
    cases hpub : sub.checkPublisher env with
    | error reply =>
      refine iff_of_false (Option.some_ne_none _) ?_
      rintro ⟨_, -, h, -⟩
      cases h
    | ok _ =>
      dsimp only
      cases hfields : sub.checkFields env with
      | error reply =>
        refine iff_of_false (Option.some_ne_none _) ?_
        rintro ⟨_, -, -, h, -⟩
        cases h
      | ok _ =>
        dsimp only
        by_cases hpost : sub.data.type = .post
        · rw [if_pos hpost]
          refine iff_of_false (Option.some_ne_none _) ?_
          rintro ⟨_, -, -, -, hne, -⟩
          exact hne hpost
        · rw [if_neg hpost, createNew_eq_none_iff]
          -- what is left is the campaign of a buyer's own publisher
          constructor
          · intro h
            exact ⟨vertical, rfl, rfl, rfl, hpost, h⟩
          · rintro ⟨-, -, -, -, -, h⟩
            exact h

variable (sub env)

/-- Pre-checks without a problem give both ids, and the handler takes them out without a panic,
unless the request has no campaign token and a buyer is found but no campaign. -/
theorem pre_checks_promise_iff :
    (sub.PreChecksPromise env ↔ ¬ sub.BuyerWithoutCampaign env) ∧
    ∀ vertical, sub.createNew env vertical ≠ none ↔ ¬ sub.BuyerWithoutCampaign env := by
  refine ⟨⟨fun hpromise hbad => ?_, fun hgood hnil => ?_⟩,
    fun vertical => not_congr (createNew_eq_none_iff vertical)⟩
  · have hnil := preChecks_of_buyerWithoutCampaign hbad
    have hsome := (hpromise hnil).1
    rw [(preChecks_of_no_problem hnil).2.mpr hbad] at hsome
    cases hsome
  · obtain ⟨hbuyer, hcampaign⟩ := preChecks_of_no_problem hnil
    refine ⟨?_, hbuyer⟩
    rw [Option.isSome_iff_ne_none]
    exact fun hnone => hgood (hcampaign.mp hnone)

end Promise

end LeadSubmission

/-! ### A ping that passes without a campaign -/

open Sample

/-- The vertical has a buyer, and the publisher no campaign. -/
def noCampaignEnv : SubmissionEnv :=
  { submissionEnv with dbPreChecks := .ok (some ⟨none, some 20, true⟩) }

/-- A ping without a token passes the pre-checks with a buyer and no campaign, and panics. -/
theorem ping_without_campaign_panics :
    ((submission "ping" none).preChecks noCampaignEnv).2.2 = [] ∧
    ((submission "ping" none).preChecks noCampaignEnv).1 = none ∧
    ¬ (submission "ping" none).PreChecksPromise noCampaignEnv ∧
    (submission "ping" none).createLead noCampaignEnv = none := by
  have hnil : ((submission "ping" none).preChecks noCampaignEnv).2.2 = [] := by decide
  have hnone : ((submission "ping" none).preChecks noCampaignEnv).1 = none := by decide
  have hpanic : ((submission "ping" none).createLead noCampaignEnv).isNone = true := by
    decide
  refine ⟨hnil, hnone, fun hpromise => ?_, Option.isNone_iff_eq_none.mp hpanic⟩
  have hsome := (hpromise hnil).1
  rw [hnone] at hsome
  cases hsome

end LeadsNebula
