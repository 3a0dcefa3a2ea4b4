/-
The asynchronous functions of Pulsar (`services/pulsar.rs`).

Each of Pulsar's three functions is written twice, once for callers that await
it.  The asynchronous ping draws its ids before it looks at the rules, and draws
a second time for the id of a rejected ping (`again`); the post formats its id
in place.  Given the same draws the two versions answer the same.

* `routePingDirect_eq`, `routePostDirect_eq`, `routeFullpostDirect_eq` — the
  answers of the two versions are equal;
* `routeFullpostDirectSync_ok` — a fullpost always has an answer: it is sold at
  the bid of its ping exactly if the rules for a post accept the lead;
* `pulsar_versions_agree` — both of these, for every lead and config.
-/
import LeadsNebula.QualificationRules

namespace LeadsNebula

namespace PulsarService

variable [StdText]

/-- `route_ping_direct`. -/
def routePingDirect (lead : Lead) (config : Option BuyerQualificationConfig)
    (d again : PulsarDraw) : BuyerResponse :=
  let leadId := lead.leadId.getD lead.uuid.toString
  let pingId := generatePingId leadId d
  let promiseId := "PROMISE_" ++ Encoding.hexUpper d.promiseBytes
  if !(QualificationEngine.evaluate ⟨lead, .ping, config⟩).accepted then
    { success := false
      status := "rejected"
      -- a rejection has an id of its own, from a second draw
      pingId := some (generateRejectedPingId leadId again)
      postId := none
      promiseId := none
      price := none
      bid := none
      error := some "Lead rejected by qualification rules"
      message := some "Lead did not meet qualification requirements" }
  else
    { success := true
      status := "accepted"
      pingId := some pingId
      postId := none
      promiseId := some promiseId
      price := none
      bid := some (randomPrice d.bid)
      error := none
      message := some "Lead accepted for ping" }

/-- `route_post_direct`. -/
def routePostDirect (lead : Lead) (promiseId : String) (config : Option BuyerQualificationConfig)
    (pingBid : Option F64) (d : PulsarDraw) : BuyerResponse :=
  let leadId := lead.leadId.getD lead.uuid.toString
  if !(QualificationEngine.evaluate ⟨lead, .post, config⟩).accepted then
    { success := false
      status := "rejected"
      pingId := none
      postId := none
      promiseId := some promiseId
      price := none
      bid := none
      error := some "Lead rejected by qualification rules"
      message := some "Lead did not meet qualification requirements" }
  else
    let payload := leadId ++ "|" ++ d.postTimestamp ++ "|sold"
    { success := true
      status := "sold"
      pingId := none
      postId := some ("RP_" ++ Encoding.base64 payload)
      promiseId := some promiseId
      -- the bid of the ping, whatever has been drawn
      price := pingBid.orElse fun _ => some (randomPrice d.price)
      bid := none
      error := none
      message := some "Lead accepted and sold" }

/-- `route_fullpost_direct`. -/
def routeFullpostDirect (lead : Lead) (config : Option BuyerQualificationConfig)
    (d again : PulsarDraw) : Except String BuyerResponse :=
  let pingResponse := routePingDirect lead config d again
  if !pingResponse.success then .ok pingResponse
  else
    match pingResponse.promiseId with
    | none => .error "Ping succeeded but no promise_id returned"
    | some promiseId =>
      let postResponse := routePostDirect lead promiseId config pingResponse.bid d
      .ok
        { success := postResponse.success
          status := postResponse.status
          pingId := pingResponse.pingId
          postId := postResponse.postId
          promiseId := postResponse.promiseId
          price := postResponse.price
          bid := none
          error := postResponse.error
          message := postResponse.message }

section Agreement

variable (lead : Lead) (config : Option BuyerQualificationConfig) {d again : PulsarDraw}

/-- The second draw of an asynchronous ping gives the clock and the random bytes of the first. -/
def SameDraw (d again : PulsarDraw) : Prop :=
  again.pingTsMs = d.pingTsMs ∧ again.pingNonce = d.pingNonce

theorem routePingDirect_eq (h : SameDraw d again) :
    routePingDirect lead config d again = routePingDirectSync lead config d := by
  have hid : generateRejectedPingId (leadIdOf lead) again =
      generateRejectedPingId (leadIdOf lead) d := by
    rw [generateRejectedPingId, generateRejectedPingId, h.1, h.2]
  rw [routePingDirect, routePingDirectSync]
  cases (QualificationEngine.evaluate ⟨lead, .ping, config⟩).accepted with
  | true => rfl
  | false =>
    show BuyerResponse.mk .. = rejectedPing lead d
    rw [rejectedPing, ← hid]
    rfl

theorem routePostDirect_eq (promiseId : String) (pingBid : Option F64) (d : PulsarDraw) :
    routePostDirect lead promiseId config pingBid d =
      routePostDirectSync lead promiseId config pingBid d := by
  unfold routePostDirect routePostDirectSync
  cases (QualificationEngine.evaluate ⟨lead, .post, config⟩).accepted with
  | true => cases pingBid <;> rfl
  | false => rfl

theorem routeFullpostDirect_eq (h : SameDraw d again) :
    routeFullpostDirect lead config d again = routeFullpostDirectSync lead config d := by
  rw [routeFullpostDirect, routeFullpostDirectSync, routePingDirect_eq lead config h]
  cases (routePingDirectSync lead config d).promiseId with
  | none => rfl
  | some promiseId => simp only [routePostDirect_eq]

/-- The answer to a fullpost: the ping's where the ping is rejected, and else the post's. -/
theorem routeFullpostDirectSync_eq (d : PulsarDraw) :
    routeFullpostDirectSync lead config d =
      if (QualificationEngine.evaluate ⟨lead, .ping, config⟩).accepted then
        .ok { routePostDirectSync lead (generatePromiseId d.promiseBytes) config
                (some (randomPrice d.bid)) d with
              pingId := some (generatePingId (leadIdOf lead) d), bid := none }
      else .ok (rejectedPing lead d) := by
  rw [routeFullpostDirectSync, routePingDirectSync]
  cases (QualificationEngine.evaluate ⟨lead, .ping, config⟩).accepted <;> rfl

/-- A fullpost always has an answer.  It is a success exactly if the rules for a post accept the
lead, and then sold at the bid and under the promise of its ping. -/
theorem routeFullpostDirectSync_ok (d : PulsarDraw) :
    ∃ r, routeFullpostDirectSync lead config d = .ok r ∧
      (r.success = true ↔
        (QualificationEngine.evaluate ⟨lead, .post, config⟩).accepted = true) ∧
      (r.success = true → r.price = some (randomPrice d.bid) ∧
        r.promiseId = some (generatePromiseId d.promiseBytes)) := by
  rw [routeFullpostDirectSync_eq, routePostDirectSync]
  cases hpost : (QualificationEngine.evaluate ⟨lead, .post, config⟩).accepted with
  | true =>
    -- what the rules for a post accept, those for a ping accept
    rw [QualificationEngine.evaluate_ping_of_accepted hpost]
    exact ⟨_, rfl, iff_of_true rfl rfl, fun _ => ⟨rfl, rfl⟩⟩
  | false =>
    cases (QualificationEngine.evaluate ⟨lead, .ping, config⟩).accepted with
    | true =>
      exact ⟨_, rfl, iff_of_false Bool.false_ne_true Bool.false_ne_true,
        fun h => absurd h Bool.false_ne_true⟩
    | false =>
      exact ⟨_, rfl, iff_of_false Bool.false_ne_true Bool.false_ne_true,
        fun h => absurd h Bool.false_ne_true⟩

/-- For every lead and config, and the same draws: the two versions of a ping, a post and a fullpost
answer the same; and a fullpost is a success exactly if the rules for a post accept the lead, at
the bid and under the promise of its ping. -/
theorem pulsar_versions_agree (h : SameDraw d again) (promiseId : String) (pingBid : Option F64) :
    routePingDirect lead config d again = routePingDirectSync lead config d ∧
    routePostDirect lead promiseId config pingBid d =
      routePostDirectSync lead promiseId config pingBid d ∧
    routeFullpostDirect lead config d again = routeFullpostDirectSync lead config d ∧
    ∃ r, routeFullpostDirect lead config d again = .ok r ∧
      (r.success = true ↔
        (QualificationEngine.evaluate ⟨lead, .post, config⟩).accepted = true) ∧
      (r.success = true → r.price = some (randomPrice d.bid) ∧
        r.promiseId = some (generatePromiseId d.promiseBytes)) := by
  refine ⟨routePingDirect_eq lead config h, routePostDirect_eq lead config promiseId pingBid d,
    routeFullpostDirect_eq lead config h, ?_⟩
  rw [routeFullpostDirect_eq lead config h]
  exact routeFullpostDirectSync_ok lead config d

end Agreement

end PulsarService

open Sample in
/-- A lead that an enabled config rejects, and the draws of the sample. -/
theorem pulsar_versions_agree_rejected :
    ∃ r, PulsarService.routeFullpostDirect QualificationEngine.fairCredit (some homeOwnersOnly) draw
      draw = .ok r ∧ r.success = false := by
  have hsame : PulsarService.SameDraw draw draw := ⟨rfl, rfl⟩
  obtain ⟨-, -, -, r, hr, hiff, -⟩ := PulsarService.pulsar_versions_agree
    QualificationEngine.fairCredit (some homeOwnersOnly) hsame "P" none
  refine ⟨r, hr, Bool.eq_false_iff.mpr fun hsucc => ?_⟩
  exact absurd (hiff.mp hsucc) (by decide)

end LeadsNebula
