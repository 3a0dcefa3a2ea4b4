/-
The internal buyer (`services/pulsar.rs`).

Pulsar answers in the process itself: it runs the qualification engine and, if
the lead is accepted, draws a random bid for a ping.  A post is priced at the
bid it is given, and at a fresh random price when it is given none.  The draws
and the clock are arguments (`PulsarDraw`).

* `routePostDirectSync_price` — an accepted post is priced at the bid it is given;
* `routeFullpostDirectSync_price` — ping and post in one call: the post is
  priced at the bid of the ping.
-/
import LeadsNebula.Encoding
import Mathlib.Algebra.Order.Ring.Rat
import Mathlib.Data.Nat.Cast.Order.Ring
import LeadsNebula.QualificationEngine

namespace LeadsNebula

/-- What Pulsar draws at random and reads from the clock while it answers. -/
structure PulsarDraw where
  pingTsMs : ℕ
  pingNonce : List UInt8
  promiseBytes : List UInt8
  bid : UInt32
  postTimestamp : String
  price : UInt32

namespace PulsarService

/-- `rand::random::<u32>() % 200 + 100`. -/
def randomPrice (x : UInt32) : F64 := .fin ((x.toNat % 200 + 100 : ℕ) : ℚ)

def generatePromiseId (bytes : List UInt8) : String := "PROMISE_" ++ Encoding.hexUpper bytes

def generatePingId (leadId : String) (d : PulsarDraw) : String :=
  "FP_" ++ Encoding.base64 (leadId ++ "|" ++ toString d.pingTsMs ++ "|" ++
    Encoding.hexUpper d.pingNonce ++ "|accepted")

def generateRejectedPingId (leadId : String) (d : PulsarDraw) : String :=
  "FP_" ++ Encoding.base64 (leadId ++ "|" ++ toString d.pingTsMs ++ "|" ++
    Encoding.hexUpper d.pingNonce ++ "|rejected")

def generatePostId (leadId : String) (d : PulsarDraw) : String :=
  "RP_" ++ Encoding.base64 (leadId ++ "|" ++ d.postTimestamp ++ "|sold")

/-- The text identifier of a lead. -/
def leadIdOf (lead : Lead) : String := lead.leadId.getD lead.uuid.toString

/-- The answer to a ping that qualifies. -/
def acceptedPing (lead : Lead) (d : PulsarDraw) : BuyerResponse where
  success := true
  status := "accepted"
  error := none
  message := some "Lead accepted for ping"
  promiseId := some (generatePromiseId d.promiseBytes)
  pingId := some (generatePingId (leadIdOf lead) d)
  postId := none
  price := none
  bid := some (randomPrice d.bid)

/-- The answer to a ping that does not qualify. -/
def rejectedPing (lead : Lead) (d : PulsarDraw) : BuyerResponse where
  success := false
  status := "rejected"
  error := some "Lead rejected by qualification rules"
  message := some "Lead did not meet qualification requirements"
  promiseId := none
  pingId := some (generateRejectedPingId (leadIdOf lead) d)
  postId := none
  price := none
  bid := none

/-- The answer to a post that qualifies. -/
def soldPost (lead : Lead) (promiseId : String) (pingBid : Option F64) (d : PulsarDraw) :
    BuyerResponse where
  success := true
  status := "sold"
  error := none
  message := some "Lead accepted and sold"
  promiseId := some promiseId
  pingId := none
  postId := some (generatePostId (leadIdOf lead) d)
  price := pingBid.or (some (randomPrice d.price))
  bid := none

/-- The answer to a post that does not qualify. -/
def rejectedPost (promiseId : String) : BuyerResponse where
  success := false
  status := "rejected"
  error := some "Lead rejected by qualification rules"
  message := some "Lead did not meet qualification requirements"
  promiseId := some promiseId
  pingId := none
  postId := none
  price := none
  bid := none

variable [StdText]

def routePingDirectSync (lead : Lead) (config : Option BuyerQualificationConfig)
    (d : PulsarDraw) : BuyerResponse :=
  if (QualificationEngine.evaluate ⟨lead, .ping, config⟩).accepted then acceptedPing lead d
  else rejectedPing lead d

def routePostDirectSync (lead : Lead) (promiseId : String)
    (config : Option BuyerQualificationConfig) (pingBid : Option F64) (d : PulsarDraw) :
    BuyerResponse :=
  if (QualificationEngine.evaluate ⟨lead, .post, config⟩).accepted then
    soldPost lead promiseId pingBid d
  else rejectedPost promiseId

def routeFullpostDirectSync (lead : Lead) (config : Option BuyerQualificationConfig)
    (d : PulsarDraw) : Except String BuyerResponse :=
  let ping := routePingDirectSync lead config d
  if !ping.success then .ok ping
  else
    match ping.promiseId with
    | none => .error "Ping succeeded but no promise_id returned"
    | some promiseId =>
      let post := routePostDirectSync lead promiseId config ping.bid d
      .ok { post with pingId := ping.pingId, bid := none }

/-- A post is priced at the bid it is given. -/
theorem routePostDirectSync_price {lead : Lead} {promiseId : String}
    {config : Option BuyerQualificationConfig} {pingBid : Option F64} {d : PulsarDraw}
    (h : (routePostDirectSync lead promiseId config pingBid d).success = true) :
    (routePostDirectSync lead promiseId config pingBid d).price =
      pingBid.or (some (randomPrice d.price)) := by
  rw [routePostDirectSync] at h ⊢
  split at h
  · next hacc => rw [if_pos hacc]; rfl
  · cases h

/-- In the direct fullpost an accepted post is priced at the bid of the ping. -/
theorem routeFullpostDirectSync_price {lead : Lead} {config : Option BuyerQualificationConfig}
    {d : PulsarDraw} {r : BuyerResponse} (h : routeFullpostDirectSync lead config d = .ok r)
    (hr : r.success = true) : r.price = (routePingDirectSync lead config d).bid := by
  by_cases hping : (QualificationEngine.evaluate ⟨lead, .ping, config⟩).accepted = true
  · have hans : routePingDirectSync lead config d = acceptedPing lead d := if_pos hping
    simp only [routeFullpostDirectSync, hans, acceptedPing, Bool.not_true, Bool.false_eq_true,
      if_false, Except.ok.injEq] at h
    subst h
    rw [hans]
    exact routePostDirectSync_price hr
  · -- the ping was rejected, so the answer is not a success
    have hans : routePingDirectSync lead config d = rejectedPing lead d := if_neg hping
    simp only [routeFullpostDirectSync, hans, rejectedPing, Bool.not_false, if_true,
      Except.ok.injEq] at h
    subst h
    cases hr

end PulsarService

end LeadsNebula
