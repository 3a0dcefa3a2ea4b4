/-
The records the program passes around (`crates/core/src/models`, and the
request and response types of the routers).

Columns and fields that no modelled function reads or writes are left out.
Times are milliseconds.  `StdText` stands for the text functions of the
standard library whose tables are not spelled out here; nothing in the
development depends on which functions they are.
-/
import LeadsNebula.Json
import Mathlib.Data.BitVec

namespace LeadsNebula

/-- `str::to_lowercase`, `str::to_uppercase`, and the decimal form that `to_string` gives a
float. -/
class StdText where
  toLowercase : String → String
  toUppercase : String → String
  f64ToString : F64 → String

export StdText (toLowercase toUppercase f64ToString)

abbrev Timestamp := ℕ

/-- A 128-bit identifier. -/
structure Uuid where
  bits : BitVec 128
  deriving DecidableEq

namespace Uuid

instance (n : ℕ) : OfNat Uuid n := ⟨⟨BitVec.ofNat 128 n⟩⟩

instance : Inhabited Uuid := ⟨0⟩

/-- `count` hexadecimal digits, starting at digit `start` from the left. -/
def hexDigits (u : Uuid) (start count : ℕ) : List Char :=
  (List.range count).map fun i => Nat.digitChar (u.bits.toNat / 16 ^ (31 - (start + i)) % 16)

/-- The hyphenated form, 8-4-4-4-12 digits. -/
def toString (u : Uuid) : String :=
  String.ofList (u.hexDigits 0 8 ++ '-' :: u.hexDigits 8 4 ++ '-' :: u.hexDigits 12 4 ++
    '-' :: u.hexDigits 16 4 ++ '-' :: u.hexDigits 20 12)

end Uuid

inductive LeadStatus where
  | processing
  | pingAccepted
  | sold
  | rejected
  | timeout
  | invalid
  | error
  | test
  deriving DecidableEq

def LeadStatus.asStr : LeadStatus → String
  | processing => "processing"
  | pingAccepted => "ping_accepted"
  | sold => "sold"
  | rejected => "rejected"
  | timeout => "timeout"
  | invalid => "invalid"
  | error => "error"
  | test => "test"

/-- The `request_type` of a request, already lower-cased; `other` is any string the
program does not know. -/
inductive RequestType where
  | ping
  | post
  | fullpost
  | other (s : String)
  deriving DecidableEq

def RequestType.ofString (s : String) : RequestType :=
  if s = "ping" then ping
  else if s = "post" then post
  else if s = "fullpost" then fullpost
  else other s

def RequestType.asStr : RequestType → String
  | ping => "ping"
  | post => "post"
  | fullpost => "fullpost"
  | other s => s

/-- A row of `leads`, and the copy of it that a request works on. -/
structure Lead where
  uuid : Uuid
  eventId : String
  leadId : Option String
  publisherId : Option Uuid
  verticalId : Uuid
  campaignId : Option Uuid
  buyerId : Option Uuid
  requestType : RequestType
  strategy : String
  status : LeadStatus
  promiseId : Option String
  pingId : Option String
  postId : Option String
  sessionId : Option String
  tcpaConsent : Bool
  tcpaLanguage : String
  isTest : Bool
  userAgent : Option String
  websiteUrl : Option String
  submittedAt : Option Timestamp
  soldAt : Option Timestamp
  verticalData : Json
  createdAt : Timestamp
  updatedAt : Timestamp

inductive CampaignStatus where
  | active
  | paused
  | inactive
  deriving DecidableEq

structure Campaign where
  id : Uuid
  buyerId : Uuid
  status : CampaignStatus
  deletedAt : Option Timestamp
  deriving DecidableEq

def Campaign.active (c : Campaign) : Bool :=
  c.status = .active && c.deletedAt.isNone

inductive BuyerStatus where
  | active
  | incomplete
  | inactive
  | suspended
  deriving DecidableEq

def BuyerStatus.asStr : BuyerStatus → String
  | active => "active"
  | incomplete => "incomplete"
  | inactive => "inactive"
  | suspended => "suspended"

structure Buyer where
  id : Uuid
  buyerIntegrationId : Option Uuid
  status : BuyerStatus
  deletedAt : Option Timestamp
  deriving DecidableEq

def Buyer.active (b : Buyer) : Bool :=
  b.status = .active && b.deletedAt.isNone

structure BuyerIntegration where
  id : Uuid
  slug : String
  postingUrlTemplate : Option String
  isInternal : Bool
  deriving DecidableEq

structure BuyerQualificationConfig where
  buyerId : Uuid
  config : Json
  rulesOrder : List String
  enabled : Bool
  isActive : Bool

structure PingTree where
  id : Uuid
  strategy : String
  status : String
  deletedAt : Option Timestamp
  deriving DecidableEq

def PingTree.isActive (t : PingTree) : Bool :=
  t.status = "active" && t.deletedAt.isNone

structure PingTreeCampaign where
  campaignId : Uuid
  priority : Option ℤ
  deriving DecidableEq

structure Vertical where
  id : Uuid
  slug : String

/-- What a buyer answered to a ping or a post (`buyer_router.rs`). -/
structure BuyerResponse where
  success : Bool
  status : String
  error : Option String
  message : Option String
  promiseId : Option String
  pingId : Option String
  postId : Option String
  price : Option F64
  bid : Option F64
  deriving DecidableEq

/-- `serde_json::to_value` of a response. -/
def BuyerResponse.toJson (r : BuyerResponse) : Json :=
  .obj [("success", .bool r.success), ("status", .str r.status),
    ("error", .ofOption .str r.error), ("message", .ofOption .str r.message),
    ("promise_id", .ofOption .str r.promiseId), ("ping_id", .ofOption .str r.pingId),
    ("post_id", .ofOption .str r.postId), ("price", .ofOption .ofF64 r.price),
    ("bid", .ofOption .ofF64 r.bid)]

/-- What the ping tree router reports about a lead (`ping_tree_router.rs`). -/
structure RoutingResult where
  success : Bool
  status : String
  error : Option String
  promiseId : Option String
  pingId : Option String
  postId : Option String
  price : Option F64
  campaignId : Option Uuid
  buyerId : Option Uuid
  perBuyerTimings : Option (List Json)

/-- The result of a request that reached no buyer. -/
def RoutingResult.failed (status error : String) : RoutingResult where
  success := false
  status := status
  error := some error
  promiseId := none
  pingId := none
  postId := none
  price := none
  campaignId := none
  buyerId := none
  perBuyerTimings := none

/-- The body of a lead request (`routes/leads.rs`). -/
structure LeadData where
  publisherId : Option String
  vertical : String
  requestType : Option String
  campaignToken : Option String
  promiseId : Option String
  leadId : Option String
  source : Option String
  firstName : Option String
  lastName : Option String
  email : Option String
  cellPhone : Option String
  streetAddress : Option String
  city : Option String
  state : Option String
  zip : Option String
  monthlyBill : Option F64
  creditRating : Option String
  ownHome : Option Bool
  propertyType : Option String
  roofShade : Option String
  roofType : Option String
  utilityProvider : Option String
  purchaseTimeframe : Option String
  ipAddress : Option String
  tcpaConsent : Option Bool
  tcpaLanguage : Option String
  jornayaLeadId : Option String
  trustedFormUrl : Option String
  isTest : Option Bool
  verbose : Option Bool
  userAgent : Option String

/-- `serde_json::to_value` of a request body. -/
def LeadData.toJson (d : LeadData) : Json :=
  .obj [("publisher_id", .ofOption .str d.publisherId), ("vertical", .str d.vertical),
    ("request_type", .ofOption .str d.requestType),
    ("campaign_token", .ofOption .str d.campaignToken),
    ("promise_id", .ofOption .str d.promiseId), ("lead_id", .ofOption .str d.leadId),
    ("source", .ofOption .str d.source), ("first_name", .ofOption .str d.firstName),
    ("last_name", .ofOption .str d.lastName), ("email", .ofOption .str d.email),
    ("cell_phone", .ofOption .str d.cellPhone),
    ("street_address", .ofOption .str d.streetAddress), ("city", .ofOption .str d.city),
    ("state", .ofOption .str d.state), ("zip", .ofOption .str d.zip),
    ("monthly_bill", .ofOption .ofF64 d.monthlyBill),
    ("credit_rating", .ofOption .str d.creditRating), ("own_home", .ofOption .bool d.ownHome),
    ("property_type", .ofOption .str d.propertyType),
    ("roof_shade", .ofOption .str d.roofShade), ("roof_type", .ofOption .str d.roofType),
    ("utility_provider", .ofOption .str d.utilityProvider),
    ("purchase_timeframe", .ofOption .str d.purchaseTimeframe),
    ("ip_address", .ofOption .str d.ipAddress), ("tcpa_consent", .ofOption .bool d.tcpaConsent),
    ("tcpa_language", .ofOption .str d.tcpaLanguage),
    ("jornaya_lead_id", .ofOption .str d.jornayaLeadId),
    ("trusted_form_url", .ofOption .str d.trustedFormUrl), ("is_test", .ofOption .bool d.isTest),
    ("verbose", .ofOption .bool d.verbose), ("user_agent", .ofOption .str d.userAgent)]

/-- The request type of a body: `ping` when it names none. -/
def LeadData.type [StdText] (d : LeadData) : RequestType :=
  .ofString (toLowercase (d.requestType.getD "ping"))

end LeadsNebula
