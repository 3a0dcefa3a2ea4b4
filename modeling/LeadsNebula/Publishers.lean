/-
Publishers (`models/publisher.rs`) and the changes that the dashboard makes to
them.

The SHA-256 of a key is a parameter `hash`: the model only compares hashes.
-/
import LeadsNebula.Auth

namespace LeadsNebula

inductive PublisherStatus where
  | active
  | inactive
  | suspended
  deriving DecidableEq

/-- The label of a status in `publisher_status_enum`. -/
def PublisherStatus.ofLabel : String → Option PublisherStatus
  | "active" => some .active
  | "inactive" => some .inactive
  | "suspended" => some .suspended
  | _ => none

/-- A row of `publishers`. -/
structure Publisher where
  id : Uuid
  name : String
  email : String
  apiKeyHash : String
  apiKeyPrefix : String
  apiKeyEncrypted : Option String
  status : PublisherStatus
  totalRequests : ℕ
  lastRequestAt : Option ℕ
  instanceId : Uuid
  instanceUserId : Option Uuid
  isDocumentationTest : Bool
  hmacSecretHash : Option String
  hmacSecretPrefix : Option String
  hmacRequired : Bool
  deletedAt : Option ℕ
  createdAt : ℕ
  updatedAt : ℕ
  representativeFirstName : Option String
  representativeLastName : Option String
  addressStreet : Option String
  addressCity : Option String
  addressState : Option String
  addressZip : Option String
  timezone : Option String
  einTin : Option String

namespace Publisher

def active (p : Publisher) : Bool := p.status = .active && p.deletedAt.isNone

def requireHmac (p : Publisher) : Bool := p.hmacRequired

/-- `find_by_api_key`. -/
def findByApiKey (hash : String → String) (t : Table Publisher.id) (apiKey : String) :
    Option Publisher :=
  if trim apiKey = "" then none
  else t.select fun r => r.apiKeyHash = hash (trim apiKey) ∧ r.deletedAt = none

/-- The row after `record_request`. -/
def recordRequest (now : ℕ) (r : Publisher) : Publisher :=
  { r with lastRequestAt := some now, totalRequests := r.totalRequests + 1 }

/-- The row after `delete_publisher`. -/
def delete (now : ℕ) (r : Publisher) : Publisher := { r with deletedAt := some now }

/-- The row after `regenerate_publisher_api_key`. -/
def regenerate (apiKeyHash apiKeyEncrypted : String) (now : ℕ) (r : Publisher) : Publisher :=
  { r with
    apiKeyHash := apiKeyHash
    apiKeyPrefix := "pk_live_"
    apiKeyEncrypted := some apiKeyEncrypted
    updatedAt := now }

/-- The row after `generate_publisher_hmac_secret_encrypted`. -/
def setHmacSecret (hash : String → String) (secret : String) (now : ℕ) (r : Publisher) :
    Publisher :=
  { r with
    hmacSecretHash := some (hash secret)
    hmacSecretPrefix := some (String.ofList (secret.toList.take 20))
    updatedAt := now }

end Publisher

structure UpdatePublisherRequest where
  name : Option String
  email : Option String
  status : Option String
  hmacRequired : Option Bool
  representativeFirstName : Option String
  representativeLastName : Option String
  addressStreet : Option String
  addressCity : Option String
  addressState : Option String
  addressZip : Option String
  timezone : Option String
  einTin : Option String

namespace UpdatePublisherRequest

def hasUpdates (c : UpdatePublisherRequest) : Bool :=
  c.name.isSome || c.email.isSome || c.status.isSome || c.hmacRequired.isSome ||
    c.representativeFirstName.isSome || c.representativeLastName.isSome ||
    c.addressStreet.isSome || c.addressCity.isSome || c.addressState.isSome ||
    c.addressZip.isSome || c.timezone.isSome || c.einTin.isSome

/-- The status, if one is given, is a label of the enumeration. -/
def statusValid (c : UpdatePublisherRequest) : Bool :=
  c.status.all fun label => (PublisherStatus.ofLabel label).isSome

/-- The row after the update. -/
def apply (c : UpdatePublisherRequest) (now : ℕ) (r : Publisher) : Publisher :=
  { r with
    name := c.name.getD r.name
    email := c.email.getD r.email
    status := (c.status.bind PublisherStatus.ofLabel).getD r.status
    hmacRequired := c.hmacRequired.getD r.hmacRequired
    representativeFirstName := c.representativeFirstName.or r.representativeFirstName
    representativeLastName := c.representativeLastName.or r.representativeLastName
    addressStreet := c.addressStreet.or r.addressStreet
    addressCity := c.addressCity.or r.addressCity
    addressState := c.addressState.or r.addressState
    addressZip := c.addressZip.or r.addressZip
    timezone := c.timezone.or r.timezone
    einTin := c.einTin.or r.einTin
    updatedAt := now }

end UpdatePublisherRequest

structure CreatePublisherRequest where
  name : String
  email : String
  instanceId : Option Uuid
  verticalIds : Option (List Uuid)
  representativeFirstName : Option String
  representativeLastName : Option String
  addressStreet : Option String
  addressCity : Option String
  addressState : Option String
  addressZip : Option String
  timezone : Option String
  einTin : Option String

/-- The row of a new publisher. -/
def CreatePublisherRequest.row (req : CreatePublisherRequest) (id instanceId : Uuid)
    (apiKeyHash apiKeyEncrypted : String) (now : ℕ) : Publisher where
  id := id
  name := req.name
  email := req.email
  apiKeyHash := apiKeyHash
  apiKeyPrefix := "pk_live_"
  apiKeyEncrypted := some apiKeyEncrypted
  status := .active
  totalRequests := 0
  lastRequestAt := none
  instanceId := instanceId
  instanceUserId := none
  isDocumentationTest := false
  hmacSecretHash := none
  hmacSecretPrefix := none
  hmacRequired := false
  deletedAt := none
  createdAt := now
  updatedAt := now
  representativeFirstName := req.representativeFirstName
  representativeLastName := req.representativeLastName
  addressStreet := req.addressStreet
  addressCity := req.addressCity
  addressState := req.addressState
  addressZip := req.addressZip
  timezone := req.timezone
  einTin := req.einTin

end LeadsNebula
