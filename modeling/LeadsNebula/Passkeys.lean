/-
The registration of passkeys (`passkey_registration_options`, `register_passkey` and
`delete_passkey` of `routes/dashboard.rs`).

A request for options counts the passkeys of the user, and stores a session in Redis
under a random challenge token.  A registration reads the session, has the credential
verified by the WebAuthn library, deletes the session and stores the credential.  Each
of these is a statement of its own, and the statements of requests interleave.

The library accepts exactly the credentials that were made for the challenge of the
session.  The JWT and the origin of a request are inputs.
-/
import LeadsNebula.Table
import LeadsNebula.TtlCache
import LeadsNebula.UuidText
import LeadsNebula.Transition

namespace LeadsNebula

/-- A row of `webauthn_credentials`. -/
structure WebauthnCredential where
  id : Uuid
  instanceUserId : Uuid
  externalId : String
  name : String
  passkeyType : String

/-! ### The WebAuthn library -/

/-- The session of a registration, with the challenge that the client is sent. -/
structure PasskeyRegistration where
  challenge : ℕ
  deriving DecidableEq

/-- A credential of a client, made for a challenge. -/
structure RegisterPublicKeyCredential where
  challenge : ℕ
  credId : String

/-- `finish_passkey_registration`: the id of the passkey. -/
def finishPasskeyRegistration (regPkc : RegisterPublicKeyCredential)
    (regSession : PasskeyRegistration) : Option String :=
  if regPkc.challenge = regSession.challenge then some regPkc.credId else none

/-! ### Requests -/

structure PasskeyResponse where
  status : ℕ
  error : Option String
  challengeToken : Option String

namespace PasskeyResponse

def ofStatus (status : ℕ) : PasskeyResponse := ⟨status, none, none⟩

def refused (error : String) : PasskeyResponse := ⟨200, some error, none⟩

end PasskeyResponse

/-- What a request for options draws.  `refusal` is the answer if the library does not start. -/
structure OptionsDraw where
  challengeToken : String
  challenge : ℕ
  refusal : Option PasskeyResponse

/-- The body of `register_passkey`; `credential` is `none` if it cannot be read.  `refusal` is the
answer if the library does not start, `passkeyId` the uuid of the new row. -/
structure RegisterPasskeyRequest where
  challengeToken : String
  name : String
  credential : Option RegisterPublicKeyCredential
  refusal : Option PasskeyResponse
  passkeyId : Uuid

/-- What is stored in Redis. -/
structure RegistrationData where
  userId : String
  regSession : PasskeyRegistration

/-- A user and a challenge token. -/
abbrev Challenge := Uuid × String

def Challenge.cacheKey (c : Challenge) : String :=
  "webauthn_registration:" ++ c.1.toString ++ ":" ++ c.2

/-- What a request does next. -/
inductive PasskeyStage where
  /-- Load the user. -/
  | options (userId : Uuid) (draw : OptionsDraw)
  | optionsCount (userId : Uuid) (draw : OptionsDraw)
  | optionsStore (userId : Uuid) (draw : OptionsDraw)
  /-- Load the user. -/
  | register (userId : Uuid) (req : RegisterPasskeyRequest)
  | registerRead (userId : Uuid) (req : RegisterPasskeyRequest)
  | registerConsume (userId : Uuid) (req : RegisterPasskeyRequest) (credId : String)
  | registerInsert (userId : Uuid) (req : RegisterPasskeyRequest) (credId : String)
  | registerClear (userId : Uuid) (req : RegisterPasskeyRequest)
  | done (response : PasskeyResponse)

structure PasskeySys where
  now : ℕ
  /-- The users with the status `active`. -/
  activeUsers : List Uuid
  credentials : Table WebauthnCredential.id
  redis : TtlCache String RegistrationData
  threads : List PasskeyStage
  /-- The challenges that have been drawn. -/
  drawn : List Challenge
  /-- The challenges whose registration has stored a credential. -/
  inserted : List Challenge

inductive PasskeyAction where
  | options (userId : Uuid) (draw : OptionsDraw)
  | register (userId : Uuid) (req : RegisterPasskeyRequest)
  /-- `delete_passkey`, whose statement fails unless `ok`. -/
  | delete (userId passkeyId : Uuid) (ok : Bool)
  /-- Request `i` runs its next statement, which fails unless `ok`. -/
  | next (i : ℕ) (ok : Bool)
  | tick (d : ℕ)

/-- The time to live of a session, in seconds. -/
def sessionTtl : ℕ := 300

namespace PasskeySys

variable (s : PasskeySys)

def credentialsOf (userId : Uuid) : List WebauthnCredential :=
  s.credentials.rows.filter fun c => c.instanceUserId = userId

/-- The session of a challenge. -/
def session (c : Challenge) : Option RegistrationData := s.redis.get sessionTtl s.now c.cacheKey

/-- The insertion of a row violates no constraint: `external_id` is unique. -/
def insertable (row : WebauthnCredential) : Bool :=
  !(s.credentials.rows.any fun c => c.externalId = row.externalId) &&
    (s.credentials.find row.id).isNone

/-- The row of a new passkey. -/
def newCredential (userId : Uuid) (req : RegisterPasskeyRequest) (credId : String) :
    WebauthnCredential :=
  ⟨req.passkeyId, userId, credId, req.name, "soft"⟩

/-- `SELECT * FROM instance_users WHERE id = $1 AND status = 'active'`. -/
def loadUser (ok : Bool) (userId : Uuid) (next : PasskeyStage) : PasskeyStage :=
  if !ok then .done (.ofStatus 500)
  else if userId ∈ s.activeUsers then next
  else .done (.ofStatus 401)

/-- What follows the lookup of a session. -/
def checkCredential (userId : Uuid) (req : RegisterPasskeyRequest) :
    Option RegistrationData → PasskeyStage
  | none => .done (.ofStatus 400)
  | some data =>
    if data.userId ≠ userId.toString then
      .done (.refused "Invalid or expired registration challenge. Please try again.")
    else
      match req.refusal with
      | some response => .done response
      | none =>
        match req.credential.bind fun regPkc =>
          finishPasskeyRegistration regPkc data.regSession with
        | none => .done (.ofStatus 400)
        | some credId => .registerConsume userId req credId

/-- The stage after the next statement of a request. -/
def advance (ok : Bool) : PasskeyStage → Option PasskeyStage
  | .options userId draw => some (s.loadUser ok userId (.optionsCount userId draw))
  | .optionsCount userId draw =>
    some <|
      if !ok then .done (.ofStatus 500)
      else if 3 ≤ (s.credentialsOf userId).length then
        .done (.refused ("Maximum of 3 passkeys allowed. " ++
          "Please remove a passkey before adding a new one."))
      else
        match draw.refusal with
        | some response => .done response
        | none => .optionsStore userId draw
  -- the response goes out once the session is stored
  | .optionsStore _ draw =>
    some (.done (if ok then ⟨200, none, some draw.challengeToken⟩ else .ofStatus 500))
  | .register userId req => some (s.loadUser ok userId (.registerRead userId req))
  | .registerRead userId req =>
    some <|
      if !ok then .done (.ofStatus 500)
      else checkCredential userId req (s.session (userId, req.challengeToken))
  -- the deletion may fail; the registration goes on all the same
  | .registerConsume userId req credId => some (.registerInsert userId req credId)
  -- the passkeys are not counted again here
  | .registerInsert userId req credId =>
    some <|
      if ok && s.insertable (newCredential userId req credId) then .registerClear userId req
      else .done (.ofStatus 500)
  | .registerClear _ _ => some (.done (.ofStatus 200))
  | .done _ => none

/-- `redis.delete(…)`, whose failure is ignored. -/
def deleteSession (ok : Bool) (c : Challenge) : PasskeySys :=
  if ok then { s with redis := s.redis.evict c.cacheKey } else s

/-- What the next statement of a request writes. -/
def write (ok : Bool) : PasskeyStage → PasskeySys
  | .optionsStore userId draw =>
    if ok then
      { s with
        redis := s.redis.insert s.now (Challenge.cacheKey (userId, draw.challengeToken))
          ⟨userId.toString, ⟨draw.challenge⟩⟩ }
    else s
  | .registerConsume userId req _ => s.deleteSession ok (userId, req.challengeToken)
  | .registerInsert userId req credId =>
    if ok && s.insertable (newCredential userId req credId) then
      { s with
        credentials := s.credentials.insert (newCredential userId req credId)
        inserted := (userId, req.challengeToken) :: s.inserted }
    else s
  | .registerClear userId req => s.deleteSession ok (userId, req.challengeToken)
  | _ => s

/-- The tokens are random, so one that is drawn is new. -/
def step (s : PasskeySys) : PasskeyAction → Option PasskeySys
  | .options userId draw =>
    if draw.challengeToken ∈ s.drawn.map Prod.snd then none
    else
      some { s with
        threads := s.threads ++ [.options userId draw]
        drawn := (userId, draw.challengeToken) :: s.drawn }
  | .register userId req => some { s with threads := s.threads ++ [.register userId req] }
  | .delete userId passkeyId ok =>
    some <|
      if ok then
        { s with credentials := s.credentials.filter fun c =>
            !decide (c.id = passkeyId ∧ c.instanceUserId = userId) }
      else s
  | .next i ok =>
    (s.threads[i]?).bind fun st =>
      (s.advance ok st).map fun st' => { s.write ok st with threads := s.threads.set i st' }
  | .tick d => some { s with now := s.now + d }

end PasskeySys

end LeadsNebula
