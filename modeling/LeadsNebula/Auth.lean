/-
Logging in (`routes/auth.rs`, `core/auth.rs` and `middleware/jwt_auth.rs`).

`login` checks the password; for an account with OTP it returns a login token,
which `verify_otp_login` takes together with an OTP code or a backup code.  Both
kinds of tokens are JWTs signed with the same key.

Tokens are symbolic: a signed token is its payload, and only signed tokens decode.
Each database statement of a request is a step of its own, so requests interleave.
Times are seconds.

* `jwtAuth_loginToken` — the middleware takes a login token for a session;
* `otp_token_refused_iff` — when a token that a login without a code has returned
  is refused.
-/
import LeadsNebula.System
import LeadsNebula.UuidText

namespace Json

/-- `Value::as_u64`. -/
def asU64 : Json → Option ℕ
  | num q => if q.den = 1 ∧ 0 ≤ q.num then some q.num.toNat else none
  | _ => none

@[simp] theorem asU64_ofNat (n : ℕ) : (ofNat n).asU64 = some n := by
  simp [ofNat, asU64]

end Json

namespace LeadsNebula

/-! ### Accounts -/

inductive InstanceUserStatus where
  | active
  | inactive
  | suspended
  deriving DecidableEq

structure User where
  id : Uuid
  email : String
  encryptedPassword : String
  firstName : Option String
  lastName : Option String
  status : InstanceUserStatus
  confirmedAt : Option ℕ

namespace User

def isActive (u : User) : Bool := u.status = .active

def isConfirmed (u : User) : Bool := u.confirmedAt.isSome

end User

/-- A row of `user_otp_settings`; `backupCodes` is the JSON list in the column. -/
structure OtpSettings where
  instanceUserId : Uuid
  enabled : Bool
  secret : String
  backupCodes : Option (List String)

/-- The functions of other packages: Argon2, TOTP and PostgreSQL's `LOWER`.  `otpVerify` is `none`
if no service can be made for the secret. -/
structure AuthParams where
  verifyPassword : String → String → Bool
  otpVerify : String → ℕ → String → Option Bool
  lower : String → String

/-! ### Tokens -/

inductive Token where
  /-- Signed with the secret of the server. -/
  | signed (payload : Json)
  | other (text : String)

/-- The leeway of the expiry check, the default of `Validation`. -/
def jwtLeeway : ℕ := 60

namespace Token

/-- A claim of a signed token. -/
def claim (t : Token) (name : String) : Option Json :=
  match t with
  | signed payload => payload.get name
  | other _ => none

def exp (t : Token) : Option ℕ := (t.claim "exp").bind Json.asU64

def userId (t : Token) : Option String := (t.claim "user_id").bind Json.asStr

/-- `jsonwebtoken::decode` with the default validation. -/
def payload (now : ℕ) : Token → Option Json
  | signed payload =>
    match (payload.get "exp").bind Json.asU64 with
    | some exp => if now ≤ exp + jwtLeeway then some payload else none
    | none => none
  | other _ => none

end Token

structure Claims where
  userId : String
  email : String
  iat : ℕ
  exp : ℕ

def jwtExpirationHours : ℕ := 24

namespace JwtService

def encode (now : ℕ) (userId email : String) : Token :=
  .signed (.obj [("user_id", .str userId), ("email", .str email), ("iat", .ofNat now),
    ("exp", .ofNat (now + jwtExpirationHours * 3600))])

/-- Reads the claims of a session; other fields of the payload are ignored. -/
def decode (now : ℕ) (t : Token) : Option Claims := do
  let payload ← t.payload now
  let userId ← (payload.get "user_id").bind Json.asStr
  let email ← (payload.get "email").bind Json.asStr
  let iat ← (payload.get "iat").bind Json.asU64
  let exp ← (payload.get "exp").bind Json.asU64
  return ⟨userId, email, iat, exp⟩

end JwtService

/-- The token that `login` returns for an account with OTP. -/
def loginToken (now : ℕ) (user : User) : Token :=
  .signed (.obj [("user_id", .str user.id.toString), ("email", .str user.email),
    ("password_verified", .bool true), ("exp", .ofNat (now + 300)), ("iat", .ofNat now)])

/-- The token of a session. -/
def sessionToken (now : ℕ) (user : User) : Token :=
  JwtService.encode now user.id.toString user.email

@[simp] theorem loginToken_userId (now : ℕ) (user : User) :
    (loginToken now user).userId = some user.id.toString := by
  simp [loginToken, Token.userId, Token.claim, Json.get, Json.asStr]

@[simp] theorem loginToken_exp (now : ℕ) (user : User) :
    (loginToken now user).exp = some (now + 300) := by
  simp [loginToken, Token.exp, Token.claim, Json.get, Json.lookup_cons_ite]

@[simp] theorem sessionToken_userId (now : ℕ) (user : User) :
    (sessionToken now user).userId = some user.id.toString := by
  simp [sessionToken, JwtService.encode, Token.userId, Token.claim, Json.get, Json.asStr]

/-! ### Requests and responses -/

structure LoginRequest where
  email : String
  password : String

structure VerifyOtpLoginRequest where
  loginToken : Token
  otpCode : Option String
  backupCode : Option String

structure UserResponse where
  id : String
  email : String
  firstName : Option String
  lastName : Option String

structure LoginResponse where
  success : Bool
  token : Option Token
  user : Option UserResponse
  error : Option String
  requiresOtp : Option Bool
  loginToken : Option Token
  message : Option String

/-- An HTTP response; `verify_otp_login` answers some requests with a status alone. -/
structure AuthResponse where
  status : ℕ
  body : Option LoginResponse

namespace AuthResponse

def failed (status : ℕ) (error : String) : AuthResponse :=
  ⟨status, some ⟨false, none, none, some error, none, none, none⟩⟩

def serverError : AuthResponse := failed 500 "Server error. Please try again."

def refused (error : String) : AuthResponse := failed 200 error

def unauthorized : AuthResponse := ⟨401, none⟩

def internalServerError : AuthResponse := ⟨500, none⟩

def otpRequired (now : ℕ) (user : User) : AuthResponse :=
  ⟨200, some ⟨false, none, none, none, some true, some (LeadsNebula.loginToken now user),
    some "Please enter your OTP code to complete login"⟩⟩

def loggedIn (now : ℕ) (user : User) : AuthResponse :=
  ⟨200, some ⟨true, some (sessionToken now user),
    some ⟨user.id.toString, user.email, user.firstName, user.lastName⟩, none, none, none, none⟩⟩

/-- The tokens that a response returns. -/
def tokens (r : AuthResponse) : List Token :=
  (r.body.bind LoginResponse.token).toList ++ (r.body.bind LoginResponse.loginToken).toList

@[simp] theorem tokens_failed (status : ℕ) (error : String) : (failed status error).tokens = [] :=
  rfl

end AuthResponse

/-! ### The steps of a request -/

/-- What a request does next. -/
inductive AuthStage where
  /-- `login`: look up the user.  A body that is no login request is `none`. -/
  | login (req : Option LoginRequest)
  /-- `login`, with the password verified: read whether OTP is enabled. -/
  | loginOtp (user : User)
  /-- `verify_otp_login`: look up the user. -/
  | verify (req : VerifyOtpLoginRequest)
  /-- `verify_otp_login`: read whether OTP is enabled. -/
  | verifyEnabled (req : VerifyOtpLoginRequest) (user : User)
  /-- `verify_otp_login`: read the secret and the backup codes. -/
  | verifySettings (req : VerifyOtpLoginRequest) (user : User)
  /-- `verify_otp_login`: write the codes back without the one at `index`. -/
  | verifyUpdate (user : User) (codes : List String) (index : ℕ)
  | done (resp : AuthResponse)

structure AuthSys where
  users : Table User.id
  otp : Table OtpSettings.instanceUserId
  threads : List AuthStage
  /-- The backup codes by which logins have succeeded, the latest first. -/
  used : List (Uuid × String)

inductive AuthAction where
  | login (req : Option LoginRequest)
  | verify (req : VerifyOtpLoginRequest)
  /-- Request `i` runs its next statement, which fails unless `ok`. -/
  | next (i : ℕ) (now : ℕ) (ok : Bool)
  /-- Another part of the program changes a user. -/
  | setUser (user : User)

/-- `char::is_whitespace`. -/
def isWhitespace (c : Char) : Bool :=
  let n := c.toNat
  (9 ≤ n && n ≤ 13) || n = 0x20 || n = 0x85 || n = 0xA0 || n = 0x1680 ||
    (0x2000 ≤ n && n ≤ 0x200A) || n = 0x2028 || n = 0x2029 || n = 0x202F || n = 0x205F || n = 0x3000

/-- `str::trim`. -/
def trim (s : String) : String :=
  String.ofList ((s.toList.dropWhile isWhitespace).reverse.dropWhile isWhitespace).reverse

namespace AuthSys

/-- `SELECT enabled FROM user_otp_settings`. -/
def otpEnabled (s : AuthSys) (u : Uuid) : Bool := (s.otp.find u).any OtpSettings.enabled

/-- `SELECT * FROM instance_users WHERE id = $1 AND status = 'active'`. -/
def activeUser (s : AuthSys) (u : Uuid) : Option User :=
  s.users.select fun r => r.id = u ∧ r.status = .active

/-- `jwt_auth_middleware`: the user that a bearer token stands for. -/
def jwtAuth (s : AuthSys) (now : ℕ) (token : Option Token) : Option User := do
  let t ← token
  let claims ← JwtService.decode now t
  let id ← Uuid.parseStr claims.userId
  let user ← s.activeUser id
  if user.isActive then some user else none

variable [StdText] (p : AuthParams) (s : AuthSys)

def loginStart (req : Option LoginRequest) (ok : Bool) : AuthStage :=
  match req with
  | none => .done (.failed 400 "Invalid request. Send JSON with email and password.")
  | some req =>
    let email := trim req.email
    if email = "" ∨ req.password = "" then .done (.failed 400 "Email and password are required.")
    else if !ok then .done .serverError
    else match s.users.select fun u => p.lower u.email = p.lower (toLowercase email) with
      | none => .done (.refused "Invalid email or password")
      | some user =>
        if !user.isConfirmed then
          .done (.refused "Please confirm your email address before signing in")
        else if !user.isActive then .done (.refused "Your account has been suspended")
        else if !p.verifyPassword req.password user.encryptedPassword then
          .done (.refused "Invalid email or password")
        else .loginOtp user

omit [StdText] in
def loginFinish (user : User) (now : ℕ) (ok : Bool) : AuthStage :=
  if !ok then .done .serverError
  else if s.otpEnabled user.id then .done (.otpRequired now user)
  else .done (.loggedIn now user)

omit [StdText] in
def verifyStart (req : VerifyOtpLoginRequest) (now : ℕ) (ok : Bool) : AuthStage :=
  if req.otpCode.isNone ∧ req.backupCode.isNone then
    .done (.refused "OTP code or backup code is required")
  else match req.loginToken.payload now with
    | none => .done .unauthorized
    | some claims =>
      match (claims.get "user_id").bind Json.asStr with
      | none => .done .unauthorized
      | some userId =>
        if ((claims.get "exp").bind Json.asU64).any (· < now) then
          .done (.refused "Login session expired. Please log in again.")
        else match Uuid.parseStr userId with
          | none => .done .unauthorized
          | some id =>
            if !ok then .done .internalServerError
            else match s.activeUser id with
              | none => .done .unauthorized
              | some user => .verifyEnabled req user

omit [StdText] in
def verifyOtpEnabled (req : VerifyOtpLoginRequest) (user : User) (ok : Bool) : AuthStage :=
  if !ok then .done .internalServerError
  else if s.otpEnabled user.id then .verifySettings req user
  else .done (.refused "OTP is not enabled for this account")

/-- Where a code is in a list of codes; case does not matter. -/
def codeIndex (codes : List String) (code : String) : Option ℕ :=
  codes.findIdx? fun c => toUppercase c = toUppercase code

/-- Checks the backup code, or, if there is none, the OTP code. -/
def verifyCode (req : VerifyOtpLoginRequest) (user : User) (now : ℕ) (ok : Bool) : AuthStage :=
  let invalid := AuthStage.done (.refused "Invalid OTP code or backup code")
  if !ok then .done .internalServerError
  else match s.otp.find user.id with
    | none => .done .internalServerError
    | some row =>
      match req.backupCode with
      | some code =>
        match row.backupCodes with
        | none => invalid
        | some codes =>
          match codeIndex codes code with
          | some index => .verifyUpdate user codes index
          | none => invalid
      | none =>
        match req.otpCode with
        | none => invalid
        | some code =>
          match p.otpVerify row.secret now code with
          | none => .done .internalServerError
          | some true => .done (.loggedIn now user)
          | some false => invalid

/-- The stage after the next statement of a request. -/
def advance (now : ℕ) (ok : Bool) : AuthStage → Option AuthStage
  | .login req => some (s.loginStart p req ok)
  | .loginOtp user => some (s.loginFinish user now ok)
  | .verify req => some (s.verifyStart req now ok)
  | .verifyEnabled req user => some (s.verifyOtpEnabled req user ok)
  | .verifySettings req user => some (s.verifyCode p req user now ok)
  | .verifyUpdate user _ _ =>
    some (.done (if ok then .loggedIn now user else .internalServerError))
  | .done _ => none

omit [StdText] in
/-- What the next statement of a request writes: `verify_otp_login` writes the whole list of
codes back. -/
def write (ok : Bool) : AuthStage → AuthSys
  | .verifyUpdate user codes index =>
    if ok then
      { s with
        otp := s.otp.update (fun r => r.instanceUserId = user.id)
          (fun r => { r with backupCodes := some (codes.eraseIdx index) }) fun _ => rfl
        used := (codes[index]?).toList.map (user.id, ·) ++ s.used }
    else s
  | _ => s

def step (s : AuthSys) : AuthAction → Option AuthSys
  | .login req => some { s with threads := s.threads ++ [.login req] }
  | .verify req => some { s with threads := s.threads ++ [.verify req] }
  | .next i now ok =>
    (s.threads[i]?).bind fun st =>
      (s.advance p now ok st).map fun st' =>
        { s.write ok st with threads := s.threads.set i st' }
  | .setUser user =>
    some { s with
      users := s.users.update (fun r => r.id = user.id) (fun r => { user with id := r.id })
        fun _ => rfl }

/-- What a step does. -/
theorem step_cases {s s' : AuthSys} {a : AuthAction} (h : step p s a = some s') :
    (∃ st, ((∃ req, st = .login req) ∨ ∃ req, st = .verify req) ∧ (∀ i now ok, a ≠ .next i now ok) ∧
      s' = { s with threads := s.threads ++ [st] }) ∨
    (∃ i now ok st st', a = .next i now ok ∧ s.threads[i]? = some st ∧
      s.advance p now ok st = some st' ∧
        s' = { s.write ok st with threads := s.threads.set i st' }) ∨
    ∃ user, a = .setUser user ∧ s' = { s with
      users := s.users.update (fun r => r.id = user.id) (fun r => { user with id := r.id })
        fun _ => rfl } := by
  cases a with
  | login req =>
    exact Or.inl ⟨_, Or.inl ⟨req, rfl⟩, nofun, (Option.some_inj.mp h).symm⟩
  | verify req =>
    exact Or.inl ⟨_, Or.inr ⟨req, rfl⟩, nofun, (Option.some_inj.mp h).symm⟩
  | next i now ok =>
    simp only [step, Option.bind_eq_some_iff, Option.map_eq_some_iff] at h
    obtain ⟨st, hst, st', hadv, heq⟩ := h
    exact Or.inr (Or.inl ⟨i, now, ok, st, st', rfl, hst, hadv, heq.symm⟩)
  | setUser user => exact Or.inr (Or.inr ⟨user, rfl, (Option.some_inj.mp h).symm⟩)

omit [StdText] in
/-- Writing codes back does not change who has OTP. -/
theorem otpEnabled_write (ok : Bool) (st : AuthStage) (u : Uuid) :
    (s.write ok st).otpEnabled u = s.otpEnabled u := by
  cases st with
  | verifyUpdate user codes index =>
    rw [write]
    split
    · rw [otpEnabled, otpEnabled, Table.find_update]
      cases s.otp.find u with
      | none => rfl
      | some r =>
        simp only [Option.map_some, Option.any_some]
        split <;> rfl
    · rfl
  | _ => rfl

/-! ### Requests without a valid code -/

/-- The request, in the state in which it is checked, is checked by an OTP code that is valid or a
backup code that is in the list. -/
def presentsCode (now : ℕ) : AuthStage → Bool
  | .verifySettings req user =>
    (s.otp.find user.id).any fun row =>
      match req.backupCode with
      | some code => row.backupCodes.any fun codes => (codeIndex codes code).isSome
      | none => req.otpCode.any fun code => p.otpVerify row.secret now code = some true
  | _ => false

/-- Request `i` presents no valid code in this step. -/
def NoCode (i : ℕ) (s : AuthSys) : AuthAction → Prop
  | .next j now _ => j = i → (s.threads[i]?).any (s.presentsCode p now) = false
  | _ => True

instance (i : ℕ) (s : AuthSys) (a : AuthAction) : Decidable (NoCode p i s a) :=
  match a with
  | .next j now _ =>
    inferInstanceAs (Decidable (j = i → (s.threads[i]?).any (s.presentsCode p now) = false))
  | .login _ | .verify _ | .setUser _ => inferInstanceAs (Decidable True)

end AuthSys

/-- A token that a request may return without a code: a login token, or the token of an account
without OTP. -/
def Token.WithoutCode (enabled : Uuid → Bool) (t : Token) : Prop :=
  ∃ now user, t = loginToken now user ∨ t = sessionToken now user ∧ enabled user.id = false

/-- A request has not passed the check of a code. -/
def AuthStage.Unverified (enabled : Uuid → Bool) : AuthStage → Prop
  | .verifyUpdate _ _ _ => False
  | .done resp => ∀ t ∈ resp.tokens, t.WithoutCode enabled
  | _ => True

namespace AuthSys

/-- The accounts with OTP are the same, and request `i` has not passed the check of a code. -/
structure Waits (enabled : Uuid → Bool) (i : ℕ) (s : AuthSys) : Prop where
  otp : s.otpEnabled = enabled
  thread : ∀ st, s.threads[i]? = some st → st.Unverified enabled

variable [StdText] {p : AuthParams} {s : AuthSys}

theorem loginStart_unverified (req : Option LoginRequest) (ok : Bool) (enabled : Uuid → Bool) :
    (s.loginStart p req ok).Unverified enabled := by
  cases req with
  | none => exact nofun
  | some req =>
    simp only [loginStart]
    split_ifs
    · exact nofun
    · exact nofun
    · split
      · exact nofun
      · split_ifs <;> first | trivial | exact nofun

omit [StdText] in
theorem loginFinish_unverified (user : User) (now : ℕ) (ok : Bool) :
    (s.loginFinish user now ok).Unverified s.otpEnabled := by
  rw [loginFinish]
  split_ifs with hok henabled
  · exact nofun
  · intro t ht
    obtain rfl := List.mem_singleton.mp ht
    exact ⟨now, user, Or.inl rfl⟩
  · intro t ht
    obtain rfl := List.mem_singleton.mp ht
    exact ⟨now, user, Or.inr ⟨rfl, Bool.not_eq_true _ ▸ henabled⟩⟩

omit [StdText] in
theorem verifyStart_unverified (req : VerifyOtpLoginRequest) (now : ℕ) (ok : Bool)
    (enabled : Uuid → Bool) : (s.verifyStart req now ok).Unverified enabled := by
  rw [verifyStart]
  split
  · exact nofun
  · split
    · exact nofun
    · split
      · exact nofun
      · split
        · exact nofun
        · split
          · exact nofun
          · split
            · exact nofun
            · split <;> first | trivial | exact nofun

omit [StdText] in
theorem verifyOtpEnabled_unverified (req : VerifyOtpLoginRequest) (user : User) (ok : Bool)
    (enabled : Uuid → Bool) : (s.verifyOtpEnabled req user ok).Unverified enabled := by
  rw [verifyOtpEnabled]
  split_ifs <;> first | trivial | exact nofun

/-- Without a valid code, the check fails. -/
theorem verifyCode_unverified {req : VerifyOtpLoginRequest} {user : User} {now : ℕ} {ok : Bool}
    (h : s.presentsCode p now (.verifySettings req user) = false) (enabled : Uuid → Bool) :
    (s.verifyCode p req user now ok).Unverified enabled := by
  rw [presentsCode] at h
  rw [verifyCode]
  split
  · exact nofun
  · cases hrow : s.otp.find user.id with
    | none => exact nofun
    | some row =>
      rw [hrow, Option.any_some] at h
      -- a backup code is looked up in the stored list
      cases hb : req.backupCode with
      | some code =>
        simp only [hb] at h ⊢
        cases hcodes : row.backupCodes with
        | none => exact nofun
        | some codes =>
          simp only [hcodes, Option.any_some, Option.isSome_eq_false_iff, Option.isNone_iff_eq_none]
            at h
          simp only [h]
          exact nofun
      | none =>
        -- a code of the device is checked against the secret
        simp only [hb] at h ⊢
        cases ho : req.otpCode with
        | none => exact nofun
        | some code =>
          simp only [ho, Option.any_some, decide_eq_false_iff_not] at h
          simp only
          split
          · exact nofun
          · next heq => exact absurd heq h
          · exact nofun

theorem advance_unverified {now : ℕ} {ok : Bool} {st st' : AuthStage}
    (h : st.Unverified s.otpEnabled) (hcode : s.presentsCode p now st = false)
    (hadv : s.advance p now ok st = some st') : st'.Unverified s.otpEnabled := by
  cases st with
  | login req =>
    obtain rfl := Option.some_inj.mp hadv
    exact loginStart_unverified req ok _
  | loginOtp user =>
    obtain rfl := Option.some_inj.mp hadv
    exact loginFinish_unverified user now ok
  | verify req =>
    obtain rfl := Option.some_inj.mp hadv
    exact verifyStart_unverified req now ok _
  | verifyEnabled req user =>
    obtain rfl := Option.some_inj.mp hadv
    exact verifyOtpEnabled_unverified req user ok _
  | verifySettings req user =>
    obtain rfl := Option.some_inj.mp hadv
    exact verifyCode_unverified hcode _
  | verifyUpdate user codes index => exact h.elim
  | done resp => cases hadv

theorem waits_step {s' : AuthSys} {a : AuthAction} {i : ℕ} {enabled : Uuid → Bool}
    (h : Waits enabled i s) (hcode : NoCode p i s a) (hstep : step p s a = some s') :
    Waits enabled i s' := by
  obtain ⟨rfl, hthreads⟩ := h
  rcases step_cases p hstep with ⟨st, hst, -, rfl⟩ | ⟨j, now, ok, st, st', rfl, hst, hadv, rfl⟩ |
    ⟨user, -, rfl⟩
  · refine ⟨rfl, fun st₁ hst₁ => ?_⟩
    rcases Transition.get_concat_cases hst₁ with hst₁ | rfl
    · exact hthreads st₁ hst₁
    · rcases hst with ⟨req, rfl⟩ | ⟨req, rfl⟩ <;> trivial
  · refine ⟨funext fun u => otpEnabled_write s ok st u, fun st₁ hst₁ => ?_⟩
    rcases Transition.get_set_cases hst₁ with ⟨rfl, rfl⟩ | ⟨-, hst₁⟩
    · have hno : s.presentsCode p now st = false := by
        have hany := hcode rfl
        rw [hst, Option.any_some] at hany
        exact hany
      exact advance_unverified (hthreads st hst) hno hadv
    · exact hthreads st₁ hst₁
  · exact ⟨rfl, hthreads⟩

/-! ### What the middleware makes of a login token -/

omit [StdText] in
/-- A login token decodes as a session until it has expired and the leeway has passed. -/
theorem decode_loginToken (now issued : ℕ) (user : User) :
    JwtService.decode now (loginToken issued user) =
      if now ≤ issued + 300 + jwtLeeway then
        some ⟨user.id.toString, user.email, issued, issued + 300⟩
      else none := by
  have hpayload : (loginToken issued user).payload now =
      if now ≤ issued + 300 + jwtLeeway then
        some (.obj [("user_id", .str user.id.toString), ("email", .str user.email),
          ("password_verified", .bool true), ("exp", .ofNat (issued + 300)),
          ("iat", .ofNat issued)])
      else none := by
    simp [loginToken, Token.payload, Json.get, Json.lookup_cons_ite]
  rw [JwtService.decode, hpayload]
  split
  · simp [Json.get, Json.asStr, Json.lookup_cons_ite]
  · rfl

omit [StdText] in
theorem activeUser_isActive {u : Uuid} {user : User} (h : s.activeUser u = some user) :
    user.isActive = true := by
  have hm := (Table.select_mem h).2
  rw [decide_eq_true_iff] at hm
  exact decide_eq_true hm.2

omit [StdText] in
theorem jwtAuth_loginToken (now issued : ℕ) (user : User) :
    s.jwtAuth now (some (loginToken issued user)) = none ↔
      issued + 300 + jwtLeeway < now ∨ s.activeUser user.id = none := by
  rw [jwtAuth, Option.bind_eq_bind, Option.bind_some, decode_loginToken]
  by_cases hexp : now ≤ issued + 300 + jwtLeeway
  · rw [if_pos hexp, Option.bind_eq_bind, Option.bind_some, Uuid.parseStr_toString,
      Option.bind_eq_bind, Option.bind_some]
    cases hact : s.activeUser user.id with
    | none => simp
    | some active =>
      have hisActive := activeUser_isActive hact
      simp [hisActive, hexp]
  · rw [if_neg hexp]
    exact iff_of_true rfl (Or.inl (Nat.not_le.mp hexp))

/-- A request to an account with OTP that presents no valid code: the middleware refuses a token
that it was returned exactly when the token has expired, with the leeway, or the account is no
longer active. -/
theorem otp_token_refused_iff {s₀ : AuthSys} {acts : List AuthAction} (hinit : s₀.threads = [])
    (hrun : Transition.run (step p) s₀ acts = some s) {i : ℕ}
    (hcode : Transition.Along (step p) (NoCode p i) s₀ acts) {resp : AuthResponse}
    (hdone : s.threads[i]? = some (.done resp)) {t : Token} (ht : t ∈ resp.tokens) {u : Uuid}
    (hu : t.userId = some u.toString) (hotp : s₀.otpEnabled u = true) (now : ℕ) :
    s.jwtAuth now (some t) = none ↔
      (∀ exp, t.exp = some exp → exp + jwtLeeway < now) ∨ s.activeUser u = none := by
  have hstart : Waits s₀.otpEnabled i s₀ := by
    refine ⟨rfl, fun st hst => ?_⟩
    rw [hinit, List.getElem?_nil] at hst
    cases hst
  have hwaits := Transition.inv_of_run (fun h hno hstep => waits_step h hno hstep) hstart hcode hrun
  obtain ⟨issued, user, rfl | ⟨rfl, hoff⟩⟩ := hwaits.thread _ hdone t ht
  · rw [loginToken_userId, Option.some_inj] at hu
    rw [jwtAuth_loginToken, Uuid.toString_inj hu, loginToken_exp]
    simp
  · -- a session token, although the account has OTP
    rw [sessionToken_userId, Option.some_inj] at hu
    rw [Uuid.toString_inj hu, hotp] at hoff
    cases hoff

end AuthSys

namespace Sample

def authParams : AuthParams where
  verifyPassword password hash := password = hash
  otpVerify _ _ code := some (code = "123456")
  lower s := String.ofList (s.toList.map Char.toLower)

def user : User where
  id := 7
  email := "ada@example.com"
  encryptedPassword := "secret"
  firstName := none
  lastName := none
  status := .active
  confirmedAt := some 0

/-- An account with OTP and some backup codes. -/
def otpAccount (codes : List String) : AuthSys where
  users := ⟨[user], by decide⟩
  otp := ⟨[⟨7, true, "KEY", some codes⟩], List.nodup_singleton _⟩
  threads := []
  used := []

/-- A login with the password and nothing else. -/
def passwordOnly : List AuthAction :=
  [.login (some ⟨"Ada@example.com", "secret"⟩), .next 0 1000 true, .next 0 1000 true]

end Sample

open Sample in
/-- One second after a login with the password alone, the middleware takes the login token for a
session of the account. -/
theorem login_token_opens_session :
    (otpAccount []).otpEnabled 7 = true ∧
      Transition.Along (AuthSys.step authParams) (AuthSys.NoCode authParams 0) (otpAccount [])
        passwordOnly ∧
      ((Transition.run (AuthSys.step authParams) (otpAccount []) passwordOnly).bind fun s =>
        (s.threads[0]?).bind fun
          | .done resp => resp.tokens.head?.bind fun t => s.jwtAuth 1001 (some t)
          | _ => none).map User.id = some 7 := by
  decide

open Sample in
/-- The token of that login is refused from 361 seconds after the login on. -/
theorem login_token_refused_iff :
    ∃ s, Transition.run (AuthSys.step authParams) (otpAccount []) passwordOnly = some s ∧
      ∀ now, s.jwtAuth now (some (loginToken 1000 user)) = none ↔
        (∀ exp, (loginToken 1000 user).exp = some exp → exp + jwtLeeway < now) ∨
          s.activeUser 7 = none := by
  have hrun : Transition.run (AuthSys.step authParams) (otpAccount []) passwordOnly =
      some { otpAccount [] with threads := [.done (.otpRequired 1000 user)] } := by
    rfl
  refine ⟨_, hrun, fun now => ?_⟩
  exact AuthSys.otp_token_refused_iff rfl hrun (i := 0) (by decide) rfl
    (List.mem_singleton_self _) (loginToken_userId 1000 user) rfl now

end LeadsNebula
