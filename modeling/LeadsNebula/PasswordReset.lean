/-
Resetting a password (`routes/auth.rs`, `routes/dashboard.rs`, `core/password_policy.rs`
and `core/password_reset.rs`).

`forgot_password` and `send_password_reset_email` store a new token in the row of a
user and mail it; `reset_password` sets the password of the active user whose row has
the token, and clears the token, in one `UPDATE`.  As in `Auth`, each statement of a
request is a step, requests interleave, and times are seconds.

The state also lists the tokens that were issued and those that were used, which the
program does not keep.  What a reset may do is said by these lists alone.

* `Inv` — a token that is in a row is the latest one of its user, it was issued at
  the time in the row, and it has not been used;
* `right_iff_timely` — a reset does what it may do exactly when the token it finds
  is at most an hour old;
* `resets_right_iff` — the same for all the resets of a run.
-/
import LeadsNebula.Auth

namespace LeadsNebula

/-! ### Users and requests -/

/-- The columns of `instance_users` that a reset reads or writes. -/
structure InstanceUser where
  id : Uuid
  email : String
  encryptedPassword : String
  status : InstanceUserStatus
  resetPasswordToken : Option String
  resetPasswordSentAt : Option ℕ
  deriving DecidableEq

/-- `WHERE reset_password_token = $2 AND status = 'active'`. -/
def InstanceUser.holds (token : String) (r : InstanceUser) : Bool :=
  r.resetPasswordToken = some token ∧ r.status = .active

theorem InstanceUser.holds_iff {token : String} {r : InstanceUser} :
    r.holds token = true ↔ r.resetPasswordToken = some token ∧ r.status = .active :=
  decide_eq_true_iff

/-- `reset_token_ttl_seconds` of `PasswordResetService`. -/
def resetTokenTtlSeconds : ℕ := 3600

structure ForgotPasswordRequest where
  email : String

structure ResetPasswordRequest where
  token : String
  newPassword : String

structure ResetBody where
  success : Bool
  message : Option String
  error : Option String

/-- An HTTP response; `send_password_reset_email` answers some requests with a status alone. -/
structure ResetReply where
  status : ℕ
  body : Option ResetBody

namespace ResetReply

def failed (status : ℕ) (error : String) : ResetReply := ⟨status, some ⟨false, none, some error⟩⟩

def serverError : ResetReply := failed 500 "Server error. Please try again."

def succeeded (message : Option String) : ResetReply := ⟨200, some ⟨true, message, none⟩⟩

def unauthorized : ResetReply := ⟨401, none⟩

end ResetReply

/-- The two requests that issue a token. -/
inductive ResetEndpoint where
  | forgotPassword
  | sendPasswordResetEmail

namespace ResetEndpoint

def serverError : ResetEndpoint → ResetReply
  | forgotPassword => .serverError
  | sendPasswordResetEmail => ⟨500, none⟩

def alreadySent : ResetEndpoint → ResetReply
  | forgotPassword => .succeeded (some ("If an account with that email exists, a reset link was " ++
      "already sent. Please check your inbox or try again later."))
  | sendPasswordResetEmail => .succeeded (some ("If an account exists for this email, a reset " ++
      "link was already sent. Please check your inbox or try again later."))

def sent : ResetEndpoint → ResetReply
  | forgotPassword =>
    .succeeded (some "If an account with that email exists, a password reset link has been sent.")
  | sendPasswordResetEmail => .succeeded none

end ResetEndpoint

/-- The functions of other packages: Argon2 with a salt, and the Unicode tables. -/
structure ResetParams where
  hashPassword : String → String → Option String
  isUppercase : Char → Bool
  isLowercase : Char → Bool

/-- What a statement meets: the time, whether it succeeds, and the random text that is drawn for
it, a token or a salt. -/
structure Turn where
  now : ℕ
  ok : Bool
  rand : String

namespace ResetParams

variable (p : ResetParams)

/-- `password_policy::validate_password`; lengths are in bytes. -/
def validatePassword (password : String) : Except String Unit :=
  if password.utf8ByteSize < 8 then .error "Password must be at least 8 characters"
  else if 128 < password.utf8ByteSize then .error "Password must be at most 128 characters"
  else if !password.toList.any p.isUppercase then
    .error "Password must contain at least one uppercase letter"
  else if !password.toList.any p.isLowercase then
    .error "Password must contain at least one lowercase letter"
  else if !password.toList.any Char.isDigit then
    .error "Password must contain at least one number"
  else .ok ()

/-- The checks of `reset_password`: the token and the new hash that go into its statement. -/
def checkReset (salt : String) : Option ResetPasswordRequest → Except ResetReply (String × String)
  | none => .error (.failed 400 "Invalid request. Send JSON with token and new_password.")
  | some req =>
    let token := trim req.token
    if token = "" ∨ req.newPassword = "" then
      .error (.failed 400 "Token and new password are required.")
    else match p.validatePassword req.newPassword with
      | .error e => .error (.failed 400 e)
      | .ok () =>
        match p.hashPassword salt req.newPassword with
        | none => .error .serverError
        | some encrypted => .ok (token, encrypted)

/-- The token and the hash of the statement that `reset_password` runs, if it runs one that does
not fail. -/
def resetWrite (req : Option ResetPasswordRequest) (turn : Turn) : Option (String × String) :=
  match p.checkReset turn.rand req with
  | .ok write => if turn.ok then some write else none
  | .error _ => none

end ResetParams

/-- The token that a request presents. -/
def presented (req : Option ResetPasswordRequest) : Option String :=
  req.map fun r => trim r.token

theorem presented_of_resetWrite {p : ResetParams} {req : Option ResetPasswordRequest} {turn : Turn}
    {token encrypted : String} (h : p.resetWrite req turn = some (token, encrypted)) :
    presented req = some token := by
  have hcheck : p.checkReset turn.rand req = .ok (token, encrypted) := by
    rw [ResetParams.resetWrite] at h
    split at h
    · next write hwrite =>
      split at h
      · rw [hwrite, Option.some_inj.mp h]
      · cases h
    · cases h
  cases req with
  | none => cases hcheck
  | some req =>
    simp only [ResetParams.checkReset] at hcheck
    split at hcheck
    · cases hcheck
    · split at hcheck
      · cases hcheck
      · split at hcheck
        · cases hcheck
        · rw [Except.ok.injEq, Prod.mk.injEq] at hcheck
          rw [presented, Option.map_some, hcheck.1]

/-! ### The steps of a request -/

/-- What a request does next. -/
inductive ResetStage where
  /-- `forgot_password`: look up the user by email.  A body that is no request is `none`. -/
  | forgot (req : Option ForgotPasswordRequest)
  /-- `send_password_reset_email`: look up the user of the bearer token. -/
  | sendEmail (bearer : Option Token)
  /-- Read when the last token was sent. -/
  | limit (e : ResetEndpoint) (user : Uuid)
  /-- Draw a token and store it. -/
  | store (e : ResetEndpoint) (user : Uuid)
  | mail (e : ResetEndpoint)
  | reset (req : Option ResetPasswordRequest)
  | done (reply : ResetReply)

/-- The next statement stores a token. -/
def ResetStage.stores : ResetStage → Bool
  | store _ _ => true
  | _ => false

/-- A token was stored for a user. -/
structure Issue where
  user : Uuid
  token : String
  issuedAt : ℕ

structure ResetSys where
  users : Table InstanceUser.id
  threads : List ResetStage
  /-- The tokens that were issued, the latest first. -/
  issued : List Issue
  /-- The tokens by which a password was set, the latest first. -/
  used : List String

inductive ResetAction where
  | forgotPassword (req : Option ForgotPasswordRequest)
  | sendPasswordResetEmail (bearer : Option Token)
  | resetPassword (req : Option ResetPasswordRequest)
  /-- Request `i` runs its next statement. -/
  | next (i : ℕ) (turn : Turn)
  /-- Another part of the program changes a user; none of them touches the reset columns. -/
  | setUser (user : Uuid) (email encryptedPassword : String) (status : InstanceUserStatus)

namespace ResetSys

section Steps

variable (p : ResetParams) (s : ResetSys)

def forgotStart [StdText] (req : Option ForgotPasswordRequest) (ok : Bool) : ResetStage :=
  match req with
  | none => .done (.failed 400 "Invalid request. Send JSON with email.")
  | some req =>
    let email := toLowercase (trim req.email)
    if email = "" then .done (.failed 400 "Email is required.")
    else if !ok then .done .serverError
    else match s.users.select fun r => r.email = email ∧ r.status = .active with
      | none => .done ResetEndpoint.forgotPassword.sent
      | some user => .limit .forgotPassword user.id

def sendEmailStart (bearer : Option Token) (turn : Turn) : ResetStage :=
  match bearer.bind (JwtService.decode turn.now) with
  | none => .done .unauthorized
  | some claims =>
    match Uuid.parseStr claims.userId with
    | none => .done .unauthorized
    | some id =>
      if !turn.ok then .done ResetEndpoint.sendPasswordResetEmail.serverError
      else match s.users.select fun r => r.id = id ∧ r.status = .active with
        | none => .done .unauthorized
        | some _ => .limit .sendPasswordResetEmail id

/-- No second token within five minutes. -/
def checkLimit (e : ResetEndpoint) (user : Uuid) (turn : Turn) : ResetStage :=
  if !turn.ok then .done e.serverError
  else match (s.users.find user).bind InstanceUser.resetPasswordSentAt with
    | some ts => if turn.now < ts + 300 then .done e.alreadySent else .store e user
    | none => .store e user

/-- The unique index: another row has the token. -/
def tokenTaken (user : Uuid) (token : String) : Bool :=
  s.users.rows.any fun r => r.id ≠ user ∧ r.resetPasswordToken = some token

/-- `UPDATE instance_users SET reset_password_token = $1, … WHERE id = $2`. -/
def storeToken (user : Uuid) (token : String) (now : ℕ) : ResetSys :=
  { s with
    users := s.users.update (fun r => r.id = user)
      (fun r => { r with resetPasswordToken := some token, resetPasswordSentAt := some now })
      fun _ => rfl
    issued := ⟨user, token, now⟩ :: s.issued }

/-- The statement of `reset_password`. -/
def setPassword (token encrypted : String) : ResetSys :=
  { s with
    users := s.users.update (InstanceUser.holds token)
      (fun r => { r with
        encryptedPassword := encrypted
        resetPasswordToken := none
        resetPasswordSentAt := none })
      fun _ => rfl
    used := if s.users.rows.any (InstanceUser.holds token) then token :: s.used else s.used }

def resetReply (req : Option ResetPasswordRequest) (turn : Turn) : ResetReply :=
  match p.checkReset turn.rand req with
  | .error reply => reply
  | .ok (token, _) =>
    if !turn.ok then .serverError
    else if s.users.rows.any (InstanceUser.holds token) then .succeeded none
    else .failed 200 "Invalid or expired reset link. Please request a new password reset."

/-- The stage after the next statement of a request. -/
def advance [StdText] (turn : Turn) : ResetStage → Option ResetStage
  | .forgot req => some (s.forgotStart req turn.ok)
  | .sendEmail bearer => some (s.sendEmailStart bearer turn)
  | .limit e user => some (s.checkLimit e user turn)
  | .store e user =>
    some (if turn.ok && !s.tokenTaken user turn.rand then .mail e else .done e.serverError)
  | .mail e => some (.done (if turn.ok then e.sent else e.serverError))
  | .reset req => some (.done (s.resetReply p req turn))
  | .done _ => none

/-- What the next statement of a request writes. -/
def write (turn : Turn) : ResetStage → ResetSys
  | .store _ user =>
    if turn.ok && !s.tokenTaken user turn.rand then s.storeToken user turn.rand turn.now else s
  | .reset req =>
    match p.resetWrite req turn with
    | some (token, encrypted) => s.setPassword token encrypted
    | none => s
  | _ => s

/-- Another part of the program changes a user. -/
def changeUser (user : Uuid) (email encryptedPassword : String) (status : InstanceUserStatus) :
    ResetSys :=
  { s with
    users := s.users.update (fun r => r.id = user)
      (fun r => { r with
        email := email
        encryptedPassword := encryptedPassword
        status := status })
      fun _ => rfl }

def arrive (st : ResetStage) : ResetSys := { s with threads := s.threads ++ [st] }

def step [StdText] (s : ResetSys) : ResetAction → Option ResetSys
  | .forgotPassword req => some (s.arrive (.forgot req))
  | .sendPasswordResetEmail bearer => some (s.arrive (.sendEmail bearer))
  | .resetPassword req => some (s.arrive (.reset req))
  | .next i turn =>
    (s.threads[i]?).bind fun st =>
      (s.advance p turn st).map fun st' => { s.write p turn st with threads := s.threads.set i st' }
  | .setUser user email encryptedPassword status =>
    some (s.changeUser user email encryptedPassword status)

end Steps

/-! ### What a reset may do -/

/-- The latest token that was issued to a user. -/
def latest (s : ResetSys) (user : Uuid) : Option Issue :=
  s.issued.find? fun issue => issue.user = user

/-- A token may set the password of a user: the user is active, the token is the latest one of the
user, it is at most an hour old, and it was not used before. -/
def Current (s : ResetSys) (now : ℕ) (token : String) (r : InstanceUser) : Prop :=
  r.status = .active ∧
    (∃ issue ∈ s.latest r.id, issue.token = token ∧ now ≤ issue.issuedAt + resetTokenTtlSeconds) ∧
    token ∉ s.used

instance (s : ResetSys) (now : ℕ) (token : String) (r : InstanceUser) :
    Decidable (s.Current now token r) :=
  inferInstanceAs (Decidable (_ ∧ _ ∧ _))

/-- The rows that are different in another state, as they were. -/
def changed (s s' : ResetSys) : List InstanceUser :=
  s.users.rows.filter fun r => s'.users.find r.id ≠ some r

/-- The request that a step runs the statement of, if it is a `reset_password`. -/
def resetting (s : ResetSys) : ResetAction → Option (Option ResetPasswordRequest × Turn)
  | .next i turn =>
    match s.threads[i]? with
    | some (.reset req) => some (req, turn)
    | _ => none
  | _ => none

section Conditions

variable (p : ResetParams)

/-- A reset changes only the rows of users for whom the presented token is current. -/
def Right [StdText] (s : ResetSys) (a : ResetAction) : Prop :=
  ∀ q ∈ s.resetting a, ∀ s' ∈ step p s a, ∀ r ∈ s.changed s',
    ∃ token ∈ presented q.1, s.Current q.2.now token r

/-- A reset finds no token that was stored more than an hour before. -/
def Timely (s : ResetSys) (a : ResetAction) : Prop :=
  ∀ q ∈ s.resetting a, ∀ w ∈ p.resetWrite q.1 q.2, ∀ r ∈ s.users.rows, r.holds w.1 = true →
    ∀ sent ∈ r.resetPasswordSentAt, q.2.now ≤ sent + resetTokenTtlSeconds

/-- A token that is drawn was not issued before. -/
def Fresh (s : ResetSys) : ResetAction → Prop
  | .next i turn =>
    (s.threads[i]?).any ResetStage.stores = true → turn.rand ∉ s.issued.map Issue.token
  | _ => True

instance [StdText] (s : ResetSys) (a : ResetAction) : Decidable (Right p s a) :=
  inferInstanceAs (Decidable (∀ q ∈ s.resetting a, ∀ s' ∈ step p s a, ∀ r ∈ s.changed s',
    ∃ token ∈ presented q.1, s.Current q.2.now token r))

instance (s : ResetSys) (a : ResetAction) : Decidable (Timely p s a) :=
  inferInstanceAs (Decidable (∀ q ∈ s.resetting a, ∀ w ∈ p.resetWrite q.1 q.2,
    ∀ r ∈ s.users.rows, r.holds w.1 = true →
      ∀ sent ∈ r.resetPasswordSentAt, q.2.now ≤ sent + resetTokenTtlSeconds))

instance (s : ResetSys) (a : ResetAction) : Decidable (Fresh s a) :=
  match a with
  | .next i turn =>
    inferInstanceAs (Decidable ((s.threads[i]?).any ResetStage.stores = true →
      turn.rand ∉ s.issued.map Issue.token))
  | .forgotPassword _ | .sendPasswordResetEmail _ | .resetPassword _ | .setUser _ _ _ _ =>
    inferInstanceAs (Decidable True)

end Conditions

/-- No request has come yet, and no token was issued. -/
structure Init (s : ResetSys) : Prop where
  threads : s.threads = []
  issued : s.issued = []
  used : s.used = []
  rows : ∀ r ∈ s.users.rows, r.resetPasswordToken = none

/-! ### What a step does -/

section Runs

variable [StdText] {p : ResetParams} {s s' : ResetSys} {a : ResetAction}

/-- A step keeps the rows and the lists, or it stores a token, sets a password or changes a
user. -/
theorem step_cases (h : step p s a = some s') :
    (s'.users = s.users ∧ s'.issued = s.issued ∧ s'.used = s.used) ∨
    (∃ i turn e user threads, a = .next i turn ∧ s.threads[i]? = some (.store e user) ∧
      s' = { s.storeToken user turn.rand turn.now with threads := threads }) ∨
    (∃ token encrypted threads, s' = { s.setPassword token encrypted with threads := threads }) ∨
    ∃ user email encryptedPassword status,
      s' = s.changeUser user email encryptedPassword status := by
  cases a with
  | forgotPassword req =>
    obtain rfl := Option.some_inj.mp h
    exact Or.inl ⟨rfl, rfl, rfl⟩
  | sendPasswordResetEmail bearer =>
    obtain rfl := Option.some_inj.mp h
    exact Or.inl ⟨rfl, rfl, rfl⟩
  | resetPassword req =>
    obtain rfl := Option.some_inj.mp h
    exact Or.inl ⟨rfl, rfl, rfl⟩
  | setUser user email encryptedPassword status =>
    obtain rfl := Option.some_inj.mp h
    exact Or.inr (Or.inr (Or.inr ⟨user, email, encryptedPassword, status, rfl⟩))
  | next i turn =>
    -- a thread goes on: only two of the stages write
    simp only [step, Option.bind_eq_some_iff, Option.map_eq_some_iff] at h
    obtain ⟨st, hst, st', -, rfl⟩ := h
    cases st with
    | store e user =>
      simp only [write]
      split
      · exact Or.inr (Or.inl ⟨i, turn, e, user, _, rfl, hst, rfl⟩)
      · exact Or.inl ⟨rfl, rfl, rfl⟩
    | reset req =>
      simp only [write]
      split
      · next token encrypted _ => exact Or.inr (Or.inr (Or.inl ⟨token, encrypted, _, rfl⟩))
      · exact Or.inl ⟨rfl, rfl, rfl⟩
    | forgot | sendEmail | limit | mail | done => exact Or.inl ⟨rfl, rfl, rfl⟩

/-- The step that runs the statement of a reset. -/
theorem step_of_resetting {req : Option ResetPasswordRequest} {turn : Turn}
    (h : s.resetting a = some (req, turn)) :
    ∃ threads, step p s a = some { s.write p turn (.reset req) with threads := threads } := by
  cases a with
  | next i turn' =>
    simp only [resetting] at h
    split at h
    · next req' hst =>
      rw [Option.some_inj, Prod.mk.injEq] at h
      obtain ⟨rfl, rfl⟩ := h
      rw [step, hst]
      exact ⟨_, rfl⟩
    · cases h
  | forgotPassword | sendPasswordResetEmail | resetPassword | setUser => cases h

/-! ### The invariant -/

/-- A token in a row is the latest one of its user, it was issued at the time in the row, and it
has not been used. -/
structure Inv (s : ResetSys) : Prop where
  row : ∀ r ∈ s.users.rows, ∀ token, r.resetPasswordToken = some token →
    ∃ issue, s.latest r.id = some issue ∧ issue.token = token ∧
      r.resetPasswordSentAt = some issue.issuedAt ∧ token ∉ s.used
  used : ∀ token ∈ s.used, token ∈ s.issued.map Issue.token
  nodup : (s.issued.map Issue.token).Nodup

omit [StdText] in
theorem inv_of_init (h : s.Init) : Inv s where
  row r hr token htoken := by
    rw [h.rows r hr] at htoken
    cases htoken
  used token htoken := by
    rw [h.used] at htoken
    cases htoken
  nodup := by
    rw [h.issued]
    exact List.nodup_nil

omit [StdText] in
theorem latest_user {user : Uuid} {issue : Issue} (h : s.latest user = some issue) :
    issue ∈ s.issued ∧ issue.user = user :=
  ⟨List.mem_of_find?_eq_some h, by simpa using List.find?_some h⟩

omit [StdText] in
/-- No two rows have the same token. -/
theorem Inv.row_unique (h : Inv s) {r r' : InstanceUser} (hr : r ∈ s.users.rows)
    (hr' : r' ∈ s.users.rows) {token : String} (ht : r.resetPasswordToken = some token)
    (ht' : r'.resetPasswordToken = some token) : r = r' := by
  obtain ⟨issue, hlatest, htok, -, -⟩ := h.row r hr token ht
  obtain ⟨issue', hlatest', htok', -, -⟩ := h.row r' hr' token ht'
  obtain ⟨hmem, huser⟩ := latest_user hlatest
  obtain ⟨hmem', huser'⟩ := latest_user hlatest'
  have hissue : issue = issue' :=
    List.inj_on_of_nodup_map h.nodup hmem hmem' (htok.trans htok'.symm)
  have hid : r.id = r'.id := by
    rw [← huser, ← huser', hissue]
  exact List.inj_on_of_nodup_map s.users.nodup hr hr' hid

omit [StdText] in
theorem inv_storeToken (h : Inv s) (user : Uuid) {token : String} (now : ℕ)
    (hfresh : token ∉ s.issued.map Issue.token) (threads : List ResetStage) :
    Inv { s.storeToken user token now with threads := threads } where
  row r hr t ht := by
    simp only [storeToken] at hr
    rcases Table.mem_update _ hr with ⟨hr, hne⟩ | ⟨r₀, hr₀, hid, rfl⟩
    · -- the row of another user: the new token is not the latest of this user
      obtain ⟨issue, hlatest, hrest⟩ := h.row r hr t ht
      refine ⟨issue, ?_, hrest⟩
      have hne : user ≠ r.id := fun heq => by simp [heq] at hne
      rw [latest] at hlatest ⊢
      exact (List.find?_cons_of_neg (by simpa using hne)).trans hlatest
    · have hid : user = r₀.id := (of_decide_eq_true hid).symm
      obtain rfl := Option.some_inj.mp ht
      refine ⟨⟨user, token, now⟩, ?_, rfl, rfl, fun hused => hfresh (h.used _ hused)⟩
      exact List.find?_cons_of_pos (by simpa using hid)
  used t ht := List.mem_cons_of_mem _ (h.used t ht)
  nodup := List.nodup_cons.mpr ⟨hfresh, h.nodup⟩

omit [StdText] in
theorem inv_setPassword (h : Inv s) (token encrypted : String) (threads : List ResetStage) :
    Inv { s.setPassword token encrypted with threads := threads } where
  row r hr t ht := by
    simp only [setPassword] at hr
    rcases Table.mem_update _ hr with ⟨hold, hnot⟩ | ⟨r₀, -, -, rfl⟩
    · obtain ⟨issue, hlatest, htok, hsent, hunused⟩ := h.row r hold t ht
      refine ⟨issue, hlatest, htok, hsent, ?_⟩
      simp only [setPassword]
      split
      · next hany =>
        -- the used token is the one of another row
        obtain ⟨r₁, hr₁, hholds⟩ := List.any_eq_true.mp hany
        rw [List.mem_cons, not_or]
        refine ⟨?_, hunused⟩
        rintro rfl
        have heq : r = r₁ := h.row_unique hold hr₁ ht (InstanceUser.holds_iff.mp hholds).1
        rw [heq, hholds] at hnot
        cases hnot
      · exact hunused
    · cases ht
  used t ht := by
    simp only [setPassword] at ht
    split at ht
    · next hany =>
      rw [List.mem_cons] at ht
      rcases ht with rfl | ht
      · obtain ⟨r₁, hr₁, hholds⟩ := List.any_eq_true.mp hany
        obtain ⟨issue, hlatest, rfl, -, -⟩ := h.row r₁ hr₁ t (InstanceUser.holds_iff.mp hholds).1
        exact List.mem_map_of_mem (latest_user hlatest).1
      · exact h.used t ht
    · exact h.used t ht
  nodup := h.nodup

omit [StdText] in
theorem inv_changeUser (h : Inv s) (user : Uuid) (email encryptedPassword : String)
    (status : InstanceUserStatus) : Inv (s.changeUser user email encryptedPassword status) where
  row r hr t ht := by
    simp only [changeUser] at hr
    rcases Table.mem_update _ hr with ⟨hr, -⟩ | ⟨r₀, hr₀, -, rfl⟩
    · exact h.row r hr t ht
    · exact h.row r₀ hr₀ t ht
  used := h.used
  nodup := h.nodup

theorem inv_step (h : Inv s) (hfresh : s.Fresh a) (hstep : step p s a = some s') : Inv s' := by
  rcases step_cases hstep with ⟨husers, hissued, hused⟩ |
    ⟨i, turn, e, user, threads, rfl, hst, rfl⟩ | ⟨token, encrypted, threads, rfl⟩ |
    ⟨user, email, encryptedPassword, status, rfl⟩
  · exact ⟨by simpa only [husers, latest, hissued, hused] using h.row,
      by simpa only [hissued, hused] using h.used, by simpa only [hissued] using h.nodup⟩
  · rw [Fresh, hst] at hfresh
    exact inv_storeToken h user turn.now (hfresh rfl) threads
  · exact inv_setPassword h token encrypted threads
  · exact inv_changeUser h user email encryptedPassword status

/-! ### Resets -/

omit [StdText] in
/-- The rows that the statement of a reset changes are those that it finds. -/
theorem mem_changed_setPassword {token encrypted : String} {threads : List ResetStage}
    {r : InstanceUser} :
    r ∈ s.changed { s.setPassword token encrypted with threads := threads } ↔
      r ∈ s.users.rows ∧ r.holds token = true := by
  rw [changed, List.mem_filter]
  refine and_congr_right fun hr => ?_
  have hfind : s.users.find r.id = some r := Table.find_eq_some_iff.mpr ⟨hr, rfl⟩
  have hafter := Table.find_update_of_some hfind (InstanceUser.holds token)
    (fun r => { r with
      encryptedPassword := encrypted
      resetPasswordToken := none
      resetPasswordSentAt := none }) fun _ => rfl
  rw [decide_eq_true_iff, setPassword, hafter]
  by_cases hholds : r.holds token = true
  · rw [if_pos hholds]
    refine iff_of_true (fun heq => ?_) hholds
    -- the token of the row is gone
    have htoken := congrArg InstanceUser.resetPasswordToken (Option.some_inj.mp heq)
    rw [(InstanceUser.holds_iff.mp hholds).1] at htoken
    cases htoken
  · rw [if_neg hholds]
    exact iff_of_false (fun hne => hne rfl) hholds

omit [StdText] in
/-- For a row that a reset finds, all that is left is the age of the token. -/
theorem Inv.current_iff (h : Inv s) {r : InstanceUser} (hr : r ∈ s.users.rows) {token : String}
    (hholds : r.holds token = true) (now : ℕ) :
    s.Current now token r ↔
      ∀ sent ∈ r.resetPasswordSentAt, now ≤ sent + resetTokenTtlSeconds := by
  obtain ⟨htoken, hactive⟩ := InstanceUser.holds_iff.mp hholds
  obtain ⟨issue, hlatest, htok, hsent, hunused⟩ := h.row r hr token htoken
  rw [Current, hlatest, hsent]
  constructor
  · rintro ⟨-, ⟨issue', hissue', -, hage⟩, -⟩ sent hs
    obtain rfl := Option.some_inj.mp hissue'
    obtain rfl := Option.some_inj.mp hs
    exact hage
  · intro hage
    exact ⟨hactive, ⟨issue, rfl, htok, hage _ rfl⟩, hunused⟩

theorem right_iff_timely (h : Inv s) : Right p s a ↔ Timely p s a := by
  rw [Right, Timely]
  refine forall₂_congr fun q hq => ?_
  obtain ⟨req, turn⟩ := q
  obtain ⟨threads, hstep⟩ := step_of_resetting (p := p) hq
  rw [hstep]
  cases hw : p.resetWrite req turn with
  | none =>
    -- the request is refused before its statement, or the statement fails
    have hsame : ∀ r, r ∉ s.changed { s with threads := threads } := by
      intro r hr
      rw [changed, List.mem_filter, decide_eq_true_iff] at hr
      exact hr.2 (Table.find_eq_some_iff.mpr ⟨hr.1, rfl⟩)
    simp only [write, hw, Option.mem_def, Option.some.injEq, forall_eq', reduceCtorEq,
      IsEmpty.forall_iff, implies_true, iff_true]
    exact fun r hr => absurd hr (hsame r)
  | some w =>
    obtain ⟨token, encrypted⟩ := w
    simp only [write, hw, Option.mem_def, Option.some.injEq, forall_eq', mem_changed_setPassword,
      presented_of_resetWrite hw, exists_eq_left']
    constructor
    · intro hright r hr hholds
      exact (h.current_iff hr hholds turn.now).mp (hright r ⟨hr, hholds⟩)
    · rintro htimely r ⟨hr, hholds⟩
      exact (h.current_iff hr hholds turn.now).mpr (htimely r hr hholds)

/-- In every run in which each token that is drawn is new, all the resets change only the rows of
users for whom the token is current exactly when none of them finds a token that is more than an
hour old. -/
theorem resets_right_iff {s₀ : ResetSys} {acts : List ResetAction} (hinit : s₀.Init)
    (hfresh : Transition.Along (step p) Fresh s₀ acts) :
    Transition.Along (step p) (Right p) s₀ acts ↔
      Transition.Along (step p) (Timely p) s₀ acts :=
  Transition.along_congr (fun h hfresh hstep => inv_step h hfresh hstep)
    (fun h _ => right_iff_timely h) (inv_of_init hinit) hfresh

end Runs

end ResetSys

namespace Sample

def resetParams : ResetParams where
  hashPassword salt password := some ("$argon2id$v=19$m=19456,t=2,p=1$" ++ salt ++ "$" ++ password)
  isUppercase := Char.isUpper
  isLowercase := Char.isLower

def resetAccount : ResetSys where
  users := ⟨[⟨7, "ada@example.com", "old", .active, none, none⟩,
    ⟨8, "bob@example.com", "other", .active, none, none⟩], by decide⟩
  threads := []
  issued := []
  used := []

theorem resetAccount_init : resetAccount.Init where
  threads := rfl
  issued := rfl
  used := rfl
  rows := by decide

/-- A token is issued at 1000, and presented at `now`. -/
def resetAt (now : ℕ) : List ResetAction :=
  [.forgotPassword (some ⟨" Ada@example.com"⟩), .next 0 ⟨1000, true, ""⟩, .next 0 ⟨1000, true, ""⟩,
    .next 0 ⟨1000, true, "3q2-7wT5nVQkYxJm0aBcDeFgHiJkLmNoPqRsTuVwXyZ"⟩, .next 0 ⟨1001, true, ""⟩,
    .resetPassword (some ⟨"3q2-7wT5nVQkYxJm0aBcDeFgHiJkLmNoPqRsTuVwXyZ", "NewPass123"⟩),
    .next 1 ⟨now, true, "c2FsdA"⟩]

end Sample

open Sample in
/-- After ten minutes the token sets the password, as it may. -/
theorem resets_right_after_ten_minutes :
    Transition.Along (ResetSys.step resetParams) (ResetSys.Right resetParams) resetAccount
        (resetAt 1600) ∧
      ((Transition.run (ResetSys.step resetParams) resetAccount (resetAt 1600)).bind fun s =>
        s.users.find 7).map InstanceUser.encryptedPassword ≠ some "old" := by
  refine ⟨(ResetSys.resets_right_iff resetAccount_init ?_).mpr ?_, ?_⟩ <;> decide

open Sample in
/-- A day after it was issued, a token still sets the password. -/
theorem old_token_sets_password :
    resetAccount.Init ∧
      Transition.Along (ResetSys.step resetParams) ResetSys.Fresh resetAccount (resetAt 87400) ∧
      ((Transition.run (ResetSys.step resetParams) resetAccount (resetAt 87400)).bind fun s =>
        s.users.find 7).map InstanceUser.encryptedPassword ≠ some "old" ∧
      ¬ Transition.Along (ResetSys.step resetParams) (ResetSys.Right resetParams) resetAccount
        (resetAt 87400) := by
  refine ⟨resetAccount_init, ?_, ?_, ?_⟩ <;> decide

end LeadsNebula
