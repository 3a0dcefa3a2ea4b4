/-
Setting up, verifying and disabling OTP (`setup_otp`, `verify_otp` and `disable_otp` of
`routes/dashboard.rs`), beside the logins that use it.

Each statement of a request is a step of its own.  A verification reads the secret,
checks the code, and then enables whatever secret is stored; a setup replaces the
secret without looking at who is verifying.

* `enabled_sound` — if no setup writes while a verification of the same user is between
  its statements, and logins write the backup codes back onto the list that they have
  read, then wherever OTP is enabled, a valid code was given for the secret that is
  stored, and the codes that are stored are those that were shown last, without the
  ones that were used since;
* `unproved_secret_enabled` — a setup in between enables a secret that no code was
  given for.
-/
import LeadsNebula.BackupCodes
import LeadsNebula.Dashboard
import LeadsNebula.Encoding

namespace LeadsNebula

/-! ### Secrets and codes -/

/-- The characters of backup codes, without those that are read as others. -/
def backupChars : List Char := "ABCDEFGHJKLMNPQRSTUVWXYZ23456789".toList

/-- Eight codes of eight characters, from random bytes. -/
def drawBackupCodes (draw : ℕ → UInt8) : List String :=
  (List.range 8).map fun i => String.ofList ((List.range 8).map fun j =>
    backupChars.getD ((draw (8 * i + j)).toNat % backupChars.length) 'A')

def drawSecret (draw : ℕ → UInt8) : String := Encoding.base32 ((List.range 20).map draw)

def provisioningUri (email secret : String) : String :=
  "otpauth://totp/LeadsNebula:" ++ Encoding.urlEncode email ++ "?secret=" ++ secret ++
    "&issuer=LeadsNebula"

/-! ### The steps of a request -/

structure VerifyOtpRequest where
  code : String
  secretEncrypted : Option String

/-- What a request does next. -/
inductive EnrolStage where
  /-- `setup_otp`: look up the user; read whether OTP is enabled; store a secret. -/
  | setup (token : Option Token)
  | setupCheck (user : User)
  | setupWrite (user : User) (secret : String)
  /-- `verify_otp`: look up the user; read the secret; enable OTP and store the codes.  The secret
  that was read is not used any more. -/
  | verify (token : Option Token) (req : VerifyOtpRequest)
  | verifySecret (user : User) (req : VerifyOtpRequest)
  | verifyWrite (user : User) (secret : String) (codes : List String)
  /-- `disable_otp`: look up the user; read whether OTP is enabled; disable it. -/
  | disable (token : Option Token)
  | disableCheck (user : User)
  | disableWrite (user : User)
  /-- The answer: a status that is an error, or a body. -/
  | done (reply : Except ℕ Json)

/-- A verification of the user that waits to write. -/
def EnrolStage.verifies (u : Uuid) : EnrolStage → Bool
  | .verifyWrite user _ _ => user.id = u
  | _ => false

/-- Logins and the requests about OTP.  `proved`, the secrets that a valid code was given for, and
`issued`, the codes that were stored last and the number of codes used before, are not kept by the
program. -/
structure OtpSys where
  auth : AuthSys
  enrolments : List EnrolStage
  proved : List (Uuid × String)
  issued : Uuid → Option (List String × ℕ)

inductive OtpAction where
  | auth (a : AuthAction)
  | setup (token : Option Token)
  | verify (token : Option Token) (req : VerifyOtpRequest)
  | disable (token : Option Token)
  /-- Request `i` runs its next statement, which fails unless `ok`, and draws random bytes. -/
  | next (i : ℕ) (now : ℕ) (ok : Bool) (draw : ℕ → UInt8)

namespace OtpSys

/-- The user of the token, or the status of the error. -/
def loadUser (s : AuthSys) (now : ℕ) (ok : Bool) (token : Option Token) : Except ℕ User :=
  match (token.bind (JwtService.decode now)).bind fun claims => Uuid.parseStr claims.userId with
  | none => .error 401
  | some id =>
    if !ok then .error 500
    else match s.activeUser id with
      | none => .error 401
      | some user => .ok user

def goOn (f : User → EnrolStage) : Except ℕ User → EnrolStage
  | .error status => .done (.error status)
  | .ok user => f user

section

variable (p : AuthParams) (s : OtpSys)

def checkSetup (user : User) (ok : Bool) (draw : ℕ → UInt8) : EnrolStage :=
  if !ok then .done (.error 500)
  else if s.auth.otpEnabled user.id then
    .done (.ok (Dashboard.errorJson
      "OTP is already enabled. Please disable it first to set up a new one."))
  else .setupWrite user (drawSecret draw)

/-- The secret that is stored, else the one of the request. -/
def secretFor (user : User) (req : VerifyOtpRequest) : Option String :=
  ((s.auth.otp.find user.id).map OtpSettings.secret).or req.secretEncrypted

def checkCode (user : User) (req : VerifyOtpRequest) (now : ℕ) (ok : Bool) (draw : ℕ → UInt8) :
    EnrolStage :=
  if !ok then .done (.error 500)
  else match s.secretFor user req with
    | none => .done (.error 400)
    | some secret =>
      match p.otpVerify secret now req.code with
      | none => .done (.error 500)
      | some false => .done (.ok (Dashboard.errorJson "Invalid OTP code. Please try again."))
      | some true => .verifyWrite user secret (drawBackupCodes draw)

def checkDisable (user : User) (ok : Bool) : EnrolStage :=
  if !ok then .done (.error 500)
  else if !s.auth.otpEnabled user.id then .done (.ok (Dashboard.errorJson "OTP is not enabled."))
  else .disableWrite user

/-- The answer to a write. -/
def answer (ok : Bool) (body : Json) : EnrolStage :=
  .done (if ok then .ok body else .error 500)

def secretJson (user : User) (secret : String) : Json :=
  Dashboard.successJson [("secret", .str secret), ("secret_encrypted", .str secret),
    ("provisioning_uri", .str (provisioningUri user.email secret))]

/-- The stage after the next statement of a request. -/
def advance (now : ℕ) (ok : Bool) (draw : ℕ → UInt8) : EnrolStage → Option EnrolStage
  | .setup token => some (goOn .setupCheck (loadUser s.auth now ok token))
  | .setupCheck user => some (s.checkSetup user ok draw)
  | .setupWrite user secret => some (answer ok (secretJson user secret))
  | .verify token req => some (goOn (.verifySecret · req) (loadUser s.auth now ok token))
  | .verifySecret user req => some (s.checkCode p user req now ok draw)
  | .verifyWrite _ _ codes => some (answer ok (Dashboard.successJson
      [("backup_codes_encrypted", .arr (codes.map Json.str))]))
  | .disable token => some (goOn .disableCheck (loadUser s.auth now ok token))
  | .disableCheck user => some (s.checkDisable user ok)
  | .disableWrite _ => some (answer ok (Dashboard.messageJson "OTP disabled successfully."))
  | .done _ => none

/-- The secret that a request gives a valid code for. -/
def proves (now : ℕ) : EnrolStage → List (Uuid × String)
  | .verifySecret user req =>
    (((s.secretFor user req).filter fun secret => p.otpVerify secret now req.code = some true).map
      (user.id, ·)).toList
  | _ => []

/-- The codes that a user has used since `n` had been used. -/
def usedSince (u : Uuid) (n : ℕ) : List String :=
  (s.auth.usedBy u).take ((s.auth.usedBy u).length - n)

def withOtp (otp : Table OtpSettings.instanceUserId) : OtpSys :=
  { s with auth := { s.auth with otp := otp } }

/-- What the next statement of a request writes. -/
def write : EnrolStage → OtpSys
  | .setupWrite user secret =>
    s.withOtp ((s.auth.otp.update (fun r => r.instanceUserId = user.id)
      (fun r => { r with secret := secret, enabled := false }) fun _ => rfl).insert
        ⟨user.id, false, secret, none⟩)
  | .verifyWrite user _ codes =>
    { s.withOtp (s.auth.otp.update (fun r => r.instanceUserId = user.id)
        (fun r => { r with enabled := true, backupCodes := some codes }) fun _ => rfl) with
      issued := if (s.auth.otp.find user.id).isSome then
          Function.update s.issued user.id (some (codes, (s.auth.usedBy user.id).length))
        else s.issued }
  | .disableWrite user =>
    s.withOtp (s.auth.otp.update (fun r => r.instanceUserId = user.id)
      (fun r => { r with enabled := false }) fun _ => rfl)
  | _ => s

variable [StdText]

def step (s : OtpSys) : OtpAction → Option OtpSys
  | .auth a => (AuthSys.step p s.auth a).map fun auth => { s with auth := auth }
  | .setup token => some { s with enrolments := s.enrolments ++ [.setup token] }
  | .verify token req => some { s with enrolments := s.enrolments ++ [.verify token req] }
  | .disable token => some { s with enrolments := s.enrolments ++ [.disable token] }
  | .next i now ok draw =>
    (s.enrolments[i]?).bind fun st =>
      (s.advance p now ok draw st).map fun st' =>
        { (if ok then s.write st else s) with
          enrolments := s.enrolments.set i st'
          proved := (if ok then s.proves p now st else []) ++ s.proved }

end

/-! ### What a step does -/

section

variable [StdText] {p : AuthParams} {s s' : OtpSys}

theorem step_cases {a : OtpAction} (h : s.step p a = some s') :
    (∃ b auth, a = .auth b ∧ AuthSys.step p s.auth b = some auth ∧ s' = { s with auth := auth }) ∨
    (∃ st, (∀ user secret codes, st ≠ .verifyWrite user secret codes) ∧
      s' = { s with enrolments := s.enrolments ++ [st] }) ∨
    ∃ i now ok draw st st', a = .next i now ok draw ∧ s.enrolments[i]? = some st ∧
      s.advance p now ok draw st = some st' ∧
      s' = { (if ok then s.write st else s) with
        enrolments := s.enrolments.set i st'
        proved := (if ok then s.proves p now st else []) ++ s.proved } := by
  cases a with
  | auth b =>
    obtain ⟨auth, hauth, rfl⟩ := Option.map_eq_some_iff.mp h
    exact Or.inl ⟨b, auth, rfl, hauth, rfl⟩
  -- the three requests begin before any statement
  | setup token =>
    refine Or.inr (Or.inl ⟨.setup token, ?_, (Option.some.inj h).symm⟩)
    rintro user secret codes ⟨⟩
  | verify token req =>
    refine Or.inr (Or.inl ⟨.verify token req, ?_, (Option.some.inj h).symm⟩)
    rintro user secret codes ⟨⟩
  | disable token =>
    refine Or.inr (Or.inl ⟨.disable token, ?_, (Option.some.inj h).symm⟩)
    rintro user secret codes ⟨⟩
  | next i now ok draw =>
    obtain ⟨st, hst, hnext⟩ := Option.bind_eq_some_iff.mp h
    obtain ⟨st', hadv, rfl⟩ := Option.map_eq_some_iff.mp hnext
    exact Or.inr (Or.inr ⟨i, now, ok, draw, st, st', rfl, hst, hadv, rfl⟩)

omit [StdText] in
/-- A code is checked against the secret that is stored, if one is. -/
theorem advance_verifyWrite {now : ℕ} {ok : Bool} {draw : ℕ → UInt8} {st : EnrolStage} {user : User}
    {secret : String} {codes : List String}
    (h : s.advance p now ok draw st = some (.verifyWrite user secret codes)) :
    ok = true ∧ s.write st = s ∧ (user.id, secret) ∈ s.proves p now st ∧
      ∀ row, s.auth.otp.find user.id = some row → row.secret = secret := by
  -- a check that fails answers the request, and so does not go on to a write
  have hgoOn : ∀ {f : User → EnrolStage} {r : Except ℕ User},
      (∀ user', f user' ≠ .verifyWrite user secret codes) →
      goOn f r ≠ .verifyWrite user secret codes := by
    intro f r hf heq
    cases r with
    | error status => cases heq
    | ok user' => exact hf user' heq
  cases st with
  | setup token => exact absurd (Option.some.inj h) (hgoOn fun _ heq => by cases heq)
  | verify token req => exact absurd (Option.some.inj h) (hgoOn fun _ heq => by cases heq)
  | disable token => exact absurd (Option.some.inj h) (hgoOn fun _ heq => by cases heq)
  | setupCheck user' =>
    have heq := Option.some.inj h
    simp only [checkSetup] at heq
    split_ifs at heq
  | disableCheck user' =>
    have heq := Option.some.inj h
    simp only [checkDisable] at heq
    split_ifs at heq
  | setupWrite user' secret' => cases h
  | verifyWrite user' secret' codes' => cases h
  | disableWrite user' => cases h
  | done reply => cases h
  | verifySecret user' req =>
    have heq := Option.some.inj h
    simp only [checkCode] at heq
    cases ok with
    | false => cases heq
    | true =>
      cases hsecret : s.secretFor user' req with
      | none =>
        rw [hsecret] at heq
        cases heq
      | some secret' =>
        rw [hsecret] at heq
        cases hvalid : p.otpVerify secret' now req.code with
        | none =>
          simp only [hvalid] at heq
          cases heq
        | some valid =>
          cases valid with
          | false =>
            simp only [hvalid] at heq
            cases heq
          -- the one way to the write: the code is right for the secret of the row
          | true =>
            simp only [hvalid] at heq
            cases heq
            refine ⟨rfl, rfl, ?_, ?_⟩
            · simp [proves, hsecret, hvalid]
            · intro row hrow
              rw [secretFor, hrow] at hsecret
              exact Option.some.inj hsecret

end

/-! ### The invariant -/

/-- If the request writes a new secret next, no verification of the user waits to write. -/
def undisturbed (s : OtpSys) : EnrolStage → Bool
  | .setupWrite user _ => s.enrolments.all fun st => !st.verifies user.id
  | _ => true

/-- A setup that writes disturbs no verification, and a login that writes codes back finds the list
that it has read. -/
def Calm (s : OtpSys) : OtpAction → Prop
  | .auth a => AuthSys.WritesOnto s.auth a
  | .next i _ true _ => (s.enrolments[i]?).all s.undisturbed = true
  | _ => True

/-- The row of a user. -/
structure RowSound (s : OtpSys) (row : OtpSettings) : Prop where
  proved : row.enabled = true → (row.instanceUserId, row.secret) ∈ s.proved
  issued : row.enabled = true → (s.issued row.instanceUserId).isSome = true
  codes : ∀ codes n, s.issued row.instanceUserId = some (codes, n) →
    n ≤ (s.auth.usedBy row.instanceUserId).length ∧
      (s.usedSince row.instanceUserId n ++ row.backupCodes.getD []).Perm codes

structure Sound (s : OtpSys) : Prop where
  range : s.auth.InRange
  rows : ∀ u row, s.auth.otp.find u = some row → s.RowSound row
  absent : ∀ u, s.auth.otp.find u = none → s.issued u = none
  /-- A code was given for the secret that a verification has read, and it is the one that is
  stored. -/
  pending : ∀ user secret codes, .verifyWrite user secret codes ∈ s.enrolments →
    (user.id, secret) ∈ s.proved ∧ ∀ row, s.auth.otp.find user.id = some row → row.secret = secret

section

variable {s s' : OtpSys} {u : Uuid} {row : OtpSettings}

/-- What another statement leaves as it is. -/
theorem RowSound.congr (h : s.RowSound row) {row' : OtpSettings}
    (hkey : row'.instanceUserId = row.instanceUserId) (hcodes : row'.backupCodes = row.backupCodes)
    (hsecret : row'.enabled = true → row.enabled = true ∧ row'.secret = row.secret)
    (hproved : s.proved ⊆ s'.proved) (hissued : s'.issued = s.issued)
    (hused : s'.auth.used = s.auth.used) : s'.RowSound row' where
  proved henabled := by
    obtain ⟨henabled', heq⟩ := hsecret henabled
    rw [hkey, heq]
    exact hproved (h.proved henabled')
  issued henabled := by
    rw [hkey, hissued]
    exact h.issued (hsecret henabled).1
  codes := by
    rw [hkey, hcodes, hissued]
    simp only [usedSince, AuthSys.usedBy, hused]
    exact h.codes

/-- Nothing but the list of requests and the secrets that were proved changes. -/
theorem Sound.advance (h : s.Sound) {enrolments : List EnrolStage} {proved : List (Uuid × String)}
    (hproved : s.proved ⊆ proved)
    (hpending : ∀ user secret codes, .verifyWrite user secret codes ∈ enrolments →
      .verifyWrite user secret codes ∈ s.enrolments ∨ (user.id, secret) ∈ proved ∧
        ∀ row, s.auth.otp.find user.id = some row → row.secret = secret) :
    ({ s with enrolments := enrolments, proved := proved } : OtpSys).Sound where
  range := h.range
  rows u row hrow :=
    (h.rows u row hrow).congr rfl rfl (fun henabled => ⟨henabled, rfl⟩) hproved rfl rfl
  absent := h.absent
  pending user secret codes hmem := by
    rcases hpending user secret codes hmem with hold | hnew
    · obtain ⟨hmem', hsecret⟩ := h.pending user secret codes hold
      exact ⟨hproved hmem', hsecret⟩
    · exact hnew

/-- The settings of a user after an update. -/
theorem find_update_user {t : Table OtpSettings.instanceUserId} {v : Uuid}
    {f : OtpSettings → OtpSettings} {hf : ∀ r, (f r).instanceUserId = r.instanceUserId} :
    (t.update (fun r => r.instanceUserId = v) f hf).find u =
      if u = v then (t.find u).map f else t.find u := by
  rw [Table.find_update]
  cases hrow : t.find u with
  | none =>
    split
    · rfl
    · rfl
  | some row =>
    have hkey := Table.find_key hrow
    by_cases hu : u = v
    · simp [hkey, hu]
    · simp [hkey, hu]

theorem Sound.disableWrite (h : s.Sound) (user : User) : (s.write (.disableWrite user)).Sound where
  range := h.range
  rows u row hrow := by
    simp only [write, withOtp] at hrow
    rw [find_update_user] at hrow
    by_cases hu : u = user.id
    · rw [if_pos hu] at hrow
      obtain ⟨row', hrow', rfl⟩ := Option.map_eq_some_iff.mp hrow
      -- the row is off now, and keeps its secret and its codes
      refine (h.rows u row' hrow').congr rfl rfl ?_ (List.Subset.refl _) rfl rfl
      intro henabled
      cases henabled
    · rw [if_neg hu] at hrow
      exact (h.rows u row hrow).congr rfl rfl (fun henabled => ⟨henabled, rfl⟩) (List.Subset.refl _)
        rfl rfl
  absent u hnone := by
    simp only [write, withOtp] at hnone
    rw [find_update_user] at hnone
    refine h.absent u ?_
    split at hnone
    · exact Option.map_eq_none_iff.mp hnone
    · exact hnone
  pending user' secret codes hmem := by
    obtain ⟨hproved, hsecret⟩ := h.pending user' secret codes hmem
    refine ⟨hproved, fun row hrow => ?_⟩
    simp only [write, withOtp] at hrow
    rw [find_update_user] at hrow
    split at hrow
    · obtain ⟨row', hrow', rfl⟩ := Option.map_eq_some_iff.mp hrow
      exact hsecret row' hrow'
    · exact hsecret row hrow

theorem Sound.setupWrite (h : s.Sound) {user : User} {secret : String}
    (hcalm : s.undisturbed (.setupWrite user secret) = true) :
    (s.write (.setupWrite user secret)).Sound := by
  have hfind : ∀ u, (s.write (.setupWrite user secret)).auth.otp.find u =
      if u = user.id then
        some (((s.auth.otp.find u).map fun r => { r with secret := secret, enabled := false }).getD
          ⟨user.id, false, secret, none⟩)
      else s.auth.otp.find u := by
    intro u
    simp only [write, withOtp]
    rw [Table.find_insert, find_update_user]
    by_cases hu : u = user.id
    · rw [if_pos hu, if_pos hu, if_pos hu.symm]
      cases s.auth.otp.find u with
      | none => rfl
      | some row => rfl
    · rw [if_neg hu, if_neg hu, if_neg (Ne.symm hu), Option.or_none]
  refine ⟨h.range, fun u row hrow => ?_, fun u hnone => ?_, fun user' secret' codes hmem => ?_⟩
  · rw [hfind] at hrow
    split at hrow
    · next hu =>
      cases hold : s.auth.otp.find u with
      | none =>
        -- there was no row, so no codes have been given out that the new one would lack
        rw [hold] at hrow
        obtain rfl := Option.some.inj hrow
        refine ⟨fun henabled => (by cases henabled), fun henabled => (by cases henabled), ?_⟩
        intro codes n hissued
        have habsent := h.absent u hold
        rw [hu] at habsent
        exact absurd (habsent.symm.trans hissued) (by simp)
      | some row' =>
        rw [hold] at hrow
        obtain rfl := Option.some.inj hrow
        -- a setup turns OTP off, which leaves only the codes to account for
        refine (h.rows u row' hold).congr rfl rfl ?_ (List.Subset.refl _) rfl rfl
        intro henabled
        cases henabled
    · exact (h.rows u row hrow).congr rfl rfl (fun henabled => ⟨henabled, rfl⟩)
        (List.Subset.refl _) rfl rfl
  · rw [hfind] at hnone
    split at hnone
    · cases hnone
    · exact h.absent u hnone
  · obtain ⟨hproved, hsecret⟩ := h.pending user' secret' codes hmem
    refine ⟨hproved, fun row hrow => ?_⟩
    -- the setup is calm, so a verification that waits is of another user
    have hother : user'.id ≠ user.id := by
      intro heq
      have hwaits := List.all_eq_true.mp hcalm _ hmem
      simp [EnrolStage.verifies, heq] at hwaits
    rw [hfind, if_neg hother] at hrow
    exact hsecret row hrow

theorem find_verifyWrite (s : OtpSys) (user : User) (secret : String) (codes : List String)
    (u : Uuid) : (s.write (.verifyWrite user secret codes)).auth.otp.find u =
      if u = user.id then
        (s.auth.otp.find u).map fun r => { r with enabled := true, backupCodes := some codes }
      else s.auth.otp.find u := by
  simp only [write, withOtp]
  exact find_update_user

theorem issued_verifyWrite_of_ne {user : User} (secret : String) (codes : List String)
    (hu : u ≠ user.id) : (s.write (.verifyWrite user secret codes)).issued u = s.issued u := by
  simp only [write]
  split
  · exact Function.update_of_ne hu _ _
  · rfl

theorem issued_verifyWrite_self {user : User} (secret : String) (codes : List String)
    (hrow : s.auth.otp.find user.id = some row) :
    (s.write (.verifyWrite user secret codes)).issued user.id =
      some (codes, (s.auth.usedBy user.id).length) := by
  simp only [write]
  rw [if_pos (by rw [hrow]; rfl), Function.update_self]

/-- The row that is enabled: its secret is the one that was proved, its codes are those just
given out. -/
theorem RowSound.verifyWrite {user : User} {codes : List String}
    (hrow : s.auth.otp.find user.id = some row) (hproved : (user.id, row.secret) ∈ s.proved) :
    (s.write (.verifyWrite user row.secret codes)).RowSound
      { row with enabled := true, backupCodes := some codes } := by
  have hkey : row.instanceUserId = user.id := Table.find_key hrow
  have hnew := issued_verifyWrite_self row.secret codes hrow
  refine ⟨fun _ => ?_, fun _ => ?_, fun codes' n hissued' => ?_⟩
  · show (row.instanceUserId, row.secret) ∈ s.proved
    rw [hkey]
    exact hproved
  · show ((s.write (.verifyWrite user row.secret codes)).issued row.instanceUserId).isSome = true
    rw [hkey, hnew]
    rfl
  · -- what was given out is the new list, so no code of it has been used since
    have hpair : (codes, (s.auth.usedBy user.id).length) = (codes', n) := by
      have heq := hnew
      rw [← hkey] at heq
      exact Option.some.inj ((hkey ▸ heq).symm.trans (hkey ▸ hissued'))
    cases hpair
    show _ ≤ (s.auth.usedBy row.instanceUserId).length ∧
      ((s.auth.usedBy row.instanceUserId).take ((s.auth.usedBy row.instanceUserId).length -
        (s.auth.usedBy user.id).length) ++ codes).Perm codes
    rw [hkey, Nat.sub_self, List.take_zero]
    exact ⟨le_rfl, List.Perm.refl _⟩

/-- The rows of the other users are as before. -/
theorem RowSound.verifyWrite_of_ne {user : User} (secret : String) (codes : List String)
    (h : s.RowSound row) (hkey : row.instanceUserId ≠ user.id) :
    (s.write (.verifyWrite user secret codes)).RowSound row := by
  refine ⟨h.proved, fun henabled => ?_, ?_⟩
  · rw [issued_verifyWrite_of_ne secret codes hkey]
    exact h.issued henabled
  · rw [issued_verifyWrite_of_ne secret codes hkey]
    exact h.codes

/-- OTP is enabled with new codes, of which none is used. -/
theorem Sound.verifyWrite (h : s.Sound) {user : User} {secret : String} {codes : List String}
    (hmem : .verifyWrite user secret codes ∈ s.enrolments) :
    (s.write (.verifyWrite user secret codes)).Sound := by
  obtain ⟨hproved, hsecret⟩ := h.pending user secret codes hmem
  refine ⟨h.range, fun u row hrow => ?_, fun u hnone => ?_, fun user' secret' codes' hmem' => ?_⟩
  · rw [find_verifyWrite] at hrow
    by_cases hu : u = user.id
    · rw [if_pos hu] at hrow
      obtain ⟨row', hrow', rfl⟩ := Option.map_eq_some_iff.mp hrow
      rw [hu] at hrow'
      -- nobody has set the secret up anew since the verification has read it
      obtain rfl := hsecret row' hrow'
      exact RowSound.verifyWrite hrow' hproved
    · rw [if_neg hu] at hrow
      have hkey : row.instanceUserId ≠ user.id := by
        rw [Table.find_key hrow]
        exact hu
      exact (h.rows u row hrow).verifyWrite_of_ne secret codes hkey
  · rw [find_verifyWrite] at hnone
    have hold : s.auth.otp.find u = none := by
      split at hnone
      · exact Option.map_eq_none_iff.mp hnone
      · exact hnone
    by_cases hu : u = user.id
    · -- the UPDATE of no row gives no codes out
      simp only [write]
      rw [if_neg (by rw [← hu, hold]; simp)]
      exact h.absent u hold
    · rw [issued_verifyWrite_of_ne secret codes hu]
      exact h.absent u hold
  · obtain ⟨hproved', hsecret'⟩ := h.pending user' secret' codes' hmem'
    refine ⟨hproved', fun row hrow => ?_⟩
    rw [find_verifyWrite] at hrow
    split at hrow
    · obtain ⟨row', hrow', rfl⟩ := Option.map_eq_some_iff.mp hrow
      exact hsecret' row' hrow'
    · exact hsecret' row hrow

theorem find_writeBack (s : OtpSys) (user : User) (codes : List String) (index : ℕ) (u : Uuid) :
    (s.auth.write true (.verifyUpdate user codes index)).otp.find u =
      if u = user.id then
        (s.auth.otp.find u).map fun r => { r with backupCodes := some (codes.eraseIdx index) }
      else s.auth.otp.find u := by
  rw [AuthSys.write, if_pos rfl]
  rw [find_update_user]

/-- The row of the login's user: the code moves from the stored ones to the used ones, so that
together they are what they were. -/
theorem RowSound.writeBack {user : User} {codes : List String} {index : ℕ} (h : s.RowSound row)
    (hindex : index < codes.length) (hkey : row.instanceUserId = user.id)
    (hcodes : row.backupCodes = some codes) :
    ({ s with auth := s.auth.write true (.verifyUpdate user codes index) } : OtpSys).RowSound
      { row with backupCodes := some (codes.eraseIdx index) } := by
  refine ⟨h.proved, h.issued, fun codes' n hissued => ?_⟩
  obtain ⟨hn, hperm⟩ := h.codes codes' n hissued
  have hused : (s.auth.write true (.verifyUpdate user codes index)).usedBy row.instanceUserId =
      codes[index] :: s.auth.usedBy row.instanceUserId := by
    rw [AuthSys.usedBy_write hindex, if_pos hkey.symm]
  simp only [usedSince, hcodes, Option.getD_some] at hperm ⊢
  rw [hused, List.length_cons]
  refine ⟨Nat.le_succ_of_le hn, ?_⟩
  rw [Nat.succ_sub hn, List.take_succ_cons]
  have hmove : (codes[index] :: (s.auth.usedBy row.instanceUserId).take
      ((s.auth.usedBy row.instanceUserId).length - n) ++ codes.eraseIdx index).Perm
      ((s.auth.usedBy row.instanceUserId).take ((s.auth.usedBy row.instanceUserId).length - n)
        ++ codes[index] :: codes.eraseIdx index) := List.perm_middle.symm
  exact (hmove.trans ((List.getElem_cons_eraseIdx_perm hindex).append_left _)).trans hperm

/-- The rows of the other users are as before. -/
theorem RowSound.writeBack_of_ne {user : User} {codes : List String} {index : ℕ}
    (h : s.RowSound row) (hindex : index < codes.length) (hkey : row.instanceUserId ≠ user.id) :
    ({ s with auth := s.auth.write true (.verifyUpdate user codes index) } : OtpSys).RowSound
      row := by
  have hused : (s.auth.write true (.verifyUpdate user codes index)).usedBy row.instanceUserId =
      s.auth.usedBy row.instanceUserId := by
    rw [AuthSys.usedBy_write hindex, if_neg (Ne.symm hkey)]
  refine ⟨h.proved, h.issued, ?_⟩
  simp only [usedSince]
  rw [hused]
  exact h.codes

/-- A login that writes codes back takes one code out of the stored ones. -/
theorem Sound.writeBack (h : s.Sound) {user : User} {codes : List String} {index : ℕ}
    (hindex : index < codes.length) (hstored : s.auth.storedCodes user.id = some codes) :
    ({ s with auth := s.auth.write true (.verifyUpdate user codes index) } : OtpSys).Sound := by
  refine ⟨h.range, fun u row hrow => ?_, fun u hnone => ?_, fun user' secret' codes' hmem' => ?_⟩
  · rw [find_writeBack] at hrow
    by_cases hu : u = user.id
    · rw [if_pos hu] at hrow
      obtain ⟨row', hrow', rfl⟩ := Option.map_eq_some_iff.mp hrow
      have hcodes : row'.backupCodes = some codes := by
        rw [AuthSys.storedCodes, ← hu, hrow'] at hstored
        exact hstored
      have hkey : row'.instanceUserId = user.id := (Table.find_key hrow').trans hu
      exact (h.rows u row' hrow').writeBack hindex hkey hcodes
    · rw [if_neg hu] at hrow
      have hkey : row.instanceUserId ≠ user.id := by
        rw [Table.find_key hrow]
        exact hu
      exact (h.rows u row hrow).writeBack_of_ne hindex hkey
  · rw [find_writeBack] at hnone
    refine h.absent u ?_
    split at hnone
    · exact Option.map_eq_none_iff.mp hnone
    · exact hnone
  · obtain ⟨hproved, hsecret⟩ := h.pending user' secret' codes' hmem'
    refine ⟨hproved, fun row hrow => ?_⟩
    rw [find_writeBack] at hrow
    split at hrow
    · obtain ⟨row', hrow', rfl⟩ := Option.map_eq_some_iff.mp hrow
      exact hsecret row' hrow'
    · exact hsecret row hrow

/-- A statement that leaves the settings and the used codes as they are. -/
theorem Sound.auth_congr (h : s.Sound) {auth : AuthSys} (hrange : auth.InRange)
    (hotp : auth.otp = s.auth.otp) (hused : auth.used = s.auth.used) :
    ({ s with auth := auth } : OtpSys).Sound where
  range := hrange
  rows u row hrow := by
    rw [hotp] at hrow
    exact (h.rows u row hrow).congr rfl rfl (fun henabled => ⟨henabled, rfl⟩) (List.Subset.refl _)
      rfl hused
  absent u hnone := h.absent u (hotp ▸ hnone)
  pending user secret codes hmem := by
    obtain ⟨hproved, hsecret⟩ := h.pending user secret codes hmem
    exact ⟨hproved, fun row hrow => hsecret row (hotp ▸ hrow)⟩

variable [StdText] {p : AuthParams}

theorem Sound.auth_step (h : s.Sound) {a : AuthAction} {auth : AuthSys}
    (hwrite : AuthSys.WritesOnto s.auth a) (hstep : AuthSys.step p s.auth a = some auth) :
    ({ s with auth := auth } : OtpSys).Sound := by
  have hrange := AuthSys.inRange_step h.range hstep
  rcases AuthSys.step_cases p hstep with ⟨st, -, -, rfl⟩ |
    ⟨i, now, ok, st, st', rfl, hst, -, rfl⟩ | ⟨user, -, rfl⟩
  · exact h.auth_congr hrange rfl rfl
  · cases st with
    | verifyUpdate user codes index =>
      cases ok with
      | false => exact h.auth_congr hrange rfl rfl
      | true =>
        have hback := h.writeBack (h.range i user codes index hst) (hwrite _ hst)
        exact hback.auth_congr hrange rfl rfl
    | _ => exact h.auth_congr hrange rfl rfl
  · exact h.auth_congr hrange rfl rfl

omit [StdText] in
theorem Sound.write (h : s.Sound) {i now : ℕ} {draw : ℕ → UInt8} {st : EnrolStage}
    (hst : s.enrolments[i]? = some st) (hcalm : s.Calm (.next i now true draw)) :
    (s.write st).Sound := by
  cases st with
  | setupWrite user secret =>
    rw [Calm, hst, Option.all_some] at hcalm
    exact h.setupWrite hcalm
  | verifyWrite user secret codes => exact h.verifyWrite (List.mem_of_getElem? hst)
  | disableWrite user => exact h.disableWrite user
  | _ => exact h

theorem sound_step {a : OtpAction} (h : s.Sound) (hcalm : s.Calm a)
    (hstep : s.step p a = some s') : s'.Sound := by
  -- a step of the login, a new request, or a request that goes on
  rcases step_cases hstep with ⟨b, auth, rfl, hauth, rfl⟩ | ⟨st, hst, rfl⟩ |
    ⟨i, now, ok, draw, st, st', rfl, hst, hadv, rfl⟩
  · exact h.auth_step hcalm hauth
  · refine h.advance (List.Subset.refl _) fun user secret codes hmem => ?_
    rcases List.mem_append.mp hmem with hmem | hmem
    · exact Or.inl hmem
    · exact absurd (List.mem_singleton.mp hmem).symm (hst user secret codes)
  · cases ok with
    | false =>
      -- a statement that fails writes nothing, and no verification passes it
      refine h.advance (List.Subset.refl _) fun user secret codes hmem => ?_
      rcases List.mem_or_eq_of_mem_set hmem with hmem | rfl
      · exact Or.inl hmem
      · cases (advance_verifyWrite hadv).1
    | true =>
      have hwritten := h.write hst hcalm
      have henrolments : (s.write st).enrolments = s.enrolments := by
        cases st <;> rfl
      have hproved : (s.write st).proved = s.proved := by
        cases st <;> rfl
      refine hwritten.advance ?_ fun user secret codes hmem => ?_
      · rw [hproved]
        exact List.subset_append_right _ _
      · -- a verification that waits now has just checked its code
        rw [henrolments]
        rcases List.mem_or_eq_of_mem_set hmem with hmem | rfl
        · exact Or.inl hmem
        · obtain ⟨-, hsame, hproves, hsecret⟩ := advance_verifyWrite hadv
          rw [hsame]
          exact Or.inr ⟨List.mem_append_left _ hproves, hsecret⟩

/-- In a run in which no setup writes while a verification of the same user is between its
statements, and logins write the codes back onto the list that they have read: where OTP is
enabled, a valid code was given for the secret that is stored, and the codes that were shown last
are those that were used since and those that are stored. -/
theorem enabled_sound {s₀ : OtpSys} {acts : List OtpAction} (hthreads : s₀.auth.threads = [])
    (henrolments : s₀.enrolments = []) (hdisabled : ∀ u, s₀.auth.otpEnabled u = false)
    (hissued : ∀ u, s₀.issued u = none) (hcalm : Transition.Along (step p) Calm s₀ acts)
    (hrun : Transition.run (step p) s₀ acts = some s) (hrow : s.auth.otp.find u = some row)
    (henabled : row.enabled = true) :
    (u, row.secret) ∈ s.proved ∧ ∃ codes n, s.issued u = some (codes, n) ∧
      (s.usedSince u n ++ row.backupCodes.getD []).Perm codes := by
  -- at the start there is no enabled row, nothing given out and nothing waiting
  have hstart : s₀.Sound := by
    refine ⟨fun i user codes index hi => ?_, fun u row hrow => ?_, fun u _ => hissued u, ?_⟩
    · rw [hthreads, List.getElem?_nil] at hi
      cases hi
    · have hoff : row.enabled = false := by
        have hnone := hdisabled u
        rwa [AuthSys.otpEnabled, hrow] at hnone
      refine ⟨fun h => ?_, fun h => ?_, fun codes n h => ?_⟩
      · rw [hoff] at h
        cases h
      · rw [hoff] at h
        cases h
      · rw [hissued] at h
        cases h
    · intro user secret codes hmem
      rw [henrolments] at hmem
      cases hmem
  have hsound : s.Sound := Transition.inv_of_run
    (fun h hp hstep => sound_step h hp hstep) hstart hcalm hrun
  -- the invariant at the row in question
  have hrowSound := hsound.rows u row hrow
  have hkey := Table.find_key hrow
  have hproved := hrowSound.proved henabled
  obtain ⟨⟨codes, n⟩, hcodes⟩ := Option.isSome_iff_exists.mp (hrowSound.issued henabled)
  have hperm := (hrowSound.codes codes n hcodes).2
  rw [hkey] at hproved hcodes hperm
  exact ⟨hproved, codes, n, hcodes, hperm⟩

end

end OtpSys

namespace Sample

open OtpSys

/-- A user who has no OTP. -/
def newAccount : OtpSys :=
  ⟨{ users := ⟨[user], List.nodup_singleton _⟩, otp := .empty, threads := [], used := [] }, [], [],
    fun _ => none⟩

def session : Option Token := some (sessionToken 1000 user)

def countUp (n : ℕ) : UInt8 := UInt8.ofNat n

def countDown (n : ℕ) : UInt8 := UInt8.ofNat (255 - n)

/-- Request `i` makes its three steps. -/
def allSteps (i : ℕ) (draw : ℕ → UInt8) : List OtpAction :=
  List.replicate 3 (.next i 1001 true draw)

/-- A secret is set up and verified. -/
def enrolActs : List OtpAction :=
  .setup session :: allSteps 0 countUp ++ .verify session ⟨"123456", none⟩ :: allSteps 1 countUp

/-- The first of the codes is used for a login. -/
def backupLogin : List OtpAction :=
  .auth (.verify ⟨loginToken 1000 user, none, some "ABCDEFGH"⟩) ::
    List.replicate 4 (.auth (.next 0 1001 true))

theorem enrolled_run : ∃ s, Transition.run (OtpSys.step authParams) newAccount
    (enrolActs ++ backupLogin) = some s ∧ s.auth.otp.find 7 = some ⟨7, true, drawSecret countUp,
      some ((drawBackupCodes countUp).eraseIdx 0)⟩ ∧ s.auth.usedBy 7 = ["ABCDEFGH"] := by
  refine ⟨_, rfl, rfl, rfl⟩

theorem enrolled_calm :
    Transition.Along (OtpSys.step authParams) Calm newAccount (enrolActs ++ backupLogin) := by
  refine ⟨trivial, rfl, rfl, rfl, trivial, rfl, rfl, rfl, trivial, ?_, ?_, ?_, ?_, trivial⟩
  all_goals
    intro st hst
    cases hst
    trivial

/-- After a login with a backup code, seven of the eight codes are left. -/
theorem enrolled_sound : ∃ s : OtpSys, s.auth.usedBy 7 = ["ABCDEFGH"] ∧
    (7, drawSecret countUp) ∈ s.proved ∧ ∃ codes n, s.issued 7 = some (codes, n) ∧
      (s.usedSince 7 n ++ (drawBackupCodes countUp).eraseIdx 0).Perm codes := by
  obtain ⟨s, hrun, hrow, hused⟩ := enrolled_run
  exact ⟨s, hused, enabled_sound rfl rfl (fun _ => rfl) (fun _ => rfl) enrolled_calm hrun hrow rfl⟩

/-- A second setup has checked that OTP is not enabled, and stores its secret after the
verification has read the first one. -/
def disturbedActs : List OtpAction :=
  .setup session :: allSteps 0 countUp ++
    [.setup session, .next 1 1001 true countDown, .next 1 1001 true countDown,
      .verify session ⟨"123456", none⟩, .next 2 1001 true countUp, .next 2 1001 true countUp,
      .next 1 1001 true countDown, .next 2 1001 true countUp]

theorem unproved_secret_enabled : ∃ s, Transition.run (OtpSys.step authParams) newAccount
    disturbedActs = some s ∧ (s.auth.otp.find 7).map (fun r => (r.enabled, r.secret)) =
      some (true, drawSecret countDown) ∧ (7, drawSecret countDown) ∉ s.proved := by
  refine ⟨_, rfl, rfl, ?_⟩
  decide

end Sample

end LeadsNebula
