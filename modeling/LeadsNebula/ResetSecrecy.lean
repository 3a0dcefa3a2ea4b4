/-
What `forgot_password` tells about accounts.

Two databases that differ only in the active account with an email are asked for a
reset of that email, and the statements and the email service behave alike in both.

* `replies_iff` — the reply, as a function of the account and of what the statements
  meet;
* `hides_iff` — the replies are the same exactly when the request ends before the
  account matters, or the account that is in one of the databases is sent a link, or
  the accounts in both are under the limit or over it alike.
-/
import LeadsNebula.ResetFailures

namespace LeadsNebula

/-- `WHERE email = $1 AND status = 'active'`. -/
def InstanceUser.hasAccount (email : String) (r : InstanceUser) : Bool :=
  r.email = email ∧ r.status = .active

/-- The token of the user was sent less than five minutes ago. -/
def InstanceUser.recentlySent (r : InstanceUser) (now : ℕ) : Bool :=
  r.resetPasswordSentAt.any fun ts => decide (now < ts + 300)

namespace ResetSys

variable [StdText] {p : ResetParams} {s s' : ResetSys} {st : ResetStage} {reply : ResetReply}
  {turns : List Turn}

/-! ### Replies -/

/-- The reply to a request that runs alone; turns that are left over are not looked at. -/
def answer (p : ResetParams) : ResetSys → ResetStage → List Turn → Option ResetReply
  | _, .done reply, _ => some reply
  | _, _, [] => none
  | s, st, turn :: turns =>
    (s.advance p turn st).bind fun st' => answer p (s.write p turn st) st' turns

theorem answer_done (turns : List Turn) : answer p s (.done reply) turns = some reply := by
  cases turns <;> rfl

theorem answer_cons (hst : ∀ reply, st ≠ .done reply) (turn : Turn) :
    answer p s st (turn :: turns) =
      (s.advance p turn st).bind fun st' => answer p (s.write p turn st) st' turns := by
  cases st with
  | done reply => exact absurd rfl (hst reply)
  | _ => rfl

/-- A request that ends after some of the turns has this answer. -/
theorem answer_of_finish {k : ℕ} (h : finish p s st (turns.take k) = some (s', reply)) :
    answer p s st turns = some reply := by
  induction turns generalizing s st k with
  | nil =>
    rw [List.take_nil] at h
    obtain ⟨rfl, -⟩ := finish_nil_iff.mp h
    rfl
  | cons turn turns ih =>
    by_cases hst : ∃ reply', st = .done reply'
    · obtain ⟨reply', rfl⟩ := hst
      obtain ⟨-, -, rfl⟩ := finish_done h
      rfl
    · cases k with
      | zero => exact absurd ⟨reply, (finish_nil_iff.mp h).1⟩ hst
      | succ k =>
        rw [List.take_succ_cons, finish_cons, Option.bind_eq_some_iff] at h
        obtain ⟨st', hst', h⟩ := h
        rw [answer_cons (fun reply' h => hst ⟨reply', h⟩), hst', Option.bind_some]
        exact ih h

theorem finish_of_answer (h : answer p s st turns = some reply) :
    ∃ k s', finish p s st (turns.take k) = some (s', reply) := by
  induction turns generalizing s st with
  | nil =>
    cases st with
    | done reply' =>
      obtain rfl := Option.some.inj h
      exact ⟨0, s, rfl⟩
    | _ => cases h
  | cons turn turns ih =>
    by_cases hst : ∃ reply', st = .done reply'
    · obtain ⟨reply', rfl⟩ := hst
      rw [answer_done, Option.some_inj] at h
      exact ⟨0, s, finish_nil_iff.mpr ⟨congrArg _ h, rfl⟩⟩
    · rw [answer_cons (fun reply' h => hst ⟨reply', h⟩), Option.bind_eq_some_iff] at h
      obtain ⟨st', hst', h⟩ := h
      obtain ⟨k, s', h⟩ := ih h
      refine ⟨k + 1, s', ?_⟩
      rw [List.take_succ_cons, finish_cons, hst', Option.bind_some, h]

/-- The run of a request that ends. -/
theorem run_of_finish {i : ℕ} (hi : s.threads[i]? = some st)
    (h : finish p s st turns = some (s', reply)) :
    ∃ s₁, Transition.run (step p) s (turns.map (.next i)) = some s₁ ∧
      s₁.threads[i]? = some (.done reply) := by
  induction turns generalizing s st s' with
  | nil =>
    obtain ⟨rfl, -⟩ := finish_nil_iff.mp h
    exact ⟨s, rfl, hi⟩
  | cons turn turns ih =>
    rw [finish_cons, Option.bind_eq_some_iff] at h
    obtain ⟨st', hst', h⟩ := h
    have hlt : i < s.threads.length := (List.getElem?_eq_some_iff.mp hi).1
    have hset : ({ s.write p turn st with threads := s.threads.set i st' } : ResetSys).threads[i]? =
        some st' := List.getElem?_set_self hlt
    obtain ⟨s₁, hrun, hdone⟩ := ih hset (by rw [finish_threads, h]; rfl)
    refine ⟨s₁, ?_, hdone⟩
    rw [List.map_cons, Transition.run_cons_eq_some]
    refine ⟨_, ?_, hrun⟩
    rw [step, hi, Option.bind_some, hst', Option.map_some]

/-- A `forgot_password` for an email gets this reply when its statements take these turns, of which
it may not need all, and no other request runs. -/
def Replies (p : ResetParams) (s : ResetSys) (email : String) (turns : List Turn)
    (reply : ResetReply) : Prop :=
  ∃ k s', Transition.run (step p) s (.forgotPassword (some ⟨email⟩) ::
      (turns.take k).map (.next s.threads.length)) = some s' ∧
    s'.threads[s.threads.length]? = some (.done reply)

theorem replies_iff_answer {email : String} :
    Replies p s email turns reply ↔ answer p s (.forgot (some ⟨email⟩)) turns = some reply := by
  have hstart : (s.arrive (.forgot (some ⟨email⟩))).threads[s.threads.length]? =
      some (.forgot (some ⟨email⟩)) := by
    simp [arrive]
  constructor
  · rintro ⟨k, s', hrun, hdone⟩
    obtain ⟨t, ht, hrun⟩ := Transition.run_cons_eq_some.mp hrun
    obtain rfl := Option.some.inj ht
    obtain ⟨s₁, hfinish, -⟩ := run_eq_finish hstart hrun hdone
    rw [arrive, finish_threads, Option.map_eq_some_iff] at hfinish
    obtain ⟨⟨s₂, reply₂⟩, hfinish, heq⟩ := hfinish
    cases heq
    exact answer_of_finish hfinish
  · intro h
    obtain ⟨k, s', hfinish⟩ := finish_of_answer h
    have hfinish : finish p (s.arrive (.forgot (some ⟨email⟩))) (.forgot (some ⟨email⟩))
        (turns.take k) = some
          ({ s' with threads := s.threads ++ [.forgot (some ⟨email⟩)] }, reply) := by
      rw [arrive, finish_threads, hfinish]
      rfl
    obtain ⟨s₁, hrun, hdone⟩ := run_of_finish hstart hfinish
    exact ⟨k, s₁, Transition.run_cons_eq_some.mpr ⟨_, rfl, hrun⟩, hdone⟩

/-! ### The reply, by the account -/

/-- The reply once the account has been found: `t₂`, `t₃` and `t₄` are what the limit, the token and
the email meet. -/
def accountReply (s : ResetSys) (user : InstanceUser) (t₂ t₃ t₄ : Turn) : ResetReply :=
  if !t₂.ok then .serverError
  else if user.recentlySent t₂.now then ResetEndpoint.forgotPassword.alreadySent
  else if t₃.ok && !s.tokenTaken user.id t₃.rand && t₄.ok then ResetEndpoint.forgotPassword.sent
  else .serverError

omit [StdText] in
theorem checkLimit_eq {user : InstanceUser} (huser : s.users.find user.id = some user)
    (e : ResetEndpoint) (t : Turn) :
    s.checkLimit e user.id t =
      if !t.ok then .done e.serverError
      else if user.recentlySent t.now then .done e.alreadySent
      else .store e user.id := by
  unfold checkLimit InstanceUser.recentlySent
  rw [huser, Option.bind_some]
  cases user.resetPasswordSentAt with
  | none => rfl
  | some ts => simp only [Option.any_some, decide_eq_true_eq]

theorem answer_mail (e : ResetEndpoint) (t : Turn) :
    answer p s (.mail e) [t] = some (if t.ok then e.sent else e.serverError) := rfl

theorem answer_limit {user : InstanceUser} (huser : s.users.find user.id = some user)
    (t₂ t₃ t₄ : Turn) :
    answer p s (.limit .forgotPassword user.id) [t₂, t₃, t₄] =
      some (accountReply s user t₂ t₃ t₄) := by
  show answer p s (s.checkLimit .forgotPassword user.id t₂) [t₃, t₄] = _
  rw [checkLimit_eq huser, accountReply]
  cases t₂.ok with
  | false => rfl
  | true =>
    cases user.recentlySent t₂.now with
    | true => rfl
    | false =>
      show (advance p s t₃ (.store .forgotPassword user.id)).bind (fun st' =>
        answer p (s.write p t₃ (.store .forgotPassword user.id)) st' [t₄]) = _
      rw [advance, Option.bind_some]
      cases t₃.ok && !s.tokenTaken user.id t₃.rand with
      | false => rfl
      | true =>
        rw [if_pos rfl, answer_mail]
        cases t₄.ok <;> rfl

/-- The account with an email. -/
def account (s : ResetSys) (email : String) : Option InstanceUser :=
  s.users.select (InstanceUser.hasAccount email)

/-- The reply to a `forgot_password` for an email that is trimmed and in lower case. -/
def forgotReply (s : ResetSys) (email : String) (t₁ t₂ t₃ t₄ : Turn) : ResetReply :=
  if email = "" then .failed 400 "Email is required."
  else if !t₁.ok then .serverError
  else match s.account email with
    | none => ResetEndpoint.forgotPassword.sent
    | some user => accountReply s user t₂ t₃ t₄

/-- The one reply that a request gets. -/
theorem replies_iff {email : String} {t₁ t₂ t₃ t₄ : Turn} :
    Replies p s email [t₁, t₂, t₃, t₄] reply ↔
      reply = forgotReply s (toLowercase (trim email)) t₁ t₂ t₃ t₄ := by
  rw [replies_iff_answer]
  suffices h : answer p s (.forgot (some ⟨email⟩)) [t₁, t₂, t₃, t₄] =
      some (forgotReply s (toLowercase (trim email)) t₁ t₂ t₃ t₄) by
    rw [h, Option.some_inj, eq_comm]
  show answer p s (s.forgotStart (some ⟨email⟩) t₁.ok) [t₂, t₃, t₄] = _
  have haccount : (s.users.select fun r => r.email = toLowercase (trim email) ∧
    r.status = .active) =
      s.account (toLowercase (trim email)) := rfl
  unfold forgotStart forgotReply
  dsimp only
  rw [haccount]
  split
  · rfl
  · cases t₁.ok with
    | false => rfl
    | true =>
      cases hfound : s.account (toLowercase (trim email)) with
      | none => rfl
      | some user => exact answer_limit (Table.find_of_select hfound) t₂ t₃ t₄

/-! ### Two databases -/

/-- The databases differ only in the active account with an email: whether there is one, and its
reset columns. -/
structure SameButFor (email : String) (s s' : ResetSys) : Prop where
  others : (s.users.rows.filter fun r => !r.hasAccount email) =
    s'.users.rows.filter fun r => !r.hasAccount email
  unique : ∀ r ∈ s.users.rows, r.hasAccount email = true → s.account email = some r
  unique' : ∀ r ∈ s'.users.rows, r.hasAccount email = true → s'.account email = some r
  same : ∀ r ∈ s.account email, ∀ r' ∈ s'.account email,
    r' = { r with
      resetPasswordToken := r'.resetPasswordToken
      resetPasswordSentAt := r'.resetPasswordSentAt }

omit [StdText] in
/-- A token is taken when another row has it. -/
theorem tokenTaken_eq {email token : String} {user : InstanceUser}
    (hunique : ∀ r ∈ s.users.rows, r.hasAccount email = true → s.account email = some r)
    (huser : s.account email = some user) :
    s.tokenTaken user.id token = (s.users.rows.filter fun r => !r.hasAccount email).any fun r =>
      decide (r.resetPasswordToken = some token) := by
  -- the other rows are those without this account
  have hother : ∀ r ∈ s.users.rows, r.id ≠ user.id ↔ r.hasAccount email = false := by
    intro r hr
    constructor
    · intro hne
      by_contra hacc
      obtain rfl := Option.some.inj ((hunique r hr (by simpa using hacc)).symm.trans huser)
      exact hne rfl
    · intro hacc hid
      have hfind : s.users.find user.id = some r := Table.find_eq_some_iff.mpr ⟨hr, hid⟩
      rw [Table.find_of_select huser, Option.some_inj] at hfind
      have huacc : user.hasAccount email = true := (Table.select_mem huser).2
      rw [hfind, hacc] at huacc
      cases huacc
  rw [Bool.eq_iff_iff, tokenTaken, List.any_eq_true, List.any_eq_true]
  constructor
  · rintro ⟨r, hr, htoken⟩
    obtain ⟨hid, htoken⟩ := of_decide_eq_true htoken
    exact ⟨r, List.mem_filter.mpr ⟨hr, by simp [(hother r hr).mp hid]⟩, decide_eq_true htoken⟩
  · rintro ⟨r, hr, htoken⟩
    obtain ⟨hr, hacc⟩ := List.mem_filter.mp hr
    exact ⟨r, hr, decide_eq_true
      ⟨(hother r hr).mpr (by simpa using hacc), of_decide_eq_true htoken⟩⟩

/-- The account is sent a link, and every statement goes through. -/
def Delivered (s : ResetSys) (user : InstanceUser) (t₂ t₃ t₄ : Turn) : Prop :=
  t₂.ok = true ∧ user.recentlySent t₂.now = false ∧ t₃.ok = true ∧
    s.tokenTaken user.id t₃.rand = false ∧ t₄.ok = true

/-- The request ends before the account matters; or the account that only one database has is sent
a link; or the limit does not tell the accounts of the two apart. -/
def Hidden (s s' : ResetSys) (email : String) (t₁ t₂ t₃ t₄ : Turn) : Prop :=
  email = "" ∨ t₁.ok = false ∨
    match s.account email, s'.account email with
    | none, none => True
    | some user, none => Delivered s user t₂ t₃ t₄
    | none, some user => Delivered s' user t₂ t₃ t₄
    | some user, some user' =>
      t₂.ok = false ∨ user.recentlySent t₂.now = user'.recentlySent t₂.now

omit [StdText] in
theorem sent_ne : ResetEndpoint.forgotPassword.sent ≠ ResetEndpoint.forgotPassword.alreadySent ∧
    ResetEndpoint.forgotPassword.sent ≠ ResetReply.serverError ∧
    ResetEndpoint.forgotPassword.alreadySent ≠ ResetReply.serverError := by
  refine ⟨fun h => ?_, fun h => ?_, fun h => ?_⟩
  · have hmessage := congrArg (fun r => r.body.bind ResetBody.message) h
    revert hmessage
    decide
  · exact absurd (congrArg ResetReply.status h) (by decide)
  · exact absurd (congrArg ResetReply.status h) (by decide)

omit [StdText] in
theorem sent_eq_accountReply_iff {user : InstanceUser} {t₂ t₃ t₄ : Turn} :
    ResetEndpoint.forgotPassword.sent = accountReply s user t₂ t₃ t₄ ↔
      Delivered s user t₂ t₃ t₄ := by
  unfold accountReply Delivered
  cases t₂.ok with
  | false => simp [sent_ne.2.1]
  | true =>
    cases user.recentlySent t₂.now with
    | true => simp [sent_ne.1]
    | false =>
      cases t₃.ok <;> cases s.tokenTaken user.id t₃.rand <;> cases t₄.ok <;> simp [sent_ne.2.1]

omit [StdText] in
/-- Two accounts are told apart by the limit alone. -/
theorem accountReply_eq_iff {user user' : InstanceUser} {t₂ t₃ t₄ : Turn}
    (htaken : s.tokenTaken user.id t₃.rand = s'.tokenTaken user'.id t₃.rand) :
    accountReply s user t₂ t₃ t₄ = accountReply s' user' t₂ t₃ t₄ ↔
      t₂.ok = false ∨ user.recentlySent t₂.now = user'.recentlySent t₂.now := by
  unfold accountReply
  rw [htaken]
  generalize (t₃.ok && !s'.tokenTaken user'.id t₃.rand && t₄.ok) = linked
  have hrefused : ResetEndpoint.forgotPassword.alreadySent ≠
      if linked then ResetEndpoint.forgotPassword.sent else ResetReply.serverError := by
    cases linked with
    | true => exact sent_ne.1.symm
    | false => exact sent_ne.2.2
  cases t₂.ok with
  | false => simp
  | true =>
    cases user.recentlySent t₂.now <;> cases user'.recentlySent t₂.now
    · simp
    · simp [hrefused.symm]
    · simp [hrefused]
    · simp

/-- A `forgot_password` for an email gets one reply in each of two databases that differ only in the
account with that email, and it is the same reply exactly when the request does not depend on the
account. -/
theorem hides_iff (p : ResetParams) (s s' : ResetSys) (email : String) (t₁ t₂ t₃ t₄ : Turn)
    (hsame : SameButFor (toLowercase (trim email)) s s') :
    ∃ reply reply', (∀ r, Replies p s email [t₁, t₂, t₃, t₄] r ↔ r = reply) ∧
      (∀ r, Replies p s' email [t₁, t₂, t₃, t₄] r ↔ r = reply') ∧
      (reply = reply' ↔ Hidden s s' (toLowercase (trim email)) t₁ t₂ t₃ t₄) := by
  refine ⟨_, _, fun r => replies_iff, fun r => replies_iff, ?_⟩
  generalize toLowercase (trim email) = e at hsame ⊢
  unfold forgotReply Hidden
  -- an empty text and a failing lookup answer alike in both
  by_cases he : e = ""
  · rw [if_pos he, if_pos he]
    exact iff_of_true rfl (Or.inl he)
  · rw [if_neg he, if_neg he]
    cases hok : t₁.ok with
    | false => exact iff_of_true rfl (Or.inr (Or.inl rfl))
    | true =>
      have hfirst : ∀ q : Prop, (e = "" ∨ true = false ∨ q) ↔ q := by simp [he]
      rw [hfirst, if_neg (by decide), if_neg (by decide)]
      -- what is left are the account and its absence
      cases huser : s.account e with
      | none =>
        cases huser' : s'.account e with
        | none => simp
        | some user' => exact sent_eq_accountReply_iff
      | some user =>
        cases huser' : s'.account e with
        | none => exact eq_comm.trans sent_eq_accountReply_iff
        | some user' =>
          -- both are accounts: they differ in what their rows say
          refine accountReply_eq_iff ?_
          rw [tokenTaken_eq hsame.unique huser, tokenTaken_eq hsame.unique' huser', hsame.others]

end ResetSys

/-! ### An account that was sent a link -/

namespace Sample

open ResetSys

/-- The other user of `resetAccount`, without the account. -/
def withoutAccount : ResetSys where
  users := ⟨[⟨8, "bob@example.com", "other", .active, none, none⟩], by decide⟩
  threads := []
  issued := []
  used := []

/-- The account, with a link that was sent at 4000 or never. -/
def withAccount (sentAt : Option ℕ) : ResetSys where
  users := ⟨[⟨7, "ada@example.com", "old", .active, none, sentAt⟩,
    ⟨8, "bob@example.com", "other", .active, none, none⟩],
    (by decide : ([7, 8] : List Uuid).Nodup)⟩
  threads := []
  issued := []
  used := []

theorem sameButFor_account (sentAt : Option ℕ) :
    SameButFor "ada@example.com" withoutAccount (withAccount sentAt) where
  others := rfl
  unique := by decide
  unique' := by
    intro r hr hacc
    obtain rfl | rfl : r = ⟨7, "ada@example.com", "old", .active, none, sentAt⟩ ∨
        r = ⟨8, "bob@example.com", "other", .active, none, none⟩ := by
      simpa [withAccount] using hr
    · rfl
    · cases hacc
  same := by
    intro r hr
    cases hr

/-- A first request is not told apart. -/
theorem hides_first_request :
    ∃ reply, Replies resetParams withoutAccount " Ada@example.com"
        [⟨4100, true, ""⟩, ⟨4100, true, ""⟩, ⟨4100, true, "later"⟩, ⟨4101, true, ""⟩] reply ∧
      Replies resetParams (withAccount none) " Ada@example.com"
        [⟨4100, true, ""⟩, ⟨4100, true, ""⟩, ⟨4100, true, "later"⟩, ⟨4101, true, ""⟩] reply := by
  obtain ⟨reply, reply', hreply, hreply', hiff⟩ := hides_iff resetParams withoutAccount
    (withAccount none) " Ada@example.com" ⟨4100, true, ""⟩ ⟨4100, true, ""⟩ ⟨4100, true, "later"⟩
    ⟨4101, true, ""⟩ (by
      have he : toLowercase (trim " Ada@example.com") = "ada@example.com" := by decide
      rw [he]
      exact sameButFor_account none)
  refine ⟨reply, (hreply reply).mpr rfl, (hreply' reply).mpr (hiff.mpr ?_)⟩
  exact Or.inr (Or.inr ⟨rfl, rfl, rfl, by decide, rfl⟩)

/-- The second request within five minutes tells that there is an account, and so does an email
that cannot be sent. -/
theorem account_revealed :
    SameButFor "ada@example.com" withoutAccount (withAccount (some 4000)) ∧
      ¬(∃ reply, Replies resetParams withoutAccount "ada@example.com"
          [⟨4100, true, ""⟩, ⟨4100, true, ""⟩, ⟨4100, true, "later"⟩, ⟨4101, true, ""⟩] reply ∧
        Replies resetParams (withAccount (some 4000)) "ada@example.com"
          [⟨4100, true, ""⟩, ⟨4100, true, ""⟩, ⟨4100, true, "later"⟩, ⟨4101, true, ""⟩] reply) ∧
      ¬(∃ reply, Replies resetParams withoutAccount "ada@example.com"
          [⟨4400, true, ""⟩, ⟨4400, true, ""⟩, ⟨4400, true, "later"⟩, ⟨4401, false, ""⟩] reply ∧
        Replies resetParams (withAccount (some 4000)) "ada@example.com"
          [⟨4400, true, ""⟩, ⟨4400, true, ""⟩, ⟨4400, true, "later"⟩, ⟨4401, false, ""⟩]
            reply) := by
  refine ⟨sameButFor_account _, ?_, ?_⟩
  · rintro ⟨reply, h, h'⟩
    have heq := (replies_iff.mp h).symm.trans (replies_iff.mp h')
    have hmessage := congrArg (fun r => r.body.bind ResetBody.message) heq
    revert hmessage
    decide
  · rintro ⟨reply, h, h'⟩
    have heq := (replies_iff.mp h).symm.trans (replies_iff.mp h')
    exact absurd (congrArg ResetReply.status heq) (by decide)

end Sample

end LeadsNebula
