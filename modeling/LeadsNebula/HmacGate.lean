/-
The two middlewares of the leads endpoints on the request as it comes in, with its
headers and its bytes (`middleware/api_auth.rs`, `middleware/hmac.rs`, `main.rs`).

* `constantTimeEq_iff` — the comparison of the signatures;
* `leadsEndpoint_ok` — what a request that reaches a handler carries: the signature of
  its body where the publisher requires one, or the header of an internal request
  (`internal_header_opens`);
* `hmacVerification_passed_iff` — the middleware of `ApiAuth` is this one.
-/
import LeadsNebula.Revocation
import LeadsNebula.Glob

namespace LeadsNebula

/-- A request; the names of the headers are in lower case, as a `HeaderMap` has them.  The
publisher is the extension that the first middleware sets. -/
structure HttpRequest where
  headers : List (String × List UInt8)
  body : List UInt8
  publisher : Option Publisher

/-- The secret of the environment, and HMAC-SHA256 of a message under a key. -/
structure HmacEnv where
  secret : Option String
  digest : List UInt8 → List UInt8 → List UInt8

/-- `HeaderValue::to_str`: the value, if its bytes are visible. -/
def toStr (value : List UInt8) : Option String :=
  if value.all fun b => (32 ≤ b ∧ b < 127) ∨ b = 9 then
    some (String.ofList (value.map fun b => Char.ofNat b.toNat))
  else none

namespace HttpRequest

variable (req : HttpRequest)

def header (name : String) : Option (List UInt8) := req.headers.lookup name

def headerText (name : String) : Option String := (req.header name).bind toStr

end HttpRequest

/-- `hex::encode`. -/
def hexEncode (bytes : List UInt8) : String :=
  String.ofList (bytes.flatMap fun b =>
    [Nat.digitChar (b.toNat / 16), Nat.digitChar (b.toNat % 16)])

/-- The comparison of two signatures: no byte differs, of texts of one length. -/
def constantTimeEq (a b : List UInt8) : Bool :=
  a.length = b.length && (a.zip b).foldl (fun equal ab => equal ||| (ab.1 ^^^ ab.2)) 0 = 0

/-- A layer gives a status, or hands a request on. -/
abbrev Layer := HttpRequest → Except ℕ HttpRequest

/-- `api_key_auth_middleware`; `lookup` is the lookup of a key, through the cache. -/
def apiKeyAuthMiddleware (lookup : String → Except Unit (Option Publisher)) : Layer := fun req =>
  match req.headerText "x-api-key" with
  | none => .error 401
  | some key =>
    match lookup key with
    | .error _ => .error 500
    | .ok none => .error 401
    | .ok (some p) => if p.active then .ok { req with publisher := some p } else .error 401

/-- The verification of a signature; `bodyOk` is whether the body can be read to its end. -/
def verifySignature (env : HmacEnv) (bodyOk : Bool) (p : Publisher) (header : String) : Layer :=
  fun req =>
    match env.secret with
    | none => if p.requireHmac then .error 500 else .ok req
    | some secret =>
      if !bodyOk then .error 400
      else
        let expected := hexEncode (env.digest (utf8Bytes secret) req.body)
        if constantTimeEq (utf8Bytes expected) (utf8Bytes (providedSignature header)) then
          .ok { req with body := req.body }
        else .error 401

/-- `hmac_verification_middleware`. -/
def hmacVerificationMiddleware (env : HmacEnv) (bodyOk : Bool) : Layer := fun req =>
  if (req.header "x-internal-buyer-id").isSome then .ok req
  else match req.publisher with
    | none => .error 500
    | some p =>
      if p.requireHmac && (req.headerText "x-hmac-signature").isNone then .error 401
      else match req.headerText "x-hmac-signature" with
        | some header => verifySignature env bodyOk p header req
        | none => .ok req

/-- The layers of the leads endpoints: the one that is added last runs first. -/
def leadsEndpoint (env : HmacEnv)
    (lookup : String → Except Unit (Option Publisher)) (bodyOk : Bool) :
    Layer := fun req => do
  let req ← apiKeyAuthMiddleware lookup req
  hmacVerificationMiddleware env bodyOk req

/-! ### The comparison -/

theorem foldl_or_eq_zero {l : List (UInt8 × UInt8)} {equal : UInt8} :
    l.foldl (fun equal ab => equal ||| (ab.1 ^^^ ab.2)) equal = 0 ↔
      equal = 0 ∧ ∀ ab ∈ l, ab.1 = ab.2 := by
  induction l generalizing equal with
  | nil => simp
  | cons ab l ih =>
    rw [List.foldl_cons, ih, UInt8.or_eq_zero_iff, UInt8.xor_eq_zero_iff, List.forall_mem_cons,
      and_assoc]

theorem zip_eq_iff {a b : List UInt8} (h : a.length = b.length) :
    (∀ ab ∈ a.zip b, ab.1 = ab.2) ↔ a = b := by
  induction a generalizing b with
  | nil =>
    cases b with
    | nil => simp
    | cons y b => cases h
  | cons x a ih =>
    cases b with
    | nil => cases h
    | cons y b =>
      rw [List.zip_cons_cons, List.forall_mem_cons, ih (Nat.succ.inj h), List.cons.injEq]

theorem constantTimeEq_iff {a b : List UInt8} : constantTimeEq a b = true ↔ a = b := by
  rw [constantTimeEq, Bool.and_eq_true, decide_eq_true_eq, decide_eq_true_eq]
  constructor
  · rintro ⟨hlength, hfold⟩
    exact (zip_eq_iff hlength).mp (foldl_or_eq_zero.mp hfold).2
  · rintro rfl
    exact ⟨rfl, foldl_or_eq_zero.mpr ⟨rfl, (zip_eq_iff rfl).mpr rfl⟩⟩

theorem utf8Bytes_inj {s t : String} : utf8Bytes s = utf8Bytes t ↔ s = t := by
  constructor
  · intro h
    exact String.toByteArray_inj.mp (ByteArray.ext (Array.toList_inj.mp h))
  · rintro rfl
    rfl

/-! ### What reaches a handler -/

/-- The request carries the signature of its body under the secret: the text of the header, less
`sha256=` and white space around it. -/
def Signed (env : HmacEnv) (req : HttpRequest) : Prop :=
  ∃ header secret, req.headerText "x-hmac-signature" = some header ∧ env.secret = some secret ∧
    providedSignature header = hexEncode (env.digest (utf8Bytes secret) req.body)

section

variable {env : HmacEnv} {bodyOk : Bool} {req req' : HttpRequest}

theorem verifySignature_ok {p : Publisher} {header : String}
    (h : verifySignature env bodyOk p header req = .ok req') :
    req' = req ∧ (p.requireHmac = true → ∃ secret, env.secret = some secret ∧
      providedSignature header = hexEncode (env.digest (utf8Bytes secret) req.body)) := by
  unfold verifySignature at h
  cases hsecret : env.secret with
  | none =>
    rw [hsecret] at h
    -- without a secret only those pass who need not sign
    cases hreq : p.requireHmac with
    | true =>
      simp only [hreq, if_true] at h
      cases h
    | false =>
      simp only [hreq] at h
      exact ⟨(Except.ok.inj h).symm, fun h => (by cases h)⟩
  | some secret =>
    simp only [hsecret] at h
    split at h
    · cases h
    · split at h
      · next heq =>
        refine ⟨(Except.ok.inj h).symm, fun _ => ⟨secret, rfl, ?_⟩⟩
        exact (utf8Bytes_inj.mp (constantTimeEq_iff.mp heq)).symm
      · cases h

theorem hmacVerificationMiddleware_ok (h : hmacVerificationMiddleware env bodyOk req = .ok req') :
    req' = req ∧ ((req.header "x-internal-buyer-id").isSome = true ∨
      ∃ p, req.publisher = some p ∧ (p.requireHmac = true → Signed env req)) := by
  unfold hmacVerificationMiddleware at h
  split at h
  · next hinternal => exact ⟨(Except.ok.inj h).symm, Or.inl hinternal⟩
  · cases hp : req.publisher with
    | none =>
      rw [hp] at h
      cases h
    | some p =>
      simp only [hp] at h
      split at h
      · cases h
      · next hreq =>
        cases hheader : req.headerText "x-hmac-signature" with
        | none =>
          -- without a header a publisher who must sign has been turned away
          simp only [hheader] at h hreq
          refine ⟨(Except.ok.inj h).symm, Or.inr ⟨p, rfl, fun hp => ?_⟩⟩
          simp [hp] at hreq
        | some header =>
          simp only [hheader] at h
          -- the header was compared with the digest of the body
          obtain ⟨heq, hsigned⟩ := verifySignature_ok h
          refine ⟨heq, Or.inr ⟨p, rfl, fun hp => ?_⟩⟩
          obtain ⟨secret, hsecret, hsignature⟩ := hsigned hp
          exact ⟨header, secret, hheader, hsecret, hsignature⟩

theorem apiKeyAuthMiddleware_ok {lookup : String → Except Unit (Option Publisher)}
    (h : apiKeyAuthMiddleware lookup req = .ok req') :
    ∃ key p, req.headerText "x-api-key" = some key ∧ lookup key = .ok (some p) ∧
      p.active = true ∧ req' = { req with publisher := some p } := by
  unfold apiKeyAuthMiddleware at h
  cases hkey : req.headerText "x-api-key" with
  | none =>
    rw [hkey] at h
    cases h
  | some key =>
    simp only [hkey] at h
    split at h
    · cases h
    · cases h
    · next p hlookup =>
      split at h
      · next hactive => exact ⟨key, p, rfl, hlookup, hactive, (Except.ok.inj h).symm⟩
      · cases h

/-- What `ApiAuth` keeps of a request. -/
def HttpRequest.toApi (req : HttpRequest) (body : String) : ApiRequest where
  apiKey := req.headerText "x-api-key"
  internalBuyerId := (req.header "x-internal-buyer-id").isSome
  hmacSignature := req.headerText "x-hmac-signature"
  body := body

/-- The middleware of `ApiAuth` passes a request with a body that is text if and only if this one
hands it on. -/
theorem hmacVerification_passed_iff {apiEnv : ApiEnv} (hsecret : apiEnv.hmacSecret = env.secret)
    (hhmac : ∀ secret body, apiEnv.hmac secret body =
      hexEncode (env.digest (utf8Bytes secret) (utf8Bytes body)))
    {p : Publisher} (hp : req.publisher = some p) {body : String}
      (hbody : req.body = utf8Bytes body)
    (key : String) :
    apiEnv.hmacVerification (req.toApi body) key p = .passed (req.toApi body) key p ↔
      hmacVerificationMiddleware env true req = .ok req := by
  unfold ApiEnv.hmacVerification hmacVerificationMiddleware
  simp only [hp, HttpRequest.toApi, hsecret]
  split
  · simp
  · split
    · simp
    · -- no signature, no secret, or two texts to compare
      cases req.headerText "x-hmac-signature" with
      | none => simp
      | some header =>
        cases hs : env.secret with
        | none =>
          cases hreq : p.requireHmac with
          | true => simp [verifySignature, hs, hreq]
          | false => simp [verifySignature, hs, hreq]
        | some secret =>
          -- comparing the bytes in constant time is comparing the texts
          have heq : constantTimeEq (utf8Bytes (hexEncode (env.digest (utf8Bytes secret) req.body)))
              (utf8Bytes (providedSignature header)) = true ↔
              apiEnv.hmac secret body = providedSignature header := by
            rw [constantTimeEq_iff, utf8Bytes_inj, hhmac, hbody]
          by_cases hequal : apiEnv.hmac secret body = providedSignature header
          · simp [verifySignature, hs, heq, hequal]
          · simp [verifySignature, hs, heq, hequal]

end

/-- A request that reaches a handler as a publisher that requires HMAC has its body unchanged, and
carries the signature of it or the header of an internal request. -/
theorem leadsEndpoint_ok (env : HmacEnv) (lookup : String → Except Unit (Option Publisher))
    (bodyOk : Bool) (req req' : HttpRequest) (p : Publisher)
    (h : leadsEndpoint env lookup bodyOk req = .ok req') (hp : req'.publisher = some p)
    (hreq : p.hmacRequired = true) :
    req'.body = req.body ∧
      ((req.header "x-internal-buyer-id").isSome = true ∨ Signed env req) := by
  obtain ⟨mid, hauth, hhmac⟩ : ∃ mid, apiKeyAuthMiddleware lookup req = .ok mid ∧
      hmacVerificationMiddleware env bodyOk mid = .ok req' := by
    cases hauth : apiKeyAuthMiddleware lookup req with
    | error status =>
      simp only [leadsEndpoint, hauth] at h
      cases h
    | ok mid =>
      simp only [leadsEndpoint, hauth] at h
      exact ⟨mid, rfl, h⟩
  obtain ⟨key, q, -, -, -, rfl⟩ := apiKeyAuthMiddleware_ok hauth
  obtain ⟨rfl, hgate⟩ := hmacVerificationMiddleware_ok hhmac
  refine ⟨rfl, ?_⟩
  rcases hgate with hinternal | ⟨q', hq', hsigned⟩
  · exact Or.inl hinternal
  · -- the first middleware has set the publisher
    cases hp.symm.trans hq'
    obtain ⟨header, secret, hheader, hsecret, hsignature⟩ := hsigned hreq
    exact Or.inr ⟨header, secret, hheader, hsecret, hsignature⟩

namespace Sample

def strictPublisher : Publisher := { publisherRow with hmacRequired := true }

/-- The digest is that of the body of `leadRequest`. -/
def hmacEnv : HmacEnv where
  secret := some "secret"
  digest _ _ :=
    [140, 93, 69, 148, 228, 66, 141, 196, 169, 247, 216, 149, 142, 75, 56, 41, 214, 119, 82, 189,
    1, 128, 176, 49, 119, 115, 179, 66, 56, 232, 196, 42]

def leadSignature : String :=
  "sha256=8c5d4594e4428dc4a9f7d8958e4b3829d67752bd0180b0317773b34238e8c42a"

def leadRequest (headers : List (String × String)) : HttpRequest :=
  ⟨("x-api-key", utf8Bytes oldKey) :: headers.map fun h => (h.1, utf8Bytes h.2), utf8Bytes "lead",
    none⟩

def keyLookup : String → Except Unit (Option Publisher) := fun key =>
  .ok (if key = oldKey then some strictPublisher else none)

end Sample

open Sample

theorem leadsEndpoint_ok_signed :
    (leadRequest [("x-hmac-signature", leadSignature)]).body = utf8Bytes "lead" ∧
      (((leadRequest [("x-hmac-signature", leadSignature)]).header
        "x-internal-buyer-id").isSome = true ∨
          Signed hmacEnv (leadRequest [("x-hmac-signature", leadSignature)])) :=
  leadsEndpoint_ok hmacEnv keyLookup true (leadRequest [("x-hmac-signature", leadSignature)])
    { leadRequest [("x-hmac-signature", leadSignature)] with publisher := some strictPublisher }
    strictPublisher rfl rfl rfl

/-- A request without a signature reaches the handler, with a header that it sets itself. -/
theorem internal_header_opens :
    ¬ ∀ (env : HmacEnv) (lookup : String → Except Unit (Option Publisher)) (bodyOk : Bool)
        (req req' : HttpRequest) (p : Publisher), leadsEndpoint env lookup bodyOk req = .ok req' →
        req'.publisher = some p → p.hmacRequired = true →
        req'.body = req.body ∧ Signed env req := by
  intro h
  obtain ⟨-, header, secret, hheader, -⟩ := h hmacEnv keyLookup true
    (leadRequest [("x-internal-buyer-id", "1")])
    { leadRequest [("x-internal-buyer-id", "1")] with publisher := some strictPublisher }
    strictPublisher rfl rfl rfl
  cases hheader

end LeadsNebula
