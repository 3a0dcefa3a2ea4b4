/-
Encryption (`core/src/encryption.rs`).

A text is encrypted to Base64 of a nonce, the ciphertext and the tag, or to a JSON
envelope of the three.  The ciphers, and the reader of JSON, are parameters.

* `decrypt_encrypt`, `decryptEnvelope_encryptEnvelope` — what is encrypted is decrypted
  with the same key;
* `encryptEnvelope_deterministic` — a deterministic envelope depends on the key and the
  text alone;
* `decryption_total_iff` — decryption panics exactly on a key of another length that
  meets an envelope with a nonce and a tag of the right lengths.
-/
import LeadsNebula.Fallible
import LeadsNebula.LeadSearch

namespace LeadsNebula

/-! ### The functions of other packages -/

/-- The ciphers, with AES-256-GCM of a key, a nonce and a ciphertext with its tag, and
`serde_json::from_str`. -/
structure Primitives extends Ciphers where
  aes256GcmOpen : List UInt8 → List UInt8 → List UInt8 → Option (List UInt8)
  fromStr : String → Option Json

/-- The envelope as a JSON value. -/
def envelopeJson (iv payload tag : List UInt8) : Json :=
  let encode (bytes : List UInt8) : String := String.ofList (Encoding.base64Chars bytes)
  .obj [("h", .obj [("at", .str (encode tag)), ("c", .bool false), ("iv", .str (encode iv))]),
    ("p", .str (encode payload))]

/-- What is known of the functions: a MAC has 32 bytes; a plaintext of at most 64 GiB is sealed;
what is sealed ends with a tag of 16 bytes and is opened with the same key and nonce; and the text
of an envelope is read as the envelope. -/
structure Primitives.Lawful (c : Primitives) : Prop where
  hmac_length : ∀ key text, (c.hmacSha256 key text).length = 32
  seals : ∀ key nonce plaintext, key.length = 32 → nonce.length = 12 → plaintext.length ≤ 2 ^ 36 →
    (c.aes256Gcm key nonce plaintext).isSome = true
  opens : ∀ key nonce plaintext, key.length = 32 → nonce.length = 12 →
    ∀ s ∈ c.aes256Gcm key nonce plaintext,
      16 ≤ s.length ∧ c.aes256GcmOpen key nonce s = some plaintext
  reads : ∀ iv payload tag, c.fromStr (Ciphers.envelopeText iv payload tag) =
    some (envelopeJson iv payload tag)

/-- A nonce as `fill_bytes` draws it. -/
abbrev GcmNonce := { bytes : List UInt8 // bytes.length = 12 }

/-- Errors; those of other packages have their own texts. -/
inductive CryptoError where
  | message (text : String)
  | json
  | base64
  | utf8
  deriving DecidableEq

abbrev Crypto (α : Type) := Fallible CryptoError α

namespace Crypto

def fail {α : Type} (text : String) : Crypto α := .err (.message text)

/-- `Key::from_slice`, which asserts the length. -/
def keyFromSlice (bytes : List UInt8) : Crypto (List UInt8) := .assert (bytes.length = 32) bytes

/-- `Nonce::from_slice`, which asserts the length. -/
def nonceFromSlice (bytes : List UInt8) : Crypto (List UInt8) := .assert (bytes.length = 12) bytes

def encodeBase64 (bytes : List UInt8) : String := String.ofList (Encoding.base64Chars bytes)

def decodeBase64 (text : String) : Crypto (List UInt8) :=
  .ofOption .base64 (Encoding.base64Bytes text.toList)

def fromUtf8 (bytes : List UInt8) : Crypto String :=
  .ofOption .utf8 (String.fromUTF8? ⟨bytes.toArray⟩)

end Crypto

open Crypto

/-! ### The service -/

/-- The service holds its key, which has 32 bytes. -/
structure EncryptionService where
  key : List UInt8
  length_key : key.length = 32

namespace EncryptionService

def new (key : List UInt8) : Crypto EncryptionService :=
  if h : key.length = 32 then .ok ⟨key, h⟩ else fail "Encryption key must be 32 bytes"

variable (c : Primitives)

section

variable (svc : EncryptionService)

def encrypt (drawn : GcmNonce) (plaintext : String) : Crypto String := do
  let nonce ← nonceFromSlice drawn
  let ciphertext ← .ofOption (.message "Encryption failed: Error")
    (c.aes256Gcm svc.key nonce plaintext.toUTF8.toList)
  pure (encodeBase64 (nonce ++ ciphertext))

def decrypt (ciphertext : String) : Crypto String := do
  let combined ← decodeBase64 ciphertext
  if combined.length < 12 then fail "Invalid ciphertext length"
  else
    let nonce ← (Fallible.takeFirst combined 12).bind nonceFromSlice
    let ciphertextBytes ← Fallible.dropFirst combined 12
    let plaintext ← .ofOption (.message "Decryption failed: Error")
      (c.aes256GcmOpen svc.key nonce ciphertextBytes)
    fromUtf8 plaintext

end

/-- The nonce of `encrypt_envelope`: the first bytes of a MAC, or drawn. -/
def chooseIv (keyBytes : List UInt8) (plaintext : String) (deterministic : Bool)
    (drawn : GcmNonce) : Crypto (List UInt8) :=
  if deterministic then Fallible.takeFirst (c.hmacSha256 keyBytes plaintext.toUTF8.toList) 12
  else .ok drawn

def encryptEnvelope (keyBytes : List UInt8) (plaintext : String) (deterministic : Bool)
    (drawn : GcmNonce) : Crypto String := do
  if keyBytes.length ≠ 32 then fail "Encryption key must be 32 bytes"
  else
    let key ← keyFromSlice keyBytes
    let iv ← chooseIv c keyBytes plaintext deterministic drawn
    let nonce ← nonceFromSlice iv
    let ciphertextWithTag ← .ofOption (.message "encrypt failed: Error")
      (c.aes256Gcm key nonce plaintext.toUTF8.toList)
    if ciphertextWithTag.length < 16 then fail "ciphertext too short"
    else
      let tagPos := ciphertextWithTag.length - 16
      let payload ← Fallible.takeFirst ciphertextWithTag tagPos
      let tag ← Fallible.dropFirst ciphertextWithTag tagPos
      pure (Ciphers.envelopeText iv payload tag)

/-- A text in a field of a JSON value. -/
def textField (v : Json) (field missing : String) : Crypto String :=
  .ofOption (.message missing) ((v.get field).bind Json.asStr)

def decryptEnvelope (keyBytes : List UInt8) (envelope : String) : Crypto String := do
  let v ← .ofOption .json (c.fromStr envelope)
  let payloadB64 ← textField v "p" "missing payload"
  let headers ← .ofOption (.message "missing headers") (v.get "h")
  let ivB64 ← textField headers "iv" "missing iv"
  let atB64 ← textField headers "at" "missing at"
  let payload ← decodeBase64 payloadB64
  let iv ← decodeBase64 ivB64
  let tag ← decodeBase64 atB64
  if iv.length ≠ 12 ∨ tag.length ≠ 16 then fail "invalid iv/tag lengths"
  else
    let key ← keyFromSlice keyBytes
    let nonce ← nonceFromSlice iv
    let plaintext ← .ofOption (.message "decrypt failed: Error")
      (c.aes256GcmOpen key nonce (payload ++ tag))
    fromUtf8 plaintext

/-! ### What is encrypted is decrypted -/

theorem decodeBase64_encodeBase64 (bytes : List UInt8) :
    decodeBase64 (encodeBase64 bytes) = .ok bytes := by
  rw [decodeBase64, encodeBase64, String.toList_ofList, Encoding.base64Bytes_base64Chars]
  rfl

theorem fromUtf8_toUtf8 (text : String) : fromUtf8 text.toUTF8.toList = .ok text := by
  have hbytes : String.fromUTF8? ⟨text.toUTF8.toList.toArray⟩ = some text := by
    rw [Encoding.byteArray_toList]
    exact dif_pos text.isValidUTF8
  rw [fromUtf8, hbytes]
  rfl

theorem keyFromSlice_eq {key : List UInt8} (h : key.length = 32) : keyFromSlice key = .ok key :=
  Fallible.assert_eq h key

theorem nonceFromSlice_eq {nonce : List UInt8} (h : nonce.length = 12) :
    nonceFromSlice nonce = .ok nonce :=
  Fallible.assert_eq h nonce

section

variable {c : Primitives}

theorem decrypt_encrypt (hc : c.Lawful) (svc : EncryptionService) {drawn : GcmNonce}
    {plaintext text : String} (h : svc.encrypt c drawn plaintext = .ok text) :
    svc.decrypt c text = .ok plaintext := by
  have hlength := drawn.property
  simp only [encrypt, nonceFromSlice_eq hlength, Fallible.monadBind_eq, Fallible.bind_ok,
    Fallible.bind_eq_ok_iff, Fallible.ofOption_eq_ok_iff] at h
  obtain ⟨s, hs, htext⟩ := h
  obtain rfl := Fallible.ok.inj htext
  obtain ⟨-, hopen⟩ := hc.opens svc.key drawn _ svc.length_key hlength s hs
  have htake : (drawn.val ++ s).take 12 = drawn.val := List.take_left' hlength
  have hdrop : (drawn.val ++ s).drop 12 = s := List.drop_left' hlength
  have hle : 12 ≤ (drawn.val ++ s).length := by
    rw [List.length_append]
    omega
  simp only [decrypt, decodeBase64_encodeBase64, Fallible.monadBind_eq, Fallible.bind_ok,
    if_neg (Nat.not_lt.mpr hle), Fallible.takeFirst_eq hle, Fallible.dropFirst_eq hle, htake, hdrop,
    nonceFromSlice_eq hlength, hopen, Fallible.ofOption_some]
  exact fromUtf8_toUtf8 plaintext

theorem chooseIv_eq (hc : c.Lawful) (key : List UInt8) (plaintext : String) (deterministic : Bool)
    (drawn : GcmNonce) :
    ∃ iv, iv.length = 12 ∧ chooseIv c key plaintext deterministic drawn = .ok iv := by
  cases deterministic with
  | true =>
    have hlength := hc.hmac_length key plaintext.toUTF8.toList
    refine ⟨_, ?_, Fallible.takeFirst_eq (hlength ▸ by decide)⟩
    rw [List.length_take, hlength]
    rfl
  | false => exact ⟨drawn, drawn.property, rfl⟩

/-- An envelope has the nonce, and what was sealed in two parts. -/
theorem encryptEnvelope_eq (hc : c.Lawful) {key iv : List UInt8} (hkey : key.length = 32)
    {plaintext : String} {deterministic : Bool} {drawn : GcmNonce} (hlength : iv.length = 12)
    (hiv : chooseIv c key plaintext deterministic drawn = .ok iv) :
    encryptEnvelope c key plaintext deterministic drawn =
      match c.aes256Gcm key iv plaintext.toUTF8.toList with
      | none => fail "encrypt failed: Error"
      | some s => .ok (Ciphers.envelopeText iv (s.take (s.length - 16))
        (s.drop (s.length - 16))) := by
  simp only [encryptEnvelope, ne_eq, hkey, not_true, if_false, keyFromSlice_eq hkey,
    Fallible.monadBind_eq, Fallible.bind_ok, hiv, nonceFromSlice_eq hlength]
  cases hs : c.aes256Gcm key iv plaintext.toUTF8.toList with
  | none => rfl
  | some s =>
    obtain ⟨htag, -⟩ := hc.opens key iv _ hkey hlength s hs
    have hle : s.length - 16 ≤ s.length := Nat.sub_le _ _
    simp only [Fallible.ofOption_some, Fallible.bind_ok, if_neg (Nat.not_lt.mpr htag),
      Fallible.takeFirst_eq hle, Fallible.dropFirst_eq hle, Fallible.pure_eq]

/-- The envelopes of the leads are the deterministic ones. -/
theorem encryptEnvelope_eq_ok_iff (hc : c.Lawful) {key : List UInt8} {plaintext envelope : String}
    {drawn : GcmNonce} :
    encryptEnvelope c key plaintext true drawn = .ok envelope ↔
      c.toCiphers.encryptEnvelope key plaintext = some envelope := by
  by_cases hkey : key.length = 32
  · -- the nonce is the start of a MAC, and there is enough of it
    have hmac := hc.hmac_length key plaintext.toUTF8.toList
    have hlength : ((c.hmacSha256 key plaintext.toUTF8.toList).take 12).length = 12 := by
      rw [List.length_take, hmac]
      rfl
    have hiv : chooseIv c key plaintext true drawn =
        .ok ((c.hmacSha256 key plaintext.toUTF8.toList).take 12) := by
      refine Fallible.takeFirst_eq ?_
      rw [hmac]
      decide
    rw [encryptEnvelope_eq hc hkey hlength hiv]
    cases hs : c.aes256Gcm key ((c.hmacSha256 key plaintext.toUTF8.toList).take 12)
        plaintext.toUTF8.toList with
    | none =>
      simp only [Ciphers.encryptEnvelope, ne_eq, hkey, not_true, if_false,
        hs, Option.bind_none, fail,
        reduceCtorEq]
    | some s =>
      obtain ⟨htag, -⟩ := hc.opens key _ _ hkey hlength s hs
      simp only [Ciphers.encryptEnvelope, ne_eq, hkey, not_true, if_false, hs, Option.bind_some,
        if_neg (Nat.not_lt.mpr htag), Fallible.ok.injEq, Option.some_inj]
  · have herr : encryptEnvelope c key plaintext true drawn =
        fail "Encryption key must be 32 bytes" :=
      if_pos hkey
    rw [herr]
    simp [Ciphers.encryptEnvelope, hkey, fail]

/-- Reading the envelope of a nonce, a ciphertext and a tag. -/
theorem decryptEnvelope_envelopeText (hc : c.Lawful) {key iv payload tag : List UInt8}
    (hkey : key.length = 32) (hiv : iv.length = 12) (htag : tag.length = 16) :
    decryptEnvelope c key (Ciphers.envelopeText iv payload tag) =
      (Fallible.ofOption (.message "decrypt failed: Error")
        (c.aes256GcmOpen key iv (payload ++ tag))).bind fromUtf8 := by
  have hlengths : ¬(iv.length ≠ 12 ∨ tag.length ≠ 16) := by simp [hiv, htag]
  have hp : textField (envelopeJson iv payload tag) "p" "missing payload" =
      .ok (encodeBase64 payload) := rfl
  have hh : (Fallible.ofOption (.message "missing headers")
      ((envelopeJson iv payload tag).get "h") :
      Crypto Json) = .ok (.obj [("at", .str (encodeBase64 tag)), ("c", .bool false),
        ("iv", .str (encodeBase64 iv))]) := rfl
  have hi : textField (.obj [("at", .str (encodeBase64 tag)), ("c", .bool false),
      ("iv", .str (encodeBase64 iv))]) "iv" "missing iv" = .ok (encodeBase64 iv) := rfl
  have ha : textField (.obj [("at", .str (encodeBase64 tag)), ("c", .bool false),
      ("iv", .str (encodeBase64 iv))]) "at" "missing at" = .ok (encodeBase64 tag) := rfl
  simp only [decryptEnvelope, hc.reads, Fallible.ofOption_some, Fallible.monadBind_eq,
    Fallible.bind_ok, hp, hh, hi, ha, decodeBase64_encodeBase64, if_neg hlengths,
    keyFromSlice_eq hkey, nonceFromSlice_eq hiv]

theorem decryptEnvelope_encryptEnvelope (hc : c.Lawful) {key : List UInt8} (hkey : key.length = 32)
    {plaintext envelope : String} {deterministic : Bool} {drawn : GcmNonce}
    (h : encryptEnvelope c key plaintext deterministic drawn = .ok envelope) :
    decryptEnvelope c key envelope = .ok plaintext := by
  obtain ⟨iv, hlength, hiv⟩ := chooseIv_eq hc key plaintext deterministic drawn
  rw [encryptEnvelope_eq hc hkey hlength hiv] at h
  cases hs : c.aes256Gcm key iv plaintext.toUTF8.toList with
  | none =>
    rw [hs] at h
    cases h
  | some s =>
    rw [hs] at h
    obtain rfl := Fallible.ok.inj h
    obtain ⟨htag, hopen⟩ := hc.opens key iv _ hkey hlength s hs
    have hdrop : (s.drop (s.length - 16)).length = 16 := by
      rw [List.length_drop]
      omega
    rw [decryptEnvelope_envelopeText hc hkey hlength hdrop, List.take_append_drop, hopen]
    exact fromUtf8_toUtf8 plaintext

/-- A deterministic envelope does not depend on what is drawn. -/
theorem encryptEnvelope_deterministic (key : List UInt8) (plaintext : String)
    (drawn drawn' : GcmNonce) :
    encryptEnvelope c key plaintext true drawn = encryptEnvelope c key plaintext true drawn' := rfl

/-- A plaintext that AES-GCM takes is encrypted. -/
theorem encrypted (hc : c.Lawful) {key : List UInt8} (hkey : key.length = 32) {plaintext : String}
    (hsize : plaintext.toUTF8.toList.length ≤ 2 ^ 36) (deterministic : Bool) (drawn : GcmNonce) :
    (∃ envelope, encryptEnvelope c key plaintext deterministic drawn = .ok envelope) ∧
      ∃ text, encrypt c ⟨key, hkey⟩ drawn plaintext = .ok text := by
  constructor
  · obtain ⟨iv, hlength, hiv⟩ := chooseIv_eq hc key plaintext deterministic drawn
    obtain ⟨s, hs⟩ := Option.isSome_iff_exists.mp (hc.seals key iv _ hkey hlength hsize)
    rw [encryptEnvelope_eq hc hkey hlength hiv, hs]
    exact ⟨_, rfl⟩
  · obtain ⟨s, hs⟩ := Option.isSome_iff_exists.mp (hc.seals key drawn _ hkey drawn.property hsize)
    simp only [encrypt, nonceFromSlice_eq drawn.property, Fallible.monadBind_eq, Fallible.bind_ok,
      hs, Fallible.ofOption_some]
    exact ⟨_, rfl⟩

end

/-- With a key of 32 bytes, what is encrypted is decrypted to the same text, in envelopes of both
modes and by the service; deterministic envelopes of a text are the same; and only what AES-GCM does
not take is not encrypted. -/
theorem round_trip (c : Primitives) (hc : c.Lawful) (key : List UInt8) (hkey : key.length = 32)
    (plaintext : String) :
    (∀ deterministic drawn envelope,
      encryptEnvelope c key plaintext deterministic drawn = .ok envelope →
        decryptEnvelope c key envelope = .ok plaintext) ∧
    (∀ drawn drawn', encryptEnvelope c key plaintext true drawn =
      encryptEnvelope c key plaintext true drawn') ∧
    (∃ svc, new key = .ok svc ∧ ∀ drawn text, svc.encrypt c drawn plaintext = .ok text →
      svc.decrypt c text = .ok plaintext) ∧
    (plaintext.toUTF8.toList.length ≤ 2 ^ 36 → ∀ deterministic drawn,
      (∃ envelope, encryptEnvelope c key plaintext deterministic drawn = .ok envelope) ∧
        ∃ text, encrypt c ⟨key, hkey⟩ drawn plaintext = .ok text) :=
  ⟨fun _ _ _ h => decryptEnvelope_encryptEnvelope hc hkey h,
    encryptEnvelope_deterministic key plaintext,
    ⟨⟨key, hkey⟩, dif_pos hkey, fun _ _ h => decrypt_encrypt hc _ h⟩,
    fun hsize => encrypted hc hkey hsize⟩

/-! ### Decryption does not panic -/

section

variable {c : Primitives}

/-- The text is an envelope with a nonce and a tag of the right lengths. -/
def Framed (c : Primitives) (envelope : String) : Prop :=
  ∃ v ∈ c.fromStr envelope, ∃ p ∈ (v.get "p").bind Json.asStr, ∃ h ∈ v.get "h",
    ∃ i ∈ (h.get "iv").bind Json.asStr, ∃ a ∈ (h.get "at").bind Json.asStr,
      ∃ _payload ∈ Encoding.base64Bytes p.toList, ∃ iv ∈ Encoding.base64Bytes i.toList,
        ∃ tag ∈ Encoding.base64Bytes a.toList, iv.length = 12 ∧ tag.length = 16

theorem fromUtf8_ne_panic (bytes : List UInt8) : fromUtf8 bytes ≠ .panic :=
  Fallible.ofOption_ne_panic _ _

/-- The key is the only part whose length is not checked. -/
theorem checked_eq_panic_iff {key iv tag sealedBytes : List UInt8} :
    (if iv.length ≠ 12 ∨ tag.length ≠ 16 then fail "invalid iv/tag lengths"
      else (keyFromSlice key).bind fun key => (nonceFromSlice iv).bind fun nonce =>
        (Fallible.ofOption (.message "decrypt failed: Error")
          (c.aes256GcmOpen key nonce sealedBytes)).bind fromUtf8) = .panic ↔
      key.length ≠ 32 ∧ iv.length = 12 ∧ tag.length = 16 := by
  by_cases hlengths : iv.length ≠ 12 ∨ tag.length ≠ 16
  · rw [if_pos hlengths]
    refine iff_of_false (fun h => nomatch h) ?_
    rintro ⟨-, hiv, htag⟩
    exact hlengths.elim (fun h => h hiv) fun h => h htag
  · rw [if_neg hlengths]
    rw [not_or, not_not, not_not] at hlengths
    by_cases hkey : key.length = 32
    · rw [keyFromSlice_eq hkey, Fallible.bind_ok, nonceFromSlice_eq hlengths.1, Fallible.bind_ok]
      refine iff_of_false ?_ fun h => h.1 hkey
      rw [Fallible.ofOption_bind_eq_panic_iff]
      rintro ⟨bytes, -, h⟩
      exact fromUtf8_ne_panic bytes h
    · have hpanic : keyFromSlice key = .panic := Fallible.assert_eq_panic_iff.mpr hkey
      rw [hpanic]
      exact iff_of_true rfl ⟨hkey, hlengths⟩

theorem decryptEnvelope_eq_panic_iff {key : List UInt8} {envelope : String} :
    decryptEnvelope c key envelope = .panic ↔ key.length ≠ 32 ∧ Framed c envelope := by
  simp only [decryptEnvelope, textField, decodeBase64, Fallible.monadBind_eq,
    Fallible.ofOption_bind_eq_panic_iff, checked_eq_panic_iff]
  constructor
  · rintro ⟨v, hv, p, hp, h, hh, i, hi, a, ha, payload, hpayload, iv, hiv,
      tag, htag, hkey, hlengths⟩
    exact ⟨hkey, v, hv, p, hp, h, hh, i, hi, a, ha, payload, hpayload, iv, hiv, tag, htag, hlengths⟩
  · rintro ⟨hkey, v, hv, p, hp, h, hh, i, hi, a, ha, payload, hpayload, iv,
      hiv, tag, htag, hlengths⟩
    exact ⟨v, hv, p, hp, h, hh, i, hi, a, ha, payload, hpayload, iv, hiv, tag, htag, hkey, hlengths⟩

theorem decrypt_ne_panic (svc : EncryptionService) (text : String) :
    svc.decrypt c text ≠ .panic := by
  intro h
  simp only [decrypt, decodeBase64, Fallible.monadBind_eq,
    Fallible.ofOption_bind_eq_panic_iff] at h
  obtain ⟨combined, -, h⟩ := h
  by_cases hshort : combined.length < 12
  · rw [if_pos hshort] at h
    cases h
  · have hle : 12 ≤ combined.length := Nat.not_lt.mp hshort
    have htake : (combined.take 12).length = 12 := by
      rw [List.length_take]
      omega
    rw [if_neg hshort, Fallible.takeFirst_eq hle, Fallible.bind_ok, nonceFromSlice_eq htake,
      Fallible.bind_ok, Fallible.dropFirst_eq hle, Fallible.bind_ok,
      Fallible.ofOption_bind_eq_panic_iff] at h
    obtain ⟨plaintext, -, h⟩ := h
    exact fromUtf8_ne_panic plaintext h

end

/-- Decryption does not panic exactly if the key has 32 bytes, or the text is no envelope with a
nonce and a tag of the right lengths. -/
theorem decryption_total_iff (c : Primitives) (key : List UInt8) (text : String) :
    (decryptEnvelope c key text ≠ .panic ∧
      (new key).bind (fun svc => svc.decrypt c text) ≠ .panic) ↔
      key.length = 32 ∨ ¬Framed c text := by
  have hservice : (new key).bind (fun svc => svc.decrypt c text) ≠ .panic := by
    rw [new]
    split
    · exact decrypt_ne_panic _ text
    · exact fun h => nomatch h
  rw [and_iff_left hservice, ne_eq, decryptEnvelope_eq_panic_iff, not_and_or, not_not]

end EncryptionService

/-! ### A cipher that hides nothing -/

namespace Sample

open EncryptionService

/-- The text of an envelope between its quotes. -/
def envelopePieces (tag iv payload : List Char) : List (List Char) :=
  ["\x7b", "h", ":\x7b", "at", ":"].map String.toList ++ [tag] ++
    [",", "c", ":false,", "iv", ":"].map String.toList ++ [iv] ++
    ["\x7d,", "p", ":"].map String.toList ++ [payload] ++ ["\x7d".toList]

/-- A reader of envelopes alone. -/
def readEnvelope (text : String) : Option Json :=
  match text.toList.splitOn '"' with
  | [_, _, _, _, _, tag, _, _, _, _, _, iv, _, _, _, payload, _] =>
    if text.toList.splitOn '"' = envelopePieces tag iv payload then
      some (.obj [("h", .obj [("at", .str (String.ofList tag)), ("c", .bool false),
        ("iv", .str (String.ofList iv))]), ("p", .str (String.ofList payload))])
    else none
  | _ => none

def plainPrimitives : Primitives where
  toCiphers := plainCiphers
  aes256GcmOpen _ _ s :=
    if s.drop (s.length - 16) = List.replicate 16 0 then some (s.take (s.length - 16)) else none
  fromStr := readEnvelope

theorem splitOn_envelopeText (iv payload tag : List UInt8) :
    (Ciphers.envelopeText iv payload tag).toList.splitOn '"' =
      envelopePieces (Encoding.base64Chars tag) (Encoding.base64Chars iv)
        (Encoding.base64Chars payload) := by
  have hquote : ∀ bytes, '"' ∉ Encoding.base64Chars bytes :=
    Encoding.not_mem_base64Chars (by decide) (by decide)
  have htext : (Ciphers.envelopeText iv payload tag).toList =
      ['"'].intercalate (envelopePieces (Encoding.base64Chars tag) (Encoding.base64Chars iv)
        (Encoding.base64Chars payload)) := by
    show (_ ++ _ ++ _ ++ _ ++ _ ++ _ ++ _ : String).toList = _
    simp [envelopePieces, List.intercalate]
  rw [htext]
  refine List.splitOn_intercalate '"' ?_ (by simp [envelopePieces])
  simp [envelopePieces, hquote]

theorem plainPrimitives_lawful : plainPrimitives.Lawful where
  hmac_length _ _ := rfl
  seals _ _ _ _ _ _ := rfl
  opens key nonce plaintext _ _ s hs := by
    obtain rfl := Option.some.inj hs
    simp [plainPrimitives]
  reads iv payload tag := by
    show readEnvelope _ = _
    unfold readEnvelope
    rw [splitOn_envelopeText]
    exact if_pos rfl

def zeroKey (n : ℕ) : List UInt8 := List.replicate n 0

def zeroNonce : GcmNonce := ⟨List.replicate 12 0, rfl⟩

/-- A name with a letter of two bytes, in both modes. -/
theorem round_trip_zoe :
    (∃ envelope, encryptEnvelope plainPrimitives (zeroKey 32) "Zoë" true zeroNonce = .ok envelope ∧
        decryptEnvelope plainPrimitives (zeroKey 32) envelope = .ok "Zoë") ∧
      ∃ envelope,
        encryptEnvelope plainPrimitives (zeroKey 32) "Zoë" false zeroNonce = .ok envelope ∧
          decryptEnvelope plainPrimitives (zeroKey 32) envelope = .ok "Zoë" := by
  obtain ⟨htrip, -, -, hencrypted⟩ :=
    round_trip plainPrimitives plainPrimitives_lawful (zeroKey 32) rfl "Zoë"
  have hmode : ∀ deterministic, ∃ envelope,
      encryptEnvelope plainPrimitives (zeroKey 32) "Zoë" deterministic zeroNonce = .ok envelope ∧
        decryptEnvelope plainPrimitives (zeroKey 32) envelope = .ok "Zoë" := by
    intro deterministic
    obtain ⟨⟨envelope, henvelope⟩, -⟩ := hencrypted (by decide +kernel) deterministic zeroNonce
    exact ⟨envelope, henvelope, htrip deterministic zeroNonce envelope henvelope⟩
  exact ⟨hmode true, hmode false⟩

/-- A key of 31 bytes is refused by the service, and panics on an envelope. -/
theorem short_key_panics :
    (∃ e, EncryptionService.new (zeroKey 31) = .err e) ∧
      decryptEnvelope plainPrimitives (zeroKey 31)
        (Ciphers.envelopeText zeroNonce [] (List.replicate 16 0)) = .panic :=
  ⟨⟨_, rfl⟩, by decide⟩

end Sample

end LeadsNebula
