/-
The search of the list of leads (`list_leads` of `routes/dashboard.rs`).

The text is put between the `%` of a pattern, and is compared with the envelopes of the
email and the IP address.

* `matchesSearch_iff` — a text finds the names that match its pattern and the envelopes
  that are it;
* `not_storedWith` — a text that does not begin like an envelope is none;
* `nameMatches_iff` — a plain text finds the names that contain it in lower case;
* `overmatched_lower`, `not_searchExact_overmatched` — a text with a metacharacter finds
  a name that does not contain it;
* `search_exact_iff` — the search is exact if and only if it is right about every lead
  (`FoundRightly`), and for a text with a metacharacter there are leads that are to be
  found by their names only about which it is not.
-/
import LeadsNebula.LeadListing

namespace LeadsNebula

/-! ### Envelopes -/

/-- HMAC-SHA256 of a key and a text, and AES-256-GCM of a key, a nonce and a text; the tag follows
the ciphertext. -/
structure Ciphers where
  hmacSha256 : List UInt8 → List UInt8 → List UInt8
  aes256Gcm : List UInt8 → List UInt8 → List UInt8 → Option (List UInt8)

namespace Ciphers

variable (cs : Ciphers)

/-- The text of an envelope. -/
def envelopeText (iv payload tag : List UInt8) : String :=
  let encode (bytes : List UInt8) : String := String.ofList (Encoding.base64Chars bytes)
  "\x7b\"h\":\x7b\"at\":\"" ++ encode tag ++ "\",\"c\":false,\"iv\":\"" ++ encode iv ++
    "\"\x7d,\"p\":\"" ++ encode payload ++ "\"\x7d"

/-- `encrypt_envelope`, deterministic. -/
def encryptEnvelope (key : List UInt8) (plaintext : String) : Option String :=
  if key.length ≠ 32 then none
  else
    let iv := (cs.hmacSha256 key plaintext.toUTF8.toList).take 12
    (cs.aes256Gcm key iv plaintext.toUTF8.toList).bind fun ciphertextWithTag =>
      if ciphertextWithTag.length < 16 then none
      else
        let tagPos := ciphertextWithTag.length - 16
        some (envelopeText iv (ciphertextWithTag.take tagPos) (ciphertextWithTag.drop tagPos))

/-- `encrypt_pii` of `batch_create_leads`. -/
def encryptPii (key : Option (List UInt8)) (value : Option String) : Option String :=
  value.bind fun val => key.bind fun key => if val = "" then none else cs.encryptEnvelope key val

/-- `encrypt_pii_opt`, for the leads of `persist_failed_lead`. -/
def encryptPiiOpt (key : Option (List UInt8)) (value : Option String) : Option String :=
  key.bind fun key => value.bind fun value =>
    if trim value = "" then none else cs.encryptEnvelope key (trim value)

end Ciphers

/-- A lead with what was submitted; `failed` leads are stored by `persist_failed_lead`. -/
structure SubmittedLead extends Lead where
  email : Option String
  ipAddress : Option String
  failed : Bool

/-- The row of a submitted lead. -/
def SubmittedLead.listed (cs : Ciphers) (key : Option (List UInt8)) (l : SubmittedLead) :
    ListedLead :=
  let encrypt := if l.failed then cs.encryptPiiOpt key else cs.encryptPii key
  { l.toLead with
    emailEncrypted := encrypt l.email
    ipAddressEncrypted := encrypt l.ipAddress }

namespace Listing

/-! ### Lower case -/

/-- The function lower-cases each letter of an ASCII text. -/
def LowersAscii (f : String → String) : Prop :=
  ∀ s : String, (∀ c ∈ s.toList, c.toNat < 128) → f s = String.ofList (s.toList.map Char.toLower)

theorem toLower_ascii : ∀ n : Fin 128,
    (Char.ofNat n).toLower.toLower = (Char.ofNat n).toLower ∧ (Char.ofNat n).toLower.toNat < 128 ∧
      (Like.Plain (Char.ofNat n).toLower ↔ Like.Plain (Char.ofNat n)) := by
  decide

theorem eq_ofNat_of_ascii {c : Char} (h : c.toNat < 128) : ∃ n : Fin 128, c = Char.ofNat n :=
  ⟨⟨c.toNat, h⟩, (Char.ofNat_toNat c).symm⟩

theorem toLower_of_not_ascii {c : Char} (h : ¬c.toNat < 128) : c.toLower = c := by
  refine dif_neg fun hc => h ?_
  have hle : c.toNat ≤ 'Z'.toNat := UInt32.le_iff_toNat_le.mp hc.2
  exact hle.trans_lt (by decide)

theorem plain_toLower (c : Char) : Like.Plain c.toLower ↔ Like.Plain c := by
  by_cases h : c.toNat < 128
  · obtain ⟨n, rfl⟩ := eq_ofNat_of_ascii h
    exact (toLower_ascii n).2.2
  · rw [toLower_of_not_ascii h]

/-- The rows of submitted leads. -/
def storedLeads (cs : Ciphers) (key : Option (List UInt8))
    (leads : Table fun l : SubmittedLead => l.uuid) : Table fun l : ListedLead => l.uuid where
  rows := leads.rows.map (SubmittedLead.listed cs key)
  nodup := by
    rw [List.map_map]
    exact leads.nodup

/-! ### What a search is to find -/

/-- `n` contains `s`, ignoring the case of ASCII letters. -/
def ContainsIgnoringCase (n s : String) : Prop :=
  s.toList.map Char.toLower <:+: n.toList.map Char.toLower

instance (n s : String) : Decidable (ContainsIgnoringCase n s) :=
  inferInstanceAs (Decidable (_ <:+: _))

/-- The text to search for is `s`, and not too short. -/
structure SearchesFor (q : ListQuery) (s : String) : Prop where
  search : q.search.map trim = some s
  length : 3 ≤ s.utf8ByteSize

section Search

variable [StdText] (db : Dashboard.Db) (instanceId : Option Uuid) (lower : String → String)
  (cs : Ciphers) (key : Option (List UInt8)) (leads : Table fun l : SubmittedLead => l.uuid)
  (q : ListQuery) (s : String) (l : SubmittedLead)

/-- A name of the lead contains the text. -/
def Named : Prop := ∃ n ∈ names db (l.listed cs key), ContainsIgnoringCase n s

/-- The lead was submitted with the text for an email or an IP address. -/
def SubmittedWith : Prop :=
  ∃ v, (l.email = some v ∨ l.ipAddress = some v) ∧ toLowercase v = toLowercase s

/-- The lead is stored with the text for an envelope. -/
def StoredWith : Prop :=
  (l.listed cs key).emailEncrypted = some (toLowercase s) ∨
    (l.listed cs key).ipAddressEncrypted = some (toLowercase s)

/-- Among the leads of the tenant, the list has those that a name, the email or the IP address
is to be found by. -/
def SearchExact : Prop :=
  ∀ l ∈ leads.rows, visible db instanceId (l.listed cs key) = true →
    (l.listed cs key ∈ matching db instanceId lower (storedLeads cs key leads) q ↔
      Named db cs key s l ∨ SubmittedWith s l)

/-- `LOWER` of a name of the lead matches the pattern. -/
def NameMatches : Prop :=
  ∃ n ∈ names db (l.listed cs key),
    like (lower n).toList ('%' :: ((toLowercase s).toList ++ ['%'])) = true

/-- `LOWER` of a name of the lead contains the text in lower case. -/
def NameLowered : Prop :=
  ∃ n ∈ names db (l.listed cs key), (toLowercase s).toList <:+: (lower n).toList

/-- The search is right about a lead that it finds by its names if `byName`.  A lead that is stored
with the text for an envelope has to be one that is searched for; any other lead is found by a name
if it was submitted with the text, and otherwise if and only if a name contains the text. -/
structure FoundRightly (byName : Prop) : Prop where
  stored : StoredWith cs key s l → Named db cs key s l ∨ SubmittedWith s l
  submitted : ¬StoredWith cs key s l → SubmittedWith s l → byName
  named : ¬StoredWith cs key s l → ¬SubmittedWith s l → (byName ↔ Named db cs key s l)

variable {db instanceId lower cs key leads q s l}

/-! ### What a text finds -/

theorem matchesSearch_iff : matchesSearch db lower (toLowercase s) (l.listed cs key) = true ↔
    NameMatches db lower cs key s l ∨ StoredWith cs key s l := by
  simp only [matchesSearch, Bool.or_eq_true, decide_eq_true_eq, List.any_eq_true, or_assoc]
  exact Iff.rfl

/-- The pattern of a plain text matches the texts that contain it. -/
theorem nameMatches_iff (hplain : ∀ c ∈ (toLowercase s).toList, Like.Plain c) :
    NameMatches db lower cs key s l ↔ NameLowered db lower cs key s l :=
  exists_congr fun _ => and_congr_right fun _ => Like.likeMatches_percent_iff hplain _

theorem foundRightly_congr {byName byName' : Prop} (h : byName ↔ byName') :
    FoundRightly db cs key s l byName ↔ FoundRightly db cs key s l byName' := by
  rw [h]

theorem foundRightly_iff {byName : Prop} : FoundRightly db cs key s l byName ↔
    (byName ∨ StoredWith cs key s l ↔ Named db cs key s l ∨ SubmittedWith s l) := by
  constructor
  · intro h
    by_cases hstored : StoredWith cs key s l
    · exact iff_of_true (Or.inr hstored) (h.stored hstored)
    rw [or_iff_left hstored]
    by_cases hsubmitted : SubmittedWith s l
    · exact iff_of_true (h.submitted hstored hsubmitted) (Or.inr hsubmitted)
    · rw [or_iff_left hsubmitted]
      exact h.named hstored hsubmitted
  · intro h
    refine ⟨fun hstored => h.mp (Or.inr hstored), fun hstored hsubmitted => ?_,
      fun hstored hsubmitted => ?_⟩
    · exact (h.mpr (Or.inr hsubmitted)).resolve_right hstored
    · rwa [or_iff_left hstored, or_iff_left hsubmitted] at h

theorem mem_matching_iff (hq : SearchesFor q s) (hl : l ∈ leads.rows)
    (hvisible : visible db instanceId (l.listed cs key) = true) :
    l.listed cs key ∈ matching db instanceId lower (storedLeads cs key leads) q ↔
      matchesSearch db lower (toLowercase s) (l.listed cs key) = true := by
  obtain ⟨search, hsearch, rfl⟩ := Option.map_eq_some_iff.mp hq.search
  have hterm : q.searchTerm = some (toLowercase (trim search)) := by
    rw [ListQuery.searchTerm, hsearch, Option.bind_some, if_pos hq.length]
  have hrow : l.listed cs key ∈ (storedLeads cs key leads).rows := List.mem_map_of_mem hl
  rw [matching, List.mem_filter, hvisible, hterm, Bool.true_and]
  exact and_iff_right hrow

/-! ### Envelopes as texts -/

omit [StdText] in
theorem envelopeText_head (iv payload tag : List UInt8) :
    (Ciphers.envelopeText iv payload tag).toList.head? = some '\x7b' := by
  show (_ ++ _ ++ _ ++ _ ++ _ ++ _ ++ _ : String).toList.head? = _
  simp only [String.toList_append, List.append_assoc]
  rw [List.head?_append]
  rfl

omit [StdText] in
theorem encryptEnvelope_head {k : List UInt8} {v e : String}
    (h : cs.encryptEnvelope k v = some e) : e.toList.head? = some '\x7b' := by
  unfold Ciphers.encryptEnvelope at h
  split at h
  · cases h
  · obtain ⟨ciphertextWithTag, -, h⟩ := Option.bind_eq_some_iff.mp h
    split at h
    · cases h
    · rw [← Option.some_inj.mp h]
      exact envelopeText_head _ _ _

omit [StdText] in
/-- What is stored for a value is an envelope. -/
theorem listed_head {e : String} (h : (l.listed cs key).emailEncrypted = some e ∨
    (l.listed cs key).ipAddressEncrypted = some e) : e.toList.head? = some '\x7b' := by
  -- both ways of storing a value end in an envelope
  have hpii : ∀ {value}, cs.encryptPii key value = some e → e.toList.head? = some '\x7b' := by
    intro value h
    obtain ⟨val, -, h⟩ := Option.bind_eq_some_iff.mp h
    obtain ⟨k, -, h⟩ := Option.bind_eq_some_iff.mp h
    split at h
    · cases h
    · exact encryptEnvelope_head h
  have hopt : ∀ {value}, cs.encryptPiiOpt key value = some e → e.toList.head? = some '\x7b' := by
    intro value h
    obtain ⟨k, -, h⟩ := Option.bind_eq_some_iff.mp h
    obtain ⟨val, -, h⟩ := Option.bind_eq_some_iff.mp h
    split at h
    · cases h
    · exact encryptEnvelope_head h
  unfold SubmittedLead.listed at h
  cases hfailed : l.failed with
  | true =>
    rw [hfailed] at h
    exact h.elim hopt hopt
  | false =>
    rw [hfailed] at h
    exact h.elim hpii hpii

/-- A text that does not begin like an envelope is none. -/
theorem not_storedWith (hs : (toLowercase s).toList.head? ≠ some '\x7b') :
    ¬StoredWith cs key s l := fun h => hs (listed_head h)

/-! ### Texts with metacharacters -/

/-- The name that a text with a metacharacter finds in spite of not being in it. -/
def overmatched (s : String) : String :=
  String.ofList (Like.shortest (likeTokens ((toLowercase s).toList ++ ['%'])))

section Overmatched

variable (hs : ∀ c ∈ s.toList, c.toNat < 128)
  (htext : (toLowercase s).toList = s.toList.map Char.toLower)

include hs htext

/-- The characters of the name are ASCII, in lower case. -/
theorem overmatched_lower {c : Char} (hc : c ∈ (overmatched s).toList) :
    c.toLower = c ∧ c.toNat < 128 := by
  rw [overmatched, String.toList_ofList] at hc
  obtain rfl | hc := Like.mem_shortest hc
  · decide
  rw [List.mem_append, List.mem_singleton, htext, List.mem_map] at hc
  obtain ⟨d, hd, rfl⟩ | rfl := hc
  · obtain ⟨n, rfl⟩ := eq_ofNat_of_ascii (hs d hd)
    exact ⟨(toLower_ascii n).1, (toLower_ascii n).2.1⟩
  · decide

theorem map_toLower_overmatched :
    (overmatched s).toList.map Char.toLower = (overmatched s).toList :=
  (List.map_congr_left fun _ hc => (overmatched_lower hs htext hc).1).trans (List.map_id' _)

end Overmatched

end Search

end Listing

namespace Sample

open Listing

/-- A lead of a publisher of that name, and what was submitted with it. -/
def publisherNamed (name : String) : Dashboard.Db :=
  tenants [{ ownPublisher with name := name }] (List.nodup_singleton _)

def submittedLead (uuid : Uuid) (leadId : String) (email ipAddress : Option String) :
    SubmittedLead where
  toLead := (listedLead uuid leadId 10 none none).toLead
  email := email
  ipAddress := ipAddress
  failed := false

def anonymousLead : Table fun l : SubmittedLead => l.uuid :=
  ⟨[submittedLead 21 "SOLAR-AAAA" none none], List.nodup_singleton _⟩

end Sample

namespace Listing

section Search

variable [StdText] {lower : String → String} {q : ListQuery} {s : String}

open Sample

omit [StdText] in
theorem names_anonymousLead (cs : Ciphers) (key : Option (List UInt8)) (name : String) :
    names (publisherNamed name) ((submittedLead 21 "SOLAR-AAAA" none none).listed cs key) =
      ["SOLAR-AAAA", name] := rfl

omit [StdText] in
theorem visible_anonymousLead (cs : Ciphers) (key : Option (List UInt8)) (name : String) :
    visible (publisherNamed name) (some 1)
      ((submittedLead 21 "SOLAR-AAAA" none none).listed cs key) = true := rfl

/-- A publisher may have the name that a text with a metacharacter finds. -/
theorem not_searchExact_overmatched (htext : LowersAscii toLowercase) (hlower : LowersAscii lower)
    (cs : Ciphers) (key : Option (List UInt8)) (hq : SearchesFor q s)
    (hs : ∀ c ∈ s.toList, c.toNat < 128) (hmeta : ¬∀ c ∈ s.toList, Like.Plain c) :
    (∀ l ∈ anonymousLead.rows, FoundRightly (publisherNamed (overmatched s)) cs key s l
        (NameLowered (publisherNamed (overmatched s)) lower cs key s l)) ∧
      ¬SearchExact (publisherNamed (overmatched s)) (some 1) lower cs key anonymousLead q s := by
  have htext : (toLowercase s).toList = s.toList.map Char.toLower := by
    rw [htext s hs, String.toList_ofList]
  have hmem : submittedLead 21 "SOLAR-AAAA" none none ∈ anonymousLead.rows := List.mem_cons_self
  have hovermatched : lower (overmatched s) = overmatched s := by
    rw [hlower _ fun c hc => (overmatched_lower hs htext hc).2, map_toLower_overmatched hs htext,
      String.ofList_toList]
  have hnone : ¬SubmittedWith s (submittedLead 21 "SOLAR-AAAA" none none) := by
    rintro ⟨v, h | h, -⟩ <;> cases h
  have hnotStored : ¬StoredWith cs key s (submittedLead 21 "SOLAR-AAAA" none none) := by
    rintro (h | h) <;> cases key <;> cases h
  refine ⟨fun l hl => ?_, fun hexact => ?_⟩
  · -- the two names are lower-cased like ASCII texts
    obtain rfl := List.mem_singleton.mp hl
    refine ⟨fun h => absurd h hnotStored, fun _ h => absurd h hnone, fun _ _ => ?_⟩
    refine exists_congr fun n => and_congr_right fun hn => ?_
    rw [names_anonymousLead, List.mem_pair] at hn
    rw [ContainsIgnoringCase, htext]
    obtain rfl | rfl := hn
    · rw [hlower "SOLAR-AAAA" (by simp), String.toList_ofList]
    · rw [hovermatched, map_toLower_overmatched hs htext]
  · -- the metacharacter is in the text in lower case
    have hpattern : ¬∀ c ∈ (toLowercase s).toList, Like.Plain c := by
      intro hplain
      rw [htext] at hplain
      exact hmeta fun c hc => (plain_toLower c).mp (hplain _ (List.mem_map_of_mem hc))
    obtain ⟨hmatch, hpart⟩ := Like.like_shortest hpattern
    have hnotNamed : ¬Named (publisherNamed (overmatched s)) cs key s
        (submittedLead 21 "SOLAR-AAAA" none none) := by
      rintro ⟨n, hn, hcontains⟩
      rw [names_anonymousLead, List.mem_pair] at hn
      rw [ContainsIgnoringCase, ← htext] at hcontains
      obtain rfl | rfl := hn
      · exact hpattern fun c hc =>
          (by simp [Like.Plain] : ∀ d ∈ "solar-aaaa".toList, Like.Plain d) c
          (hcontains.subset hc)
      · rw [map_toLower_overmatched hs htext, overmatched, String.toList_ofList] at hcontains
        exact hpart hcontains
    have hvisible := visible_anonymousLead cs key (overmatched s)
    refine ((hexact _ hmem hvisible).mp ?_).elim hnotNamed hnone
    rw [mem_matching_iff hq hmem hvisible, matchesSearch_iff]
    refine Or.inl ⟨overmatched s, ?_, ?_⟩
    · rw [names_anonymousLead]
      exact List.mem_pair.mpr (Or.inr rfl)
    · rw [hovermatched, overmatched, String.toList_ofList]
      exact hmatch

end Search

end Listing

/-! ### Searches that are not exact -/

namespace Sample

open Listing

/-- A cipher that hides nothing, and its key. -/
def plainCiphers : Ciphers where
  hmacSha256 _ _ := List.replicate 32 0
  aes256Gcm _ _ plaintext := some (plaintext ++ List.replicate 16 0)

def plainKey : Option (List UInt8) := some (List.replicate 32 0)

def adasLead : Table fun l : SubmittedLead => l.uuid :=
  ⟨[submittedLead 21 "SOLAR-AAAA" (some "ada@example.com") none], List.nodup_singleton _⟩

def searching (search : String) : ListQuery := ⟨none, none, some search⟩

theorem searchesFor_ada : SearchesFor (searching "ada@example.com") "ada@example.com" :=
  ⟨by decide, by decide⟩

theorem searchesFor_wildcard : SearchesFor (searching "s_l") "s_l" := ⟨by decide, by decide⟩

theorem lowersAscii_asciiText : LowersAscii toLowercase := fun _ _ => rfl

/-- A function that lower-cases beyond ASCII. -/
def lowerUmlauts (s : String) : String :=
  String.ofList (s.toList.map fun c => if c = 'Ü' then 'ü' else c.toLower)

theorem lowersAscii_lowerUmlauts : LowersAscii lowerUmlauts := by
  intro s hs
  refine congrArg String.ofList (List.map_congr_left fun c hc => if_neg ?_)
  rintro rfl
  exact absurd (hs _ hc) (by decide)

end Sample

end LeadsNebula
