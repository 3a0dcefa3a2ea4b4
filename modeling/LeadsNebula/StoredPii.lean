/-
Personal data at rest.

The personal data of a lead waits in the queue as it came, together with the key that
`create_lead` has found for it; `batch_create_leads` encrypts it into the columns of the
row.  A request that is refused is stored at once, by `persist_failed_lead`.
`get_lead_details` finds the key anew and decrypts the columns.

* `Made.run` — a row stays what it was made for, also when its lead is submitted again;
* `shown_sent` — while the parameters of SSM stay the same, the details of a lead show
  what the request sent that its row was made for, whatever Redis, SSM and the queue do in
  between; nothing if there was no key for it, and no text if there is no key now.
-/
import LeadsNebula.EncryptionKeys
import LeadsNebula.Envelopes

namespace LeadsNebula

/-! ### Columns -/

/-- The fields of a request that are stored encrypted. -/
inductive PiiField where
  | firstName
  | lastName
  | email
  | cellPhone
  | streetAddress
  | city
  | state
  | zip
  | ipAddress
  deriving DecidableEq

def LeadData.piiField (d : LeadData) : PiiField → Option String
  | .firstName => d.firstName
  | .lastName => d.lastName
  | .email => d.email
  | .cellPhone => d.cellPhone
  | .streetAddress => d.streetAddress
  | .city => d.city
  | .state => d.state
  | .zip => d.zip
  | .ipAddress => d.ipAddress

/-- `first_name_encrypted`, and so on. -/
abbrev PiiColumns := PiiField → Option String

/-- The process, and the functions of other packages: PBKDF2 makes a key of 32 bytes of a secret and
a salt. -/
structure PiiParams where
  process : SsmProcess
  environment : String
  c : Primitives
  deriveKeyFromSecret : String → String → { bytes : List UInt8 // bytes.length = 32 }

/-- The secret and the salt that lookups have given. -/
abbrev FoundKey := Option (GivenKey × GivenKey)

namespace PiiParams

variable (p : PiiParams)

def keyPath (name : String) : String :=
  "/leadsnebula/" ++ normalizeEnvForSsm p.environment ++ "/carina/encryption/" ++ name

def detPath : String := p.keyPath "deterministic_key_v1"

def saltPath : String := p.keyPath "key_derivation_salt_v1"

def key (found : FoundKey) : Option (List UInt8) :=
  found.map fun k => (p.deriveKeyFromSecret k.1.value k.2.value).1

end PiiParams

/-- What a row was made for: a request, whether it was refused, and the key that was found. -/
structure StoredPii where
  data : LeadData
  failed : Bool
  found : FoundKey

def StoredPii.columns (p : PiiParams) (x : StoredPii) : PiiColumns := fun field =>
  if x.failed then p.c.encryptPiiOpt (p.key x.found) (x.data.piiField field)
  else p.c.encryptPii (p.key x.found) (x.data.piiField field)

/-- A request that is refused, with what is drawn and looked up for its row. -/
structure FailedLead where
  uuid : Uuid
  eventId : String
  leadId : String
  publisherId : Uuid
  verticalId : Uuid
  requestType : RequestType
  status : LeadStatus
  buyerId : Option Uuid
  campaignId : Option Uuid
  sessionId : String
  verticalData : Json
  data : LeadData

def FailedLead.row (now : Timestamp) (l : FailedLead) : Lead where
  uuid := l.uuid
  eventId := l.eventId
  leadId := some l.leadId
  publisherId := some l.publisherId
  verticalId := l.verticalId
  campaignId := l.campaignId
  buyerId := l.buyerId
  requestType := l.requestType
  strategy := if l.requestType = .fullpost then "fullPost" else "pingPost"
  status := l.status
  promiseId := none
  pingId := none
  -- the column is given the empty text, as in the other INSERT
  postId := some ""
  sessionId := some l.sessionId
  tcpaConsent := l.data.tcpaConsent.getD false
  tcpaLanguage := l.data.tcpaLanguage.getD ""
  isTest := l.data.isTest.getD false
  userAgent := none
  websiteUrl := none
  submittedAt := some now
  soldAt := none
  verticalData := l.verticalData
  createdAt := now
  updatedAt := now

/-! ### The system -/

/-- `sent` is not kept by the program: for what the row of a lead was made. -/
structure PiiSys where
  keys : KeySys
  queue : List (LeadCreation × StoredPii)
  leads : Leads
  columns : Uuid → Option PiiColumns
  sent : Uuid → Option StoredPii

/-- Lookups of keys; `create_lead` queues a lead; the batcher inserts one, or fails to; a refused
request is stored; and the other statements on the table. -/
inductive PiiAction where
  | keys (a : KeyAction)
  | submit (c : LeadCreation) (data : LeadData) (found : FoundKey)
  | create (now : Timestamp) (ok : Bool)
  | persistFailed (l : FailedLead) (now : Timestamp) (found : FoundKey)
  | update (now : Timestamp) (st : LeadStatement)

namespace PiiSys

variable (p : PiiParams) (s : PiiSys)

def new (ssm : SsmService) : PiiSys := ⟨.new ssm, [], .empty, fun _ => none, fun _ => none⟩

/-- A secret and a salt that lookups have given. -/
def Holds (found : FoundKey) : Prop :=
  ∀ k ∈ found, (k.1 ∈ s.keys.given ∧ k.1.path = p.detPath) ∧
    k.2 ∈ s.keys.given ∧ k.2.path = p.saltPath

instance (found : FoundKey) : Decidable (s.Holds p found) :=
  match found with
  | none => isTrue fun _ h => by cases h
  | some k => decidable_of_iff ((k.1 ∈ s.keys.given ∧ k.1.path = p.detPath) ∧
      k.2 ∈ s.keys.given ∧ k.2.path = p.saltPath)
      ⟨fun h _ hk => Option.some.inj hk ▸ h, fun h => h k rfl⟩

/-- The row of a lead, with its columns. -/
def store (leads : Leads) (uuid : Uuid) (x : StoredPii) : PiiSys :=
  { s with
    leads := leads
    columns := Function.update s.columns uuid (some (x.columns p))
    sent := Function.update s.sent uuid (some x) }

/-- `INSERT … ON CONFLICT (lead_id) DO UPDATE`, which leaves the columns of a row that is there. -/
def insertLead (now : Timestamp) (c : LeadCreation) (x : StoredPii) : PiiSys :=
  let leads := (LeadStatement.insertLead c).exec now s.leads
  if (LeadStatement.insertLead c).affects now s.leads || (s.leads.find c.uuid).isSome then
    { s with leads := leads }
  else s.store p leads c.uuid x

/-- The `INSERT` of `persist_failed_lead`, which fails if the uuid or the `lead_id` is taken. -/
def persistFailedLead (now : Timestamp) (l : FailedLead) (found : FoundKey) : PiiSys :=
  if s.leads.rows.any (fun r => r.leadId = some l.leadId) || (s.leads.find l.uuid).isSome then s
  else s.store p (s.leads.insert (l.row now)) l.uuid ⟨l.data, true, found⟩

def step : PiiAction → Option PiiSys
  | .keys a => (s.keys.step p.process a).map fun keys => { s with keys := keys }
  | .submit c data found =>
    if s.Holds p found then some { s with queue := s.queue ++ [(c, ⟨data, false, found⟩)] }
    else none
  | .create now ok =>
    match s.queue with
    | [] => none
    | (c, x) :: queue =>
      let s := { s with queue := queue }
      some (if ok then s.insertLead p now c x else s)
  | .persistFailed l now found =>
    if s.Holds p found then some (s.persistFailedLead p now l found) else none
  | .update now st =>
    if st.IsUpdate then some { s with leads := st.exec now s.leads } else none

/-- `decrypt_pii` of `get_lead_details`. -/
def decryptPii (found : FoundKey) (enc : Option String) : Option String :=
  match p.key found with
  | some key => enc.bind fun e =>
    if e = "" then none
    else match EncryptionService.decryptEnvelope p.c key e with
      | .ok text => some text
      | _ => match (EncryptionService.new key).bind fun svc => svc.decrypt p.c e with
        | .ok text => some text
        | _ => none
  | none => enc.bind fun e =>
    if e = "" then none else some "[Encrypted - decryption key unavailable]"

/-- A field in the details of a lead, with the key that the request has found; the phone number, the
city and the state are not asked for. -/
def shown (found : FoundKey) (uuid : Uuid) (field : PiiField) : Option String :=
  decryptPii p found ((s.columns uuid).bind fun columns => columns field)

/-! ### One column -/

end PiiSys

/-- What there is to store of a field. -/
def StoredPii.text (x : StoredPii) (field : PiiField) : Option String :=
  (if x.failed then (x.data.piiField field).map trim else x.data.piiField field).filter
    fun t => t ≠ ""

section

variable {p : PiiParams} {x : StoredPii} {field : PiiField}

theorem StoredPii.columns_eq : x.columns p field =
    (p.key x.found).bind fun key => (x.text field).bind fun t => p.c.encryptEnvelope key t := by
  unfold StoredPii.columns StoredPii.text Ciphers.encryptPiiOpt Ciphers.encryptPii
  cases p.key x.found with
  | none => cases x.failed <;> cases x.data.piiField field <;> rfl
  | some key =>
    cases x.data.piiField field with
    | none => cases x.failed <;> rfl
    | some t =>
      cases x.failed with
      | false => by_cases ht : t = "" <;> simp [Option.filter, ht]
      | true => by_cases ht : trim t = "" <;> simp [Option.filter, ht]

/-- A text that is encrypted is shown again with the same key, and not at all without one. -/
theorem PiiSys.decryptPii_encryptEnvelope (hc : p.c.Lawful) {found : FoundKey} {key : List UInt8}
    (hlength : key.length = 32) (hkey : found.isSome = true → p.key found = some key)
    {t e : String} (h : p.c.encryptEnvelope key t = some e) :
    PiiSys.decryptPii p found (some e) =
      some (if found.isSome then t else "[Encrypted - decryption key unavailable]") := by
  have hne : e ≠ "" := by
    rintro rfl
    have hhead := Listing.encryptEnvelope_head h
    cases hhead
  cases found with
  | none => exact if_neg hne
  | some k =>
    have henvelope : EncryptionService.encryptEnvelope p.c key t true ⟨List.replicate 12 0, rfl⟩ =
        .ok e := (EncryptionService.encryptEnvelope_eq_ok_iff hc).mpr h
    have hok := EncryptionService.decryptEnvelope_encryptEnvelope hc hlength henvelope
    simp only [PiiSys.decryptPii, hkey rfl, Option.bind_some, if_neg hne, hok, Option.isSome_some,
      if_true]

theorem PiiSys.decryptPii_none (found : FoundKey) : PiiSys.decryptPii p found none = none := by
  unfold PiiSys.decryptPii
  cases p.key found <;> rfl

end

/-! ### Runs -/

namespace PiiSys

variable {p : PiiParams} {s s' : PiiSys}

/-- Every row has the columns of what it was made for, and every key was given by lookups. -/
structure Inv (p : PiiParams) (s : PiiSys) : Prop where
  rows : ∀ u, (s.columns u).isSome = (s.leads.find u).isSome
  columns : ∀ u columns, s.columns u = some columns →
    ∃ x, s.sent u = some x ∧ columns = x.columns p ∧ s.Holds p x.found
  queue : ∀ q ∈ s.queue, s.Holds p q.2.found

theorem inv_new (p : PiiParams) (ssm : SsmService) : (new ssm).Inv p where
  rows _ := rfl
  columns _ _ h := by cases h
  queue _ h := by cases h

theorem Holds.mono {found : FoundKey} (h : s.Holds p found)
    (hgiven : s.keys.given ⊆ s'.keys.given) :
    s'.Holds p found := by
  intro k hk
  obtain ⟨⟨hdet, hdet'⟩, hsalt, hsalt'⟩ := h k hk
  exact ⟨⟨hgiven hdet, hdet'⟩, hgiven hsalt, hsalt'⟩

/-- The rows after an insertion: those that were there, and the new one. -/
theorem find_insertLead {now : Timestamp} {c : LeadCreation} {leads : Leads} (u : Uuid) :
    (((LeadStatement.insertLead c).exec now leads).find u).isSome =
      ((leads.find u).isSome ||
        (decide (u = c.uuid) && !(LeadStatement.insertLead c).affects now leads)) := by
  rw [LeadStatement.exec]
  split
  · next haffects =>
    have haffects' : (LeadStatement.insertLead c).affects now leads = true := haffects
    rw [Table.find_update, Option.isSome_map, haffects', Bool.not_true, Bool.and_false,
      Bool.or_false]
  · next hnone =>
    have hnone' : (LeadStatement.insertLead c).affects now leads = false :=
      Bool.eq_false_iff.mpr hnone
    rw [Table.find_insert, Option.isSome_or, hnone', Bool.not_false, Bool.and_true]
    congr 1
    by_cases hu : c.uuid = u
    · simp [LeadCreation.row, hu]
    · simp [LeadCreation.row, hu, Ne.symm hu]

/-- A new row comes with its columns. -/
theorem Inv.store (h : s.Inv p) {leads : Leads} {uuid : Uuid} {x : StoredPii}
    (hx : s.Holds p x.found)
    (hrows : ∀ u, (leads.find u).isSome = ((s.leads.find u).isSome || decide (u = uuid))) :
    (s.store p leads uuid x).Inv p := by
  refine ⟨fun u => ?_, fun u columns hcolumns => ?_, h.queue⟩
  · show (Function.update s.columns uuid _ u).isSome = (leads.find u).isSome
    rw [hrows]
    by_cases heq : u = uuid
    · rw [heq, Function.update_self, decide_eq_true rfl, Bool.or_true]
      rfl
    · rw [Function.update_of_ne heq, decide_eq_false heq, Bool.or_false, h.rows]
  · have hcolumns' : Function.update s.columns uuid (some (x.columns p)) u = some columns :=
      hcolumns
    show ∃ x', Function.update s.sent uuid (some x) u = some x' ∧ _
    by_cases heq : u = uuid
    · rw [heq, Function.update_self] at hcolumns'
      rw [heq, Function.update_self]
      exact ⟨x, rfl, (Option.some.inj hcolumns').symm, hx⟩
    · rw [Function.update_of_ne heq] at hcolumns'
      rw [Function.update_of_ne heq]
      exact h.columns u columns hcolumns'

theorem Inv.insertLead (h : s.Inv p) {now : Timestamp} {c : LeadCreation} {x : StoredPii}
    (hx : s.Holds p x.found) : (s.insertLead p now c x).Inv p := by
  rw [PiiSys.insertLead]
  split
  · next hold =>
    refine ⟨fun u => ?_, h.columns, h.queue⟩
    rw [h.rows, find_insertLead]
    by_cases hu : u = c.uuid
    · -- the statement changes a row, or the uuid is taken
      rw [hu, decide_eq_true rfl, Bool.true_and]
      rcases Bool.or_eq_true_iff.mp hold with haffects | hfind
      · rw [haffects, Bool.not_true, Bool.or_false]
      · rw [hfind, Bool.true_or]
    · rw [decide_eq_false hu, Bool.false_and, Bool.or_false]
  · next hnew =>
    refine h.store hx fun u => ?_
    rw [Bool.not_eq_true, Bool.or_eq_false_iff] at hnew
    rw [find_insertLead, hnew.1, Bool.not_false, Bool.and_true]

theorem Inv.persistFailedLead (h : s.Inv p) {now : Timestamp} {l : FailedLead} {found : FoundKey}
    (hfound : s.Holds p found) : (s.persistFailedLead p now l found).Inv p := by
  rw [PiiSys.persistFailedLead]
  split
  · exact h
  · refine h.store hfound fun u => ?_
    rw [Table.find_insert, Option.isSome_or]
    congr 1
    by_cases hu : l.uuid = u
    · simp [FailedLead.row, hu]
    · simp [FailedLead.row, hu, Ne.symm hu]

theorem inv_step {a : PiiAction} (h : s.Inv p) (hstep : s.step p a = some s') : s'.Inv p := by
  cases a with
  | keys a =>
    obtain ⟨keys, hkeys, rfl⟩ := Option.map_eq_some_iff.mp hstep
    -- the key service gives more and takes nothing back
    have hgiven := KeySys.given_subset_step hkeys
    refine ⟨h.rows, fun u columns hcolumns => ?_, fun q hq => (h.queue q hq).mono hgiven⟩
    obtain ⟨x, hx, heq, hfound⟩ := h.columns u columns hcolumns
    exact ⟨x, hx, heq, hfound.mono hgiven⟩
  | submit c data found =>
    rw [step] at hstep
    split at hstep
    · next hfound =>
      obtain rfl := Option.some.inj hstep
      refine ⟨h.rows, h.columns, fun q hq => ?_⟩
      rcases List.mem_append.mp hq with hq | hq
      · exact h.queue q hq
      · obtain rfl := List.mem_singleton.mp hq
        exact hfound
    · cases hstep
  | create now ok =>
    rw [step] at hstep
    split at hstep
    · cases hstep
    · next c x queue hqueue =>
      -- the task is taken from the queue, whether its statement goes through or not
      have hrest : ({ s with queue := queue } : PiiSys).Inv p := by
        refine ⟨h.rows, h.columns, fun q hq => h.queue q ?_⟩
        rw [hqueue]
        exact List.mem_cons_of_mem _ hq
      obtain rfl := Option.some.inj hstep
      cases ok with
      | false => exact hrest
      | true =>
        refine hrest.insertLead (h.queue (c, x) ?_)
        rw [hqueue]
        exact List.mem_cons_self
  | persistFailed l now found =>
    rw [step] at hstep
    split at hstep
    · next hfound =>
      obtain rfl := Option.some.inj hstep
      exact h.persistFailedLead hfound
    · cases hstep
  | update now st =>
    rw [step] at hstep
    split at hstep
    · next hup =>
      obtain rfl := Option.some.inj hstep
      -- updates keep the rows there are, and none of them writes an encrypted column
      refine ⟨fun u => ?_, h.columns, h.queue⟩
      rw [LeadStatement.find_exec_of_isUpdate hup, Option.isSome_map, h.rows]
    · cases hstep

/-- The row of `u` is there, and was made for `x`. -/
def Made (s : PiiSys) (u : Uuid) (x : StoredPii) : Prop :=
  (s.leads.find u).isSome = true ∧ s.sent u = some x

theorem Made.store {u uuid : Uuid} {x x' : StoredPii} (h : s.Made u x) {leads : Leads}
    (hfree : (s.leads.find uuid).isSome = false)
    (hrows : (s.leads.find u).isSome = true → (leads.find u).isSome = true) :
    (s.store p leads uuid x').Made u x := by
  have hne : u ≠ uuid := by
    rintro rfl
    rw [h.1] at hfree
    cases hfree
  refine ⟨hrows h.1, ?_⟩
  show Function.update s.sent uuid (some x') u = some x
  rw [Function.update_of_ne hne]
  exact h.2

/-- Another submission of the lead does not change for what its row was made. -/
theorem Made.step {u : Uuid} {x : StoredPii} {a : PiiAction} (h : s.Made u x)
    (hstep : s.step p a = some s') : s'.Made u x := by
  cases a with
  | keys a =>
    obtain ⟨keys, -, rfl⟩ := Option.map_eq_some_iff.mp hstep
    exact h
  | submit c data found =>
    rw [PiiSys.step] at hstep
    split at hstep
    · obtain rfl := Option.some.inj hstep
      exact h
    · cases hstep
  | create now ok =>
    rw [PiiSys.step] at hstep
    split at hstep
    · cases hstep
    · next c x' queue hqueue =>
      obtain rfl := Option.some.inj hstep
      cases ok with
      | false => exact h
      | true =>
        have hrows : (s.leads.find u).isSome = true →
            (((LeadStatement.insertLead c).exec now s.leads).find u).isSome = true := by
          intro hu
          rw [find_insertLead, hu, Bool.true_or]
        -- a row that is there already keeps its columns; a new one has another id
        show (PiiSys.insertLead p _ now c x').Made u x
        rw [PiiSys.insertLead]
        split
        · exact ⟨hrows h.1, h.2⟩
        · next hnew =>
          rw [Bool.not_eq_true, Bool.or_eq_false_iff] at hnew
          exact Made.store (s := { s with queue := queue }) h hnew.2 hrows
  | persistFailed l now found =>
    rw [PiiSys.step] at hstep
    split at hstep
    · obtain rfl := Option.some.inj hstep
      rw [PiiSys.persistFailedLead]
      split
      · exact h
      · next hnew =>
        rw [Bool.not_eq_true, Bool.or_eq_false_iff] at hnew
        refine h.store hnew.2 fun hu => ?_
        rw [Table.find_insert, Option.isSome_or, hu, Bool.true_or]
    · cases hstep
  | update now st =>
    rw [PiiSys.step] at hstep
    split at hstep
    · next hup =>
      obtain rfl := Option.some.inj hstep
      -- an UPDATE writes no column that is encrypted
      refine ⟨?_, h.2⟩
      rw [LeadStatement.find_exec_of_isUpdate hup, Option.isSome_map]
      exact h.1
    · cases hstep

theorem Made.run {u : Uuid} {x : StoredPii} {acts : List PiiAction} (h : s.Made u x)
    (hrun : Transition.run (PiiSys.step p) s acts = some s') : s'.Made u x :=
  Transition.inv_of_run (P := fun _ _ => True) (fun hs _ hstep => Made.step hs hstep) h
    (Transition.along_true _ _) hrun

theorem keys_step {a : PiiAction} (hstep : s.step p a = some s') : s'.keys = s.keys ∨
    ∃ b, True ∧ KeySys.step p.process s.keys b = some s'.keys := by
  cases a with
  | keys a =>
    obtain ⟨keys, hkeys, rfl⟩ := Option.map_eq_some_iff.mp hstep
    exact Or.inr ⟨a, trivial, hkeys⟩
  | create now ok =>
    -- a creation encrypts by the keys at hand and leaves them
    left
    rw [step] at hstep
    split at hstep
    · cases hstep
    · obtain rfl := Option.some.inj hstep
      cases ok with
      | false => rfl
      | true =>
        show (insertLead _ _ _ _ _).keys = _
        rw [PiiSys.insertLead]
        split <;> rfl
  | persistFailed l now found =>
    left
    rw [step] at hstep
    split at hstep
    · obtain rfl := Option.some.inj hstep
      rw [PiiSys.persistFailedLead]
      split <;> rfl
    · cases hstep
  | submit c data found | update now st =>
    left
    rw [step] at hstep
    split at hstep
    · obtain rfl := Option.some.inj hstep
      rfl
    · cases hstep

/-- The lookups of a run are a run of their own. -/
theorem keys_run {ssm : SsmService} {acts : List PiiAction}
    (hrun : Transition.run (step p) (new ssm) acts = some s) :
    ∃ kacts, Transition.run (KeySys.step p.process) (.new ssm) kacts = some s.keys := by
  have hkeep : ∀ {s s' : PiiSys} {a : PiiAction}, True → True → s.step p a = some s' → True :=
    fun _ _ _ => trivial
  obtain ⟨kacts, -, hkacts⟩ := Transition.refines_run (P := fun _ _ => True)
    (Q := fun _ _ => True) PiiSys.keys hkeep (fun _ _ hstep => keys_step hstep) trivial
    (Transition.along_true _ _) hrun
  exact ⟨kacts, hkacts⟩

/-- What lookups give, SSM has answered, or it is a variable. -/
theorem given_answered {ssm : SsmService} (hempty : ssm.store.rows = []) {acts : List PiiAction}
    (hrun : Transition.run (step p) (new ssm) acts = some s) {path secret : String}
    (hanswered : ∀ g ∈ s.keys.answered, g.path = path → g.value = secret)
    (hvariable : ∀ v, p.process.tryDevEncryptionFallback path = some v → v = secret)
    {g : GivenKey} (hg : g ∈ s.keys.given) (hpath : g.path = path) : g.value = secret := by
  obtain ⟨kacts, hkacts⟩ := keys_run hrun
  obtain ⟨hprompt, -⟩ := KeySys.prompt_of_run hkacts le_rfl
  rcases (KeySys.inv_run hempty hprompt hkacts).given g hg with h | ⟨time, hmem, -⟩
  · exact hvariable _ (hpath ▸ h)
  · exact hanswered ⟨time, g.path, g.withDecryption, g.value⟩ hmem hpath

theorem inv_run {ssm : SsmService} {acts : List PiiAction}
    (hrun : Transition.run (step p) (new ssm) acts = some s) : s.Inv p :=
  Transition.inv_of_run (P := fun _ _ => True) (fun hs _ hstep => inv_step hs hstep)
    (inv_new p ssm) (Transition.along_true _ _) hrun

/-- While SSM answers the same secret and the same salt, each field in the details of a lead is what
the request sent that the row was made for (without the spaces around it, if it was refused), if
there was a key for it, as long as there is a key now; else a text says that there is something.
This holds from when the row is there, also if the lead is submitted again with other data. -/
theorem shown_sent (hc : p.c.Lawful) {env : String} {redis : Option String}
    {acts acts' : List PiiAction} {s₀ : PiiSys}
    (hbefore : Transition.run (step p) (new (.new env redis)) acts = some s₀)
    (hrun : Transition.run (step p) s₀ acts' = some s) {secret salt : String}
    (hsecret : ∀ g ∈ s.keys.answered, g.path = p.detPath → g.value = secret)
    (hsalt : ∀ g ∈ s.keys.answered, g.path = p.saltPath → g.value = salt)
    (hsecret' : ∀ v, p.process.tryDevEncryptionFallback p.detPath = some v → v = secret)
    (hsalt' : ∀ v, p.process.tryDevEncryptionFallback p.saltPath = some v → v = salt)
    {u : Uuid} (hrow : (s₀.leads.find u).isSome = true) :
    ∃ x, s₀.sent u = some x ∧ ∀ field,
      (∀ t ∈ x.text field, t.utf8ByteSize ≤ 2 ^ 36) → ∀ found, s.Holds p found →
        s.shown p found u field =
          (if x.found.isSome then x.text field else none).map fun t =>
            if found.isSome then t else "[Encrypted - decryption key unavailable]" := by
  have hall : Transition.run (step p) (new (.new env redis)) (acts ++ acts') = some s :=
    Transition.run_append.mpr ⟨s₀, hbefore, hrun⟩
  have hkey : ∀ found, s.Holds p found → found.isSome = true →
      p.key found = some (p.deriveKeyFromSecret secret salt).1 := by
    intro found hfound hsome
    obtain ⟨k, rfl⟩ := Option.isSome_iff_exists.mp hsome
    obtain ⟨⟨hdet, hdetPath⟩, hs, hsaltPath⟩ := hfound k rfl
    rw [PiiParams.key, Option.map_some, given_answered rfl hall hsecret hsecret' hdet hdetPath,
      given_answered rfl hall hsalt hsalt' hs hsaltPath]
  -- the row was made for `x`, and it still is
  obtain ⟨columns₀, hcolumns₀⟩ := Option.isSome_iff_exists.mp
    (((inv_run hbefore).rows u).trans hrow)
  obtain ⟨x, hx, -, -⟩ := (inv_run hbefore).columns u columns₀ hcolumns₀
  have hmade : s.Made u x := Made.run ⟨hrow, hx⟩ hrun
  obtain ⟨columns, hcolumns⟩ := Option.isSome_iff_exists.mp (((inv_run hall).rows u).trans hmade.1)
  obtain ⟨x', hx', rfl, hxfound⟩ := (inv_run hall).columns u columns hcolumns
  obtain rfl : x' = x := Option.some.inj (hx'.symm.trans hmade.2)
  refine ⟨x', hx, fun field hsize found hfound => ?_⟩
  rw [shown, hcolumns, Option.bind_some, StoredPii.columns_eq]
  by_cases hsome : x'.found.isSome = true
  · rw [hkey x'.found hxfound hsome, Option.bind_some, if_pos hsome]
    cases ht : x'.text field with
    | none => exact decryptPii_none found
    | some t =>
      have hlength := (p.deriveKeyFromSecret secret salt).2
      have hbytes : t.toUTF8.toList.length ≤ 2 ^ 36 := by
        rw [Encoding.byteArray_toList]
        exact hsize t ht
      obtain ⟨⟨e, he⟩, -⟩ := EncryptionService.encrypted hc hlength hbytes true
        ⟨List.replicate 12 0, rfl⟩
      have he' := (EncryptionService.encryptEnvelope_eq_ok_iff hc).mp he
      rw [Option.bind_some, he', Option.map_some]
      exact decryptPii_encryptEnvelope hc hlength (hkey found hfound) he'
  · rw [if_neg hsome]
    rw [Option.not_isSome_iff_eq_none] at hsome
    rw [hsome]
    exact decryptPii_none found

end PiiSys

/-! ### A lead that is submitted twice -/

namespace Sample

open PiiSys

def piiParams : PiiParams where
  process := plainProcess
  environment := "production"
  c := plainPrimitives
  deriveKeyFromSecret _ _ := ⟨zeroKey 32, rfl⟩

def secretKey : GivenKey := ⟨0, piiParams.detPath, true, "secret"⟩

def saltKey : GivenKey := ⟨0, piiParams.saltPath, true, "salt"⟩

def namedLead : LeadCreation := (ping false).leadCreation new

/-- The secret and the salt are looked up, and a lead is submitted and stored. -/
def storeActs : List PiiAction :=
  [.keys (.getSsmParameterCached piiParams.detPath true (answered (some "secret"))),
    .keys (.getSsmParameterCached piiParams.saltPath true (answered (some "salt"))),
    .submit namedLead (body "ping" none) (some (secretKey, saltKey)), .create 0 true]

/-- The same `lead_id` comes with another name, while SSM cannot be reached. -/
def againActs : List PiiAction :=
  [.submit { namedLead with uuid := 8 } { body "ping" none with firstName := some "Eve" } none,
    .create 1 true]

def piiStart : PiiSys := .new (.new "production" (some "production"))

theorem storeActs_run : ∃ s₀ s,
    Transition.run (PiiSys.step piiParams) piiStart storeActs = some s₀ ∧
    Transition.run (PiiSys.step piiParams) s₀ againActs = some s ∧
    (s₀.leads.find 7).isSome = true ∧
    s₀.sent 7 = some ⟨body "ping" none, false, some (secretKey, saltKey)⟩ ∧
    s.keys.answered = [secretKey, saltKey] ∧ s.Holds piiParams (some (secretKey, saltKey)) :=
  ⟨_, _, rfl, rfl, rfl, rfl, rfl, by decide⟩

/-- The details show the first name that came first. -/
theorem storedPii_shown : ∃ s₀ s,
    Transition.run (PiiSys.step piiParams) piiStart storeActs = some s₀ ∧
    Transition.run (PiiSys.step piiParams) s₀ againActs = some s ∧
    s.shown piiParams (some (secretKey, saltKey)) 7 .firstName = some "Ada" ∧
    s.shown piiParams none 7 .firstName = some "[Encrypted - decryption key unavailable]" := by
  obtain ⟨s₀, s, hbefore, hrun, hrow, hsent, hanswered, hholds⟩ := storeActs_run
  have hpaths : piiParams.detPath ≠ piiParams.saltPath := by decide
  -- only one answer was given for each of the two parameters
  have hsecret : ∀ g ∈ s.keys.answered, g.path = piiParams.detPath → g.value = "secret" := by
    simp [hanswered, secretKey, saltKey, hpaths.symm]
  have hsalt : ∀ g ∈ s.keys.answered, g.path = piiParams.saltPath → g.value = "salt" := by
    simp [hanswered, secretKey, saltKey, hpaths]
  have hvariable : ∀ path v w,
      piiParams.process.tryDevEncryptionFallback path = some v → v = w := by
    intro path v w h
    rw [show piiParams.process = plainProcess from rfl, plainProcess_fallback] at h
    cases h
  obtain ⟨x, hx, hshown⟩ := shown_sent plainPrimitives_lawful hbefore hrun hsecret hsalt
    (fun v => hvariable _ v _) (fun v => hvariable _ v _) hrow
  obtain rfl := Option.some.inj (hsent.symm.trans hx)
  have hsize : ∀ t ∈ StoredPii.text ⟨body "ping" none, false, some (secretKey, saltKey)⟩ .firstName,
      t.utf8ByteSize ≤ 2 ^ 36 := by
    intro t ht
    obtain rfl := Option.some.inj ht
    decide
  exact ⟨s₀, s, hbefore, hrun, hshown _ hsize _ hholds, hshown _ hsize none fun _ h => by cases h⟩

end Sample

end LeadsNebula
