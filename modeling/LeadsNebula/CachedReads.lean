/-
What the cache serves, over all the calls of a program.

A program caches values of many types, each under keys of its own, and not every call
of a key expects the same type: a row may be stored by a call for a row, and read by
one for an optional row.  A `CacheSchema` says what is cached under which key; a
`CacheWorld` is a cache beside the source of its values, which changes, and other
processes that fill the same Redis.

* `inv_step` — every event keeps that each level holds, under a key, what the source
  answered for that very key;
* `served_recent` — so in every run whose sources answer truly, a call gives what the
  source would have answered for its key at a moment that lies back less than the
  key's time-to-live, the hour of L1, and the time that a source takes.

Between the lookup of a call and the value of its source anything may happen too.
-/
import LeadsNebula.CacheRuns
import LeadsNebula.Triple

namespace LeadsNebula

/-! ### Optional values -/

/-- The JSON text of a missing value. -/
def nullText : String := "null"

/-- How an optional value is read and written. -/
def Codec.option {ν : Type} (c : Codec ν) : Codec (Option ν) where
  simdFromSlice text := if text = nullText then some none else (c.simdFromSlice text).map some
  serdeFromSlice text := if text = nullText then some none else (c.serdeFromSlice text).map some
  simdToVec
    | none => some nullText
    | some v => c.simdToVec v
  serdeToString
    | none => some nullText
    | some v => c.serdeToString v

section

variable {ν : Type} (c : Codec ν)

@[simp] theorem Codec.option_encode_none : c.option.encode none = some nullText := rfl

@[simp] theorem Codec.option_encode_some (v : ν) : c.option.encode (some v) = c.encode v := rfl

theorem Codec.option_decode (text : String) :
    c.option.decode text = if text = nullText then some none else (c.decode text).map some := by
  simp only [Codec.decode, Codec.option]
  split
  · rfl
  · cases c.simdFromSlice text with
    | none => rfl
    | some v => rfl

end

/-! ### A call whose lookup found nothing -/

/-- What is left of `getOrInsertWith`. -/
def fetchAndStore {ν : Type} (c : Codec ν) (key : String) (ttl : ℕ) (source : Except String ν)
    (faults : CallFaults) : CacheProg (Served ν) := do
  let v ← runSource source
  let now ← CacheProg.read CacheService.now
  cacheStore c key ttl v faults.setFault
  pure ⟨v, .source, now⟩

/-- What is left of `getOrInsertWithSkipNone`. -/
def fetchAndStoreSkipNone {ν : Type} (c : Codec ν) (key : String) (ttl : ℕ)
    (source : Except String (Option ν)) (faults : CallFaults) : CacheProg (Served (Option ν)) := do
  let value ← runSource source
  let now ← CacheProg.read CacheService.now
  Prog.ifSome value fun v => cacheStore c key ttl v faults.setFault
  pure ⟨value, .source, now⟩

section

variable {ν : Type} (c : Codec ν) (key : String) (ttl : ℕ) (faults : CallFaults) (s : CacheService)

theorem agrees_self (s : CacheService) : s.Agrees s := ⟨rfl, rfl, rfl, rfl⟩

theorem touched_fetchAndStore (source : Except String ν) :
    Touched key ttl s (fetchAndStore c key ttl source faults s).2 := by
  cases source with
  | error message => exact (agrees_self s).touched key ttl
  | ok v => exact Prog.then_pure_state ▸ touched_cacheStore (agrees_self s) v faults.setFault

theorem touched_fetchAndStoreSkipNone (source : Except String (Option ν)) :
    Touched key ttl s (fetchAndStoreSkipNone c key ttl source faults s).2 := by
  cases source with
  | error message => exact (agrees_self s).touched key ttl
  | ok value =>
    cases value with
    | none => exact (agrees_self s).touched key ttl
    | some v => exact Prog.then_pure_state ▸ touched_cacheStore (agrees_self s) v faults.setFault

end

/-! ### What is cached under which key -/

/-- The type of the values of a key, how they are read and written, the text of the key, and the
longest that a call stores a value of it for. -/
structure CacheSchema (κ : Type) where
  Val : κ → Type
  codec : (k : κ) → Codec (Val k)
  text : κ → String
  ttl : κ → ℕ

/-- Keys have texts of their own, a value is read back as it was written, and `null` is no value. -/
structure CacheSchema.Lawful {κ : Type} (S : CacheSchema κ) : Prop where
  text_injective : Function.Injective S.text
  decode_encode : ∀ k v text, (S.codec k).encode v = some text → (S.codec k).decode text = some v
  decode_null : ∀ k, (S.codec k).decode nullText = none

section

variable {κ : Type} (S : CacheSchema κ)

/-- A call for a value; for an optional one; for an optional one of which only a value is stored. -/
inductive CacheCall where
  | plain (k : κ) (ttl : ℕ) (source : Except String (S.Val k)) (faults : CallFaults)
  | option (k : κ) (ttl : ℕ) (source : Except String (Option (S.Val k))) (faults : CallFaults)
  | skipNone (k : κ) (ttl : ℕ) (source : Except String (Option (S.Val k))) (faults : CallFaults)

variable {S}

namespace CacheCall

def key : CacheCall S → κ
  | plain k _ _ _ | option k _ _ _ | skipNone k _ _ _ => k

def ttl : CacheCall S → ℕ
  | plain _ ttl _ _ | option _ ttl _ _ | skipNone _ ttl _ _ => ttl

/-- What the call gives. -/
def Out : CacheCall S → Type
  | plain k _ _ _ => S.Val k
  | option k _ _ _ | skipNone k _ _ _ => Option (S.Val k)

/-- The answer of the source that a value of the call is. -/
def answer : (c : CacheCall S) → c.Out → Option (S.Val c.key)
  | plain _ _ _ _ => some
  | option _ _ _ _ | skipNone _ _ _ _ => id

/-- What the source gives, if it is asked. -/
def source : (c : CacheCall S) → Except String c.Out
  | plain _ _ source _ | option _ _ source _ | skipNone _ _ source _ => source

def start : (c : CacheCall S) → CacheProg (Served c.Out)
  | plain k ttl source faults => getOrInsertWith (S.codec k) (S.text k) ttl source faults
  | option k ttl source faults => getOrInsertWith (S.codec k).option (S.text k) ttl source faults
  | skipNone k ttl source faults =>
    getOrInsertWithSkipNone (S.codec k) (S.text k) ttl source faults

def finish : (c : CacheCall S) → CacheProg (Served c.Out)
  | plain k ttl source faults => fetchAndStore (S.codec k) (S.text k) ttl source faults
  | option k ttl source faults => fetchAndStore (S.codec k).option (S.text k) ttl source faults
  | skipNone k ttl source faults => fetchAndStoreSkipNone (S.codec k) (S.text k) ttl source faults

/-- The call; `missed` says that its lookup was made before, and found nothing. -/
def run (c : CacheCall S) (missed : Bool) : CacheProg (Served c.Out) :=
  if missed then c.finish else c.start

/-- A call changes only the entries of its key. -/
theorem touched_run (c : CacheCall S) (missed : Bool) (s : CacheService) :
    Touched (S.text c.key) c.ttl s (c.run missed s).2 := by
  cases missed with
  | false =>
    cases c with
    | plain k ttl source faults => exact touched_getOrInsertWith _ _ _ _ _ _
    | option k ttl source faults => exact touched_getOrInsertWith _ _ _ _ _ _
    | skipNone k ttl source faults => exact touched_getOrInsertWithSkipNone _ _ _ _ _ _
  | true =>
    cases c with
    | plain k ttl source faults => exact touched_fetchAndStore _ _ _ _ _ _
    | option k ttl source faults => exact touched_fetchAndStore _ _ _ _ _ _
    | skipNone k ttl source faults => exact touched_fetchAndStoreSkipNone _ _ _ _ _ _

end CacheCall

/-! ### The cache holds what the source answered -/

variable (S) in
/-- What the source answered for a key at a time. -/
abbrev Answered := ℕ → (k : κ) → Option (S.Val k) → Prop

variable {ans ans' : Answered S} {n : ℕ} {k : κ} {e : Cached} {s s' : CacheService}

variable (ans) in
/-- The text of an answer that the source has given for the key. -/
structure Right (n : ℕ) (k : κ) (e : Cached) : Prop where
  past : e.fetchedAt ≤ n
  right : ∃ o, (S.codec k).option.encode o = some e.text ∧ ans e.fetchedAt k o

variable (ans) in
/-- Under every key each level holds such a text, and for no longer than the key allows. -/
structure Sound (s : CacheService) : Prop where
  l1 : ∀ k e, s.l1.entries (S.text k) = some e →
    Right ans s.now k e.value ∧ e.storedAt < e.value.fetchedAt + S.ttl k
  l2 : ∀ k r e, s.redis = some r → e ∈ s.l2.rows → e.key = redisKey r (S.text k) →
    Right ans s.now k e.value ∧ ∃ d, e.deadline = some d ∧ d ≤ e.value.fetchedAt + S.ttl k

variable (ans) in
/-- What a call gives at time `n`. -/
structure Recent (n : ℕ) (k : κ) (fetchedAt : ℕ) (o : Option (S.Val k)) : Prop where
  answered : ans fetchedAt k o
  past : fetchedAt ≤ n
  young : n < fetchedAt + S.ttl k + l1Ttl

/-! ### What keeps it so -/

/-- Time passes, entries go away, and the source gives more answers. -/
theorem Sound.shrink (h : Sound ans s) (hans : ∀ t k o, ans t k o → ans' t k o)
    (hredis : s'.redis = s.redis) (hnow : s.now ≤ s'.now)
    (hl1 : ∀ key e, s'.l1.entries key = some e → s.l1.entries key = some e)
    (hl2 : ∀ e ∈ s'.l2.rows, e ∈ s.l2.rows) : Sound ans' s' := by
  have hright : ∀ {k e}, Right ans s.now k e → Right ans' s'.now k e := by
    intro k e hr
    obtain ⟨o, htext, ho⟩ := hr.right
    exact ⟨hr.past.trans hnow, o, htext, hans _ _ _ ho⟩
  constructor
  · intro k e he
    obtain ⟨hr, hstored⟩ := h.l1 k e (hl1 _ e he)
    exact ⟨hright hr, hstored⟩
  · intro k r e hr he hkey
    obtain ⟨hright', hdeadline⟩ := h.l2 k r e (hredis ▸ hr) (hl2 e he) hkey
    exact ⟨hright hright', hdeadline⟩

theorem Sound.agrees (h : Sound ans s) (hs : s.Agrees s') : Sound ans s' :=
  h.shrink (fun _ _ _ ho => ho) hs.redis hs.now.ge (fun _ _ he => hs.l1 ▸ he) fun _ he => hs.l2 ▸ he

theorem Sound.l1Insert (hS : S.Lawful) (h : Sound ans s) (he : Right ans s.now k e)
    (hyoung : s.now < e.fetchedAt + S.ttl k) : Sound ans (s.l1Insert (S.text k) e) where
  l1 := by
    intro k' e' he'
    simp only [CacheService.l1Insert, TtlCache.insert] at he'
    by_cases hk : k' = k
    · subst hk
      rw [Function.update_self] at he'
      cases he'
      exact ⟨he, hyoung⟩
    · rw [Function.update_of_ne fun heq => hk (hS.text_injective heq)] at he'
      exact h.l1 k' e' he'
  l2 := h.l2

theorem Sound.setWithTtl (hS : S.Lawful) (h : Sound ans s) (he : Right ans s.now k e) {r : String}
    (hr : s.redis = some r) (hnew : e.fetchedAt = s.now) {ttl : ℕ} (hpos : 0 < ttl)
    (httl : ttl ≤ S.ttl k) :
    Sound ans (s.withL2 (s.l2.setWithTtl s.now (redisKey r (S.text k)) e ttl)) where
  l1 := h.l1
  l2 := by
    intro k' r' e' hr' he' hkey
    obtain rfl : r = r' := Option.some.inj (hr.symm.trans hr')
    rcases RedisStore.mem_put he' with hold | rfl
    · exact h.l2 k' r e' hr hold hkey
    · obtain rfl : k = k' := hS.text_injective (redisKey_inj.mp hkey)
      refine ⟨he, s.now + ttl, if_pos hpos, ?_⟩
      show s.now + ttl ≤ e.fetchedAt + S.ttl k
      omega

/-! ### Lookups and stores -/

/-- A call of the key reads and writes its values in the form of the key. -/
structure ReadsAs (k : κ) {ν : Type} (c : Codec ν) (f : ν → Option (S.Val k)) : Prop where
  decode : ∀ {o text v}, (S.codec k).option.encode o = some text → c.decode text = some v → f v = o
  encode : ∀ {v text}, c.encode v = some text → (S.codec k).option.encode (f v) = some text

theorem readsAs_plain (hS : S.Lawful) (k : κ) : ReadsAs k (S.codec k) some where
  decode := by
    intro o text v ho hv
    cases o with
    | none =>
      cases ho
      rw [hS.decode_null] at hv
      cases hv
    | some v' =>
      rw [hS.decode_encode k v' text ho] at hv
      exact hv.symm
  encode h := h

theorem readsAs_option (hS : S.Lawful) (k : κ) : ReadsAs (S := S) k (S.codec k).option id where
  decode := by
    intro o text v ho hv
    rw [Codec.option_decode] at hv
    cases o with
    | none =>
      cases ho
      rw [if_pos rfl] at hv
      exact (Option.some.inj hv).symm
    | some v' =>
      have hread := hS.decode_encode k v' text ho
      have hne : text ≠ nullText := by
        rintro rfl
        rw [hS.decode_null] at hread
        cases hread
      rw [if_neg hne, hread] at hv
      exact (Option.some.inj hv).symm
  encode h := h

/-- A text that can be read, in a level that holds right texts. -/
theorem recent_of_readable {ν : Type} {c : Codec ν} {f : ν → Option (S.Val k)} (hf : ReadsAs k c f)
    {v : ν} {found : Option Cached} (hread : c.readable found = some (e, v))
    (hright : Right ans n k e) (hyoung : n < e.fetchedAt + S.ttl k + l1Ttl) :
    found = some e ∧ Recent ans n k e.fetchedAt (f v) := by
  obtain ⟨e', rfl, hv⟩ := Option.bind_eq_some_iff.mp hread
  obtain ⟨v', hdecode, heq⟩ := Option.map_eq_some_iff.mp hv
  cases heq
  obtain ⟨o, htext, ho⟩ := hright.right
  rw [← hf.decode htext hdecode] at ho
  exact ⟨rfl, ho, hright.past, hyoung⟩

theorem recent_of_l1 (h : Sound ans s) {ν : Type} {c : Codec ν} {f : ν → Option (S.Val k)}
    (hf : ReadsAs k c f) {v : ν} (hread : c.readable (s.l1Get (S.text k)) = some (e, v)) :
    Recent ans s.now k e.fetchedAt (f v) := by
  obtain ⟨e', hget, -⟩ := Option.bind_eq_some_iff.mp hread
  obtain ⟨t, hentry, hlive⟩ := TtlCache.get_eq_some.mp hget
  obtain ⟨hright, hstored⟩ := h.l1 k _ hentry
  have hsame : e' = e := by
    obtain ⟨e'', he'', hv⟩ := Option.bind_eq_some_iff.mp hread
    obtain ⟨v', -, heq⟩ := Option.map_eq_some_iff.mp hv
    cases heq
    exact Option.some.inj (hget.symm.trans he'')
  subst hsame
  have hyoung : s.now < e'.fetchedAt + S.ttl k + l1Ttl := by
    simp only at hstored
    omega
  exact (recent_of_readable hf hread hright hyoung).2

theorem right_of_l2 (h : Sound ans s) (hget : s.l2Get (S.text k) = some e) :
    Right ans s.now k e ∧ s.now < e.fetchedAt + S.ttl k := by
  obtain ⟨r, hr, hfind⟩ := Option.bind_eq_some_iff.mp hget
  obtain ⟨entry, hmem, hkey, rfl, halive⟩ := RedisStore.get_eq_some hfind
  obtain ⟨hright, d, hd, hle⟩ := h.l2 k r entry hr hmem hkey
  refine ⟨hright, ?_⟩
  rw [RedisEntry.alive, hd, Option.all_some, decide_eq_true_eq] at halive
  omega

variable (ans) in
/-- A sound cache at time `n`. -/
def SoundAt (n : ℕ) (s : CacheService) : Prop := Sound ans s ∧ s.now = n

theorem SoundAt.agrees (h : SoundAt ans n s) (hs : s.Agrees s') : SoundAt ans n s' :=
  ⟨h.1.agrees hs, hs.now.trans h.2⟩

open CacheProg Prog

theorem triple_cacheLookup (hS : S.Lawful) {ν : Type} {c : Codec ν} {f : ν → Option (S.Val k)}
    (hf : ReadsAs k c f) (ok : Bool) :
    Triple (SoundAt ans n) (cacheLookup c (S.text k) ok)
      (fun found s => SoundAt ans n s ∧ ∀ a ∈ found, Recent ans n k a.fetchedAt (f a.value))
      fun _ => SoundAt ans n := by
  rintro s ⟨h, rfl⟩
  -- the first level answers if it can read what it holds
  cases h1 : c.readable (s.l1Get (S.text k)) with
  | some ev =>
    rw [cacheLookup_l1 _ h1]
    refine ⟨?_, fun e s' heq => (by cases heq)⟩
    rintro found s' heq
    cases heq
    refine ⟨SoundAt.agrees ⟨h, rfl⟩ (CacheService.agrees_hit s), ?_⟩
    rintro a ha
    cases ha
    exact recent_of_l1 h hf h1
  | none =>
    by_cases hreach : s.Reachable ok
    · cases h2 : c.readable (s.l2Get (S.text k)) with
      | some ev =>
        obtain ⟨s₁, hs₁, hlookup⟩ := cacheLookup_l2 h1 hreach h2
        obtain ⟨e, he, -⟩ := Option.bind_eq_some_iff.mp h2
        obtain ⟨hright, hyoung⟩ := right_of_l2 h he
        have hsame : ev.1 = e := by
          rw [he] at h2
          obtain ⟨v, -, rfl⟩ := Option.map_eq_some_iff.mp h2
          rfl
        subst hsame
        rw [hlookup]
        -- the entry of Redis is copied to the first level with the time it has
        refine ⟨?_, fun e s' heq => (by cases heq)⟩
        rintro found s' heq
        cases heq
        refine ⟨SoundAt.agrees ⟨h.l1Insert hS hright hyoung, rfl⟩ hs₁, ?_⟩
        rintro a ha
        cases ha
        exact (recent_of_readable hf h2 hright (by omega)).2
      | none =>
        obtain ⟨s₁, hs₁, hlookup⟩ := cacheLookup_none h1 hreach h2
        rw [hlookup]
        refine ⟨?_, fun e s' heq => (by cases heq)⟩
        rintro found s' heq
        cases heq
        exact ⟨SoundAt.agrees ⟨h, rfl⟩ hs₁, fun a ha => (by cases ha)⟩
    · rw [cacheLookup_unreachable h1 hreach]
      refine ⟨fun found s' heq => (by cases heq), ?_⟩
      rintro e s' heq
      cases heq
      exact SoundAt.agrees ⟨h, rfl⟩ (CacheService.agrees_miss s)

theorem triple_cacheStore (hS : S.Lawful) {ν : Type} {c : Codec ν} {f : ν → Option (S.Val k)}
    (hf : ReadsAs k c f) {ttl : ℕ} (hpos : 0 < ttl) (httl : ttl ≤ S.ttl k) {v : ν}
    (hv : ans n k (f v)) (fault : Option Bool) :
    Triple (SoundAt ans n) (cacheStore c (S.text k) ttl v fault) (fun _ => SoundAt ans n)
      fun _ => SoundAt ans n := by
  rintro s ⟨h, rfl⟩
  have hstate : SoundAt ans s.now (cacheStore c (S.text k) ttl v fault s).2 := by
    cases htext : c.encode v with
    -- a value that cannot be written as text is not stored
    | none =>
      rw [cacheStore_serialize htext]
      exact ⟨h, rfl⟩
    | some text =>
      have hright : Right ans s.now k ⟨text, s.now⟩ := ⟨le_rfl, f v, hf.encode htext, hv⟩
      -- the first level has it before Redis is asked
      have hl1 : Sound ans (s.l1Insert (S.text k) ⟨text, s.now⟩) := by
        refine h.l1Insert hS hright ?_
        show s.now < s.now + S.ttl k
        omega
      rw [cacheStore_text htext, cacheSetWithTtl]
      rcases command_cases fault .redisSet (fun r s₁ => s₁.withL2 (s₁.l2.setWithTtl s₁.now
        (redisKey r (S.text k)) ⟨text, s.now⟩ ttl)) (s.l1Insert (S.text k) ⟨text, s.now⟩)
        with heq | ⟨r, hr, heq⟩
      · rw [heq]
        exact ⟨hl1, rfl⟩
      · rw [heq]
        exact ⟨hl1.setWithTtl hS hright hr rfl hpos httl, rfl⟩
  constructor
  · intro u s' heq
    rwa [heq] at hstate
  · intro e s' heq
    rwa [heq] at hstate

/-! ### Calls -/

/-- A change of the counters. -/
theorem triple_count {P : CacheService → Prop} {E : CacheError → CacheService → Prop}
    {f : CacheService → CacheService} (h : ∀ s, P s → P (f s)) :
    Triple P (modify f) (fun _ => P) E := by
  intro s hs
  refine ⟨?_, fun e s' heq => (by cases heq)⟩
  rintro u s' heq
  cases heq
  exact h s hs

/-- The time is read. -/
theorem triple_now {β : Type} {g : ℕ → CacheProg β} {Q : β → CacheService → Prop}
    {E : CacheError → CacheService → Prop} (hg : Triple (SoundAt ans n) (g n) Q E) :
    Triple (SoundAt ans n) (read CacheService.now >>= g) Q E := by
  rintro s ⟨h, rfl⟩
  exact hg s ⟨h, rfl⟩

/-- The source is asked. -/
theorem triple_source {α β : Type} {P : CacheService → Prop} {g : α → CacheProg β}
    {Q : β → CacheService → Prop} {source : Except String α}
    (hg : ∀ a, source = .ok a → Triple P (g a) Q fun _ => P) :
    Triple P (runSource source >>= g) Q fun _ => P := by
  cases source with
  | ok a => exact hg a rfl
  | error message =>
    intro s hs
    refine ⟨fun b s' heq => (by cases heq), ?_⟩
    rintro e s' heq
    cases heq
    exact hs

/-- A lookup, and what follows it if no level has the value. -/
theorem triple_orElse (hS : S.Lawful) {ν β : Type} {c : Codec ν} {f : ν → Option (S.Val k)}
    (hf : ReadsAs k c f) (ok : Bool) {found : Served ν → β} {missing : CacheProg β}
    {Q : β → CacheService → Prop}
    (hfound : ∀ a s, SoundAt ans n s → Recent ans n k a.fetchedAt (f a.value) → Q (found a) s)
    (hmissing : Triple (SoundAt ans n) missing Q fun _ => SoundAt ans n) :
    Triple (SoundAt ans n) (cacheLookup c (S.text k) ok >>= fun o => match o with
      | some a => pure (found a)
      | none => modify .miss >>= fun _ => missing) Q fun _ => SoundAt ans n := by
  refine Triple.bind (triple_cacheLookup hS hf ok) fun o => ?_
  cases o with
  | some a => exact Triple.pure fun s hs => hfound a s hs.1 (hs.2 a rfl)
  | none =>
    refine Triple.pre (P := SoundAt ans n) ?_ fun s hs => hs.1
    exact Triple.bind (triple_count fun s hs => hs.agrees (CacheService.agrees_miss s))
      fun _ => hmissing

theorem triple_fetchAndStore (hS : S.Lawful) {ν : Type} {c : Codec ν} {f : ν → Option (S.Val k)}
    (hf : ReadsAs k c f) {ttl : ℕ} (hpos : 0 < ttl) (httl : ttl ≤ S.ttl k)
    {source : Except String ν} (hsource : ∀ v, source = .ok v → ans n k (f v))
    (faults : CallFaults) :
    Triple (SoundAt ans n) (fetchAndStore c (S.text k) ttl source faults)
      (fun a s => SoundAt ans n s ∧ Recent ans n k a.fetchedAt (f a.value))
      fun _ => SoundAt ans n := by
  refine triple_source fun v hv => triple_now ?_
  refine Triple.bind (triple_cacheStore hS hf hpos httl (hsource v hv) _) fun _ => ?_
  refine Triple.pure fun s hs => ⟨hs, hsource v hv, le_rfl, ?_⟩
  simp only [l1Ttl]
  omega

theorem triple_fetchAndStoreSkipNone (hS : S.Lawful) {ttl : ℕ} (hpos : 0 < ttl)
    (httl : ttl ≤ S.ttl k) {source : Except String (Option (S.Val k))}
    (hsource : ∀ o, source = .ok o → ans n k o) (faults : CallFaults) :
    Triple (SoundAt ans n) (fetchAndStoreSkipNone (S.codec k) (S.text k) ttl source faults)
      (fun a s => SoundAt ans n s ∧ Recent ans n k a.fetchedAt a.value)
      fun _ => SoundAt ans n := by
  refine triple_source fun o ho => triple_now ?_
  refine Triple.bind (Triple.ifSome (fun v hv => ?_) fun _ _ hs => hs) fun _ => ?_
  · refine triple_cacheStore hS (readsAs_plain hS k) hpos httl ?_ _
    exact (Option.mem_def.mp hv) ▸ hsource o ho
  · refine Triple.pure fun s hs => ⟨hs, hsource o ho, le_rfl, ?_⟩
    simp only [l1Ttl]
    omega

/-- The time that a call stores a value for is one that its key allows. -/
structure CacheCall.Timed (c : CacheCall S) : Prop where
  pos : 0 < c.ttl
  le : c.ttl ≤ S.ttl c.key

/-- A call keeps the cache sound, and gives an answer of the source for its key. -/
theorem triple_run (hS : S.Lawful) (c : CacheCall S) (missed : Bool) (hc : c.Timed)
    (hsource : ∀ o, c.source = .ok o → ans n c.key (c.answer o)) :
    Triple (SoundAt ans n) (c.run missed)
      (fun a s => SoundAt ans n s ∧ Recent ans n c.key a.fetchedAt (c.answer a.value))
      fun _ => SoundAt ans n := by
  cases c with
  | plain k ttl source faults =>
    have hfinish := triple_fetchAndStore hS (readsAs_plain hS k) hc.pos hc.le hsource faults
    cases missed with
    | true => exact hfinish
    | false => exact triple_orElse hS (readsAs_plain hS k) _ (fun a s hs ha => ⟨hs, ha⟩) hfinish
  | option k ttl source faults =>
    have hfinish := triple_fetchAndStore hS (readsAs_option hS k) hc.pos hc.le hsource faults
    cases missed with
    | true => exact hfinish
    | false => exact triple_orElse hS (readsAs_option hS k) _ (fun a s hs ha => ⟨hs, ha⟩) hfinish
  | skipNone k ttl source faults =>
    have hfinish := triple_fetchAndStoreSkipNone hS hc.pos hc.le hsource faults
    cases missed with
    | true => exact hfinish
    | false => exact triple_orElse hS (readsAs_plain hS k) _ (fun a s hs ha => ⟨hs, ha⟩) hfinish

/-! ### Runs -/

/-- A cache beside the source of its values.  `seen` is not kept by the program: it lists the
states of the source, each with a time at which that was its state. -/
structure CacheWorld (δ : Type) where
  cache : CacheService
  db : δ
  seen : List (ℕ × δ)

variable (S) in
/-- What may happen: the source changes; time passes; L1 evicts a key, Redis drops one; a call; a
process that shares the Redis stores a text there; deletions. -/
inductive CacheEvent (δ : Type) where
  | edit (db : δ)
  | wait (seconds : ℕ)
  | evict (key : String)
  | drop (redisKey : String)
  | call (c : CacheCall S) (missed : Bool)
  | peer (k : κ) (text : String) (ttl : ℕ)
  | delete (key : String) (fault : Option Bool)
  | deleteByPrefix (start : String) (fault : Option ℕ)

variable {δ : Type}

namespace CacheWorld

/-- A cache that holds nothing, and a source. -/
def new (redis : Option String) (env : String) (now : ℕ) (db : δ) : CacheWorld δ :=
  ⟨.new redis env now .empty, db, [(now, db)]⟩

/-- The state of the source is the one at this time. -/
def note (w : CacheWorld δ) : CacheWorld δ := { w with seen := (w.cache.now, w.db) :: w.seen }

def withCache (w : CacheWorld δ) (cache : CacheService) : CacheWorld δ := { w with cache := cache }

def apply (w : CacheWorld δ) : CacheEvent S δ → CacheWorld δ
  | .edit db => note { w with db := db }
  | .wait seconds => note (w.withCache { w.cache with now := w.cache.now + seconds })
  | .evict key => w.withCache { w.cache with l1 := w.cache.l1.evict key }
  | .drop redisKey => w.withCache (w.cache.withL2 (w.cache.l2.del redisKey))
  | .call c missed => w.withCache (c.run missed w.cache).2
  | .peer k text ttl =>
    w.withCache (cacheSetWithTtl (S.text k) ⟨text, w.cache.now⟩ ttl none w.cache).2
  | .delete key fault => w.withCache (cacheDelete key fault w.cache).2
  | .deleteByPrefix start fault => w.withCache (cacheDeleteByPrefix start fault w.cache).2

def step (w : CacheWorld δ) (ev : CacheEvent S δ) : Option (CacheWorld δ) := some (w.apply ev)

variable (answers : δ → (k : κ) → Option (S.Val k) → Prop) (lag : ℕ)

/-- What the source has answered for a key, at most `lag` seconds before a time. -/
def Gave (w : CacheWorld δ) : Answered S := fun time k o =>
  ∃ t db, (t, db) ∈ w.seen ∧ t ≤ time ∧ time ≤ t + lag ∧ answers db k o

/-- A call whose source is asked is given what the source holds or held at most `lag` seconds ago,
also in another process, and a value is stored for a time that its key allows. -/
def Honest (w : CacheWorld δ) : CacheEvent S δ → Prop
  | .call c _ => c.Timed ∧ ∀ o, c.source = .ok o → w.Gave answers lag w.cache.now c.key (c.answer o)
  | .peer k text ttl => (0 < ttl ∧ ttl ≤ S.ttl k) ∧
    ∃ o, (S.codec k).option.encode o = some text ∧ w.Gave answers lag w.cache.now k o
  | _ => True

structure Inv (w : CacheWorld δ) : Prop where
  sound : Sound (w.Gave answers lag) w.cache
  current : (w.cache.now, w.db) ∈ w.seen

variable {answers} {lag} {w w' : CacheWorld δ}

theorem inv_new (redis : Option String) (env : String) (now : ℕ) (db : δ) :
    (new redis env now db).Inv answers lag (S := S) where
  sound := by
    constructor
    · intro k e he
      cases he
    · intro k r e _ he
      cases he
  current := List.mem_singleton_self _

/-- An event that only takes entries away. -/
theorem Inv.shrink (h : w.Inv answers lag) {cache : CacheService}
    (hredis : cache.redis = w.cache.redis) (hnow : cache.now = w.cache.now)
    (hl1 : ∀ key e, cache.l1.entries key = some e → w.cache.l1.entries key = some e)
    (hl2 : ∀ e ∈ cache.l2.rows, e ∈ w.cache.l2.rows) : (w.withCache cache).Inv answers lag where
  sound := h.sound.shrink (fun _ _ _ ho => ho) hredis hnow.ge hl1 hl2
  current := by
    show (cache.now, w.db) ∈ w.seen
    rw [hnow]
    exact h.current

theorem Inv.shrink_command (h : w.Inv answers lag) (fault : Option Bool) (error : CacheError)
    {p : String → RedisEntry → Bool} :
    (w.withCache (CacheProg.command fault error (fun r s => s.withL2 (Table.filter s.l2 (p r)))
      w.cache).2).Inv answers lag := by
  rcases command_cases fault error (fun r s => s.withL2 (Table.filter s.l2 (p r))) w.cache
    with heq | ⟨r, hr, heq⟩
  · rw [heq]
    exact h
  · rw [heq]
    exact h.shrink rfl rfl (fun _ _ he => he) fun e he => (List.mem_filter.mp he).1

/-- Time passes and the source changes. -/
theorem Inv.note (h : w.Inv answers lag) (seconds : ℕ) (db : δ) :
    ({ w with cache := { w.cache with now := w.cache.now + seconds }, db := db }.note).Inv
      answers lag where
  sound := by
    refine h.sound.shrink ?_ rfl (Nat.le_add_right _ _) (fun _ _ he => he) fun _ he => he
    rintro time k o ⟨t, db', hmem, hrest⟩
    exact ⟨t, db', List.mem_cons_of_mem _ hmem, hrest⟩
  current := List.mem_cons_self

/-- What a call gives. -/
theorem Inv.recent (hS : S.Lawful) (h : w.Inv answers lag) {c : CacheCall S} {missed : Bool}
    (hc : w.Honest answers lag (.call c missed)) {a : Served c.Out} {s' : CacheService}
    (hcall : c.run missed w.cache = (.ok a, s')) :
    ∃ t db', (t, db') ∈ w.seen ∧ answers db' c.key (c.answer a.value) ∧
      w.cache.now < t + S.ttl c.key + l1Ttl + lag := by
  have hrecent := ((triple_run hS c missed hc.1 hc.2 w.cache ⟨h.sound, rfl⟩).1 a s' hcall).2
  obtain ⟨t, db', hmem, -, hlag, ho⟩ := hrecent.answered
  have hyoung := hrecent.young
  exact ⟨t, db', hmem, ho, by omega⟩

theorem inv_step (hS : S.Lawful) {ev : CacheEvent S δ} (h : w.Inv answers lag)
    (hev : w.Honest answers lag ev) (hstep : w.step ev = some w') : w'.Inv answers lag := by
  obtain rfl := Option.some.inj hstep
  -- time only ages what is known; evictions and deletions only make the cache smaller
  cases ev with
  | edit db => exact h.note 0 db
  | wait seconds => exact h.note seconds w.db
  | evict key =>
    refine h.shrink rfl rfl ?_ fun _ he => he
    intro key' e he
    simp only [TtlCache.evict] at he
    by_cases hk : key' = key
    · rw [hk, Function.update_self] at he
      cases he
    · rwa [Function.update_of_ne hk] at he
  | drop redisKey => exact h.shrink rfl rfl (fun _ _ he => he) fun e he => (List.mem_filter.mp he).1
  | call c missed =>
    -- the triple of the call says that all it leaves in the cache was given
    obtain ⟨hok, herror⟩ := triple_run hS c missed hev.1 hev.2 w.cache ⟨h.sound, rfl⟩
    have hat : SoundAt (w.Gave answers lag) w.cache.now (c.run missed w.cache).2 := by
      cases hr : c.run missed w.cache with
      | mk r s' =>
        cases r with
        | ok a => exact (hok a s' hr).1
        | error e => exact herror e s' hr
    refine ⟨hat.1, ?_⟩
    show ((c.run missed w.cache).2.now, w.db) ∈ w.seen
    rw [hat.2]
    exact h.current
  | peer k text ttl =>
    obtain ⟨⟨hpos, httl⟩, o, htext, ho⟩ := hev
    -- another process has stored an answer of its own: nothing is older than the clock
    have hright : Right (w.Gave answers lag) w.cache.now k ⟨text, w.cache.now⟩ :=
      ⟨le_rfl, o, htext, ho⟩
    show (w.withCache (cacheSetWithTtl _ _ _ _ _).2).Inv answers lag
    rcases command_cases none .redisSet (fun r s => s.withL2 (s.l2.setWithTtl s.now
      (redisKey r (S.text k)) ⟨text, w.cache.now⟩ ttl)) w.cache with heq | ⟨r, hr, heq⟩
    · rw [cacheSetWithTtl, heq]
      exact h
    · rw [cacheSetWithTtl, heq]
      exact ⟨h.sound.setWithTtl hS hright hr rfl hpos httl, h.current⟩
  | delete key fault => exact h.shrink_command fault .redisDelete
  | deleteByPrefix start fault =>
    simp only [apply, cacheDeleteByPrefix]
    cases hr : w.cache.redis with
    | none => exact h
    | some r =>
      cases fault with
      | none => exact h.shrink rfl rfl (fun _ _ he => he) fun e he => (List.mem_filter.mp he).1
      | some batches =>
        exact h.shrink rfl rfl (fun _ _ he => he) fun e he => (List.mem_filter.mp he).1

theorem inv_run (hS : S.Lawful) {evs : List (CacheEvent S δ)} (h : w.Inv answers lag)
    (hev : Transition.Along step (Honest answers lag) w evs)
      (hrun : Transition.run step w evs = some w') :
    w'.Inv answers lag :=
  Transition.inv_of_run (fun hw hp hs => inv_step hS hw hp hs) h hev hrun

/-- The states of the source are not forgotten. -/
theorem mem_seen_apply {ev : CacheEvent S δ} {entry : ℕ × δ} (h : entry ∈ w.seen) :
    entry ∈ (w.apply ev).seen := by
  cases ev with
  | edit db => exact List.mem_cons_of_mem _ h
  | wait seconds => exact List.mem_cons_of_mem _ h
  | evict key => exact h
  | drop redisKey => exact h
  | call c missed => exact h
  | peer k text ttl => exact h
  | delete key fault => exact h
  | deleteByPrefix start fault => exact h

theorem mem_of_mem_seen_apply {ev : CacheEvent S δ} {entry : ℕ × δ}
    (h : entry ∈ (w.apply ev).seen) :
    entry ∈ w.seen ∨ entry = ((w.apply ev).cache.now, (w.apply ev).db) := by
  cases ev with
  | edit db => exact (List.mem_cons.mp h).symm
  | wait seconds => exact (List.mem_cons.mp h).symm
  | evict key => exact Or.inl h
  | drop redisKey => exact Or.inl h
  | call c missed => exact Or.inl h
  | peer k text ttl => exact Or.inl h
  | delete key fault => exact Or.inl h
  | deleteByPrefix start fault => exact Or.inl h

theorem now_command {fault : Option Bool} {error : CacheError} {s : CacheService}
    {f : String → CacheService → CacheService} (hf : ∀ r, (f r s).now = s.now) :
    (CacheProg.command fault error f s).2.now = s.now := by
  rcases command_cases fault error f s with heq | ⟨r, -, heq⟩
  · rw [heq]
  · rw [heq]
    exact hf r

theorem now_le_apply (ev : CacheEvent S δ) : w.cache.now ≤ (w.apply ev).cache.now := by
  cases ev with
  | edit db => exact le_rfl
  | wait seconds => exact Nat.le_add_right _ _
  | evict key => exact le_rfl
  | drop redisKey => exact le_rfl
  | call c missed => exact (c.touched_run missed _).now.ge
  | peer k text ttl => exact (now_command fun _ => rfl).ge
  | delete key fault => exact (now_command fun _ => rfl).ge
  | deleteByPrefix start fault =>
    simp only [apply, cacheDeleteByPrefix]
    cases w.cache.redis with
    | none => exact le_rfl
    | some r =>
      cases fault with
      | none => exact le_rfl
      | some batches => exact le_rfl

/-- What a call gives after a run: the source answered that for the key at a moment that lies back
less than the key's time-to-live, the hour of L1 and the time that sources take. -/
theorem served_recent (hS : S.Lawful) {redis : Option String} {env : String} {now : ℕ} {db : δ}
    {evs : List (CacheEvent S δ)}
    (hev : Transition.Along step (Honest answers lag) (new redis env now db) evs)
    (hrun : Transition.run step (new redis env now db) evs = some w) {c : CacheCall S}
    {missed : Bool} (hc : w.Honest answers lag (.call c missed)) {a : Served c.Out}
    {s' : CacheService} (hcall : c.run missed w.cache = (.ok a, s')) :
    ∃ t db', (t, db') ∈ w.seen ∧ answers db' c.key (c.answer a.value) ∧
      w.cache.now < t + S.ttl c.key + l1Ttl + lag :=
  (inv_run hS (inv_new redis env now db) hev hrun).recent hS hc hcall

end CacheWorld

end

namespace Sample

open CacheWorld

/-- How a flag is read and written. -/
def flagCodec : Codec Bool where
  simdFromSlice text :=
    if text = "true" then some true else if text = "false" then some false else none
  serdeFromSlice _ := none
  simdToVec b := some (if b then "true" else "false")
  serdeToString _ := none

/-- One flag, that may be missing. -/
def flagSchema : CacheSchema Unit :=
  ⟨fun _ => Bool, fun _ => flagCodec, fun _ => "flag", fun _ => 60⟩

theorem lawful_flagSchema : flagSchema.Lawful where
  text_injective := fun _ _ _ => rfl
  decode_encode := by
    intro k v text h
    cases v <;> cases h <;> rfl
  decode_null := fun _ => rfl

def flagAnswers (db : Option Bool) (k : Unit) (o : Option (flagSchema.Val k)) : Prop := o = db

def readFlag (o : Option Bool) : CacheCall flagSchema := .option () 60 (.ok o) ⟨true, none⟩

/-- The flag is read, and then deleted. -/
def flagEvents : List (CacheEvent flagSchema (Option Bool)) :=
  [.call (readFlag (some true)) false, .edit none, .wait 50]

/-- The deleted flag is still served. -/
theorem flagEvents_served : ∃ w : CacheWorld (Option Bool),
    Transition.run step (new none "test" 0 (some true)) flagEvents = some w ∧
      ∃ t db, (t, db) ∈ w.seen ∧ flagAnswers db () (some true) ∧
        w.cache.now < t + flagSchema.ttl () + l1Ttl + 0 := by
  have hread : (readFlag (some true)).Timed := ⟨Nat.succ_pos 59, le_rfl⟩
  have hagain : (readFlag none).Timed := ⟨Nat.succ_pos 59, le_rfl⟩
  have hgave : ∀ o, (readFlag (some true)).source = .ok o →
      Gave flagAnswers 0 (new none "test" 0 (some true)) 0 () o := by
    intro o ho
    cases ho
    exact ⟨0, some true, List.mem_cons_self, le_rfl, le_rfl, rfl⟩
  have hhonest : Transition.Along step (Honest flagAnswers 0) (new none "test" 0 (some true))
      flagEvents := ⟨⟨hread, hgave⟩, trivial, trivial, trivial⟩
  have hcall : ∃ s', (readFlag none).run false
      (flagEvents.foldl apply (new none "test" 0 (some true))).cache =
        (.ok ⟨some true, .l1, 0⟩, s') := ⟨_, rfl⟩
  obtain ⟨s', hcall⟩ := hcall
  refine ⟨_, rfl, served_recent lawful_flagSchema hhonest rfl ⟨hagain, ?_⟩ hcall⟩
  intro o ho
  cases ho
  exact ⟨50, none, List.mem_cons_self, le_rfl, le_rfl, rfl⟩

end Sample

end LeadsNebula
