/-
Parameters of SSM, and what Redis remembers of them (`core/src/ssm.rs`).

A parameter is looked up in Redis, and else asked of SSM, twice if the first request
fails or takes too long.  What SSM gave is remembered in Redis, also that it gave
nothing.  Lookups come one after the other; what SSM and Redis do is data of a lookup.

* `getParameter_eq` — a lookup returns what Redis remembers, or what SSM gives;
* `faithful_step_iff` — what a lookup leaves in Redis is what it returned, unless it
  stored the marker for something else than a parameter that is not there;
* `remembers_iff` — the same for all the lookups of a run.
-/
import LeadsNebula.CacheRuns
import LeadsNebula.LeadResponses

namespace LeadsNebula

/-- A key that was just stored has its value. -/
theorem RedisStore.get_setWithTtl_self {db : RedisStore} {now ttl : ℕ}
    {key : String} {value : Cached}
    (httl : 0 < ttl) : (db.setWithTtl now key value ttl).get now key = some value := by
  have hgone : (db.del key).find key = none := by
    rw [del, Table.find_filter]
    cases hf : db.find key with
    | none => rfl
    | some e => simp [Option.filter, (Table.find_key hf : e.key = key)]
  rw [get, setWithTtl, put, Table.find_insert, hgone, Option.none_or, if_pos rfl, if_pos httl]
  simp [RedisEntry.alive, Option.filter, httl]

/-! ### SSM -/

/-- A parameter as SSM sends it. -/
structure SsmParameter where
  value : Option String

/-- What comes back for one request to SSM, and after how long. -/
structure SsmAttempt where
  elapsedMs : ℕ
  response : Except String (Option SsmParameter)

/-- The process: its environment variables, and whether it finds a file `.env.local` in its
directory or in `rust`. -/
structure SsmProcess where
  vars : String → Option String
  envLocalCwd : Bool
  envLocalRust : Bool

def SsmProcess.tryDevEncryptionFallback (p : SsmProcess) (path : String) : Option String :=
  (if containsText path "deterministic_key" then
    p.vars "LEADSNEBULA_DEV_DETERMINISTIC_KEY" else none).or
    (if containsText path "key_derivation_salt" then p.vars "LEADSNEBULA_DEV_KEY_DERIVATION_SALT"
      else none)

def normalizeEnvForSsm (env : String) : String :=
  if env = "development" then "dev" else if env = "production" then "prod" else env

/-- What SSM had to say in the end. -/
inductive SsmFetch where
  | found (value : String)
  | missing
  /-- Both requests failed or took too long. -/
  | failed
  deriving DecidableEq

/-- What the answer to one request says, if it came in time. -/
def SsmAttempt.answer (timeoutMs : ℕ) (a : SsmAttempt) : Option SsmFetch :=
  if timeoutMs < a.elapsedMs then none
  else match a.response with
    | .error _ => none
    | .ok none => some .missing
    | .ok (some param) => some (.found (param.value.getD ""))

/-! ### The service -/

def ssmCacheMissMarker : String := "__none__"

def ssmCacheMissTtl : ℕ := 300

/-- The service with the Redis that it talks to; `redis` is the environment in the keys of its
client, if there is one.  `origin` is not kept by the program: it says for what Redis was given the
text of a parameter. -/
structure SsmService where
  env : String
  redis : Option String
  now : ℕ
  store : RedisStore
  origin : String × Bool → SsmFetch

/-- What Redis and SSM do during a lookup. -/
structure SsmTurn where
  /-- Redis answers the `GET`. -/
  getOk : Bool
  first : SsmAttempt
  second : SsmAttempt
  /-- Redis stores what it is given. -/
  setOk : Bool

namespace SsmService

/-- `SsmService::new`, with a Redis that remembers nothing. -/
def new (env : String) (redis : Option String) : SsmService :=
  ⟨normalizeEnvForSsm env, redis, 0, .empty, fun _ => .missing⟩

variable (p : SsmProcess) (s : SsmService) (path : String) (withDecryption : Bool)

/-- The key of a parameter, as the client of Redis sends it. -/
def cacheKey (redisEnv : String) : String :=
  redisEnv ++ ":" ++ (s.env ++ ":ssm:" ++ path ++ ":" ++ if withDecryption then "true" else "false")

/-- The text that Redis remembers of a parameter. -/
def cached : Option String :=
  s.redis.bind fun r => (s.store.get s.now (s.cacheKey path withDecryption r)).map Cached.text

/-- `set_with_ttl`, whose error is dropped. -/
def remember (fetch : SsmFetch) (text : String) (ttl : ℕ) (setOk : Bool) : SsmService :=
  match s.redis with
  | none => s
  | some r =>
    if setOk then
      { s with
        store := s.store.setWithTtl s.now (s.cacheKey path withDecryption r) ⟨text, s.now⟩ ttl
        origin := Function.update s.origin (path, withDecryption) fetch }
    else s

/-- Seven days for keys of the encryption, one for others. -/
def valueTtl : ℕ := if containsText path "/encryption/" then 604800 else 86400

def timeoutMs : ℕ := if p.envLocalCwd || p.envLocalRust || s.env = "dev" then 8000 else 200

/-- The second request is made when the first has failed or timed out. -/
def fetch (t : SsmTurn) : SsmFetch :=
  match t.first.answer (s.timeoutMs p) with
  | some found => found
  | none =>
    match t.second.answer (s.timeoutMs p) with
    | some found => found
    | none => .failed

/-- What a lookup does with what SSM gave. -/
def settle (setOk : Bool) : SsmFetch → Option String × SsmService
  | .found value =>
    (some value, s.remember path withDecryption (.found value) value (valueTtl path) setOk)
  | .missing =>
    (p.tryDevEncryptionFallback path,
      s.remember path withDecryption .missing ssmCacheMissMarker ssmCacheMissTtl setOk)
  | .failed =>
    (p.tryDevEncryptionFallback path,
      s.remember path withDecryption .failed ssmCacheMissMarker ssmCacheMissTtl setOk)

/-- `get_parameter`, which returns no error. -/
def getParameter (t : SsmTurn) : Option String × SsmService :=
  match if t.getOk then s.cached path withDecryption else none with
  | some text => (if text = ssmCacheMissMarker then none else some text, s)
  | none => s.settle p path withDecryption t.setOk (s.fetch p t)

end SsmService

/-- A lookup, time that passes, or a key that Redis drops. -/
inductive SsmAction where
  | getParameter (path : String) (withDecryption : Bool) (turn : SsmTurn)
  | wait (seconds : ℕ)
  | drop (key : String)

namespace SsmService

def step (p : SsmProcess) (s : SsmService) : SsmAction → Option SsmService
  | .getParameter path withDecryption turn => some (s.getParameter p path withDecryption turn).2
  | .wait seconds => some { s with now := s.now + seconds }
  | .drop key => some { s with store := s.store.del key }

/-! ### What a lookup should not depend on -/

/-- The result of a lookup for which SSM is asked. -/
def fetchResult (p : SsmProcess) (path : String) : SsmFetch → Option String
  | .found value => some value
  | .missing | .failed => p.tryDevEncryptionFallback path

/-- The fetch that a lookup goes back to: its own, or that of the text that Redis has. -/
def source (p : SsmProcess) (s : SsmService) (path : String) (withDecryption : Bool) (t : SsmTurn) :
    SsmFetch :=
  if t.getOk && (s.cached path withDecryption).isSome then s.origin (path, withDecryption)
  else s.fetch p t

/-- What Redis remembers of a parameter is read as the result of the lookup that stored it, and the
marker was stored by no failure. -/
structure Faithful (p : SsmProcess) (s : SsmService) : Prop where
  same : ∀ path dec text, s.cached path dec = some text →
    (if text = ssmCacheMissMarker then none else some text) =
      fetchResult p path (s.origin (path, dec))
  known : ∀ path dec, s.cached path dec = some ssmCacheMissMarker → s.origin (path, dec) ≠ .failed

/-- A lookup returns the same from Redis as it did when it was fetched, and so it will after it. -/
def Independent (p : SsmProcess) (s : SsmService) (a : SsmAction) : Prop :=
  (∀ path dec t, a = .getParameter path dec t →
    (s.getParameter p path dec t).1 = fetchResult p path (s.source p path dec t)) ∧
  ∀ s' ∈ step p s a, Faithful p s'

/-- The fetch is read back as it was when it is remembered: a value that is not the marker, or
nothing, with no variable to fall back to. -/
def Memorable (p : SsmProcess) (path : String) : SsmFetch → Prop
  | .found value => value ≠ ssmCacheMissMarker
  | .missing => p.tryDevEncryptionFallback path = none
  | .failed => False

/-- A lookup for which SSM is asked, and whose outcome Redis stores, is one to remember. -/
def Remembers (p : SsmProcess) (s : SsmService) : SsmAction → Prop
  | .getParameter path dec t =>
    (t.getOk && (s.cached path dec).isSome) = false → s.redis.isSome = true → t.setOk = true →
      Memorable p path (s.fetch p t)
  | _ => True

instance (p : SsmProcess) (path : String) : ∀ fetch, Decidable (Memorable p path fetch)
  | .found value => inferInstanceAs (Decidable (value ≠ ssmCacheMissMarker))
  | .missing => inferInstanceAs (Decidable (p.tryDevEncryptionFallback path = none))
  | .failed => inferInstanceAs (Decidable False)

instance (p : SsmProcess) (s : SsmService) : ∀ a, Decidable (Remembers p s a)
  | .getParameter path dec t =>
    inferInstanceAs (Decidable ((t.getOk && (s.cached path dec).isSome) = false →
      s.redis.isSome = true → t.setOk = true → Memorable p path (s.fetch p t)))
  | .wait _ | .drop _ => inferInstanceAs (Decidable True)

/-! ### The keys of Redis -/

section

variable {p : SsmProcess} {s s' : SsmService} {path path' : String} {dec dec' : Bool}

theorem decryption_inj (h : path ++ ":" ++ (if dec then "true" else "false") =
    path' ++ ":" ++ if dec' then "true" else "false") : path = path' ∧ dec = dec' := by
  have hlist := congrArg String.toList h
  simp only [String.toList_append] at hlist
  -- the next to last letters tell the two words apart
  have hrev := congrArg List.reverse hlist
  cases dec <;> cases dec' <;> simp at hrev
  · exact ⟨String.toList_injective hrev, rfl⟩
  · exact ⟨String.toList_injective hrev, rfl⟩

theorem cacheKey_inj {r : String} :
    s.cacheKey path dec r = s.cacheKey path' dec' r ↔ path = path' ∧ dec = dec' := by
  constructor
  · intro h
    simp only [cacheKey, String.append_assoc, String.append_right_inj] at h
    exact decryption_inj (by simpa only [String.append_assoc] using h)
  · rintro ⟨rfl, rfl⟩
    rfl

/-- What Redis remembers after a text has been stored. -/
theorem cached_remember {fetch : SsmFetch} {text : String} {ttl : ℕ} {r : String}
    (hr : s.redis = some r) (httl : 0 < ttl) :
    (s.remember path dec fetch text ttl true).cached path' dec' =
      if path' = path ∧ dec' = dec then some text else s.cached path' dec' := by
  simp only [remember, hr, if_true, cached, Option.bind_some]
  by_cases hkey : path' = path ∧ dec' = dec
  · obtain ⟨rfl, rfl⟩ := hkey
    rw [if_pos ⟨rfl, rfl⟩]
    exact congrArg (Option.map Cached.text) (RedisStore.get_setWithTtl_self httl)
  · rw [if_neg hkey]
    refine congrArg (Option.map Cached.text) (RedisStore.get_put_of_ne fun h => hkey ?_)
    obtain ⟨rfl, rfl⟩ := cacheKey_inj.mp h
    exact ⟨rfl, rfl⟩

/-- A text that Redis remembers later, or when it has dropped a key, it remembered before. -/
theorem cached_of_get (h : ∀ key e, s'.store.get s'.now key = some e →
    s.store.get s.now key = some e)
    (hredis : s'.redis = s.redis) (henv : s'.env = s.env) {text : String}
    (htext : s'.cached path dec = some text) : s.cached path dec = some text := by
  rw [cached, hredis] at htext
  rw [cached]
  cases hr : s.redis with
  | none =>
    rw [hr] at htext
    cases htext
  | some r =>
    rw [hr, Option.bind_some, Option.map_eq_some_iff] at htext
    obtain ⟨e, he, rfl⟩ := htext
    have hkey : s'.cacheKey path dec r = s.cacheKey path dec r := by
      rw [cacheKey, cacheKey, henv]
    rw [Option.bind_some, h _ e (hkey ▸ he), Option.map_some]

theorem Faithful.of_get (hs : Faithful p s)
    (h : ∀ key e, s'.store.get s'.now key = some e → s.store.get s.now key = some e)
    (hredis : s'.redis = s.redis) (henv : s'.env = s.env) (horigin : s'.origin = s.origin) :
    Faithful p s' where
  same path dec text htext := horigin ▸ hs.same path dec text (cached_of_get h hredis henv htext)
  known path dec htext := horigin ▸ hs.known path dec (cached_of_get h hredis henv htext)

/-! ### One lookup -/

/-- What is stored for a fetch. -/
def textOf : SsmFetch → String
  | .found value => value
  | .missing | .failed => ssmCacheMissMarker

theorem settle_eq (setOk : Bool) (fetch : SsmFetch) :
    ∃ ttl, 0 < ttl ∧ s.settle p path dec setOk fetch =
      (fetchResult p path fetch, s.remember path dec fetch (textOf fetch) ttl setOk) := by
  cases fetch with
  | found value =>
    refine ⟨valueTtl path, ?_, rfl⟩
    unfold valueTtl
    split <;> decide
  | missing => exact ⟨_, by decide, rfl⟩
  | failed => exact ⟨_, by decide, rfl⟩

/-- Redis answers a lookup, or SSM is asked. -/
theorem getParameter_eq (t : SsmTurn) :
    (∃ text, s.cached path dec = some text ∧ (t.getOk && (s.cached path dec).isSome) = true ∧
      s.getParameter p path dec t = (if text = ssmCacheMissMarker then none else some text, s)) ∨
    (t.getOk && (s.cached path dec).isSome) = false ∧
      s.getParameter p path dec t = s.settle p path dec t.setOk (s.fetch p t) := by
  unfold getParameter
  cases t.getOk with
  | false => exact Or.inr ⟨rfl, rfl⟩
  | true =>
    cases hcached : s.cached path dec with
    | none => exact Or.inr ⟨rfl, rfl⟩
    | some text => exact Or.inl ⟨text, rfl, rfl, rfl⟩

/-- A text is read as the result of its fetch, and by no failure, exactly when it is one to
remember. -/
theorem memorable_iff {fetch : SsmFetch} :
    ((if textOf fetch = ssmCacheMissMarker then none else some (textOf fetch)) =
        fetchResult p path fetch ∧ (textOf fetch = ssmCacheMissMarker → fetch ≠ .failed)) ↔
      Memorable p path fetch := by
  cases fetch with
  | found value =>
    by_cases h : value = ssmCacheMissMarker
    · simp [textOf, fetchResult, Memorable, h]
    · simp [textOf, fetchResult, Memorable, h]
  | missing => simp [textOf, fetchResult, Memorable, eq_comm]
  | failed => simp [textOf, Memorable]

theorem faithful_remember_iff {fetch : SsmFetch} {ttl : ℕ} {r : String} (hs : Faithful p s)
    (hr : s.redis = some r) (httl : 0 < ttl) :
    Faithful p (s.remember path dec fetch (textOf fetch) ttl true) ↔ Memorable p path fetch := by
  have horigin : (s.remember path dec fetch (textOf fetch) ttl true).origin =
      Function.update s.origin (path, dec) fetch := by
    simp [remember, hr]
  constructor
  · -- what was just stored is read back, so it must be what SSM says
    intro h
    have hcached : (s.remember path dec fetch (textOf fetch) ttl true).cached path dec =
        some (textOf fetch) := by
      rw [cached_remember hr httl, if_pos ⟨rfl, rfl⟩]
    have hsame := h.same path dec _ hcached
    rw [horigin, Function.update_self] at hsame
    refine memorable_iff.mp ⟨hsame, fun htext => ?_⟩
    have hknown := h.known path dec (htext ▸ hcached)
    rwa [horigin, Function.update_self] at hknown
  · intro h
    obtain ⟨hsame, hknown⟩ := memorable_iff.mpr h
    -- other parameters are read as before
    refine ⟨fun path' dec' text htext => ?_, fun path' dec' hmarker => ?_⟩
    · rw [cached_remember hr httl] at htext
      rw [horigin]
      split at htext
      · next heq =>
        obtain ⟨rfl, rfl⟩ := heq
        rw [Function.update_self, ← Option.some_inj.mp htext]
        exact hsame
      · next hne =>
        rw [Function.update_of_ne (fun h => hne (Prod.mk.inj h))]
        exact hs.same path' dec' text htext
    · rw [cached_remember hr httl] at hmarker
      rw [horigin]
      split at hmarker
      · next heq =>
        obtain ⟨rfl, rfl⟩ := heq
        rw [Function.update_self]
        exact hknown (Option.some_inj.mp hmarker)
      · next hne =>
        rw [Function.update_of_ne (fun h => hne (Prod.mk.inj h))]
        exact hs.known path' dec' hmarker

/-- A lookup, or another step, leaves what it should exactly when it remembers what it may. -/
theorem faithful_step_iff {a : SsmAction} (hs : Faithful p s) :
    (∀ s' ∈ step p s a, Faithful p s') ↔ Remembers p s a := by
  cases a with
  | wait d =>
    -- a wait or an eviction only forgets
    refine iff_of_true ?_ trivial
    rintro s' hs'
    obtain rfl := Option.some.inj hs'
    exact hs.of_get (fun key e => RedisStore.get_of_later) rfl rfl rfl
  | drop key =>
    refine iff_of_true ?_ trivial
    rintro s' hs'
    obtain rfl := Option.some.inj hs'
    exact hs.of_get (fun key' e => RedisStore.get_of_filter) rfl rfl rfl
  | getParameter path dec t =>
    have hstep : (∀ s' ∈ step p s (.getParameter path dec t), Faithful p s') ↔
        Faithful p (s.getParameter p path dec t).2 := by
      simp [step]
    rw [hstep]
    obtain ⟨text, -, hserved, heq⟩ | ⟨hserved, heq⟩ := s.getParameter_eq (p := p) t
    · -- served from the cache: nothing is stored
      rw [heq]
      refine iff_of_true hs fun hnot => ?_
      rw [hserved] at hnot
      cases hnot
    · obtain ⟨ttl, httl, hsettle⟩ := s.settle_eq (p := p) t.setOk (s.fetch p t)
      rw [heq, hsettle, Remembers]
      cases hr : s.redis with
      | none =>
        have hsame : s.remember path dec (s.fetch p t) (textOf (s.fetch p t)) ttl t.setOk = s := by
          rw [remember, hr]
        rw [hsame]
        exact iff_of_true hs fun _ h => Bool.noConfusion h
      | some r =>
        cases hset : t.setOk with
        | false =>
          have hsame : s.remember path dec (s.fetch p t) (textOf (s.fetch p t)) ttl false = s := by
            rw [remember, hr]
            rfl
          rw [hsame]
          exact iff_of_true hs fun _ _ h => Bool.noConfusion h
        -- the outcome is stored, so it has to be one that may be remembered
        | true =>
          rw [faithful_remember_iff hs hr httl]
          exact ⟨fun h _ _ _ => h, fun h => h hserved rfl rfl⟩

/-- In a faithful state a lookup returns what it should. -/
theorem getParameter_result (hs : Faithful p s) (t : SsmTurn) :
    (s.getParameter p path dec t).1 = fetchResult p path (s.source p path dec t) := by
  obtain ⟨text, htext, hserved, heq⟩ | ⟨hserved, heq⟩ := s.getParameter_eq (p := p) t
  · rw [heq, source, if_pos hserved]
    exact hs.same path dec text htext
  · obtain ⟨ttl, -, hsettle⟩ := s.settle_eq (p := p) t.setOk (s.fetch p t)
    rw [heq, hsettle, source, hserved, if_neg Bool.false_ne_true]

theorem independent_iff {a : SsmAction} (hs : Faithful p s) :
    Independent p s a ↔ Remembers p s a := by
  rw [Independent, faithful_step_iff hs]
  exact and_iff_right fun path dec t _ => getParameter_result hs t

/-! ### Runs -/

theorem faithful_new (p : SsmProcess) (env : String) (redis : Option String) :
    Faithful p (new env redis) := by
  have hnone : ∀ path dec, (new env redis).cached path dec = none := by
    intro path dec
    rw [cached]
    cases (new env redis).redis <;> rfl
  constructor
  · intro path dec text htext
    rw [hnone] at htext
    cases htext
  · intro path dec htext
    rw [hnone] at htext
    cases htext

/-- In a run the lookups do not depend on Redis exactly when every fetch that Redis stores is one to
remember. -/
theorem remembers_iff (p : SsmProcess) {s : SsmService} {as : List SsmAction} (hs : Faithful p s) :
    Transition.Along (step p) (Independent p) s as ↔ Transition.Along (step p)
      (Remembers p) s as := by
  have hkeep : ∀ {s a s'}, Faithful p s → Remembers p s a → step p s a = some s' → Faithful p s' :=
    fun hs ha hstep => (faithful_step_iff hs).mpr ha _ hstep
  refine ⟨Transition.along_of_inv (fun hs ha hstep => hkeep hs ((independent_iff hs).mp ha) hstep)
    (fun hs => (independent_iff hs).mp) hs, ?_⟩
  exact Transition.along_of_inv hkeep (fun hs => (independent_iff hs).mpr) hs

end

end SsmService

/-! ### A key of a developer -/

namespace Sample

open SsmService

def devProcess : SsmProcess where
  vars name := if name = "LEADSNEBULA_DEV_DETERMINISTIC_KEY" then some "dev-key" else none
  envLocalCwd := true
  envLocalRust := false

def keyPath : String := "/leadsnebula/dev/carina/encryption/deterministic_key_v1"

def answered (value : Option String) : SsmTurn where
  getOk := true
  first := ⟨40, .ok (value.map fun v => ⟨some v⟩)⟩
  second := ⟨40, .error "unused"⟩
  setOk := true

/-- Both requests time out. -/
def timedOut : SsmTurn where
  getOk := true
  first := ⟨9000, .ok none⟩
  second := ⟨9000, .ok none⟩
  setOk := true

def keyService : SsmService := .new "development" (some "dev")

def lookups (turns : List SsmTurn) : List SsmAction := turns.map (.getParameter keyPath true)

/-- A key that SSM has is the same from Redis. -/
theorem independent_lookups :
    Transition.Along (SsmService.step devProcess) (Independent devProcess) keyService
      (lookups [answered (some "key"), timedOut]) := by
  refine (remembers_iff devProcess (faithful_new _ _ _)).mpr ?_
  decide

/-- Without the parameter, the second lookup does not find the key of the developer; after a
timeout the parameter is taken to be missing, though SSM has it. -/
theorem fallback_forgotten :
    (keyService.getParameter devProcess keyPath true (answered none)).1 = some "dev-key" ∧
      ((keyService.getParameter devProcess keyPath true (answered none)).2.getParameter devProcess
        keyPath true (answered none)).1 = none ∧
      ((keyService.getParameter devProcess keyPath true timedOut).2.getParameter devProcess
        keyPath true (answered (some "key"))).1 = none ∧
      ¬Transition.Along (SsmService.step devProcess) (Independent devProcess) keyService
        (lookups [answered none, answered none]) := by
  refine ⟨by decide, by decide, by decide, fun h => ?_⟩
  obtain ⟨-, hsecond⟩ := Transition.along_cons rfl h
  have hresult := hsecond.1.1 keyPath true (answered none) rfl
  revert hresult
  decide

end Sample

end LeadsNebula
