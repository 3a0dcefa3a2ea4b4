/-
The keys of the encryption (`services/ssm_key_cache.rs`).

A process keeps the parameters of SSM that it has looked up in memory for six hours, on
top of what Redis remembers of them.  Lookups go on side by side: what one of them has
been given, it puts into the memory some time later.

* `given_recent` — what a lookup gives, SSM answered at a moment that lies back less than
  the time-to-live of Redis, the six hours, and the time that a lookup takes, unless it is
  a variable of the developer; after a key has been changed in SSM, the old one goes out
  of use a week and six hours later.
-/
import LeadsNebula.SsmParameters

namespace LeadsNebula

/-! ### Lookups -/

/-- `CachedKey`. -/
structure CachedKey where
  key : String
  expiresAt : ℕ
  deriving DecidableEq

/-- The value of a parameter, and when it was given. -/
structure GivenKey where
  time : ℕ
  path : String
  withDecryption : Bool
  value : String
  deriving DecidableEq

def keyCacheTtl : ℕ := 21600

/-- The key of `ENCRYPTION_KEY_CACHE`. -/
def keyCacheKey (path : String) (decrypt : Bool) : String :=
  path ++ ":" ++ if decrypt then "true" else "false"

theorem keyCacheKey_inj {path path' : String} {dec dec' : Bool} :
    keyCacheKey path dec = keyCacheKey path' dec' ↔ path = path' ∧ dec = dec' := by
  constructor
  · exact SsmService.decryption_inj
  · rintro ⟨rfl, rfl⟩
    rfl

/-- The service with the memory of the process; `inserting` are the values of lookups that have not
come to their last statement.  `answered` and `given` are not kept by the program: what SSM has
answered, and what lookups have given. -/
structure KeySys where
  ssm : SsmService
  memory : String → Option CachedKey
  inserting : List GivenKey
  answered : List GivenKey
  given : List GivenKey

/-- What SSM answers, if it is asked. -/
def SsmService.said (p : SsmProcess) (s : SsmService) (path : String) (withDecryption : Bool)
    (t : SsmTurn) : Option String :=
  if t.getOk && (s.cached path withDecryption).isSome then none
  else match s.fetch p t with
    | .found value => some value
    | .missing | .failed => none

/-- Lookups with and without the memory, and the insertions that the former end with. -/
inductive KeyAction where
  | getParameter (path : String) (withDecryption : Bool) (turn : SsmTurn)
  | getSsmParameterCached (path : String) (decrypt : Bool) (turn : SsmTurn)
  | insert (i : ℕ)
  | wait (seconds : ℕ)
  | drop (key : String)

namespace KeySys

variable (p : SsmProcess) (s : KeySys) (path : String) (dec : Bool) (turn : SsmTurn)

def new (ssm : SsmService) : KeySys := ⟨ssm, fun _ => none, [], [], []⟩

def stamped (value : String) : GivenKey := ⟨s.ssm.now, path, dec, value⟩

def getParameter : Option String × KeySys :=
  let r := s.ssm.getParameter p path dec turn
  (r.1, { s with
    ssm := r.2
    answered := s.answered ++ ((s.ssm.said p path dec turn).map (s.stamped path dec)).toList
    given := s.given ++ (r.1.map (s.stamped path dec)).toList })

/-- The key in the memory, unless it has expired. -/
def remembered : Option String :=
  ((s.memory (keyCacheKey path dec)).filter fun c => s.ssm.now < c.expiresAt).map CachedKey.key

def getSsmParameterCached : Option String × KeySys :=
  match s.remembered path dec with
  | some key => (some key, { s with given := s.given ++ [s.stamped path dec key] })
  | none =>
    let r := s.getParameter p path dec turn
    (r.1, { r.2 with inserting := s.inserting ++ (r.1.map (s.stamped path dec)).toList })

def insert (g : GivenKey) : KeySys :=
  { s with
    memory := Function.update s.memory (keyCacheKey g.path g.withDecryption)
      (some ⟨g.value, s.ssm.now + keyCacheTtl⟩)
    inserting := s.inserting.erase g }

def step : KeyAction → Option KeySys
  | .getParameter path dec turn => some (s.getParameter p path dec turn).2
  | .getSsmParameterCached path dec turn => some (s.getSsmParameterCached p path dec turn).2
  | .insert i => (s.inserting[i]?).map s.insert
  | .wait seconds => some { s with ssm := { s.ssm with now := s.ssm.now + seconds } }
  | .drop key => some { s with ssm := { s.ssm with store := s.ssm.store.del key } }

/-- A lookup is over `lag` seconds after it has been given its value. -/
def Prompt (lag : ℕ) : KeySys → KeyAction → Prop
  | s, .insert i => ∀ g ∈ s.inserting[i]?, s.ssm.now ≤ g.time + lag
  | _, _ => True

/-! ### Where keys come from -/

/-- The value is the variable of a developer, or what SSM answered at a time with the property. -/
def From (value : String) (P : ℕ → Prop) : Prop :=
  p.tryDevEncryptionFallback path = some value ∨
    ∃ time, (⟨time, path, dec, value⟩ : GivenKey) ∈ s.answered ∧ P time

/-- What Redis and the process have of a key is not older than it may be. -/
structure Inv (lag : ℕ) : Prop where
  stored : ∀ e ∈ s.ssm.store.rows, ∀ r, s.ssm.redis = some r → ∀ path dec,
    e.key = s.ssm.cacheKey path dec r → e.value.text = ssmCacheMissMarker ∨
      s.From p path dec e.value.text fun t =>
        ∃ d, e.deadline = some d ∧ d ≤ t + SsmService.valueTtl path
  memory : ∀ path dec c, s.memory (keyCacheKey path dec) = some c →
    s.From p path dec c.key fun t => c.expiresAt ≤ t + SsmService.valueTtl path + keyCacheTtl + lag
  inserting : ∀ g ∈ s.inserting, s.From p g.path g.withDecryption g.value fun t =>
    g.time < t + SsmService.valueTtl g.path
  given : ∀ g ∈ s.given, s.From p g.path g.withDecryption g.value fun t =>
    g.time < t + SsmService.valueTtl g.path + keyCacheTtl + lag

variable {p s path dec turn} {s' : KeySys} {value : String} {lag : ℕ}

theorem valueTtl_pos (path : String) : 0 < SsmService.valueTtl path := by
  unfold SsmService.valueTtl
  split
  · decide
  · decide

theorem From.mono {P Q : ℕ → Prop} (h : s.From p path dec value P) (himp : ∀ t, P t → Q t)
    (hanswered : s.answered ⊆ s'.answered) : s'.From p path dec value Q := by
  rcases h with h | ⟨t, hmem, ht⟩
  · exact Or.inl h
  · exact Or.inr ⟨t, hanswered hmem, himp t ht⟩

theorem inv_new (ssm : SsmService) (hempty : ssm.store.rows = []) : (new ssm).Inv p lag where
  stored e he := by
    rw [new, hempty] at he
    cases he
  memory _ _ _ h := by cases h
  inserting _ h := by cases h
  given _ h := by cases h

/-! ### One step -/

/-- What Redis has after a text was stored. -/
theorem mem_remember {ssm : SsmService} {fetch : SsmFetch} {text : String} {ttl : ℕ} {ok : Bool}
    (httl : 0 < ttl) {e : RedisEntry}
    (he : e ∈ (ssm.remember path dec fetch text ttl ok).store.rows) :
    e ∈ ssm.store.rows ∨ ∃ r, ssm.redis = some r ∧
      e = ⟨ssm.cacheKey path dec r, ⟨text, ssm.now⟩, some (ssm.now + ttl)⟩ := by
  rw [SsmService.remember] at he
  cases hr : ssm.redis with
  | none =>
    rw [hr] at he
    exact Or.inl he
  | some r =>
    rw [hr] at he
    cases ok with
    | false => exact Or.inl he
    | true =>
      rcases RedisStore.mem_put he with he | rfl
      · exact Or.inl he
      · refine Or.inr ⟨r, rfl, ?_⟩
        rw [if_pos httl]

theorem remember_frame (ssm : SsmService) (fetch : SsmFetch) (text : String) (ttl : ℕ) (ok : Bool) :
    (ssm.remember path dec fetch text ttl ok).now = ssm.now ∧
      (ssm.remember path dec fetch text ttl ok).redis = ssm.redis ∧
      (ssm.remember path dec fetch text ttl ok).env = ssm.env := by
  rw [SsmService.remember]
  cases hr : ssm.redis with
  | none => exact ⟨rfl, hr, rfl⟩
  | some r =>
    cases ok with
    | false => exact ⟨rfl, hr, rfl⟩
    | true => exact ⟨rfl, rfl, rfl⟩

/-- Redis remembers what it may, also after SSM was asked. -/
theorem stored_settle (h : s.Inv p lag) {ok : Bool} {fetch : SsmFetch}
    (hanswered : s.answered ⊆ s'.answered)
    (hfound : ∀ v, fetch = .found v → s.stamped path dec v ∈ s'.answered) :
    ∀ e ∈ (s.ssm.settle p path dec ok fetch).2.store.rows, ∀ r, s.ssm.redis = some r → ∀ path' dec',
      e.key = s.ssm.cacheKey path' dec' r → e.value.text = ssmCacheMissMarker ∨
        s'.From p path' dec' e.value.text fun t =>
          ∃ d, e.deadline = some d ∧ d ≤ t + SsmService.valueTtl path' := by
  intro e he r hr path' dec' hkey
  have hold : e ∈ s.ssm.store.rows → e.value.text = ssmCacheMissMarker ∨
      s'.From p path' dec' e.value.text fun t =>
        ∃ d, e.deadline = some d ∧ d ≤ t + SsmService.valueTtl path' := fun he =>
    (h.stored e he r hr path' dec' hkey).imp_right fun hfrom => hfrom.mono (fun _ => id) hanswered
  cases fetch with
  | found value =>
    rcases mem_remember (valueTtl_pos path) he with he | ⟨r', hr', rfl⟩
    · exact hold he
    · obtain rfl : r' = r := Option.some.inj (hr'.symm.trans hr)
      obtain ⟨rfl, rfl⟩ := SsmService.cacheKey_inj.mp hkey
      exact Or.inr (Or.inr ⟨_, hfound value rfl, _, rfl, le_rfl⟩)
  | missing | failed =>
    rcases mem_remember (by decide) he with he | ⟨-, -, rfl⟩
    · exact hold he
    · exact Or.inl rfl

/-- What `get_parameter` gives is from Redis or from SSM, or it is a variable. -/
theorem getParameter_from (h : s.Inv p lag)
    (hvalue : (s.getParameter p path dec turn).1 = some value) :
    (s.getParameter p path dec turn).2.From p path dec value fun t =>
      s.ssm.now < t + SsmService.valueTtl path := by
  obtain ⟨text, htext, -, heq⟩ | ⟨hserved, heq⟩ := @SsmService.getParameter_eq p s.ssm path dec turn
  · -- from Redis: the entry is of an answer whose time is not over
    have hvalue' : (if text = ssmCacheMissMarker then none else some text) = some value :=
      (congrArg Prod.fst heq).symm.trans hvalue
    split at hvalue'
    · cases hvalue'
    · next hmarker =>
      obtain rfl := Option.some.inj hvalue'
      obtain ⟨r, hr, hget⟩ := Option.bind_eq_some_iff.mp htext
      obtain ⟨c, hc, rfl⟩ := Option.map_eq_some_iff.mp hget
      obtain ⟨e, he, hkey, rfl, halive⟩ := RedisStore.get_eq_some hc
      have hfrom := (h.stored e he r hr path dec hkey).resolve_left hmarker
      refine hfrom.mono ?_ (List.subset_append_left _ _)
      rintro t ⟨d, hd, hle⟩
      rw [RedisEntry.alive, hd, Option.all_some, decide_eq_true_eq] at halive
      exact halive.trans_le hle
  · -- from SSM, now
    have hvalue' : (s.ssm.settle p path dec turn.setOk (s.ssm.fetch p turn)).1 = some value :=
      (congrArg Prod.fst heq).symm.trans hvalue
    cases hfetch : s.ssm.fetch p turn with
    | found v =>
      rw [hfetch] at hvalue'
      obtain rfl := Option.some.inj hvalue'
      have hsaid : s.ssm.said p path dec turn = some v := by
        rw [SsmService.said, hserved, hfetch]
        rfl
      refine Or.inr ⟨s.ssm.now, List.mem_append_right _ ?_,
        Nat.lt_add_of_pos_right (valueTtl_pos path)⟩
      rw [hsaid]
      exact List.mem_singleton_self _
    | missing | failed =>
      rw [hfetch] at hvalue'
      exact Or.inl hvalue'

theorem getParameter_frame : (s.getParameter p path dec turn).2.ssm.now = s.ssm.now ∧
    (s.getParameter p path dec turn).2.ssm.redis = s.ssm.redis ∧
    (s.getParameter p path dec turn).2.ssm.env = s.ssm.env := by
  show (s.ssm.getParameter p path dec turn).2.now = _ ∧
    (s.ssm.getParameter p path dec turn).2.redis = _ ∧
    (s.ssm.getParameter p path dec turn).2.env = _
  obtain ⟨text, -, -, heq⟩ | ⟨-, heq⟩ := @SsmService.getParameter_eq p s.ssm path dec turn
  · rw [heq]
    exact ⟨rfl, rfl, rfl⟩
  · obtain ⟨ttl, -, hsettle⟩ :=
      @SsmService.settle_eq p s.ssm path dec turn.setOk (s.ssm.fetch p turn)
    rw [heq, hsettle]
    exact remember_frame _ _ _ _ _

theorem Inv.getParameter (h : s.Inv p lag) : (s.getParameter p path dec turn).2.Inv p lag := by
  obtain ⟨-, hredis, henv⟩ := @getParameter_frame p s path dec turn
  have hanswered : s.answered ⊆ (s.getParameter p path dec turn).2.answered :=
    List.subset_append_left _ _
  refine ⟨?_, ?_, ?_, ?_⟩
  · -- what Redis holds is older, or has just been answered
    intro e he r hr path' dec' hkey
    rw [hredis] at hr
    have hkey' : e.key = s.ssm.cacheKey path' dec' r := by
      rw [hkey, SsmService.cacheKey, henv, SsmService.cacheKey]
    obtain ⟨text, -, -, heq⟩ | ⟨hserved, heq⟩ :=
      @SsmService.getParameter_eq p s.ssm path dec turn
    · have he' : e ∈ s.ssm.store.rows := by
        rwa [KeySys.getParameter, heq] at he
      exact (h.stored e he' r hr path' dec' hkey').imp_right fun hfrom =>
        hfrom.mono (fun _ => id) hanswered
    · rw [KeySys.getParameter, heq] at he
      refine stored_settle h hanswered (fun v hv => List.mem_append_right _ ?_) e he r hr path' dec'
        hkey'
      rw [SsmService.said, hserved, hv]
      exact List.mem_singleton_self _
  · exact fun path' dec' c hc => (h.memory path' dec' c hc).mono (fun _ => id) hanswered
  · exact fun g hg => (h.inserting g hg).mono (fun _ => id) hanswered
  · -- the caller is given what lives for the time of both caches and the lag
    intro g hg
    rcases List.mem_append.mp hg with hg | hg
    · exact (h.given g hg).mono (fun _ => id) hanswered
    · obtain ⟨value, hvalue, rfl⟩ := Option.map_eq_some_iff.mp (Option.mem_toList.mp hg)
      refine (getParameter_from h hvalue).mono (fun t ht => ?_) (List.Subset.refl _)
      show s.ssm.now < t + SsmService.valueTtl path + keyCacheTtl + lag
      omega

/-- What the memory gives has not expired. -/
theorem remembered_from (h : s.Inv p lag) (hvalue : s.remembered path dec = some value) :
    s.From p path dec value fun t =>
      s.ssm.now < t + SsmService.valueTtl path + keyCacheTtl + lag := by
  obtain ⟨c, hc, rfl⟩ := Option.map_eq_some_iff.mp hvalue
  obtain ⟨hc, halive⟩ := Option.filter_eq_some_iff.mp hc
  exact (h.memory path dec c hc).mono (fun t ht => (of_decide_eq_true halive).trans_le ht)
    (List.Subset.refl _)

theorem Inv.getSsmParameterCached (h : s.Inv p lag) :
    (s.getSsmParameterCached p path dec turn).2.Inv p lag := by
  rw [KeySys.getSsmParameterCached]
  cases hvalue : s.remembered path dec with
  | some key =>
    have hfrom := remembered_from h hvalue
    refine ⟨h.stored, h.memory, h.inserting, fun g hg => ?_⟩
    rcases List.mem_append.mp hg with hg | hg
    · exact h.given g hg
    · obtain rfl := List.mem_singleton.mp hg
      exact hfrom
  | none =>
    have hinv : (s.getParameter p path dec turn).2.Inv p lag := h.getParameter
    refine ⟨hinv.stored, hinv.memory, fun g hg => ?_, hinv.given⟩
    rcases List.mem_append.mp hg with hg | hg
    · exact hinv.inserting g hg
    · obtain ⟨value, hvalue, rfl⟩ := Option.map_eq_some_iff.mp (Option.mem_toList.mp hg)
      exact getParameter_from h hvalue

theorem Inv.insert (h : s.Inv p lag) {g : GivenKey} (hg : g ∈ s.inserting)
    (hprompt : s.ssm.now ≤ g.time + lag) : (s.insert g).Inv p lag := by
  refine ⟨h.stored, fun path dec c hc => ?_, fun g' hg' => ?_, h.given⟩
  · by_cases hkey : keyCacheKey path dec = keyCacheKey g.path g.withDecryption
    · obtain ⟨rfl, rfl⟩ := keyCacheKey_inj.mp hkey
      have hc' : (Function.update s.memory (keyCacheKey g.path g.withDecryption)
          (some ⟨g.value, s.ssm.now + keyCacheTtl⟩)) (keyCacheKey g.path g.withDecryption) =
          some c := hc
      rw [Function.update_self] at hc'
      obtain rfl := Option.some.inj hc'
      refine (h.inserting g hg).mono (fun t ht => ?_) (List.Subset.refl _)
      show s.ssm.now + keyCacheTtl ≤ _
      omega
    · have hc' : (Function.update s.memory (keyCacheKey g.path g.withDecryption)
          (some ⟨g.value, s.ssm.now + keyCacheTtl⟩)) (keyCacheKey path dec) = some c := hc
      rw [Function.update_of_ne hkey] at hc'
      exact h.memory path dec c hc'
  · exact h.inserting g' (List.mem_of_mem_erase hg')

theorem inv_step {a : KeyAction} (h : s.Inv p lag) (ha : Prompt lag s a)
    (hstep : s.step p a = some s') : s'.Inv p lag := by
  cases a with
  | getParameter path dec turn =>
    obtain rfl := Option.some.inj hstep
    exact h.getParameter
  | getSsmParameterCached path dec turn =>
    obtain rfl := Option.some.inj hstep
    exact h.getSsmParameterCached
  | insert i =>
    obtain ⟨g, hg, rfl⟩ := Option.map_eq_some_iff.mp hstep
    exact h.insert (List.mem_of_getElem? hg) (ha g hg)
  | wait seconds =>
    obtain rfl := Option.some.inj hstep
    exact ⟨h.stored, h.memory, h.inserting, h.given⟩
  | drop key =>
    obtain rfl := Option.some.inj hstep
    exact ⟨fun e he => h.stored e (List.mem_filter.mp he).1, h.memory, h.inserting, h.given⟩

theorem inv_run {ssm : SsmService} (hempty : ssm.store.rows = []) {acts : List KeyAction}
    (hprompt : Transition.Along (step p) (Prompt lag) (new ssm) acts)
    (hrun : Transition.run (step p) (new ssm) acts = some s) : s.Inv p lag :=
  Transition.inv_of_run (P := Prompt lag) (fun hs ha hstep => inv_step hs ha hstep)
    (inv_new ssm hempty) hprompt hrun

theorem now_le_step {a : KeyAction} (hstep : s.step p a = some s') : s.ssm.now ≤ s'.ssm.now := by
  cases a with
  | getParameter path dec turn =>
    obtain rfl := Option.some.inj hstep
    exact getParameter_frame.1.ge
  | getSsmParameterCached path dec turn =>
    obtain rfl := Option.some.inj hstep
    rw [KeySys.getSsmParameterCached]
    cases s.remembered path dec with
    | some key => exact le_rfl
    | none => exact getParameter_frame.1.ge
  | insert i =>
    obtain ⟨g, -, rfl⟩ := Option.map_eq_some_iff.mp hstep
    exact le_rfl
  | wait seconds =>
    obtain rfl := Option.some.inj hstep
    exact Nat.le_add_right _ _
  | drop key =>
    obtain rfl := Option.some.inj hstep
    exact le_rfl

theorem given_subset_step {a : KeyAction} (hstep : s.step p a = some s') : s.given ⊆ s'.given := by
  cases a with
  | getParameter path dec turn =>
    obtain rfl := Option.some.inj hstep
    exact List.subset_append_left _ _
  | getSsmParameterCached path dec turn =>
    obtain rfl := Option.some.inj hstep
    rw [KeySys.getSsmParameterCached]
    cases s.remembered path dec with
    | some key => exact List.subset_append_left _ _
    | none => exact List.subset_append_left _ _
  | insert i =>
    obtain ⟨g, -, rfl⟩ := Option.map_eq_some_iff.mp hstep
    exact List.Subset.refl _
  | wait seconds | drop key =>
    obtain rfl := Option.some.inj hstep
    exact List.Subset.refl _

/-- No lookup takes longer than the run. -/
theorem prompt_of_run {acts : List KeyAction} (hrun : Transition.run (step p) s acts = some s')
    (hlag : s'.ssm.now ≤ lag) :
    Transition.Along (step p) (Prompt lag) s acts ∧ s.ssm.now ≤ lag := by
  induction acts generalizing s with
  | nil =>
    obtain rfl := Option.some.inj hrun
    exact ⟨trivial, hlag⟩
  | cons a acts ih =>
    obtain ⟨t, ht, hrest⟩ := Transition.run_cons_eq_some.mp hrun
    obtain ⟨hprompt, hle⟩ := ih hrest
    have hnow : s.ssm.now ≤ lag := (now_le_step ht).trans hle
    refine ⟨⟨?_, ?_⟩, hnow⟩
    · cases a with
      | insert i => exact fun g _ => hnow.trans (Nat.le_add_left _ _)
      | _ => trivial
    · rw [ht]
      exact hprompt

end KeySys

/-! ### A key that is changed -/

namespace Sample

open KeySys

def plainProcess : SsmProcess := ⟨fun _ => none, false, false⟩

theorem plainProcess_fallback (path : String) :
    plainProcess.tryDevEncryptionFallback path = none := by
  simp [SsmProcess.tryDevEncryptionFallback, plainProcess]

/-- The key is changed right after the first lookup; Redis gives the old one for a week, and the
memory for six hours more. -/
def rotation : List KeyAction :=
  [.getSsmParameterCached keyPath true (answered (some "old")), .insert 0, .wait 604799,
    .getSsmParameterCached keyPath true (answered (some "new")), .insert 0, .wait 21599,
    .getSsmParameterCached keyPath true (answered (some "new"))]

def rotationStart : KeySys := .new keyService

theorem rotation_run : ∃ s,
    Transition.run (KeySys.step plainProcess) rotationStart rotation = some s ∧
    (⟨626398, keyPath, true, "old"⟩ : GivenKey) ∈ s.given :=
  ⟨_, rfl, by decide⟩

theorem rotation_prompt :
    Transition.Along (KeySys.step plainProcess) (Prompt 0) rotationStart rotation := by
  refine ⟨trivial, ?_, trivial, trivial, ?_, trivial, trivial, trivial⟩
  · rintro g hg
    obtain rfl := Option.some.inj hg
    exact le_rfl
  · rintro g hg
    obtain rfl := Option.some.inj hg
    exact le_rfl

end Sample

end LeadsNebula
