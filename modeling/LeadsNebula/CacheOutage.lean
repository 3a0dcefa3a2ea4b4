/-
The cache when Redis fails.

* `cacheLookup_l1`, `cacheLookup_l2`, `cacheLookup_none`, `cacheLookup_unreachable` —
  what a lookup does, in each of its cases;
* `cacheStore_stores`, `cacheStore_ok_iff` — what storing a value does, and when it
  goes through;
* `cache_transparent_iff` — a call that L1 cannot serve gives a value if and only if
  Redis answers, and takes the value where one has to be stored: an error of Redis is
  an error of the call (`cache_outage_fails`).
-/
import LeadsNebula.CacheService

namespace LeadsNebula

variable {ν : Type}

namespace CacheService

/-- The two differ in the counters at most. -/
structure Agrees (s s' : CacheService) : Prop where
  redis : s'.redis = s.redis
  now : s'.now = s.now
  l1 : s'.l1 = s.l1
  l2 : s'.l2 = s.l2

theorem agrees_hit (s : CacheService) : s.Agrees s.hit := ⟨rfl, rfl, rfl, rfl⟩

theorem agrees_miss (s : CacheService) : s.Agrees s.miss := ⟨rfl, rfl, rfl, rfl⟩

theorem Agrees.trans {s s' s'' : CacheService} (h : s.Agrees s') (h' : s'.Agrees s'') :
    s.Agrees s'' :=
  ⟨h'.redis.trans h.redis, h'.now.trans h.now, h'.l1.trans h.l1, h'.l2.trans h.l2⟩

end CacheService

open CacheService CacheProg

/-! ### What a lookup does -/

section

variable {c : Codec ν} {key : String} {ok : Bool} {s : CacheService}

/-- Redis answers, or there is none to ask. -/
def CacheService.Reachable (s : CacheService) (ok : Bool) : Prop :=
    s.redis.isSome = true → ok = true

theorem cacheGet_reachable (key : String) (h : s.Reachable ok) :
    ∃ s', s.Agrees s' ∧ cacheGet key ok s = (.ok (s.l2Get key), s') := by
  cases hr : s.redis with
  | none =>
    refine ⟨s.miss, agrees_miss s, ?_⟩
    simp only [cacheGet, l2Get, hr, Option.bind_none]
  | some r =>
    have hok : ok = true := h (hr ▸ rfl)
    cases hget : s.l2Get key with
    | none =>
      refine ⟨s.miss, agrees_miss s, ?_⟩
      simp only [cacheGet, hr, hok, hget, if_true]
    | some e =>
      refine ⟨s.hit, agrees_hit s, ?_⟩
      simp only [cacheGet, hr, hok, hget, if_true]

theorem cacheGet_unreachable (key : String) (h : ¬ s.Reachable ok) :
    cacheGet key ok s = (.error .redisGet, s.miss) := by
  obtain ⟨hsome, hok⟩ := Classical.not_imp.mp h
  obtain ⟨r, hr⟩ := Option.isSome_iff_exists.mp hsome
  simp only [cacheGet, hr, hok]
  rfl

theorem cacheLookup_l1 (key : String) {e : Cached} {v : ν}
    (h : c.readable (s.l1Get key) = some (e, v)) :
    cacheLookup c key ok s = (.ok (some ⟨v, .l1, e.fetchedAt⟩), s.hit) := by
  simp only [cacheLookup, Prog.run_bind, CacheProg.read, h]
  rfl

theorem cacheLookup_unreachable (h1 : c.readable (s.l1Get key) = none) (h : ¬ s.Reachable ok) :
    cacheLookup c key ok s = (.error .redisGet, s.miss) := by
  simp only [cacheLookup, Prog.run_bind, CacheProg.read, h1, cacheGet_unreachable key h]

/-- A text of L2 is put in L1. -/
theorem cacheLookup_l2 {e : Cached} {v : ν} (h1 : c.readable (s.l1Get key) = none)
    (h : s.Reachable ok) (h2 : c.readable (s.l2Get key) = some (e, v)) :
    ∃ s', (s.l1Insert key e).Agrees s' ∧
      cacheLookup c key ok s = (.ok (some ⟨v, .l2, e.fetchedAt⟩), s') := by
  obtain ⟨s', hs', hget⟩ := cacheGet_reachable key h
  refine ⟨(s'.l1Insert key e).hit, ⟨hs'.redis, hs'.now, ?_, hs'.l2⟩, ?_⟩
  · show s'.l1.insert s'.now key e = s.l1.insert s.now key e
    rw [hs'.l1, hs'.now]
  · simp only [cacheLookup, Prog.run_bind, CacheProg.read, h1, hget, h2]
    rfl

theorem cacheLookup_none (h1 : c.readable (s.l1Get key) = none) (h : s.Reachable ok)
    (h2 : c.readable (s.l2Get key) = none) :
    ∃ s', s.Agrees s' ∧ cacheLookup c key ok s = (.ok none, s') := by
  obtain ⟨s', hs', hget⟩ := cacheGet_reachable key h
  refine ⟨s', hs', ?_⟩
  simp only [cacheLookup, Prog.run_bind, CacheProg.read, h1, hget, h2]
  rfl

/-! ### What storing a value does -/

/-- The value can be written as text, and Redis takes it. -/
def CacheService.Stores (s : CacheService) (c : Codec ν) (v : ν) (fault : Option Bool) : Prop :=
  (c.encode v).isSome = true ∧ (s.redis.isSome = true → fault = none)

/-- The service after a value has been stored. -/
def CacheService.stored (s : CacheService) (key text : String) (ttl : ℕ) : CacheService :=
  { s.l1Insert key ⟨text, s.now⟩ with
    l2 := match s.redis with
      | none => s.l2
      | some r => s.l2.setWithTtl s.now (redisKey r key) ⟨text, s.now⟩ ttl }

theorem cacheStore_serialize {v : ν} (h : c.encode v = none) (ttl : ℕ) (fault : Option Bool) :
    cacheStore c key ttl v fault s = (.error .serialize, s) := by
  simp only [cacheStore, h]
  rfl

/-- A value that is written as text is in L1 whatever Redis does. -/
theorem cacheStore_text {v : ν} {text : String} (h : c.encode v = some text) (ttl : ℕ)
    (fault : Option Bool) :
    cacheStore c key ttl v fault s =
      cacheSetWithTtl key ⟨text, s.now⟩ ttl fault (s.l1Insert key ⟨text, s.now⟩) := by
  simp only [cacheStore, h]
  rfl

theorem cacheStore_stores {v : ν} {text : String} (h : c.encode v = some text) (ttl : ℕ)
    {fault : Option Bool} (hfault : s.redis.isSome = true → fault = none) :
    cacheStore c key ttl v fault s = (.ok (), s.stored key text ttl) := by
  rw [cacheStore_text h]
  cases hr : s.redis with
  | none => simp only [cacheSetWithTtl, command, l1Insert, CacheService.stored, hr]
  | some r =>
    have hf : fault = none := hfault (hr ▸ rfl)
    simp only [cacheSetWithTtl, command, l1Insert, CacheService.stored, hr, hf]
    rfl

theorem cacheStore_ok_iff {v : ν} {ttl : ℕ} {fault : Option Bool} :
    (cacheStore c key ttl v fault s).1 = .ok () ↔ s.Stores c v fault := by
  cases h : c.encode v with
  | none => simp [cacheStore_serialize h, CacheService.Stores, h]
  | some text =>
    by_cases hfault : s.redis.isSome = true → fault = none
    · simpa [cacheStore_stores h ttl hfault, CacheService.Stores, h] using hfault
    · obtain ⟨hsome, hf⟩ := Classical.not_imp.mp hfault
      obtain ⟨r, hr⟩ := Option.isSome_iff_exists.mp hsome
      obtain ⟨applied, hf⟩ := Option.ne_none_iff_exists'.mp hf
      simp [cacheStore_text h, cacheSetWithTtl, command, l1Insert, CacheService.Stores, hr, hf]

/-! ### What a call does -/

variable {ttl : ℕ} {faults : CallFaults}

/-- A call that no level serves asks the source and stores what it gives. -/
theorem getOrInsertWith_source (source : Except String ν) (h1 : c.readable (s.l1Get key) = none)
    (h : s.Reachable faults.getOk) (h2 : c.readable (s.l2Get key) = none) :
    ∃ s', s.Agrees s' ∧ getOrInsertWith c key ttl source faults s = (do
      let v ← runSource source
      cacheStore c key ttl v faults.setFault
      pure ⟨v, .source, s.now⟩ : CacheProg (Served ν)) s' := by
  obtain ⟨s', hs', hlookup⟩ := cacheLookup_none h1 h h2
  refine ⟨s'.miss, hs'.trans (agrees_miss s'), ?_⟩
  simp only [getOrInsertWith, Prog.run_bind, hlookup, CacheProg.modify, CacheProg.read]
  cases source with
  | error message => rfl
  | ok v => simp only [runSource, ← hs'.now]; rfl

theorem getOrInsertWithSkipNone_source (source : Except String (Option ν))
    (h1 : c.readable (s.l1Get key) = none) (h : s.Reachable faults.getOk)
    (h2 : c.readable (s.l2Get key) = none) :
    ∃ s', s.Agrees s' ∧ getOrInsertWithSkipNone c key ttl source faults s = (do
      let value ← runSource source
      Prog.ifSome value fun v => cacheStore c key ttl v faults.setFault
      pure ⟨value, .source, s.now⟩ : CacheProg (Served (Option ν))) s' := by
  obtain ⟨s', hs', hlookup⟩ := cacheLookup_none h1 h h2
  refine ⟨s'.miss, hs'.trans (agrees_miss s'), ?_⟩
  simp only [getOrInsertWithSkipNone, Prog.run_bind, hlookup, CacheProg.modify, CacheProg.read]
  cases source with
  | error message => rfl
  | ok v => simp only [runSource, ← hs'.now]; rfl

/-! ### An outage of Redis -/

/-- Redis answers; and it has a readable text, or the value of the source can be stored. -/
def Answerable (s : CacheService) (c : Codec ν) (key : String) (value : Option ν)
    (faults : CallFaults) : Prop :=
  s.Reachable faults.getOk ∧ ((c.readable (s.l2Get key)).isSome = true ∨
    ∀ v ∈ value, s.Stores c v faults.setFault)

/-- The value is the one that is cached in Redis. -/
def FromL2 (s : CacheService) (c : Codec ν) (key : String) (v : ν) : Prop :=
  ∃ e, c.readable (s.l2Get key) = some (e, v)

theorem Stores.congr {s' : CacheService} (h : s.Agrees s') {v : ν} {fault : Option Bool} :
    s'.Stores c v fault ↔ s.Stores c v fault := by
  simp only [CacheService.Stores, h.redis]

theorem getOrInsertWith_answers_iff (h1 : c.readable (s.l1Get key) = none) (v : ν) :
    (∃ a, (getOrInsertWith c key ttl (.ok v) faults s).1 = .ok a ∧
        (a.value = v ∨ FromL2 s c key a.value)) ↔ Answerable s c key (some v) faults := by
  by_cases h : s.Reachable faults.getOk
  · cases h2 : c.readable (s.l2Get key) with
    | some ev =>
      -- Redis serves the call, and the source is not asked
      obtain ⟨s', -, hlookup⟩ := cacheLookup_l2 h1 h h2
      refine iff_of_true ⟨⟨ev.2, .l2, ev.1.fetchedAt⟩, ?_, Or.inr ⟨ev.1, h2⟩⟩
        ⟨h, Or.inl (by rw [h2]; rfl)⟩
      simp only [getOrInsertWith, Prog.run_bind, hlookup]
      rfl
    | none =>
      obtain ⟨s', hs', hcall⟩ := getOrInsertWith_source (.ok v) h1 h h2
      -- the value is lost if it cannot be stored: the error of the store is returned
      have hok : ∀ a, (getOrInsertWith c key ttl (.ok v) faults s).1 = .ok a ↔
          (cacheStore c key ttl v faults.setFault s').1 = .ok () ∧ ⟨v, .source, s.now⟩ = a :=
        fun a => hcall ▸ Prog.then_pure_eq_ok
      simp only [hok, cacheStore_ok_iff, Stores.congr hs', Answerable, h2, Option.isSome_none,
        Option.mem_some_iff, forall_eq', Bool.false_eq_true, false_or, h, true_and]
      constructor
      · rintro ⟨a, ⟨hstores, -⟩, -⟩
        exact hstores
      · intro hstores
        exact ⟨_, ⟨hstores, rfl⟩, Or.inl rfl⟩
  · -- an error of the read ends the call before the source is asked
    refine iff_of_false ?_ fun ha => h ha.1
    rintro ⟨a, ha, -⟩
    simp only [getOrInsertWith, Prog.run_bind, cacheLookup_unreachable h1 h] at ha
    cases ha

theorem ifSome_cacheStore_ok_iff {value : Option ν} {fault : Option Bool} :
    (Prog.ifSome value (fun v => cacheStore c key ttl v fault) s).1 = .ok () ↔
      ∀ v ∈ value, s.Stores c v fault := by
  cases value with
  | none => exact iff_of_true rfl fun _ hv => (by cases hv)
  | some v => simp only [Prog.ifSome, cacheStore_ok_iff, Option.mem_some_iff, forall_eq']

theorem getOrInsertWithSkipNone_answers_iff (h1 : c.readable (s.l1Get key) = none)
    (value : Option ν) :
    (∃ a, (getOrInsertWithSkipNone c key ttl (.ok value) faults s).1 = .ok a ∧
        (a.value = value ∨ ∃ v, a.value = some v ∧ FromL2 s c key v)) ↔
      Answerable s c key value faults := by
  by_cases h : s.Reachable faults.getOk
  · cases h2 : c.readable (s.l2Get key) with
    -- Redis has it
    | some ev =>
      obtain ⟨s', -, hlookup⟩ := cacheLookup_l2 h1 h h2
      refine iff_of_true ⟨⟨some ev.2, .l2, ev.1.fetchedAt⟩, ?_, Or.inr ⟨ev.2, rfl, ev.1, h2⟩⟩
        ⟨h, Or.inl (by rw [h2]; rfl)⟩
      simp only [getOrInsertWithSkipNone, Prog.run_bind, hlookup]
      rfl
    | none =>
      -- the source has it, and it has to be stored before it is answered
      obtain ⟨s', hs', hcall⟩ := getOrInsertWithSkipNone_source (.ok value) h1 h h2
      have hok : ∀ a, (getOrInsertWithSkipNone c key ttl (.ok value) faults s).1 = .ok a ↔
          (Prog.ifSome value (fun v => cacheStore c key ttl v faults.setFault) s').1 = .ok () ∧
            ⟨value, .source, s.now⟩ = a :=
        fun a => hcall ▸ Prog.then_pure_eq_ok
      simp only [hok, ifSome_cacheStore_ok_iff, Stores.congr hs', Answerable, h2,
        Option.isSome_none, Bool.false_eq_true, false_or, h, true_and]
      constructor
      · rintro ⟨a, ⟨hstores, -⟩, -⟩
        exact hstores
      · intro hstores
        exact ⟨_, ⟨hstores, rfl⟩, Or.inl rfl⟩
  · refine iff_of_false ?_ fun ha => h ha.1
    -- Redis cannot be asked, and the call fails
    rintro ⟨a, ha, -⟩
    simp only [getOrInsertWithSkipNone, Prog.run_bind, cacheLookup_unreachable h1 h] at ha
    cases ha

end

/-- A call whose source gives a value gives that one or a cached one if and only if Redis answers,
and takes the value where none is cached. -/
theorem cache_transparent_iff (s : CacheService) (c : Codec ν) (key : String) (ttl : ℕ)
    (faults : CallFaults) (h : c.readable (s.l1Get key) = none) :
    (∀ v, (∃ a, (getOrInsertWith c key ttl (.ok v) faults s).1 = .ok a ∧
        (a.value = v ∨ FromL2 s c key a.value)) ↔ Answerable s c key (some v) faults) ∧
      ∀ value, (∃ a, (getOrInsertWithSkipNone c key ttl (.ok value) faults s).1 = .ok a ∧
        (a.value = value ∨ ∃ v, a.value = some v ∧ FromL2 s c key v)) ↔
          Answerable s c key value faults :=
  ⟨getOrInsertWith_answers_iff h, getOrInsertWithSkipNone_answers_iff h⟩

namespace Sample

/-- Values that are their own text. -/
def textCodec : Codec String := ⟨some, some, some, some⟩

/-- A service with nothing in its memory and nothing in its Redis. -/
def emptyCache : CacheService := .new (some "prod") "production" 0 .empty

/-- A service that has one key in Redis only, and another in its memory. -/
def filledCache : CacheService :=
  (CacheService.new (some "prod") "production" 10
    (RedisStore.setWithTtl .empty 0 (redisKey "prod" "k") ⟨"old", 0⟩ 60)).l1Insert "other"
      ⟨"new", 5⟩

end Sample

open Sample

/-- With Redis the cached text is given, and the source's value for a key that is in neither level;
without an answer of Redis the call gives no value. -/
theorem cache_transparent_filledCache :
    filledCache.l1Get "other" = some ⟨"new", 5⟩ ∧ filledCache.l2Get "k" = some ⟨"old", 0⟩ ∧
      (∃ a, (getOrInsertWith textCodec "k" 60 (.ok "v") ⟨true, none⟩ filledCache).1 = .ok a ∧
        (a.value = "v" ∨ FromL2 filledCache textCodec "k" a.value)) ∧
      (∃ a, (getOrInsertWithSkipNone textCodec "new" 60 (.ok (some "v")) ⟨true, none⟩
          filledCache).1 = .ok a ∧
        (a.value = some "v" ∨ ∃ v, a.value = some v ∧ FromL2 filledCache textCodec "new" v)) ∧
      ¬∃ a, (getOrInsertWith textCodec "k" 60 (.ok "v") ⟨false, none⟩ filledCache).1 = .ok a ∧
        (a.value = "v" ∨ FromL2 filledCache textCodec "k" a.value) := by
  refine ⟨by decide, by decide, ?_, ?_, fun h => ?_⟩
  · exact ((cache_transparent_iff filledCache textCodec "k" 60 ⟨true, none⟩ (by decide)).1 "v").mpr
      ⟨fun _ => rfl, Or.inl (by decide)⟩
  · refine ((cache_transparent_iff filledCache textCodec "new" 60 ⟨true, none⟩ (by decide)).2
      (some "v")).mpr ⟨fun _ => rfl, Or.inr ?_⟩
    rintro v -
    exact ⟨rfl, fun _ => rfl⟩
  · have hanswerable :=
      ((cache_transparent_iff filledCache textCodec "k" 60 ⟨false, none⟩ (by decide)).1 "v").mp h
    exact absurd (hanswerable.1 rfl) (by decide)

/-- Redis fails, and a call whose source gives a value gives an error. -/
theorem cache_outage_fails :
    ¬ ∀ (s : CacheService) (c : Codec String) (key : String) (ttl : ℕ) (faults : CallFaults)
        (v : String), c.readable (s.l1Get key) = none →
        ∃ a, (getOrInsertWith c key ttl (.ok v) faults s).1 = .ok a ∧
          (a.value = v ∨ FromL2 s c key a.value) := by
  intro h
  obtain ⟨a, ha, -⟩ := h emptyCache textCodec "k" 60 ⟨false, none⟩ "v" rfl
  cases ha

end LeadsNebula
