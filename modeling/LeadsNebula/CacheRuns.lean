/-
Runs of the cache: deletions, and the age of what it serves.

* `touched_call` — what a call does to the two levels;
* `cache_invalidation_iff` — after a deletion every next call asks the source if and
  only if L1 does not hold the key and Redis' pattern matches it: L1 is never cleared
  (`deleted_value_served`);
* `cache_age_bounded` — a call gives no value older than its `ttl`, along every run in
  which L1 serves none and no call shortens the `ttl` of its key
  (`expired_value_served`).
-/
import LeadsNebula.CacheOutage
import LeadsNebula.Transition

namespace LeadsNebula

variable {ν : Type}

/-! ### The two levels -/

namespace RedisStore

variable {db : RedisStore} {now : ℕ} {key : String}

/-- What is there after keys were deleted was there before. -/
theorem get_of_filter {p : RedisEntry → Bool} {e : Cached}
    (h : get (Table.filter db p) now key = some e) : db.get now key = some e := by
  rw [get, Table.find_filter] at h
  rw [get]
  cases hf : db.find key with
  | none =>
    rw [hf] at h
    cases h
  | some entry =>
    rw [hf] at h
    cases hp : p entry with
    | true => rwa [Option.filter_some_pos hp] at h
    | false =>
      rw [Option.filter_some_neg hp] at h
      cases h

theorem get_filter_eq_none {p : RedisEntry → Bool} (h : db.get now key = none) :
    get (Table.filter db p) now key = none :=
  Option.eq_none_iff_forall_not_mem.mpr fun e he => by
    rw [get_of_filter he] at h
    cases h

theorem get_del : (del db key).get now key = none := by
  rw [get, del, Table.find_filter]
  cases hf : db.find key with
  | none => rfl
  | some e =>
    have hkey : e.key = key := Table.find_key hf
    simp [Option.filter, hkey]

/-- `SCAN` finds the keys that match, unless they have expired. -/
theorem get_delAll_scan {pattern : String} :
    (delAll db (scan db now pattern)).get now key =
      if globMatch pattern key then none else db.get now key := by
  rw [get, get, delAll, Table.find_filter]
  cases hf : db.find key with
  | none => simp
  | some e =>
    obtain ⟨hmem, hkey⟩ := Table.find_eq_some_iff.mp hf
    subst hkey
    have hscan : e.key ∈ scan db now pattern ↔
        e.alive now = true ∧ globMatch pattern e.key = true := by
      rw [scan, List.mem_map]
      constructor
      · rintro ⟨e', he', hkey⟩
        obtain ⟨hmem', hp⟩ := List.mem_filter.mp he'
        rw [List.inj_on_of_nodup_map db.nodup hmem' hmem hkey] at hp
        simpa using hp
      · intro hp
        exact ⟨e, List.mem_filter.mpr ⟨hmem, by simpa using hp⟩, rfl⟩
    by_cases halive : e.alive now = true
    · by_cases hmatch : globMatch pattern e.key = true
      · simp [Option.filter, hscan, halive, hmatch]
      · simp [Option.filter, hscan, halive, hmatch]
    · simp [Option.filter, hscan, halive]

/-- Another key is as it was. -/
theorem get_put_of_ne {e : RedisEntry} (h : e.key ≠ key) :
    (put db e).get now key = db.get now key := by
  have hfind : (put db e).find key = db.find key := by
    rw [put, Table.find_insert, del, Table.find_filter, if_neg h, Option.or_none]
    cases hf : db.find key with
    | none => rfl
    | some e' =>
      refine Option.filter_some_pos (decide_eq_true ?_)
      rw [Table.find_key hf]
      exact h.symm
  rw [get, get, hfind]

theorem mem_put {e e' : RedisEntry} (h : e' ∈ (put db e).rows) : e' ∈ db.rows ∨ e' = e := by
  rcases Table.mem_insert h with h | h
  · exact Or.inl (List.mem_filter.mp h).1
  · exact Or.inr h

theorem get_eq_some {e : Cached} (h : db.get now key = some e) :
    ∃ entry ∈ db.rows, entry.key = key ∧ entry.value = e ∧ entry.alive now = true := by
  obtain ⟨entry, hentry, rfl⟩ := Option.map_eq_some_iff.mp h
  obtain ⟨hfind, halive⟩ := Option.filter_eq_some_iff.mp hentry
  exact ⟨entry, (Table.find_eq_some_iff.mp hfind).1, Table.find_key hfind, rfl, halive⟩

/-- What is there later was there before. -/
theorem get_of_later {d : ℕ} {e : Cached} (h : db.get (now + d) key = some e) :
    db.get now key = some e := by
  obtain ⟨entry, hentry, rfl⟩ := Option.map_eq_some_iff.mp h
  obtain ⟨hfind, halive⟩ := Option.filter_eq_some_iff.mp hentry
  have hnow : entry.alive now = true := by
    unfold RedisEntry.alive at halive ⊢
    cases hd : entry.deadline with
    | none => rfl
    | some t =>
      rw [hd, Option.all_some, decide_eq_true_eq] at halive
      rw [Option.all_some, decide_eq_true_eq]
      omega
  rw [get, hfind, Option.filter_some_pos hnow, Option.map_some]

theorem get_eq_none_later (h : db.get now key = none) (d : ℕ) : db.get (now + d) key = none :=
  Option.eq_none_iff_forall_not_mem.mpr fun e he => by
    rw [get_of_later he] at h
    cases h

end RedisStore

theorem redisKey_inj {r k k' : String} : redisKey r k = redisKey r k' ↔ k = k' := by
  simp only [redisKey, String.append_right_inj]

/-- What a call on a key may do: put a text of Redis or one that is new in L1, and one that is new
in Redis. -/
structure Touched (key : String) (ttl : ℕ) (s s' : CacheService) : Prop where
  redis : s'.redis = s.redis
  now : s'.now = s.now
  l1 : s'.l1 = s.l1 ∨ ∃ e, s'.l1 = s.l1.insert s.now key e ∧
    (s.l2Get key = some e ∨ e.fetchedAt = s.now)
  l2 : s'.l2 = s.l2 ∨ ∃ r text, s.redis = some r ∧
    s'.l2 = s.l2.setWithTtl s.now (redisKey r key) ⟨text, s.now⟩ ttl

open CacheService CacheProg

theorem CacheService.Agrees.touched {s s' : CacheService} (h : s.Agrees s')
    (key : String) (ttl : ℕ) :
    Touched key ttl s s' := ⟨h.redis, h.now, Or.inl h.l1, Or.inl h.l2⟩

section

variable {c : Codec ν} {key : String} {ttl : ℕ} {s : CacheService}

theorem command_cases (fault : Option Bool) (error : CacheError)
    (f : String → CacheService → CacheService) (s : CacheService) :
    (command fault error f s).2 = s ∨
      ∃ r, s.redis = some r ∧ (command fault error f s).2 = f r s := by
  unfold command
  cases hr : s.redis with
  | none => exact Or.inl rfl
  | some r =>
    cases fault with
    | none => exact Or.inr ⟨r, rfl, rfl⟩
    | some applied =>
      cases applied with
      | false => exact Or.inl rfl
      | true => exact Or.inr ⟨r, rfl, rfl⟩

theorem touched_cacheStore {s' : CacheService} (hs : s.Agrees s') (v : ν) (fault : Option Bool) :
    Touched key ttl s (cacheStore c key ttl v fault s').2 := by
  cases h : c.encode v with
  | none =>
    rw [cacheStore_serialize h]
    exact hs.touched key ttl
  | some text =>
    rw [cacheStore_text h, hs.now]
    have hl1 : (s'.l1Insert key ⟨text, s.now⟩).l1 = s.l1.insert s.now key ⟨text, s.now⟩ := by
      show s'.l1.insert s'.now key _ = _
      rw [hs.l1, hs.now]
    have hnew : ∃ e : Cached, s.l1.insert s.now key ⟨text, s.now⟩ = s.l1.insert s.now key e ∧
        (s.l2Get key = some e ∨ e.fetchedAt = s.now) := ⟨_, rfl, Or.inr rfl⟩
    rcases command_cases fault .redisSet (fun r s₁ => s₁.withL2 (s₁.l2.setWithTtl s₁.now
      (redisKey r key) ⟨text, s.now⟩ ttl)) (s'.l1Insert key ⟨text, s.now⟩) with heq | ⟨r, hr, heq⟩
    · rw [cacheSetWithTtl, heq]
      exact ⟨hs.redis, hs.now, Or.inr (hl1 ▸ hnew), Or.inl hs.l2⟩
    · rw [cacheSetWithTtl, heq]
      refine ⟨hs.redis, hs.now, Or.inr (hl1 ▸ hnew), Or.inr ⟨r, text, hs.redis ▸ hr, ?_⟩⟩
      show RedisStore.setWithTtl s'.l2 s'.now _ _ _ = _
      rw [hs.l2, hs.now]

theorem touched_cacheLookup (c : Codec ν) (key : String) (ttl : ℕ) (ok : Bool) (s : CacheService) :
    Touched key ttl s (cacheLookup c key ok s).2 ∧
      ((cacheLookup c key ok s).1 = .ok none → s.Agrees (cacheLookup c key ok s).2) := by
  cases h1 : c.readable (s.l1Get key) with
  | some ev =>
    rw [cacheLookup_l1 key h1]
    exact ⟨(agrees_hit s).touched key ttl, fun _ => agrees_hit s⟩
  | none =>
    by_cases h : s.Reachable ok
    · cases h2 : c.readable (s.l2Get key) with
      | some ev =>
        obtain ⟨s', hs', hlookup⟩ := cacheLookup_l2 h1 h h2
        obtain ⟨e, he, hv⟩ := Option.bind_eq_some_iff.mp h2
        obtain ⟨v, -, rfl⟩ := Option.map_eq_some_iff.mp hv
        rw [hlookup]
        refine ⟨⟨hs'.redis, hs'.now, Or.inr ⟨e, hs'.l1, Or.inl he⟩, Or.inl hs'.l2⟩, fun hnone => ?_⟩
        cases hnone
      | none =>
        obtain ⟨s', hs', hlookup⟩ := cacheLookup_none h1 h h2
        rw [hlookup]
        exact ⟨hs'.touched key ttl, fun _ => hs'⟩
    · rw [cacheLookup_unreachable h1 h]
      exact ⟨(agrees_miss s).touched key ttl, fun _ => agrees_miss s⟩

/-- What is done with the answer of a lookup. -/
theorem touched_call {β : Type} {found : Served ν → CacheProg β} {missing : CacheProg β}
    (hfound : ∀ a s', (found a s').2 = s') (c : Codec ν) (key : String) (ttl : ℕ) (ok : Bool)
    {s : CacheService} (hmissing : ∀ s', s.Agrees s' → Touched key ttl s (missing s').2) :
    Touched key ttl s ((cacheLookup c key ok >>= fun o => match o with
      | some a => found a
      | none => missing) s).2 := by
  obtain ⟨htouched, hnone⟩ := touched_cacheLookup c key ttl ok s
  rw [Prog.run_bind]
  cases hl : cacheLookup c key ok s with
  | mk r s' =>
    rw [hl] at htouched hnone
    cases r with
    | error e => exact htouched
    | ok o =>
      cases o with
      | some a => exact (hfound a s').symm ▸ htouched
      | none => exact hmissing s' (hnone rfl)

theorem touched_getOrInsertWith (c : Codec ν) (key : String) (ttl : ℕ) (source : Except String ν)
    (faults : CallFaults) (s : CacheService) :
    Touched key ttl s (getOrInsertWith c key ttl source faults s).2 := by
  refine touched_call (fun _ _ => rfl) c key ttl faults.getOk fun s' hs' => ?_
  have hmiss := hs'.trans (agrees_miss s')
  cases source with
  | error message => exact hmiss.touched key ttl
  | ok v => exact Prog.then_pure_state ▸ touched_cacheStore hmiss v faults.setFault

theorem touched_getOrInsertWithSkipNone (c : Codec ν) (key : String) (ttl : ℕ)
    (source : Except String (Option ν)) (faults : CallFaults) (s : CacheService) :
    Touched key ttl s (getOrInsertWithSkipNone c key ttl source faults s).2 := by
  refine touched_call (fun _ _ => rfl) c key ttl faults.getOk fun s' hs' => ?_
  have hmiss := hs'.trans (agrees_miss s')
  cases source with
  | error message => exact hmiss.touched key ttl
  | ok value =>
    cases value with
    | none => exact hmiss.touched key ttl
    | some v => exact Prog.then_pure_state ▸ touched_cacheStore hmiss v faults.setFault

end

/-! ### Runs -/

/-- An operation of the service, or what happens to the levels by itself: time passes, L1 evicts a
key, Redis drops one. -/
inductive CacheOp (ν : Type) where
  | wait (seconds : ℕ)
  | evict (key : String)
  | drop (redisKey : String)
  | get (key : String) (ok : Bool)
  | set (key text : String) (fault : Option Bool)
  | setWithTtl (key text : String) (ttl : ℕ) (fault : Option Bool)
  | delete (key : String) (fault : Option Bool)
  | deleteByPrefix (start : String) (fault : Option ℕ)
  | getOrInsertWith (c : Codec ν) (key : String) (ttl : ℕ) (source : Except String ν)
    (faults : CallFaults)
  | getOrInsertWithSkipNone (c : Codec ν) (key : String) (ttl : ℕ)
    (source : Except String (Option ν)) (faults : CallFaults)

namespace CacheOp

/-- The service after the operation. -/
def apply (s : CacheService) : CacheOp ν → CacheService
  | wait seconds => { s with now := s.now + seconds }
  | evict key => { s with l1 := s.l1.evict key }
  | drop redisKey => s.withL2 (s.l2.del redisKey)
  | get key ok => (cacheGet key ok s).2
  | set key text fault => (cacheSet key ⟨text, s.now⟩ fault s).2
  | setWithTtl key text ttl fault => (cacheSetWithTtl key ⟨text, s.now⟩ ttl fault s).2
  | delete key fault => (cacheDelete key fault s).2
  | deleteByPrefix start fault => (cacheDeleteByPrefix start fault s).2
  | getOrInsertWith c key ttl source faults =>
    (LeadsNebula.getOrInsertWith c key ttl source faults s).2
  | getOrInsertWithSkipNone c key ttl source faults =>
    (LeadsNebula.getOrInsertWithSkipNone c key ttl source faults s).2

/-- The key that the operation may store a value for. -/
def target : CacheOp ν → Option String
  | set key _ _ | setWithTtl key _ _ _ | getOrInsertWith _ key _ _ _
  | getOrInsertWithSkipNone _ key _ _ _ => some key
  | _ => none

end CacheOp

/-- The service after the operations of a list, in order. -/
def cacheRun (s : CacheService) (ops : List (CacheOp ν)) : CacheService := ops.foldl CacheOp.apply s

/-! ### Deletions -/

/-- The key is in neither level. -/
structure CacheService.Gone (s : CacheService) (key : String) : Prop where
  l1 : s.l1Get key = none
  l2 : s.l2Get key = none

section

variable {s s' : CacheService} {key key' : String} {ttl : ℕ}

/-- Removing keys from Redis. -/
theorem CacheService.Gone.filter (h : s.Gone key) (p : RedisEntry → Bool) :
    (s.withL2 (Table.filter s.l2 p)).Gone key where
  l1 := h.l1
  l2 := by
    have hl2 := h.l2
    unfold l2Get at hl2 ⊢
    show s.redis.bind (fun r => RedisStore.get (Table.filter s.l2 p) s.now (redisKey r key)) = none
    cases hr : s.redis with
    | none => rfl
    | some r =>
      rw [hr] at hl2
      exact RedisStore.get_filter_eq_none hl2

theorem CacheService.Gone.setWithTtl (h : s.Gone key) (hne : key' ≠ key) {r : String}
    (hr : s.redis = some r) (e : Cached) (ttl : ℕ) :
    (s.withL2 (s.l2.setWithTtl s.now (redisKey r key') e ttl)).Gone key where
  l1 := h.l1
  l2 := by
    have hl2 := h.l2
    unfold l2Get at hl2 ⊢
    show s.redis.bind _ = none
    rw [hr] at hl2 ⊢
    exact (RedisStore.get_put_of_ne fun heq => hne (redisKey_inj.mp heq)).trans hl2

theorem CacheService.Gone.touched (h : s.Gone key) (hne : key' ≠ key) (ht : Touched key' ttl s s') :
    s'.Gone key := by
  have hl1 : s'.l1Get key = none := by
    unfold l1Get
    rw [ht.now]
    rcases ht.l1 with heq | ⟨e, heq, -⟩
    · rw [heq]
      exact h.l1
    · rw [heq, TtlCache.get_insert_of_ne hne.symm]
      exact h.l1
  refine ⟨hl1, ?_⟩
  rcases ht.l2 with heq | ⟨r, text, hr, heq⟩
  · have hl2 := h.l2
    unfold l2Get at hl2 ⊢
    rwa [ht.redis, ht.now, heq]
  · have hl2 := (h.setWithTtl hne hr ⟨text, s.now⟩ ttl).l2
    unfold l2Get at hl2 ⊢
    rw [ht.redis, ht.now, heq]
    exact hl2

theorem CacheService.Gone.agrees (h : s.Gone key) (hs : s.Agrees s') : s'.Gone key := by
  obtain ⟨hl1, hl2⟩ := h
  unfold l1Get at hl1
  unfold l2Get at hl2
  constructor
  · unfold l1Get
    rwa [hs.l1, hs.now]
  · unfold l2Get
    rwa [hs.redis, hs.l2, hs.now]

theorem agrees_cacheGet (key : String) (ok : Bool) (s : CacheService) :
    s.Agrees (cacheGet key ok s).2 := by
  by_cases h : s.Reachable ok
  · obtain ⟨s', hs', hget⟩ := cacheGet_reachable key h
    rw [hget]
    exact hs'
  · rw [cacheGet_unreachable key h]
    exact agrees_miss s

theorem CacheService.Gone.command (h : s.Gone key) {f : String → CacheService → CacheService}
    (hf : ∀ r, s.redis = some r → (f r s).Gone key) (fault : Option Bool) (error : CacheError) :
    (CacheProg.command fault error f s).2.Gone key := by
  rcases command_cases fault error f s with heq | ⟨r, hr, heq⟩
  · rwa [heq]
  · rw [heq]
    exact hf r hr

/-- An operation that stores nothing for the key does not bring it back. -/
theorem CacheService.Gone.apply (h : s.Gone key) {op : CacheOp ν} (hop : op.target ≠ some key) :
    (op.apply s).Gone key := by
  cases op with
  | wait seconds =>
    -- time only takes entries away
    refine ⟨TtlCache.get_eq_none_later h.l1 seconds, ?_⟩
    have hl2 := h.l2
    unfold l2Get at hl2 ⊢
    show s.redis.bind (fun r => s.l2.get (s.now + seconds) (redisKey r key)) = none
    cases hr : s.redis with
    | none => rfl
    | some r =>
      rw [hr] at hl2
      exact RedisStore.get_eq_none_later hl2 seconds
  | evict key' => exact ⟨TtlCache.get_evict_eq_none h.l1, h.l2⟩
  | drop redisKey => exact h.filter _
  | get key' ok => exact h.agrees (agrees_cacheGet key' ok s)
  | set key' text fault =>
    have hne : key' ≠ key := fun heq => hop (congrArg some heq)
    exact h.command (fun r hr => h.setWithTtl hne hr _ _) fault .redisSet
  | setWithTtl key' text ttl fault =>
    have hne : key' ≠ key := fun heq => hop (congrArg some heq)
    exact h.command (fun r hr => h.setWithTtl hne hr _ _) fault .redisSet
  | delete key' fault => exact h.command (fun r _ => h.filter _) fault .redisDelete
  | deleteByPrefix start fault =>
    simp only [CacheOp.apply, cacheDeleteByPrefix]
    cases hr : s.redis with
    | none => exact h
    | some r =>
      cases fault with
      | none => exact h.filter _
      | some batches => exact h.filter _
  | getOrInsertWith c key' ttl source faults =>
    exact h.touched (fun heq => hop (congrArg some heq)) (touched_getOrInsertWith c key' ttl source
      faults s)
  | getOrInsertWithSkipNone c key' ttl source faults =>
    exact h.touched (fun heq => hop (congrArg some heq)) (touched_getOrInsertWithSkipNone c key' ttl
      source faults s)

theorem CacheService.Gone.run (h : s.Gone key) {ops : List (CacheOp ν)}
    (hops : ∀ op ∈ ops, op.target ≠ some key) : (cacheRun s ops).Gone key := by
  induction ops generalizing s with
  | nil => exact h
  | cons op ops ih =>
    exact ih (h.apply (hops op List.mem_cons_self)) fun op hop =>
      hops op (List.mem_cons_of_mem _ hop)

/-- The answer of a call that gives what the source gives. -/
def sourceAnswer {α : Type} (now : ℕ) : Except String α → Except CacheError (Served α)
  | .ok v => .ok ⟨v, .source, now⟩
  | .error message => .error (.source message)

/-- The answer is the source's; or it is an error of Redis or of the serializer, and then one of
them has failed. -/
def FromSource {α : Type} (now : ℕ) (works : Prop) (source : Except String α)
    (answer : Except CacheError (Served α)) : Prop :=
  answer = sourceAnswer now source ∨ ¬ works ∧ ∃ e, answer = .error e

/-- Every call on the key gives what the source gives. -/
def AsksSource (ν : Type) (s : CacheService) (key : String) : Prop :=
  ∀ (c : Codec ν) (ttl : ℕ) (faults : CallFaults),
    (∀ source, FromSource s.now (s.Reachable faults.getOk ∧ ∀ v, source = .ok v →
        s.Stores c v faults.setFault) source (getOrInsertWith c key ttl source faults s).1) ∧
      ∀ source, FromSource s.now (s.Reachable faults.getOk ∧ ∀ v, source = .ok (some v) →
        s.Stores c v faults.setFault) source (getOrInsertWithSkipNone c key ttl source faults s).1

theorem CacheService.Gone.asksSource (h : s.Gone key) : AsksSource ν s key := by
  intro c ttl faults
  have h1 : c.readable (s.l1Get key) = none := by rw [h.l1]; rfl
  have h2 : c.readable (s.l2Get key) = none := by rw [h.l2]; rfl
  by_cases hreach : s.Reachable faults.getOk
  · -- the source is asked; its value is returned unless it cannot be stored
    constructor
    · intro source
      obtain ⟨s', hs', hcall⟩ := getOrInsertWith_source source h1 hreach h2
      rw [hcall]
      cases source with
      | error message => exact Or.inl rfl
      | ok v =>
        rcases Prog.then_pure_cases (cacheStore c key ttl v faults.setFault)
          (⟨v, .source, s.now⟩ : Served ν) s' with heq | ⟨hne, e, he⟩
        · exact Or.inl heq
        · refine Or.inr ⟨fun hw => hne (cacheStore_ok_iff.mpr ?_), e, he⟩
          exact (Stores.congr hs').mpr (hw.2 v rfl)
    · intro source
      obtain ⟨s', hs', hcall⟩ := getOrInsertWithSkipNone_source source h1 hreach h2
      rw [hcall]
      cases source with
      | error message => exact Or.inl rfl
      | ok value =>
        rcases Prog.then_pure_cases (Prog.ifSome value fun v => cacheStore c key ttl v
          faults.setFault) (⟨value, .source, s.now⟩ : Served (Option ν)) s' with heq | ⟨hne, e, he⟩
        · exact Or.inl heq
        · refine Or.inr ⟨fun hw => hne (ifSome_cacheStore_ok_iff.mpr fun v hv => ?_), e, he⟩
          exact (Stores.congr hs').mpr (hw.2 v (congrArg Except.ok hv))
  · -- the call fails at the read from Redis
    constructor
    · intro source
      refine Or.inr ⟨fun hw => hreach hw.1, .redisGet, ?_⟩
      simp only [getOrInsertWith, Prog.run_bind, cacheLookup_unreachable h1 hreach]
    · intro source
      refine Or.inr ⟨fun hw => hreach hw.1, .redisGet, ?_⟩
      simp only [getOrInsertWithSkipNone, Prog.run_bind, cacheLookup_unreachable h1 hreach]

/-- Reads every text as the one value. -/
def constCodec (v : ν) : Codec ν :=
  ⟨fun _ => some v, fun _ => some v, fun _ => none, fun _ => none⟩

theorem not_fromSource_ok {works : Prop} {message : String} {now : ℕ} {a : Served ν} :
    ¬ FromSource now works (.error message) (.ok a) := by
  rintro (h | ⟨-, e, h⟩)
  · cases h
  · cases h

/-- A text that is in a level is served, if it can be read. -/
theorem AsksSource.gone [Nonempty ν] (h : AsksSource ν s key) : s.Gone key := by
  obtain ⟨v⟩ := ‹Nonempty ν›
  have hcall := (h (constCodec v) 0 ⟨true, none⟩).1 (.error "")
  have hl1 : s.l1Get key = none := by
    by_contra hne
    obtain ⟨e, he⟩ := Option.ne_none_iff_exists'.mp hne
    have h1 : (constCodec v).readable (s.l1Get key) = some (e, v) := by rw [he]; rfl
    simp only [getOrInsertWith, Prog.run_bind, cacheLookup_l1 key h1] at hcall
    exact not_fromSource_ok hcall
  refine ⟨hl1, ?_⟩
  by_contra hne
  obtain ⟨e, he⟩ := Option.ne_none_iff_exists'.mp hne
  have h1 : (constCodec v).readable (s.l1Get key) = none := by rw [hl1]; rfl
  have h2 : (constCodec v).readable (s.l2Get key) = some (e, v) := by rw [he]; rfl
  obtain ⟨s', -, hlookup⟩ := cacheLookup_l2 h1 (fun _ => rfl : s.Reachable true) h2
  simp only [getOrInsertWith, Prog.run_bind, hlookup] at hcall
  exact not_fromSource_ok hcall

end

/-- A deletion of a key, or of the keys that begin with a text. -/
inductive CacheDeletion where
  | one (key : String)
  | startingWith (start : String)

namespace CacheDeletion

/-- The deletion, all its commands going through. -/
def op : CacheDeletion → CacheOp ν
  | one key => .delete key none
  | startingWith start => .deleteByPrefix start none

/-- The deletion is of the key. -/
def Of (key : String) : CacheDeletion → Prop
  | one key' => key' = key
  | startingWith start => ∃ rest, key = start ++ rest

/-- Redis is told to delete the key. -/
def covers (r key : String) : CacheDeletion → Bool
  | one _ => true
  | startingWith start => globMatch (redisKey r start ++ "*") (redisKey r key)

/-- A text without `*`, `?`, `[` and backslash covers the keys that it begins. -/
theorem covers_of_plain {r start : String} (h : ∀ b ∈ utf8Bytes (redisKey r start), PlainByte b)
    (rest : String) : (startingWith start).covers r (start ++ rest) = true := by
  have hkey : redisKey r (start ++ rest) = redisKey r start ++ rest := by
    simp only [redisKey, String.append_assoc]
  rw [covers, hkey]
  exact globMatch_append_star h rest

end CacheDeletion

section

variable {s : CacheService} {key : String}

/-- What the deletion leaves in Redis. -/
theorem l2Get_deletion {d : CacheDeletion} (hd : d.Of key) {r : String} (hr : s.redis = some r) :
    ((d.op : CacheOp ν).apply s).l2Get key = if d.covers r key then none else s.l2Get key := by
  cases d with
  | one key' =>
    have hkey : key' = key := hd
    subst hkey
    have happly : ((CacheDeletion.one key').op : CacheOp ν).apply s =
        s.withL2 (s.l2.del (redisKey r key')) := by
      simp only [CacheDeletion.op, CacheOp.apply, cacheDelete, command, hr]
    rw [happly, l2Get, CacheService.withL2, hr]
    exact RedisStore.get_del
  | startingWith start =>
    have happly : ((CacheDeletion.startingWith start).op : CacheOp ν).apply s =
        s.withL2 (s.l2.delAll (s.l2.scan s.now (redisKey r start ++ "*"))) := by
      simp only [CacheDeletion.op, CacheOp.apply, cacheDeleteByPrefix, hr]
    rw [happly, l2Get, l2Get, CacheService.withL2, hr]
    exact RedisStore.get_delAll_scan

theorem l1Get_deletion (d : CacheDeletion) :
    ((d.op : CacheOp ν).apply s).l1Get key = s.l1Get key := by
  cases d with
  | one key' =>
    rcases command_cases none .redisDelete
      (fun r s => s.withL2 (s.l2.del (redisKey r key'))) s with heq | ⟨r, -, heq⟩
    · simp only [CacheDeletion.op, CacheOp.apply, cacheDelete, heq]
    · simp only [CacheDeletion.op, CacheOp.apply, cacheDelete, heq]
      rfl
  | startingWith start =>
    simp only [CacheDeletion.op, CacheOp.apply, cacheDeleteByPrefix]
    cases s.redis with
    | none => rfl
    | some r => rfl

/-- The key is gone after the deletion, if it was not in L1 and Redis is told to delete it or did
not have it. -/
def Deletable (s : CacheService) (key : String) (d : CacheDeletion) : Prop :=
  s.l1Get key = none ∧ ∀ r, s.redis = some r → d.covers r key = true ∨ s.l2Get key = none

theorem gone_deletion_iff {d : CacheDeletion} (hd : d.Of key) :
    ((d.op : CacheOp ν).apply s).Gone key ↔ Deletable s key d := by
  have hl2 : ((d.op : CacheOp ν).apply s).l2Get key = none ↔
      ∀ r, s.redis = some r → d.covers r key = true ∨ s.l2Get key = none := by
    cases hr : s.redis with
    | none =>
      refine iff_of_true ?_ fun r h => (by cases h)
      have hredis : ((d.op : CacheOp ν).apply s).redis = none := by
        cases d with
        | one key' => simp only [CacheDeletion.op, CacheOp.apply, cacheDelete, command, hr]
        | startingWith start =>
          simp only [CacheDeletion.op, CacheOp.apply, cacheDeleteByPrefix, hr]
      rw [l2Get, hredis, Option.bind_none]
    | some r =>
      rw [l2Get_deletion hd hr]
      cases hc : d.covers r key with
      | true => simp [hc]
      | false => simp [hc]
  constructor
  · intro h
    exact ⟨l1Get_deletion d ▸ h.l1, hl2.mp h.l2⟩
  · intro h
    exact ⟨(l1Get_deletion d).trans h.1, hl2.mpr h.2⟩

end

/-- After a deletion of a key that returned, and operations that store nothing for the key, every
call on it gives what the source gives: if and only if the key was not in L1, and Redis is told to
delete it or did not have it. -/
theorem cache_invalidation_iff [Nonempty ν] (s : CacheService) (key : String) (d : CacheDeletion)
    (hd : d.Of key) :
    (∀ ops : List (CacheOp ν), (∀ op ∈ ops, op.target ≠ some key) →
      AsksSource ν (cacheRun ((d.op : CacheOp ν).apply s) ops) key) ↔ Deletable s key d := by
  constructor
  · intro h
    exact (gone_deletion_iff hd).mp (h [] fun _ hop => (by cases hop)).gone
  · intro h ops hops
    exact (((gone_deletion_iff hd).mpr h).run hops).asksSource

namespace Sample

/-- A call that stores a value. -/
def fetchOld : CacheOp String := .getOrInsertWith textCodec "k" 60 (.ok "old") ⟨true, none⟩

/-- A service that has one key in Redis only, and another in both levels. -/
def evictedCache : CacheService :=
  cacheRun emptyCache [fetchOld, .evict "k",
    .getOrInsertWith textCodec "other" 60 (.ok "new") ⟨true, none⟩]

end Sample

open Sample

/-- A key that is in Redis only is gone after its deletion; one that is in both levels is not. -/
theorem cache_invalidation_evictedCache :
    evictedCache.l2Get "k" = some ⟨"old", 0⟩ ∧ evictedCache.l1Get "other" = some ⟨"new", 0⟩ ∧
      (∀ ops : List (CacheOp String), (∀ op ∈ ops, op.target ≠ some "k") →
        AsksSource String (cacheRun (((CacheDeletion.one "k").op : CacheOp String).apply
          evictedCache) ops) "k") ∧
      ¬∀ ops : List (CacheOp String), (∀ op ∈ ops, op.target ≠ some "other") →
        AsksSource String (cacheRun (((CacheDeletion.one "other").op : CacheOp String).apply
          evictedCache) ops) "other" := by
  refine ⟨by decide, by decide, ?_, fun h => ?_⟩
  · exact (cache_invalidation_iff evictedCache "k" (.one "k") rfl).mpr
      ⟨by decide, fun _ _ => Or.inl rfl⟩
  · have hgone := (cache_invalidation_iff evictedCache "other" (.one "other") rfl).mp h
    exact absurd hgone.1 (by decide)

/-- A value is served from L1 after its key has been deleted. -/
theorem deleted_value_served :
    ¬ ∀ (s : CacheService) (key : String) (d : CacheDeletion), d.Of key →
        ∀ ops : List (CacheOp String), (∀ op ∈ ops, op.target ≠ some key) →
          AsksSource String (cacheRun ((d.op : CacheOp String).apply s) ops) key := by
  intro h
  have hgone := (h (cacheRun emptyCache [fetchOld]) "k" (.one "k") rfl []
    fun _ hop => (by cases hop)).gone
  have hl1 : (((CacheDeletion.one "k").op : CacheOp String).apply
      (cacheRun emptyCache [fetchOld])).l1Get "k" = some ⟨"old", 0⟩ := by decide
  cases hl1.symm.trans hgone.l1

/-! ### The age of a value -/

namespace CacheOp

/-- The key and the time-to-live of a call, and how it reads a text. -/
def call : CacheOp ν → Option (Codec ν × String × ℕ)
  | getOrInsertWith c key ttl _ _ | getOrInsertWithSkipNone c key ttl _ _ => some (c, key, ttl)
  | _ => none

/-- The operation stores a text that no source has given. -/
def writes : CacheOp ν → Bool
  | set _ _ _ | setWithTtl _ _ _ _ => true
  | _ => false

/-- The call gives no value that is older than its time-to-live. -/
def FreshAnswer (s : CacheService) : CacheOp ν → Prop
  | getOrInsertWith c key ttl source faults => ∀ a,
    (LeadsNebula.getOrInsertWith c key ttl source faults s).1 = .ok a → s.now ≤ a.fetchedAt + ttl
  | getOrInsertWithSkipNone c key ttl source faults => ∀ a,
    (LeadsNebula.getOrInsertWithSkipNone c key ttl source faults s).1 = .ok a →
      s.now ≤ a.fetchedAt + ttl
  | _ => True

/-- L1 has no readable text for the call that is older than its time-to-live. -/
def Timely (s : CacheService) (op : CacheOp ν) : Prop :=
  ∀ c key ttl, op.call = some (c, key, ttl) →
    ∀ e v, c.readable (s.l1Get key) = some (e, v) → s.now ≤ e.fetchedAt + ttl

/-- A later call on the same key has no shorter time-to-live, and the first one has some. -/
def NotShorter (op op' : CacheOp ν) : Prop :=
  ∀ c key ttl c' ttl', op.call = some (c, key, ttl) → op'.call = some (c', key, ttl') →
    0 < ttl ∧ ttl ≤ ttl'

end CacheOp

/-- The step of a run of the cache. -/
def cacheStep (s : CacheService) (op : CacheOp ν) : Option CacheService := some (op.apply s)

/-- Redis keeps no text for longer than a call of `ops` on its key allows. -/
def L2Fresh (s : CacheService) (ops : List (CacheOp ν)) : Prop :=
  ∀ r, s.redis = some r → ∀ entry ∈ s.l2.rows, ∀ op ∈ ops, ∀ c key ttl,
    op.call = some (c, key, ttl) → entry.key = redisKey r key →
      ∃ d, entry.deadline = some d ∧ d ≤ entry.value.fetchedAt + ttl

section

variable {c : Codec ν} {key : String} {ttl : ℕ} {s : CacheService}

/-- Where a value comes from, and how old it is. -/
theorem age_of_lookup {ok : Bool} {a : Served ν} (h : (cacheLookup c key ok s).1 = .ok (some a)) :
    (∃ e v, c.readable (s.l1Get key) = some (e, v) ∧ a.fetchedAt = e.fetchedAt) ∨
      ∃ e, s.l2Get key = some e ∧ a.fetchedAt = e.fetchedAt := by
  cases h1 : c.readable (s.l1Get key) with
  | some ev =>
    rw [cacheLookup_l1 key h1] at h
    cases h
    exact Or.inl ⟨ev.1, ev.2, rfl, rfl⟩
  | none =>
    by_cases hreach : s.Reachable ok
    · cases h2 : c.readable (s.l2Get key) with
      | some ev =>
        obtain ⟨s', -, hlookup⟩ := cacheLookup_l2 h1 hreach h2
        obtain ⟨e, he, hv⟩ := Option.bind_eq_some_iff.mp h2
        obtain ⟨v, -, rfl⟩ := Option.map_eq_some_iff.mp hv
        rw [hlookup] at h
        cases h
        exact Or.inr ⟨e, he, rfl⟩
      | none =>
        obtain ⟨s', -, hlookup⟩ := cacheLookup_none h1 hreach h2
        rw [hlookup] at h
        cases h
    · rw [cacheLookup_unreachable h1 hreach] at h
      cases h

/-- A text of Redis that a call may be given is young enough. -/
theorem L2Fresh.age {op : CacheOp ν} {ops : List (CacheOp ν)} (h : L2Fresh s (op :: ops))
    (hcall : op.call = some (c, key, ttl)) {e : Cached} (he : s.l2Get key = some e) :
    s.now ≤ e.fetchedAt + ttl := by
  obtain ⟨r, hr, hget⟩ := Option.bind_eq_some_iff.mp he
  obtain ⟨entry, hmem, hkey, rfl, halive⟩ := RedisStore.get_eq_some hget
  obtain ⟨d, hd, hle⟩ := h r hr entry hmem op List.mem_cons_self c key ttl hcall hkey
  rw [RedisEntry.alive, hd, Option.all_some, decide_eq_true_eq] at halive
  omega

/-- The age of the answer of a call, from that of the answer of its lookup. -/
theorem age_of_call {β : Type} {found : Served ν → CacheProg (Served β)}
    {missing : CacheProg (Served β)} {ok : Bool} {a : Served β}
    (hfound : ∀ b s', ∃ x, found b s' = (.ok ⟨x, b.origin, b.fetchedAt⟩, s'))
    (hmissing : ∀ s', s.Agrees s' → ∀ a, (missing s').1 = .ok a → a.fetchedAt = s.now)
    (h : ((cacheLookup c key ok >>= fun o => match o with
      | some b => found b
      | none => missing) s).1 = .ok a) :
    (∃ b, (cacheLookup c key ok s).1 = .ok (some b) ∧ a.fetchedAt = b.fetchedAt) ∨
      a.fetchedAt = s.now := by
  have hnone := (touched_cacheLookup c key 0 ok s).2
  rw [Prog.run_bind] at h
  cases hl : cacheLookup c key ok s with
  | mk result s' =>
    rw [hl] at h hnone
    cases result with
    | error e => cases h
    | ok o =>
      cases o with
      | some b =>
        obtain ⟨x, hx⟩ := hfound b s'
        simp only [hx] at h
        cases h
        exact Or.inl ⟨b, rfl, rfl⟩
      | none => exact Or.inr (hmissing s' (hnone rfl) a h)

theorem age_of_getOrInsertWith {source : Except String ν} {faults : CallFaults} {a : Served ν}
    (h : (getOrInsertWith c key ttl source faults s).1 = .ok a) :
    (∃ b, (cacheLookup c key faults.getOk s).1 = .ok (some b) ∧ a.fetchedAt = b.fetchedAt) ∨
      a.fetchedAt = s.now := by
  refine age_of_call (fun b s' => ⟨b.value, rfl⟩) (fun s' hs' a ha => ?_) h
  cases source with
  | error message => cases ha
  | ok v =>
    obtain ⟨-, rfl⟩ := Prog.then_pure_eq_ok.mp ha
    exact hs'.now

theorem age_of_getOrInsertWithSkipNone {source : Except String (Option ν)} {faults : CallFaults}
    {a : Served (Option ν)} (h : (getOrInsertWithSkipNone c key ttl source faults s).1 = .ok a) :
    (∃ b, (cacheLookup c key faults.getOk s).1 = .ok (some b) ∧ a.fetchedAt = b.fetchedAt) ∨
      a.fetchedAt = s.now := by
  refine age_of_call (fun b s' => ⟨some b.value, rfl⟩) (fun s' hs' a ha => ?_) h
  cases source with
  | error message => cases ha
  | ok value =>
    obtain ⟨-, rfl⟩ := Prog.then_pure_eq_ok.mp ha
    exact hs'.now

/-- An answer of a call, from L1, from Redis or from the source. -/
theorem freshAnswer {op : CacheOp ν} {ops : List (CacheOp ν)} (hl2 : L2Fresh s (op :: ops))
    (htimely : op.Timely s) : op.FreshAnswer s := by
  have hlookup : ∀ {c key ttl ok} {b : Served ν}, op.call = some (c, key, ttl) →
      (cacheLookup c key ok s).1 = .ok (some b) → s.now ≤ b.fetchedAt + ttl := by
    intro c key ttl ok b hcall hb
    rcases age_of_lookup hb with ⟨e, v, he, heq⟩ | ⟨e, he, heq⟩
    · rw [heq]
      exact htimely c key ttl hcall e v he
    · rw [heq]
      exact hl2.age hcall he
  cases op with
  | getOrInsertWith c key ttl source faults =>
    intro a ha
    rcases age_of_getOrInsertWith ha with ⟨b, hb, heq⟩ | heq
    · rw [heq]
      exact hlookup rfl hb
    · omega
  | getOrInsertWithSkipNone c key ttl source faults =>
    intro a ha
    rcases age_of_getOrInsertWithSkipNone ha with ⟨b, hb, heq⟩ | heq
    · rw [heq]
      exact hlookup rfl hb
    · omega
  | _ => trivial

/-! What a step does to Redis. -/

theorem redis_command {f : String → CacheService → CacheService}
    (hf : ∀ r, (f r s).redis = s.redis) (fault : Option Bool) (error : CacheError) :
    (command fault error f s).2.redis = s.redis := by
  rcases command_cases fault error f s with heq | ⟨r, -, heq⟩
  · rw [heq]
  · rw [heq, hf]

theorem redis_apply (op : CacheOp ν) : (op.apply s).redis = s.redis := by
  cases op with
  | get key ok => exact (agrees_cacheGet key ok s).redis
  | set key text fault => exact redis_command (fun _ => rfl) fault .redisSet
  | setWithTtl key text ttl fault => exact redis_command (fun _ => rfl) fault .redisSet
  | delete key fault => exact redis_command (fun _ => rfl) fault .redisDelete
  | deleteByPrefix start fault =>
    simp only [CacheOp.apply, cacheDeleteByPrefix]
    cases hr : s.redis with
    | none => exact hr
    | some r =>
      cases fault with
      | none => exact hr
      | some batches => exact hr
  | getOrInsertWith c key ttl source faults =>
    exact (touched_getOrInsertWith c key ttl source faults s).redis
  | getOrInsertWithSkipNone c key ttl source faults =>
    exact (touched_getOrInsertWithSkipNone c key ttl source faults s).redis
  | _ => rfl

/-- The key that a call stores, and until when. -/
def newEntry (s : CacheService) (r key text : String) (ttl : ℕ) : RedisEntry :=
  ⟨redisKey r key, ⟨text, s.now⟩, if 0 < ttl then some (s.now + ttl) else none⟩

theorem Touched.mem_l2 {s' : CacheService} (h : Touched key ttl s s') {entry : RedisEntry}
    (hmem : entry ∈ s'.l2.rows) :
    entry ∈ s.l2.rows ∨ ∃ r text, s.redis = some r ∧ entry = newEntry s r key text ttl := by
  rcases h.l2 with heq | ⟨r, text, hr, heq⟩
  · rw [heq] at hmem
    exact Or.inl hmem
  · rw [heq] at hmem
    rcases RedisStore.mem_put hmem with hmem | rfl
    · exact Or.inl hmem
    · exact Or.inr ⟨r, text, hr, rfl⟩

theorem mem_l2_apply {op : CacheOp ν} (hw : op.writes = false) {entry : RedisEntry}
    (hmem : entry ∈ (op.apply s).l2.rows) :
    entry ∈ s.l2.rows ∨ ∃ c key ttl r text, op.call = some (c, key, ttl) ∧ s.redis = some r ∧
      entry = newEntry s r key text ttl := by
  -- only the two lookups store anything: the other calls drop entries or leave them
  cases op with
  | wait seconds => exact Or.inl hmem
  | evict key => exact Or.inl hmem
  | drop redisKey => exact Or.inl (List.mem_filter.mp hmem).1
  | get key ok => exact Or.inl ((agrees_cacheGet key ok s).l2 ▸ hmem)
  | set key text fault => cases hw
  | setWithTtl key text ttl fault => cases hw
  | delete key fault =>
    rcases command_cases fault .redisDelete
      (fun r s => s.withL2 (s.l2.del (redisKey r key))) s with heq | ⟨r, -, heq⟩
    · simp only [CacheOp.apply, cacheDelete, heq] at hmem
      exact Or.inl hmem
    · simp only [CacheOp.apply, cacheDelete, heq] at hmem
      exact Or.inl (List.mem_filter.mp hmem).1
  | deleteByPrefix start fault =>
    simp only [CacheOp.apply, cacheDeleteByPrefix] at hmem
    cases hr : s.redis with
    | none =>
      rw [hr] at hmem
      exact Or.inl hmem
    | some r =>
      rw [hr] at hmem
      cases fault with
      | none => exact Or.inl (List.mem_filter.mp hmem).1
      | some batches => exact Or.inl (List.mem_filter.mp hmem).1
  | getOrInsertWith c key ttl source faults =>
    rcases (touched_getOrInsertWith c key ttl source faults s).mem_l2 hmem with
      hmem | ⟨r, text, hr, heq⟩
    · exact Or.inl hmem
    · exact Or.inr ⟨c, key, ttl, r, text, rfl, hr, heq⟩
  | getOrInsertWithSkipNone c key ttl source faults =>
    rcases (touched_getOrInsertWithSkipNone c key ttl source faults s).mem_l2 hmem with
      hmem | ⟨r, text, hr, heq⟩
    · exact Or.inl hmem
    · exact Or.inr ⟨c, key, ttl, r, text, rfl, hr, heq⟩

/-- A step keeps Redis within what the calls that follow allow. -/
theorem L2Fresh.apply {op : CacheOp ν} {ops : List (CacheOp ν)} (h : L2Fresh s (op :: ops))
    (hw : op.writes = false)
    (hshorter : s.redis.isSome = true → ∀ op' ∈ ops, op.NotShorter op') :
    L2Fresh (op.apply s) ops := by
  intro r hr entry hmem op' hop' c' key' ttl' hcall' hkey'
  rw [redis_apply] at hr
  rcases mem_l2_apply hw hmem with hmem | ⟨c, key, ttl, r', text, hcall, hr', rfl⟩
  · exact h r hr entry hmem op' (List.mem_cons_of_mem _ hop') c' key' ttl' hcall' hkey'
  · cases hr.symm.trans hr'
    have hkey : key = key' := redisKey_inj.mp hkey'
    subst hkey
    obtain ⟨hpos, hle⟩ := hshorter (hr ▸ rfl) op' hop' c key ttl c' ttl' hcall hcall'
    refine ⟨s.now + ttl, if_pos hpos, ?_⟩
    show s.now + ttl ≤ s.now + ttl'
    omega

end

theorem freshAnswer_along {s : CacheService} {ops : List (CacheOp ν)} (hl2 : L2Fresh s ops)
    (hw : ∀ op ∈ ops, op.writes = false)
    (hshorter : s.redis.isSome = true → ops.Pairwise CacheOp.NotShorter)
    (htimely : Transition.Along cacheStep CacheOp.Timely s ops) :
    Transition.Along cacheStep CacheOp.FreshAnswer s ops := by
  induction ops generalizing s with
  | nil => trivial
  | cons op ops ih =>
    obtain ⟨hnow, hrest⟩ := htimely
    refine ⟨freshAnswer hl2 hnow, ih (hl2.apply (hw op List.mem_cons_self) ?_) ?_ ?_ hrest⟩
    · exact fun hr => (List.pairwise_cons.mp (hshorter hr)).1
    · exact fun op hop => hw op (List.mem_cons_of_mem _ hop)
    · intro hr
      rw [redis_apply] at hr
      exact (List.pairwise_cons.mp (hshorter hr)).2

/-- Along a run of a new service no call gives a value that is older than its time-to-live, if L1
has no readable text that is older when a call looks there, and, with Redis, the calls of a key do
not shorten its time-to-live. -/
theorem cache_age_bounded (redis : Option String) (env : String) (now : ℕ) (ops : List (CacheOp ν))
    (hw : ∀ op ∈ ops, op.writes = false)
    (hshorter : redis.isSome = true → ops.Pairwise CacheOp.NotShorter)
    (htimely : Transition.Along cacheStep CacheOp.Timely (.new redis env now .empty) ops) :
    Transition.Along cacheStep CacheOp.FreshAnswer (.new redis env now .empty) ops :=
  freshAnswer_along (fun _ _ _ hmem => (by cases hmem)) hw hshorter htimely

namespace Sample

/-- A value is fetched, and asked for again. -/
def fetchTwice (seconds : ℕ) : List (CacheOp String) := [fetchOld, .wait seconds, fetchOld]

theorem pairwise_fetchTwice (seconds : ℕ) : (fetchTwice seconds).Pairwise CacheOp.NotShorter := by
  have hfetch : fetchOld.NotShorter fetchOld := by
    rintro c key ttl c' ttl' h h'
    cases h
    cases h'
    decide
  simp only [fetchTwice, List.pairwise_cons, List.mem_cons, List.not_mem_nil, or_false,
    forall_eq_or_imp, forall_eq, List.Pairwise.nil, and_true]
  exact ⟨⟨fun _ _ _ _ _ _ h => (by cases h), hfetch⟩, fun _ _ _ _ _ h =>
    (by cases h), fun _ h => h.elim⟩

theorem timely_fetchTwice :
    Transition.Along cacheStep CacheOp.Timely emptyCache (fetchTwice 30) := by
  refine ⟨?_, ?_, ?_, trivial⟩
  · rintro c key ttl h e v he
    cases h
    cases he
  · rintro c key ttl h
    cases h
  · rintro c key ttl h e v he
    cases h
    cases he
    decide

end Sample

theorem cache_age_bounded_fetchTwice :
    Transition.Along cacheStep CacheOp.FreshAnswer emptyCache (fetchTwice 30) :=
  cache_age_bounded (some "prod") "production" 0 (fetchTwice 30) (by decide)
    (fun _ => pairwise_fetchTwice 30) timely_fetchTwice

/-- A value is served from L1 after its time-to-live. -/
theorem expired_value_served :
    ¬ ∀ (redis : Option String) (env : String) (now : ℕ) (ops : List (CacheOp String)),
        (∀ op ∈ ops, op.writes = false) →
        Transition.Along cacheStep CacheOp.FreshAnswer (.new redis env now .empty) ops := by
  intro h
  obtain ⟨-, -, hlast, -⟩ := h (some "prod") "production" 0 (fetchTwice 100) (by decide)
  have hage := hlast ⟨"old", .l1, 0⟩ rfl
  revert hage
  decide

end LeadsNebula
