/-
The cache service (`core/src/cache.rs`, `core/src/redis.rs`).

A text is cached under a key in memory (L1, one hour for every entry) and in Redis
(L2, for the time-to-live of the call that stored it).  Both levels also carry when
the text was fetched from its source; no operation reads that, it is there to speak
about the age of a value.  What Redis answers is an input of every operation.
-/
import LeadsNebula.Confinement
import LeadsNebula.Glob
import LeadsNebula.TtlCache

namespace LeadsNebula

/-! ### Redis -/

/-- A cached text, and when the source gave it. -/
structure Cached where
  text : String
  fetchedAt : ℕ
  deriving DecidableEq

/-- A key of Redis; without a deadline it does not expire. -/
structure RedisEntry where
  key : String
  value : Cached
  deadline : Option ℕ
  deriving DecidableEq

namespace RedisEntry

def alive (now : ℕ) (e : RedisEntry) : Bool := e.deadline.all (now < ·)

end RedisEntry

abbrev RedisStore := Table RedisEntry.key

namespace RedisStore

variable (db : RedisStore) (now : ℕ)

def get (key : String) : Option Cached :=
    ((db.find key).filter (RedisEntry.alive now)).map (·.value)

def del (key : String) : RedisStore := db.filter fun e => e.key ≠ key

def put (e : RedisEntry) : RedisStore := Table.insert (del db e.key) e

/-- `SET`, and with a positive time-to-live `SETEX`. -/
def setWithTtl (key : String) (value : Cached) (ttl : ℕ) : RedisStore :=
  put db ⟨key, value, if 0 < ttl then some (now + ttl) else none⟩

/-- The keys that `SCAN` finds for a pattern. -/
def scan (pattern : String) : List String :=
  ((db.rows.filter fun e => e.alive now && globMatch pattern e.key)).map RedisEntry.key

def delAll (keys : List String) : RedisStore := db.filter fun e => e.key ∉ keys

end RedisStore

/-! ### The service -/

inductive CacheError where
  | redisGet
  | redisSet
  | redisDelete
  | serialize
  | source (message : String)
  deriving DecidableEq

/-- The service of one process, with the Redis that it talks to; `redis` is the environment in
the keys of its client, if there is one. -/
structure CacheService where
  redis : Option String
  env : String
  now : ℕ
  l1 : TtlCache String Cached
  l2 : RedisStore
  hits : ℕ
  misses : ℕ

abbrev CacheProg (α : Type) := Prog CacheService CacheError α

/-- The lifetime of the entries of L1. -/
def l1Ttl : ℕ := 3600

/-- `prefix_key` of `cache:…`. -/
def redisKey (redisEnv key : String) : String := redisEnv ++ ":" ++ ("cache:" ++ key)

namespace CacheService

/-- `CacheService::new`, with a Redis that holds `l2`. -/
def new (redis : Option String) (env : String) (now : ℕ) (l2 : RedisStore) : CacheService :=
  ⟨redis, env, now, .empty, l2, 0, 0⟩

variable (s : CacheService)

def getTtl (isDev : Bool) : ℕ := if isDev then 300 else 3600

/-- The text of a key in L1. -/
def l1Get (key : String) : Option Cached := s.l1.get l1Ttl s.now key

/-- The text of a key in L2. -/
def l2Get (key : String) : Option Cached := s.redis.bind fun r => s.l2.get s.now (redisKey r key)

def l1Insert (key : String) (value : Cached) : CacheService :=
  { s with l1 := s.l1.insert s.now key value }

def withL2 (l2 : RedisStore) : CacheService := { s with l2 := l2 }

def hit : CacheService := { s with hits := s.hits + 1 }

def miss : CacheService := { s with misses := s.misses + 1 }

end CacheService

namespace CacheProg

variable {α ν : Type}

/-- A change of the service. -/
def modify (f : CacheService → CacheService) : CacheProg Unit := fun s => (.ok (), f s)

/-- A value that is read off the service. -/
def read (f : CacheService → α) : CacheProg α := fun s => (.ok (f s), s)

/-- A command to Redis that changes it, if there is a client: it may fail, before it takes effect
or after that. -/
def command (fault : Option Bool) (error : CacheError) (f : String → CacheService → CacheService) :
    CacheProg Unit := fun s =>
  match s.redis, fault with
  | none, _ => (.ok (), s)
  | some r, none => (.ok (), f r s)
  | some r, some applied => (.error error, if applied then f r s else s)

end CacheProg

open CacheProg

/-- `get`: Redis only. -/
def cacheGet (key : String) (ok : Bool) : CacheProg (Option Cached) := fun s =>
  match s.redis with
  -- without a client every lookup is a miss
  | none => (.ok none, s.miss)
  | some _ =>
    if ok then
      match s.l2Get key with
      | some e => (.ok (some e), s.hit)
      | none => (.ok none, s.miss)
    else (.error .redisGet, s.miss)

def cacheSetWithTtl (key : String) (value : Cached) (ttl : ℕ) (fault : Option Bool) :
    CacheProg Unit :=
  command fault .redisSet fun r s => s.withL2 (s.l2.setWithTtl s.now (redisKey r key) value ttl)

/-- `set`: the time-to-live is that of the environment. -/
def cacheSet (key : String) (value : Cached) (fault : Option Bool) : CacheProg Unit := do
  let env ← read CacheService.env
  cacheSetWithTtl key value (CacheService.getTtl (env = "dev" ∨ env = "development")) fault

/-- `delete`: L1 is not looked at. -/
def cacheDelete (key : String) (fault : Option Bool) : CacheProg Unit :=
  command fault .redisDelete fun r s => s.withL2 (s.l2.del (redisKey r key))

/-- `delete_by_prefix`: the keys that `SCAN` finds are deleted in batches of 100; `fault` is the
number of batches that are gone when a command fails. -/
def cacheDeleteByPrefix (start : String) (fault : Option ℕ) : CacheProg ℕ := fun s =>
  match s.redis with
  | none => (.ok 0, s)
  | some r =>
    let keys := s.l2.scan s.now (redisKey r start ++ "*")
    match fault with
    | none => (.ok keys.length, s.withL2 (s.l2.delAll keys))
    -- the batches before the failure stay deleted
    | some batches => (.error .redisDelete, s.withL2 (s.l2.delAll (keys.take (100 * batches))))

/-! ### Reading through the cache -/

/-- How the values of a call are read and written: simd-json first, else serde-json. -/
structure Codec (ν : Type) where
  simdFromSlice : String → Option ν
  serdeFromSlice : String → Option ν
  simdToVec : ν → Option String
  serdeToString : ν → Option String

namespace Codec

variable {ν : Type} (c : Codec ν)

def decode (text : String) : Option ν := (c.simdFromSlice text).or (c.serdeFromSlice text)

def encode (v : ν) : Option String := (c.simdToVec v).or (c.serdeToString v)

end Codec

/-- Where an answer comes from. -/
inductive ServedFrom where
  | l1
  | l2
  | source
  deriving DecidableEq

/-- A value, where it comes from, and when the source gave it. -/
structure Served (ν : Type) where
  value : ν
  origin : ServedFrom
  fetchedAt : ℕ

/-- What a call does not say: whether Redis answers, and whether it takes the value. -/
structure CallFaults where
  getOk : Bool
  setFault : Option Bool

variable {ν : Type}

/-- A text that can be read, with its value. -/
def Codec.readable (c : Codec ν) (found : Option Cached) : Option (Cached × ν) :=
  found.bind fun e => (c.decode e.text).map fun v => (e, v)

/-- A readable text of L1, else one of L2, which is then put in L1. -/
def cacheLookup (c : Codec ν) (key : String) (ok : Bool) : CacheProg (Option (Served ν)) := do
  let first ← read fun s => s.l1Get key
  match c.readable first with
  | some (e, v) =>
    modify .hit
    pure (some ⟨v, .l1, e.fetchedAt⟩)
  | none =>
    -- a text of L1 that cannot be read counts as none
    let second ← cacheGet key ok
    match c.readable second with
    | some (e, v) =>
      modify fun s => (s.l1Insert key e).hit
      pure (some ⟨v, .l2, e.fetchedAt⟩)
    | none => pure none

/-- The value of the source goes to both levels. -/
def cacheStore (c : Codec ν) (key : String) (ttl : ℕ) (v : ν) (setFault : Option Bool) :
    CacheProg Unit := do
  let text ← Prog.orStop .serialize (c.encode v)
  let now ← read CacheService.now
  modify fun s => s.l1Insert key ⟨text, now⟩
  cacheSetWithTtl key ⟨text, now⟩ ttl setFault

/-- The closure of a call. -/
def runSource {α : Type} : Except String α → CacheProg α
  | .ok a => pure a
  | .error message => Prog.stop (.source message)

def getOrInsertWith (c : Codec ν) (key : String) (ttl : ℕ) (source : Except String ν)
    (faults : CallFaults) : CacheProg (Served ν) := do
  let found ← cacheLookup c key faults.getOk
  match found with
  | some served => pure served
  | none =>
    modify .miss
    let v ← runSource source
    let now ← read CacheService.now
    cacheStore c key ttl v faults.setFault
    pure ⟨v, .source, now⟩

/-- Only a value is cached; without one the next call asks the source again. -/
def getOrInsertWithSkipNone (c : Codec ν) (key : String) (ttl : ℕ)
    (source : Except String (Option ν)) (faults : CallFaults) :
    CacheProg (Served (Option ν)) := do
  let found ← cacheLookup c key faults.getOk
  match found with
  | some served => pure ⟨some served.value, served.origin, served.fetchedAt⟩
  | none =>
    modify .miss
    let value ← runSource source
    let now ← read CacheService.now
    Prog.ifSome value fun v => cacheStore c key ttl v faults.setFault
    pure ⟨value, .source, now⟩

end LeadsNebula
