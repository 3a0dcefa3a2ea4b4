/-
Authentication by API key (`middleware/api_auth.rs`, `middleware/hmac.rs`), with
the dashboard requests that change a publisher.

The record of a publisher is cached under the hash of the key, in memory (L1) and
in Redis (L2), for 3600 seconds in each.  Nothing takes it out when the dashboard
changes the row.  The statements of requests interleave; entries may be evicted at
any time; a statement fails unless the action says `ok`.

* `step_cases` — what a step does;
* `mem_write` — the rows of `publishers` after a statement;
* `Coherent` — what is cached, and what lookups carry, meets a predicate;
* `coherent_run` — a predicate of the rows that the statements of a run keep holds
  of every record that a later request is granted.
-/
import LeadsNebula.Publishers
import LeadsNebula.Transition
import LeadsNebula.TtlCache

namespace LeadsNebula

structure ApiEnv where
  /-- The SHA-256 of a string, in hexadecimal. -/
  hash : String → String
  /-- `HMAC_SECRET`, else `CARINA_HMAC_SECRET`. -/
  hmacSecret : Option String
  /-- The HMAC-SHA256 of a body under a secret, in hexadecimal. -/
  hmac : String → String → String

/-- What the two middlewares read of a request. -/
structure ApiRequest where
  apiKey : Option String
  internalBuyerId : Bool
  hmacSignature : Option String
  body : String

/-- What a request does next. -/
inductive ApiStage where
  /-- Read the header, and look the key up in L1. -/
  | auth (req : ApiRequest)
  | redisGet (req : ApiRequest) (key : String)
  /-- The record was found in Redis: store it in L1. -/
  | l1Fill (req : ApiRequest) (key : String) (v : Option Publisher)
  | fetch (req : ApiRequest) (key : String)
  /-- The record was read from the database: store it in L1, and then in Redis. -/
  | l1Insert (req : ApiRequest) (key : String) (v : Option Publisher)
  | redisSet (req : ApiRequest) (key : String) (v : Option Publisher)
  | record (req : ApiRequest) (key : String) (p : Publisher)
  | hmac (req : ApiRequest) (key : String) (p : Publisher)
  /-- The request has passed both middlewares. -/
  | passed (req : ApiRequest) (key : String) (p : Publisher)
  | rejected (status : ℕ) (error : String)
  | update (id : Uuid) (c : UpdatePublisherRequest)
  | updateWrite (id : Uuid) (c : UpdatePublisherRequest)
  | delete (id : Uuid)
  | deleteWrite (id : Uuid)
  /-- `apiKey` is the key that is drawn. -/
  | regenerate (id : Uuid) (apiKey encrypted : String)
  | regenerateWrite (id : Uuid) (apiKey encrypted : String)
  | setHmacSecret (id : Uuid) (secret : String)
  | setHmacSecretWrite (id : Uuid) (secret : String)
  /-- `id` and `apiKey` are drawn; `instanceId` is the instance of the new publisher. -/
  | create (id instanceId : Uuid) (apiKey encrypted : String) (req : CreatePublisherRequest)
  | createInsert (id instanceId : Uuid) (apiKey encrypted : String) (req : CreatePublisherRequest)
  /-- The status of the response, and its `success`. -/
  | done (status : ℕ) (success : Bool)

structure ApiSys where
  now : ℕ
  publishers : Table Publisher.id
  /-- Whether there is a cache, and whether it has Redis behind it. -/
  cache : Bool
  redis : Bool
  l1 : TtlCache String (Option Publisher)
  l2 : TtlCache String (Option Publisher)
  threads : List ApiStage

inductive ApiAction where
  | request (req : ApiRequest)
  | update (id : Uuid) (c : UpdatePublisherRequest)
  | delete (id : Uuid)
  | regenerate (id : Uuid) (apiKey encrypted : String)
  | setHmacSecret (id : Uuid) (secret : String)
  | create (id instanceId : Uuid) (apiKey encrypted : String) (req : CreatePublisherRequest)
  /-- Request `i` runs its next statement, which fails unless `ok`. -/
  | next (i : ℕ) (ok : Bool)
  | evictL1 (key : String)
  | evictL2 (key : String)
  | tick (d : ℕ)

/-- The time to live of L1, and the one that the middleware gives to Redis. -/
def cacheTtl : ℕ := 3600

/-- The signature that a header carries. -/
def providedSignature (header : String) : String :=
  trim (if "sha256=".toList.isPrefixOf header.toList then String.ofList (header.toList.drop 7)
    else header)

/-- `api_key_auth_middleware` once the lookup has returned. -/
def ApiRequest.resolve (req : ApiRequest) (key : String) : Option Publisher → ApiStage
  | none => .rejected 401 "Invalid or unknown API key"
  | some p =>
    if p.active then .record req key p else .rejected 401 "Publisher account is not active"

namespace ApiEnv

variable (env : ApiEnv)

def cacheKey (key : String) : String := "publisher:api_key:" ++ env.hash (trim key)

/-- `hmac_verification_middleware`. -/
def hmacVerification (req : ApiRequest) (key : String) (p : Publisher) : ApiStage :=
  if req.internalBuyerId then .passed req key p
  else if p.requireHmac && req.hmacSignature.isNone then .rejected 401 ""
  else match req.hmacSignature, env.hmacSecret with
    | none, _ => .passed req key p
    | some _, none => if p.requireHmac then .rejected 500 "" else .passed req key p
    | some header, some secret =>
      if env.hmac secret req.body = providedSignature header then .passed req key p
      else .rejected 401 ""

end ApiEnv

namespace ApiSys

variable (env : ApiEnv) (s : ApiSys)

/-- `SELECT * FROM publishers WHERE id = $1 AND deleted_at IS NULL`. -/
def live (id : Uuid) : Option Publisher :=
  s.publishers.select fun r => r.id = id ∧ r.deletedAt = none

/-- `api_key_hash` is unique: another row has it. -/
def hashTaken (id : Uuid) (apiKeyHash : String) : Bool :=
  s.publishers.rows.any fun r => r.id ≠ id ∧ r.apiKeyHash = apiKeyHash

/-- The insertion of a row violates no constraint. -/
def insertable (id : Uuid) (apiKeyHash : String) : Bool :=
  (s.publishers.find id).isNone && !s.hashTaken id apiKeyHash

/-- The constraints that the next statement of a request must meet. -/
def admissible : ApiStage → Bool
  | .updateWrite _ c => c.statusValid
  | .regenerateWrite id apiKey _ => (s.live id).isNone || !s.hashTaken id (env.hash apiKey)
  | .createInsert id _ apiKey _ _ => s.insertable id (env.hash apiKey)
  | _ => true

/-- The response to a statement that the dashboard runs last. -/
def respond (ok : Bool) : ApiStage := if ok then .done 200 true else .done 500 false

/-- A dashboard request that looks its publisher up first. -/
def lookup (ok : Bool) (id : Uuid) (st : ApiStage) : ApiStage :=
  if !ok then .done 500 false else if (s.live id).isNone then .done 404 false else st

/-- The stage after the next statement of a request. -/
def advance (ok : Bool) (st : ApiStage) : Option ApiStage :=
  match st with
  | .auth req =>
    some <| match req.apiKey with
      | none => .rejected 401 "Missing X-API-Key header"
      | some key =>
        if s.cache then
          match s.l1.get cacheTtl s.now (env.cacheKey key) with
          | some v => req.resolve key v
          | none => .redisGet req key
        else .fetch req key
  | .redisGet req key =>
    some <|
      if !s.redis then .fetch req key
      else if !ok then .rejected 500 ""
      else match s.l2.get cacheTtl s.now (env.cacheKey key) with
        -- a text that Redis has is put in memory before it is used
        | some v => .l1Fill req key v
        | none => .fetch req key
  | .l1Fill req key v => some (req.resolve key v)
  | .fetch req key =>
    some <|
      if !ok then .rejected 500 ""
      else
        let v := Publisher.findByApiKey env.hash s.publishers key
        if s.cache then .l1Insert req key v else req.resolve key v
  | .l1Insert req key v => some (.redisSet req key v)
  | .redisSet req key v => some (if s.redis && !ok then .rejected 500 "" else req.resolve key v)
  | .record req key p => some (.hmac req key p)
  | .hmac req key p => some (env.hmacVerification req key p)
  | .passed _ _ _ | .rejected _ _ | .done _ _ => none
  | .update id c =>
    some (s.lookup ok id (if c.hasUpdates then .updateWrite id c else .done 400 false))
  -- whether the publisher is found is not a condition of the deletion, only of its log entry
  | .delete id => some (if ok then .deleteWrite id else .done 500 false)
  | .regenerate id apiKey encrypted => some (s.lookup ok id (.regenerateWrite id apiKey encrypted))
  | .setHmacSecret id secret => some (s.lookup ok id (.setHmacSecretWrite id secret))
  | .create id instanceId apiKey encrypted req =>
    some <|
      if !ok then .done 500 false
      else if s.publishers.rows.any fun r => r.email = req.email ∧ r.deletedAt = none then
        .done 200 false
      else .createInsert id instanceId apiKey encrypted req
  | .createInsert id _ apiKey _ _ =>
    some <|
      if !ok || (s.publishers.find id).isSome then .done 500 false
      else .done 200 (!s.hashTaken id (env.hash apiKey))
  | .updateWrite _ _ | .deleteWrite _ | .regenerateWrite _ _ _ | .setHmacSecretWrite _ _ =>
    some (respond (ok && s.admissible env st))

/-- `UPDATE publishers SET … WHERE id = $1 AND deleted_at IS NULL`. -/
def updateLive (id : Uuid) (f : Publisher → Publisher) (hf : ∀ r, (f r).id = r.id) :
    Table Publisher.id :=
  s.publishers.update (fun r => r.id = id ∧ r.deletedAt = none) f hf

/-- The rows of `publishers` after the next statement of a request, when it succeeds. -/
def rowsAfter : ApiStage → Table Publisher.id
  | .record _ _ p =>
    s.publishers.update (fun r => r.id = p.id) (Publisher.recordRequest s.now) fun _ => rfl
  | .updateWrite id c => s.updateLive id (c.apply s.now) fun _ => rfl
  | .deleteWrite id =>
    s.publishers.update (fun r => r.id = id) (Publisher.delete s.now) fun _ => rfl
  | .regenerateWrite id apiKey encrypted =>
    s.updateLive id (Publisher.regenerate (env.hash apiKey) encrypted s.now) fun _ => rfl
  | .setHmacSecretWrite id secret =>
    s.updateLive id (Publisher.setHmacSecret env.hash secret s.now) fun _ => rfl
  | .createInsert id instanceId apiKey encrypted req =>
    s.publishers.insert (req.row id instanceId (env.hash apiKey) encrypted s.now)
  | _ => s.publishers

/-- What the next statement of a request writes. -/
def write (ok : Bool) (st : ApiStage) : ApiSys :=
  match st with
  | .l1Fill _ key v | .l1Insert _ key v => { s with l1 := s.l1.insert s.now (env.cacheKey key) v }
  | .redisSet _ key v =>
    if s.redis && ok then { s with l2 := s.l2.insert s.now (env.cacheKey key) v } else s
  | _ => if ok && s.admissible env st then { s with publishers := s.rowsAfter env st } else s

def step (s : ApiSys) : ApiAction → Option ApiSys
  | .request req => some { s with threads := s.threads ++ [.auth req] }
  | .update id c => some { s with threads := s.threads ++ [.update id c] }
  | .delete id => some { s with threads := s.threads ++ [.delete id] }
  | .regenerate id apiKey encrypted =>
    some { s with threads := s.threads ++ [.regenerate id apiKey encrypted] }
  | .setHmacSecret id secret => some { s with threads := s.threads ++ [.setHmacSecret id secret] }
  | .create id instanceId apiKey encrypted req =>
    some { s with threads := s.threads ++ [.create id instanceId apiKey encrypted req] }
  | .next i ok =>
    (s.threads[i]?).bind fun st =>
      (s.advance env ok st).map fun st' => { s.write env ok st with threads := s.threads.set i st' }
  | .evictL1 key => some { s with l1 := s.l1.evict key }
  | .evictL2 key => some { s with l2 := s.l2.evict key }
  | .tick d => some { s with now := s.now + d }

end ApiSys

/-- The record, under its key, that the next statement of a request stores in a cache. -/
def ApiStage.copy : ApiStage → Option (String × Option Publisher)
  | l1Fill _ key v | l1Insert _ key v | redisSet _ key v => some (key, v)
  | _ => none

/-- The key and the publisher of a request that `api_key_auth_middleware` has let through. -/
def ApiStage.granted : ApiStage → Option (String × Publisher)
  | record _ key p | hmac _ key p | passed _ key p => some (key, p)
  | _ => none

/-- The hash that the next statement of a request gives to a publisher. -/
def ApiStage.writesHash (env : ApiEnv) : ApiStage → Option (Uuid × String)
  | regenerateWrite id apiKey _ | createInsert id _ apiKey _ _ => some (id, env.hash apiKey)
  | _ => none

variable {env : ApiEnv}

theorem granted_resolve {req : ApiRequest} {key key' : String} {v : Option Publisher}
    {p : Publisher} (h : (req.resolve key v).granted = some (key', p)) :
    key' = key ∧ v = some p ∧ p.active = true := by
  cases v with
  | none => cases h
  | some q =>
    rw [ApiRequest.resolve] at h
    split at h
    · next hact =>
      cases h
      exact ⟨rfl, rfl, hact⟩
    · cases h

theorem copy_resolve (req : ApiRequest) (key : String) (v : Option Publisher) :
    (req.resolve key v).copy = none := by
  cases v with
  | none => rfl
  | some q =>
    rw [ApiRequest.resolve]
    split <;> rfl

/-- The HMAC check passes the publisher on, or rejects the request. -/
theorem hmacVerification_cases (env : ApiEnv) (req : ApiRequest) (key : String) (p : Publisher) :
    env.hmacVerification req key p = .passed req key p ∨
      ∃ status, env.hmacVerification req key p = .rejected status "" := by
  rw [ApiEnv.hmacVerification]
  repeat' split
  all_goals first | exact Or.inl rfl | exact Or.inr ⟨_, rfl⟩

namespace ApiSys

variable {s s' : ApiSys} {ok : Bool} {st st' : ApiStage}

/-- What a step does. -/
theorem step_cases {a : ApiAction} (h : step env s a = some s') :
    (∃ st : ApiStage, st.copy = none ∧ st.granted = none ∧
      s' = { s with threads := s.threads ++ [st] }) ∨
    (∃ i ok st st', a = .next i ok ∧ s.threads[i]? = some st ∧ s.advance env ok st = some st' ∧
      s' = { s.write env ok st with threads := s.threads.set i st' }) ∨
    (∃ key, s' = { s with l1 := s.l1.evict key }) ∨
    (∃ key, s' = { s with l2 := s.l2.evict key }) ∨
    ∃ d, s' = { s with now := s.now + d } := by
  cases a with
  | next i ok =>
    simp only [step, Option.bind_eq_some_iff, Option.map_eq_some_iff] at h
    obtain ⟨st, hst, st', hadv, heq⟩ := h
    exact Or.inr (Or.inl ⟨i, ok, st, st', rfl, hst, hadv, heq.symm⟩)
  | evictL1 key => exact Or.inr (Or.inr (Or.inl ⟨key, (Option.some_inj.mp h).symm⟩))
  | evictL2 key => exact Or.inr (Or.inr (Or.inr (Or.inl ⟨key, (Option.some_inj.mp h).symm⟩)))
  | tick d => exact Or.inr (Or.inr (Or.inr (Or.inr ⟨d, (Option.some_inj.mp h).symm⟩)))
  | _ => exact Or.inl ⟨_, rfl, rfl, (Option.some_inj.mp h).symm⟩

/-! ### The rows of `publishers` -/

/-- What a statement makes of a row that it updates. -/
inductive RowChange (env : ApiEnv) (now : ℕ) : ApiStage → Publisher → Publisher → Prop where
  | record {req key p r} : RowChange env now (.record req key p) r (r.recordRequest now)
  | update {c r} (hlive : r.deletedAt = none) :
    RowChange env now (.updateWrite r.id c) r (c.apply now r)
  | delete {r} : RowChange env now (.deleteWrite r.id) r (r.delete now)
  | regenerate {r apiKey encrypted} (hlive : r.deletedAt = none) :
    RowChange env now (.regenerateWrite r.id apiKey encrypted) r
      (r.regenerate (env.hash apiKey) encrypted now)
  | setHmacSecret {r secret} (hlive : r.deletedAt = none) :
    RowChange env now (.setHmacSecretWrite r.id secret) r (r.setHmacSecret env.hash secret now)

theorem mem_updateLive {id : Uuid} {f : Publisher → Publisher} (hf : ∀ r, (f r).id = r.id)
    {r : Publisher} (h : r ∈ (s.updateLive id f hf).rows) :
    (r ∈ s.publishers.rows ∧ ¬ (r.id = id ∧ r.deletedAt = none)) ∨
      ∃ r₀ ∈ s.publishers.rows, r₀.id = id ∧ r₀.deletedAt = none ∧ r = f r₀ := by
  rcases Table.mem_update hf h with ⟨hmem, hp⟩ | ⟨r₀, hr₀, hp, heq⟩
  · exact Or.inl ⟨hmem, of_decide_eq_false hp⟩
  · obtain ⟨hid, hlive⟩ := of_decide_eq_true hp
    exact Or.inr ⟨r₀, hr₀, hid, hlive, heq⟩

theorem mem_rowsAfter {r : Publisher} (h : r ∈ (s.rowsAfter env st).rows) :
    r ∈ s.publishers.rows ∨ (∃ r₀ ∈ s.publishers.rows, RowChange env s.now st r₀ r) ∨
      ∃ id instanceId apiKey encrypted req, st = .createInsert id instanceId apiKey encrypted req ∧
        r = req.row id instanceId (env.hash apiKey) encrypted s.now := by
  -- the statements that touch the table, one by one
  cases st <;> simp only [rowsAfter] at h
  case record req key p =>
    rcases Table.mem_update _ h with ⟨hmem, -⟩ | ⟨r₀, hr₀, -, rfl⟩
    · exact Or.inl hmem
    · exact Or.inr (Or.inl ⟨r₀, hr₀, .record⟩)
  case updateWrite id c =>
    rcases mem_updateLive _ h with ⟨hmem, -⟩ | ⟨r₀, hr₀, rfl, hlive, rfl⟩
    · exact Or.inl hmem
    · exact Or.inr (Or.inl ⟨r₀, hr₀, .update hlive⟩)
  case deleteWrite id =>
    rcases Table.mem_update _ h with ⟨hmem, -⟩ | ⟨r₀, hr₀, hid, rfl⟩
    · exact Or.inl hmem
    · obtain rfl := of_decide_eq_true hid
      exact Or.inr (Or.inl ⟨r₀, hr₀, .delete⟩)
  case regenerateWrite id apiKey encrypted =>
    rcases mem_updateLive _ h with ⟨hmem, -⟩ | ⟨r₀, hr₀, rfl, hlive, rfl⟩
    · exact Or.inl hmem
    · exact Or.inr (Or.inl ⟨r₀, hr₀, .regenerate hlive⟩)
  case setHmacSecretWrite id secret =>
    rcases mem_updateLive _ h with ⟨hmem, -⟩ | ⟨r₀, hr₀, rfl, hlive, rfl⟩
    · exact Or.inl hmem
    · exact Or.inr (Or.inl ⟨r₀, hr₀, .setHmacSecret hlive⟩)
  case createInsert id instanceId apiKey encrypted req =>
    rcases Table.mem_insert h with hmem | rfl
    · exact Or.inl hmem
    · exact Or.inr (Or.inr ⟨id, instanceId, apiKey, encrypted, req, rfl, rfl⟩)
  all_goals exact Or.inl h

/-- A statement that fails or violates a constraint leaves the rows alone, and so does one that
stores in a cache. -/
theorem publishers_write (env : ApiEnv) (s : ApiSys) (ok : Bool) (st : ApiStage) :
    (s.write env ok st).publishers = s.publishers ∨
      s.admissible env st = true ∧ (s.write env ok st).publishers = s.rowsAfter env st := by
  cases st with
  | l1Fill req key v => exact Or.inl rfl
  | l1Insert req key v => exact Or.inl rfl
  | redisSet req key v =>
    left
    simp only [write]
    split <;> rfl
  | _ =>
    simp only [write]
    split
    · next hok => exact Or.inr ⟨(Bool.and_eq_true _ _ ▸ hok).2, rfl⟩
    · exact Or.inl rfl

/-! ### What is cached -/

/-- The record of a key that the next statement of a request gets hold of. -/
def Obtains (env : ApiEnv) (s : ApiSys) (st : ApiStage) (key : String) (v : Option Publisher) :
    Prop :=
  s.l1.get cacheTtl s.now (env.cacheKey key) = some v ∨
    s.l2.get cacheTtl s.now (env.cacheKey key) = some v ∨
    st.copy = some (key, v) ∨ v = Publisher.findByApiKey env.hash s.publishers key

theorem copy_advance (h : s.advance env ok st = some st') {key : String} {v : Option Publisher}
    (hc : st'.copy = some (key, v)) : s.Obtains env st key v := by
  cases st <;> simp only [advance, Option.some_inj, reduceCtorEq] at h
  case auth req =>
    -- a hit in memory is resolved at once; nothing is left to be stored
    subst h
    split at hc
    · cases hc
    split at hc
    · split at hc
      · rw [copy_resolve] at hc
        cases hc
      · cases hc
    · cases hc
  case redisGet req k =>
    subst h
    split at hc
    · cases hc
    split at hc
    · cases hc
    split at hc
    · next hget =>
      cases hc
      exact Or.inr (Or.inl hget)
    · cases hc
  case fetch req k =>
    -- with a cache, what the database gives is carried along until both levels hold it
    subst h
    split at hc
    · cases hc
    split at hc
    · cases hc
      exact Or.inr (Or.inr (Or.inr rfl))
    · rw [copy_resolve] at hc
      cases hc
  case l1Insert req k w =>
    subst h
    exact Or.inr (Or.inr (Or.inl hc))
  case l1Fill req k w =>
    rw [← h, copy_resolve] at hc
    cases hc
  case redisSet req k w =>
    subst h
    split at hc
    · cases hc
    · rw [copy_resolve] at hc
      cases hc
  case hmac req k p =>
    rcases hmacVerification_cases env req k p with hv | ⟨status, hv⟩
    · rw [← h, hv] at hc
      cases hc
    · rw [← h, hv] at hc
      cases hc
  -- the requests of the dashboard, and those that are done, carry no record
  all_goals
    subst h
    try simp only [lookup, respond] at hc
    repeat' split at hc
    all_goals cases hc

theorem granted_advance (h : s.advance env ok st = some st') {key : String} {p : Publisher}
    (hg : st'.granted = some (key, p)) :
    st.granted = some (key, p) ∨ p.active = true ∧ s.Obtains env st key (some p) := by
  cases st <;> simp only [advance, Option.some_inj, reduceCtorEq] at h
  case auth req =>
    subst h
    split at hg
    · cases hg
    split at hg
    · split at hg
      · next hget =>
        obtain ⟨rfl, rfl, hact⟩ := granted_resolve hg
        exact Or.inr ⟨hact, Or.inl hget⟩
      · cases hg
    · cases hg
  case redisGet req k =>
    subst h
    repeat' split at hg
    all_goals cases hg
  case fetch req k =>
    subst h
    split at hg
    · cases hg
    split at hg
    · cases hg
    · obtain ⟨rfl, hv, hact⟩ := granted_resolve hg
      exact Or.inr ⟨hact, Or.inr (Or.inr (Or.inr hv.symm))⟩
  case l1Fill req k w =>
    obtain ⟨rfl, rfl, hact⟩ := granted_resolve (h ▸ hg)
    exact Or.inr ⟨hact, Or.inr (Or.inr (Or.inl rfl))⟩
  case redisSet req k w =>
    subst h
    split at hg
    · cases hg
    · obtain ⟨rfl, rfl, hact⟩ := granted_resolve hg
      exact Or.inr ⟨hact, Or.inr (Or.inr (Or.inl rfl))⟩
  case record req k q =>
    subst h
    exact Or.inl hg
  case hmac req k q =>
    -- the check only refuses: it gives the request no other record
    rcases hmacVerification_cases env req k q with hv | ⟨status, hv⟩
    · rw [← h, hv] at hg
      exact Or.inl hg
    · rw [← h, hv] at hg
      cases hg
  all_goals
    subst h
    try simp only [lookup, respond] at hg
    repeat' split at hg
    all_goals cases hg

/-- What the caches hold, and what lookups in flight are about to store in them, meets `Q`. -/
structure Copies (env : ApiEnv) (Q : String → Option Publisher → Prop) (s : ApiSys) : Prop where
  l1 : s.l1.All cacheTtl s.now Q
  l2 : s.l2.All cacheTtl s.now Q
  inFlight : ∀ st ∈ s.threads, ∀ key v, st.copy = some (key, v) → Q (env.cacheKey key) v

/-- `Copies`, and the requests from number `n` on have been granted records that meet `Q`. -/
structure Coherent (env : ApiEnv) (Q : String → Option Publisher → Prop) (n : ℕ) (s : ApiSys) : Prop
    extends Copies env Q s where
  granted : ∀ i st, n ≤ i → s.threads[i]? = some st → ∀ key p, st.granted = some (key, p) →
    p.active = true ∧ Q (env.cacheKey key) (some p)

variable {Q : String → Option Publisher → Prop}

theorem Copies.obtains (h : s.Copies env Q) (hst : st ∈ s.threads)
    (hdb : ∀ key, Q (env.cacheKey key) (Publisher.findByApiKey env.hash s.publishers key))
    {key : String} {v : Option Publisher} (hv : s.Obtains env st key v) :
    Q (env.cacheKey key) v := by
  rcases hv with hv | hv | hv | rfl
  · exact h.l1 _ _ hv
  · exact h.l2 _ _ hv
  · exact h.inFlight st hst key v hv
  · exact hdb key

/-- At first no request is counted. -/
theorem Copies.coherent (h : s.Copies env Q) : s.Coherent env Q s.threads.length := by
  refine ⟨h, fun i st hi hst => ?_⟩
  rw [List.getElem?_eq_none hi] at hst
  cases hst

@[simp] theorem write_now : (s.write env ok st).now = s.now := by
  cases st <;> simp only [write] <;> split <;> rfl

/-- What a statement stores is the copy that it carries. -/
theorem Copies.write (h : s.Copies env Q) (ok : Bool) (hst : st ∈ s.threads) :
    (s.write env ok st).l1.All cacheTtl s.now Q ∧ (s.write env ok st).l2.All cacheTtl s.now Q := by
  have hcopy := h.inFlight st hst
  cases st with
  | l1Fill req key v => exact ⟨h.l1.insert (hcopy key v rfl), h.l2⟩
  | l1Insert req key v => exact ⟨h.l1.insert (hcopy key v rfl), h.l2⟩
  | redisSet req key v =>
    simp only [ApiSys.write]
    split
    · exact ⟨h.l1, h.l2.insert (hcopy key v rfl)⟩
    · exact ⟨h.l1, h.l2⟩
  | _ =>
    simp only [ApiSys.write]
    split <;> exact ⟨h.l1, h.l2⟩

theorem coherent_step {n : ℕ} {a : ApiAction} (h : s.Coherent env Q n)
    (hdb : ∀ key, Q (env.cacheKey key) (Publisher.findByApiKey env.hash s.publishers key))
    (hstep : step env s a = some s') : s'.Coherent env Q n := by
  rcases step_cases hstep with ⟨st, hcopy, hgranted, rfl⟩ | ⟨i, ok, st, st', -, hst, hadv, rfl⟩ |
    ⟨key, rfl⟩ | ⟨key, rfl⟩ | ⟨d, rfl⟩
  · -- a new request has read nothing yet
    refine ⟨⟨h.l1, h.l2, fun st₁ hst₁ key v hv => ?_⟩, fun j st₁ hj hst₁ key p hp => ?_⟩
    · rcases List.mem_append.mp hst₁ with hst₁ | hst₁
      · exact h.inFlight st₁ hst₁ key v hv
      · rw [List.mem_singleton.mp hst₁, hcopy] at hv
        cases hv
    · rcases Transition.get_concat_cases hst₁ with hst₁ | rfl
      · exact h.granted j st₁ hj hst₁ key p hp
      · rw [hgranted] at hp
        cases hp
  · -- a request goes on: what it writes and obtains is a copy of the table or of the caches
    have hmem : st ∈ s.threads := List.mem_of_getElem? hst
    obtain ⟨hl1, hl2⟩ := h.toCopies.write ok hmem
    refine ⟨⟨?_, ?_, fun st₁ hst₁ key v hv => ?_⟩, fun j st₁ hj hst₁ key p hp => ?_⟩
    · simpa using hl1
    · simpa using hl2
    · rcases List.mem_or_eq_of_mem_set hst₁ with hst₁ | rfl
      · exact h.inFlight st₁ hst₁ key v hv
      · exact h.toCopies.obtains hmem hdb (copy_advance hadv hv)
    · rcases Transition.get_set_cases hst₁ with ⟨rfl, rfl⟩ | ⟨-, hst₁⟩
      · rcases granted_advance hadv hp with hp | ⟨hact, hv⟩
        · exact h.granted j st hj hst key p hp
        · exact ⟨hact, h.toCopies.obtains hmem hdb hv⟩
      · exact h.granted j st₁ hj hst₁ key p hp
  · -- evictions and time take copies away
    exact ⟨⟨h.l1.evict key, h.l2, h.inFlight⟩, h.granted⟩
  · exact ⟨⟨h.l1, h.l2.evict key, h.inFlight⟩, h.granted⟩
  · exact ⟨⟨h.l1.later d, h.l2.later d, h.inFlight⟩, h.granted⟩

/-- If a property `D` of the rows gives `Q` for every record that is read from them, and the steps
of a run keep it, requests that come after a state where the copies meet `Q` are granted records
that meet `Q`. -/
theorem coherent_run {D : Table Publisher.id → Prop} {P : ApiSys → ApiAction → Prop}
    (hQ : ∀ t, D t → ∀ key, Q (env.cacheKey key) (Publisher.findByApiKey env.hash t key))
    (hD : ∀ {s a s'}, D s.publishers → P s a → step env s a = some s' → D s'.publishers)
    {as : List ApiAction} (hc : s.Copies env Q) (hs : D s.publishers)
    (hP : Transition.Along (step env) P s as) (hrun : Transition.run (step env) s as = some s') :
    s'.Coherent env Q s.threads.length := by
  have hstep : ∀ {t a t'}, t.Coherent env Q s.threads.length ∧ D t.publishers → P t a →
      step env t a = some t' → t'.Coherent env Q s.threads.length ∧ D t'.publishers := by
    rintro t a t' ⟨hcoh, hrows⟩ hPa hstep
    exact ⟨coherent_step hcoh (hQ _ hrows) hstep, hD hrows hPa hstep⟩
  exact (Transition.inv_of_run hstep ⟨hc.coherent, hs⟩ hP hrun).1

end ApiSys

end LeadsNebula
