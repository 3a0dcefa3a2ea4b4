/-
Revocation of access.

After `regenerate_publisher_api_key`, `delete_publisher` or an `update_publisher`
that makes a publisher not active, no row of the database grants the key that the
publisher had before.  A request is answered from the caches, though, and nothing
takes the old record out of them.

* `uniqueHashes_run` — no two publishers have the hash of one key, in any run;
* `Dead` — no row grants a key, kept by every statement that does not grant it again;
* `revocation_takes_effect` — requests with the old key are refused, and the HMAC
  check sees the new setting, from the first moment after the revocation at which
  no older record is cached or in flight;
* `cached_record_grants` — a cached record grants its key until it expires;
* `revoked_key_accepted` — a key that was used before it was regenerated.
-/
import LeadsNebula.ApiAuth

namespace LeadsNebula

namespace ApiSys

variable {env : ApiEnv} {s s' : ApiSys} {ok : Bool} {st st' : ApiStage} {r r₀ : Publisher}

/-! ### The statements of a step -/

/-- Only the statements of requests touch the rows of `publishers`. -/
theorem publishers_step {a : ApiAction} (h : step env s a = some s') :
    s'.publishers = s.publishers ∨
      ∃ i ok st, a = .next i ok ∧ s.threads[i]? = some st ∧ s.admissible env st = true ∧
        s'.publishers = s.rowsAfter env st := by
  rcases step_cases h with ⟨st, -, -, rfl⟩ | ⟨i, ok, st, st', rfl, hst, -, rfl⟩ | ⟨key, rfl⟩ |
    ⟨key, rfl⟩ | ⟨d, rfl⟩
  · exact Or.inl rfl
  · rcases publishers_write env s ok st with heq | ⟨hadm, heq⟩
    · exact Or.inl heq
    · exact Or.inr ⟨i, ok, st, rfl, hst, hadm, heq⟩
  · exact Or.inl rfl
  · exact Or.inl rfl
  · exact Or.inl rfl

theorem RowChange.id_eq {now : ℕ} (h : RowChange env now st r₀ r) : r.id = r₀.id := by
  cases h <;> rfl

/-- A statement keeps the hash of a row or gives it the hash of a key that was drawn. -/
theorem RowChange.hash_eq {now : ℕ} (h : RowChange env now st r₀ r) :
    r.apiKeyHash = r₀.apiKeyHash ∨
      r₀.deletedAt = none ∧ st.writesHash env = some (r.id, r.apiKeyHash) := by
  cases h with
  | regenerate hlive => exact Or.inr ⟨hlive, rfl⟩
  | _ => exact Or.inl rfl

/-! ### Hashes are unique -/

/-- No two publishers have the hash of one key. -/
def UniqueHashes (s : ApiSys) : Prop :=
  ∀ r ∈ s.publishers.rows, ∀ r' ∈ s.publishers.rows, r.apiKeyHash = r'.apiKeyHash → r.id = r'.id

theorem ne_of_hashTaken {id : Uuid} {h : String} (ht : s.hashTaken id h = false)
    (hr : r ∈ s.publishers.rows) (hh : r.apiKeyHash = h) : r.id = id := by
  by_contra hne
  rw [hashTaken, List.any_eq_false] at ht
  exact ht r hr (decide_eq_true ⟨hne, hh⟩)

theorem live_isSome (hr : r ∈ s.publishers.rows) (hlive : r.deletedAt = none) :
    (s.live r.id).isSome := by
  rw [live, Table.select, List.find?_isSome]
  exact ⟨r, hr, decide_eq_true ⟨rfl, hlive⟩⟩

/-- The hash of a row after a statement: it is an old one of the same publisher, or it was drawn
and no other publisher has it. -/
theorem hash_origin (hadm : s.admissible env st = true) (hr : r ∈ (s.rowsAfter env st).rows) :
    (∃ r₀ ∈ s.publishers.rows, r₀.id = r.id ∧ r₀.apiKeyHash = r.apiKeyHash) ∨
      st.writesHash env = some (r.id, r.apiKeyHash) ∧ s.hashTaken r.id r.apiKeyHash = false := by
  rcases mem_rowsAfter hr with hmem | ⟨r₀, hr₀, hch⟩ | ⟨id, inst, apiKey, enc, req, rfl, rfl⟩
  · exact Or.inl ⟨r, hmem, rfl, rfl⟩
  · rcases hch.hash_eq with heq | ⟨hlive, hw⟩
    · exact Or.inl ⟨r₀, hr₀, hch.id_eq.symm, heq.symm⟩
    · refine Or.inr ⟨hw, ?_⟩
      cases hch with
      | regenerate _ =>
        have hsome := live_isSome hr₀ hlive
        rw [admissible, Bool.or_eq_true, Option.isNone_iff_eq_none, Bool.not_eq_true'] at hadm
        rcases hadm with hnone | htaken
        · rw [hnone] at hsome
          cases hsome
        · exact htaken
      | _ => cases hw
  · right
    simp only [admissible, insertable, Bool.and_eq_true, Bool.not_eq_true'] at hadm
    exact ⟨rfl, hadm.2⟩

theorem uniqueHashes_step {a : ApiAction} (hu : s.UniqueHashes)
    (h : step env s a = some s') : s'.UniqueHashes := by
  rcases publishers_step h with heq | ⟨i, ok, st, -, -, hadm, heq⟩
  · rw [UniqueHashes, heq]
    exact hu
  rw [UniqueHashes, heq]
  intro r hr r' hr' hh
  rcases hash_origin hadm hr with ⟨r₀, hr₀, hid, hhash⟩ | ⟨hw, hfree⟩ <;>
    rcases hash_origin hadm hr' with ⟨r₀', hr₀', hid', hhash'⟩ | ⟨hw', hfree'⟩
  · rw [← hid, ← hid']
    exact hu r₀ hr₀ r₀' hr₀' (hhash.trans (hh.trans hhash'.symm))
  · rw [← hid]
    exact ne_of_hashTaken hfree' hr₀ (hhash.trans hh)
  · rw [← hid']
    exact (ne_of_hashTaken hfree hr₀' (hhash'.trans hh.symm)).symm
  · rw [hw, Option.some_inj, Prod.mk.injEq] at hw'
    exact hw'.1

theorem uniqueHashes_run {as : List ApiAction} (hu : s.UniqueHashes)
    (hrun : Transition.run (step env) s as = some s') : s'.UniqueHashes :=
  Transition.inv_of_run (P := fun _ _ => True) (fun h _ hstep => uniqueHashes_step h hstep) hu
    (Transition.along_true _ _) hrun

/-! ### Rows that do not grant a key -/

/-- No row grants the key with hash `h`: a row with that hash is deleted or, if `byStatus`, it is
the row of publisher `id` and not active. -/
def Dead (h : String) (id : Uuid) (byStatus : Bool) (t : Table Publisher.id) : Prop :=
  ∀ r ∈ t.rows, r.apiKeyHash = h →
    r.deletedAt ≠ none ∨ byStatus = true ∧ r.id = id ∧ r.status ≠ .active

/-- A record under the cache key of hash `h` is none or not active. -/
def Refused (h k : String) (v : Option Publisher) : Prop :=
  k = "publisher:api_key:" ++ h → ∀ p, v = some p → p.active = false

/-- The next statement of a request may grant the key with hash `h` again: it gives the hash to a
publisher or, if `byStatus`, makes publisher `id` active. -/
def regrants (env : ApiEnv) (h : String) (id : Uuid) (byStatus : Bool) : ApiStage → Bool
  | .regenerateWrite _ apiKey _ | .createInsert _ _ apiKey _ _ => env.hash apiKey = h
  | .updateWrite id' c => byStatus && id' = id && c.status = some "active"
  | _ => false

/-- The key with hash `h` is not granted again. -/
def NotRegranted (env : ApiEnv) (h : String) (id : Uuid) (byStatus : Bool) (s : ApiSys) :
    ApiAction → Prop
  | .next i _ => ∀ st ∈ s.threads[i]?, regrants env h id byStatus st = false
  | _ => True

instance {h : String} {id : Uuid} {b : Bool} (a : ApiAction) :
    Decidable (s.NotRegranted env h id b a) :=
  match a with
  | .next i _ => inferInstanceAs (Decidable (∀ st ∈ s.threads[i]?, regrants env h id b st = false))
  | .request _ | .update _ _ | .delete _ | .regenerate _ _ _ | .setHmacSecret _ _
  | .create _ _ _ _ _ | .evictL1 _ | .evictL2 _ | .tick _ => inferInstanceAs (Decidable True)

variable {h : String} {id : Uuid} {b : Bool}

theorem refused_of_dead {t : Table Publisher.id} (hd : Dead h id b t) (key : String) :
    Refused h (env.cacheKey key) (Publisher.findByApiKey env.hash t key) := by
  intro hk p hp
  have hh : env.hash (trim key) = h := (String.append_right_inj _).mp hk
  rw [Publisher.findByApiKey] at hp
  split at hp
  · cases hp
  obtain ⟨hmem, hsel⟩ := Table.select_mem hp
  obtain ⟨hhash, hlive⟩ := of_decide_eq_true hsel
  rcases hd p hmem (hhash.trans hh) with hdel | ⟨-, -, hstatus⟩
  · exact absurd hlive hdel
  · simp [Publisher.active, hstatus]

theorem status_ofLabel {label : String} (h : PublisherStatus.ofLabel label = some .active) :
    label = "active" := by
  unfold PublisherStatus.ofLabel at h
  split at h
  · rfl
  all_goals cases h

theorem dead_rowsAfter (hd : Dead h id b s.publishers) (hst : regrants env h id b st = false) :
    Dead h id b (s.rowsAfter env st) := by
  intro r hr hh
  rcases mem_rowsAfter hr with hmem | ⟨r₀, hr₀, hch⟩ | ⟨id', inst, apiKey, enc, req, rfl, rfl⟩
  · exact hd r hmem hh
  · cases hch with
    | record => exact hd r₀ hr₀ hh
    | delete => exact Or.inl nofun
    | setHmacSecret _ => exact hd r₀ hr₀ hh
    | regenerate _ => exact absurd hh (of_decide_eq_false hst)
    | @update c _ hlive =>
      rcases hd r₀ hr₀ hh with hdel | ⟨hb, hid, hstatus⟩
      · exact absurd hlive hdel
      refine Or.inr ⟨hb, hid, fun hact => ?_⟩
      -- the status of the row is the old one, or the one that the request gives
      have hlabel : c.status = some "active" := by
        cases hc : c.status with
        | none => exact absurd (by simpa [UpdatePublisherRequest.apply, hc] using hact) hstatus
        | some label =>
          cases hl : PublisherStatus.ofLabel label with
          | none =>
            exact absurd (by simpa [UpdatePublisherRequest.apply, hc, hl] using hact) hstatus
          | some x =>
            have hx : x = .active := by
              simpa [UpdatePublisherRequest.apply, hc, hl] using hact
            subst hx
            rw [status_ofLabel hl]
      simp [regrants, hb, hid, hlabel] at hst
  · exact absurd hh (of_decide_eq_false hst)

theorem dead_step {a : ApiAction} (hd : Dead h id b s.publishers)
    (ha : s.NotRegranted env h id b a) (hstep : step env s a = some s') :
    Dead h id b s'.publishers := by
  rcases publishers_step hstep with heq | ⟨i, ok, st, rfl, hst, -, heq⟩
  · rw [heq]
    exact hd
  · rw [heq]
    exact dead_rowsAfter hd (ha st hst)

/-! ### The HMAC setting -/

/-- The row of publisher `id` has the HMAC setting `b` or is deleted. -/
def HmacSet (id : Uuid) (b : Bool) (t : Table Publisher.id) : Prop :=
  ∃ r, t.find id = some r ∧ (r.deletedAt ≠ none ∨ r.hmacRequired = b)

/-- A record of publisher `id` has the HMAC setting `b`. -/
def SeenHmac (id : Uuid) (b : Bool) (_ : String) (v : Option Publisher) : Prop :=
  ∀ p, v = some p → p.id = id → p.requireHmac = b

/-- The next statement of a request gives publisher `id` the HMAC setting `b`. -/
def setsHmac (id : Uuid) (b : Bool) : ApiStage → Bool
  | .updateWrite id' c => id' = id && c.hmacRequired = some b
  | _ => false

/-- Publisher `id` is not given the HMAC setting other than `b`. -/
def HmacKept (id : Uuid) (b : Bool) (s : ApiSys) : ApiAction → Prop
  | .next i _ => ∀ st ∈ s.threads[i]?, setsHmac id (!b) st = false
  | _ => True

instance {id : Uuid} {b : Bool} (a : ApiAction) : Decidable (s.HmacKept id b a) :=
  match a with
  | .next i _ => inferInstanceAs (Decidable (∀ st ∈ s.threads[i]?, setsHmac id (!b) st = false))
  | .request _ | .update _ _ | .delete _ | .regenerate _ _ _ | .setHmacSecret _ _
  | .create _ _ _ _ _ | .evictL1 _ | .evictL2 _ | .tick _ => inferInstanceAs (Decidable True)

theorem seenHmac_of_hmacSet {t : Table Publisher.id} (ht : HmacSet id b t) (key : String) :
    SeenHmac id b (env.cacheKey key) (Publisher.findByApiKey env.hash t key) := by
  intro p hp hid
  obtain ⟨r, hr, hset⟩ := ht
  rw [Publisher.findByApiKey] at hp
  split at hp
  · cases hp
  -- the record that is read is the row of the publisher
  have hfind := Table.find_of_select hp
  rw [hid, hr, Option.some_inj] at hfind
  subst hfind
  obtain ⟨-, hlive⟩ := of_decide_eq_true (Table.select_mem hp).2
  rcases hset with hdel | hset
  · exact absurd hlive hdel
  · exact hset

/-- The row of a publisher after an UPDATE, which was about it or not. -/
theorem find_rowsAfter_of_update {st : ApiStage} {p : Publisher → Bool} {f : Publisher → Publisher}
    (hf : ∀ r, (f r).id = r.id) (hrows : s.rowsAfter env st = s.publishers.update p f hf)
    (hr : s.publishers.find id = some r₀) (hch : p r₀ = true → RowChange env s.now st r₀ (f r₀)) :
    ∃ r, (s.rowsAfter env st).find id = some r ∧ (r = r₀ ∨ RowChange env s.now st r₀ r) := by
  obtain ⟨r, hfind, hcase⟩ := Table.find_update_cases hr p f hf
  refine ⟨r, hrows ▸ hfind, hcase.imp_right ?_⟩
  rintro ⟨hp, rfl⟩
  exact hch hp

/-- What a statement makes of the row of a publisher. -/
theorem find_rowsAfter (env : ApiEnv) (st : ApiStage) (hr : s.publishers.find id = some r₀) :
    ∃ r, (s.rowsAfter env st).find id = some r ∧ (r = r₀ ∨ RowChange env s.now st r₀ r) := by
  -- each statement changes the row of one publisher only
  cases st with
  | record req key p =>
    exact find_rowsAfter_of_update (by exact fun _ => rfl) rfl hr fun _ => .record
  | updateWrite id' c =>
    refine find_rowsAfter_of_update (by exact fun _ => rfl) rfl hr fun hp => ?_
    obtain ⟨rfl, hlive⟩ := of_decide_eq_true hp
    exact .update hlive
  | deleteWrite id' =>
    refine find_rowsAfter_of_update (by exact fun _ => rfl) rfl hr fun hp => ?_
    obtain rfl := of_decide_eq_true hp
    exact .delete
  | regenerateWrite id' apiKey encrypted =>
    refine find_rowsAfter_of_update (by exact fun _ => rfl) rfl hr fun hp => ?_
    obtain ⟨rfl, hlive⟩ := of_decide_eq_true hp
    exact .regenerate hlive
  | setHmacSecretWrite id' secret =>
    refine find_rowsAfter_of_update (by exact fun _ => rfl) rfl hr fun hp => ?_
    obtain ⟨rfl, hlive⟩ := of_decide_eq_true hp
    exact .setHmacSecret hlive
  | createInsert id' instanceId apiKey encrypted req =>
    exact ⟨r₀, Table.find_insert_of_some hr _, Or.inl rfl⟩
  | _ => exact ⟨r₀, hr, Or.inl rfl⟩

theorem hmacSet_step {a : ApiAction} (hs : HmacSet id b s.publishers) (ha : s.HmacKept id b a)
    (hstep : step env s a = some s') : HmacSet id b s'.publishers := by
  rcases publishers_step hstep with heq | ⟨i, ok, st, rfl, hst, -, heq⟩
  · rw [heq]
    exact hs
  -- a statement on the publishers' table
  obtain ⟨r₀, hr₀, hset⟩ := hs
  obtain ⟨r, hr, hch⟩ := find_rowsAfter env st hr₀
  rw [heq]
  refine ⟨r, hr, ?_⟩
  rcases hch with rfl | hch
  · exact hset
  cases hch with
  | record => exact hset
  | delete => exact Or.inl nofun
  | regenerate _ => exact hset
  | setHmacSecret _ => exact hset
  | @update c _ hlive =>
    rcases hset with hdel | hset
    · exact absurd hlive hdel
    right
    -- the update does not ask for the other setting
    have hc : c.hmacRequired ≠ some !b := by
      have hset := ha _ hst
      simpa [setsHmac, Table.find_key hr₀] using hset
    cases hreq : c.hmacRequired with
    | none => simpa [UpdatePublisherRequest.apply, hreq] using hset
    | some b' =>
      rw [hreq, ne_eq, Option.some_inj] at hc
      simpa [UpdatePublisherRequest.apply, hreq, Bool.eq_not] using hc

/-! ### Revocation -/

/-- The next statement of a request revokes the key of a publisher: it gives the publisher another
key, deletes it or, as the flag says, makes it not active. -/
inductive Revokes (env : ApiEnv) (r : Publisher) : ApiStage → Bool → Prop where
  | regenerate {apiKey encrypted} (hnew : env.hash apiKey ≠ r.apiKeyHash) :
    Revokes env r (.regenerateWrite r.id apiKey encrypted) false
  | delete : Revokes env r (.deleteWrite r.id) false
  | update {c label} (hc : c.status = some label) (hlabel : label ≠ "active") :
    Revokes env r (.updateWrite r.id c) true

/-- The statements after which the dashboard responds. -/
def lastWrite : ApiStage → Bool
  | .updateWrite _ _ | .deleteWrite _ | .regenerateWrite _ _ _ | .setHmacSecretWrite _ _ => true
  | _ => false

theorem advance_lastWrite (h : lastWrite st = true) :
    s.advance env ok st = some (respond (ok && s.admissible env st)) := by
  cases st <;> first | rfl | cases h

theorem write_lastWrite (h : lastWrite st = true) : s.write env ok st =
    if ok && s.admissible env st then { s with publishers := s.rowsAfter env st } else s := by
  cases st <;> first | rfl | cases h

/-- A request that returns success has executed its last statement. -/
theorem publishers_of_success {i : ℕ} (hst : s.threads[i]? = some st) (hlast : lastWrite st = true)
    (hstep : step env s (.next i ok) = some s') (hdone : s'.threads[i]? = some (.done 200 true)) :
    s.admissible env st = true ∧ s'.publishers = s.rowsAfter env st := by
  simp only [step, hst, Option.bind_some, advance_lastWrite hlast, Option.map_some,
    Option.some_inj] at hstep
  subst hstep
  have hresp : respond (ok && s.admissible env st) = .done 200 true := by
    rcases Transition.get_set_cases hdone with ⟨-, heq⟩ | ⟨hne, -⟩
    · exact heq.symm
    · exact absurd rfl hne
  cases hok : ok && s.admissible env st with
  | false =>
    rw [hok] at hresp
    cases hresp
  | true =>
    refine ⟨(Bool.and_eq_true _ _ ▸ hok).2, ?_⟩
    rw [write_lastWrite hlast, if_pos hok]

/-- No row grants the key after it has been revoked. -/
theorem dead_of_revokes (hu : s.UniqueHashes) (hr : r ∈ s.publishers.rows)
    (hrev : Revokes env r st b) (hadm : s.admissible env st = true) :
    Dead r.apiKeyHash r.id b (s.rowsAfter env st) := by
  intro r' hr' hh
  cases hrev with
  | regenerate hnew =>
    -- the old key is of no live row, and the new one is another
    rcases mem_updateLive _ hr' with ⟨hmem, hnot⟩ | ⟨r₀, hr₀, -, -, rfl⟩
    · exact Or.inl fun hlive => hnot ⟨hu r' hmem r hr hh, hlive⟩
    · exact absurd hh hnew
  | delete =>
    rw [rowsAfter] at hr'
    rcases Table.mem_update _ hr' with ⟨hmem, hne⟩ | ⟨r₀, hr₀, -, rfl⟩
    · exact absurd (hu r' hmem r hr hh) (of_decide_eq_false hne)
    · refine Or.inl ?_
      intro hlive
      cases hlive
  | @update c label hc hlabel =>
    rcases mem_updateLive _ hr' with ⟨hmem, hnot⟩ | ⟨r₀, hr₀, hid, -, rfl⟩
    · exact Or.inl fun hlive => hnot ⟨hu r' hmem r hr hh, hlive⟩
    · -- the row is suspended: its status is what was asked for
      refine Or.inr ⟨rfl, hid, fun hact => ?_⟩
      simp only [admissible, UpdatePublisherRequest.statusValid, hc, Option.all_some,
        Option.isSome_iff_exists] at hadm
      obtain ⟨x, hx⟩ := hadm
      have hxact : x = .active := by
        simpa [UpdatePublisherRequest.apply, hc, hx] using hact
      exact hlabel (status_ofLabel (hxact ▸ hx))

theorem hmacSet_of_update {c : UpdatePublisherRequest} (hr : r ∈ s.publishers.rows)
    (hc : c.hmacRequired = some b) : HmacSet r.id b (s.rowsAfter env (.updateWrite r.id c)) := by
  have hfind : s.publishers.find r.id = some r := Table.find_eq_some_iff.mpr ⟨hr, rfl⟩
  refine ⟨_, Table.find_update_of_some hfind _ _ (by exact fun _ => rfl), ?_⟩
  split
  · right
    simp [UpdatePublisherRequest.apply, hc]
  · next hp =>
    left
    intro hlive
    exact hp (decide_eq_true ⟨rfl, hlive⟩)

variable {s₀ s₁ s₂ s₃ m : ApiSys} {as bs cs : List ApiAction} {i : ℕ}

/-- In every run: once a request that revokes the key of a publisher has returned success and, at
that moment or any later one, no record that grants the key is cached or in flight, no request that
comes after it is let through with the key, if the key is not granted again; and once a request
that sets `hmac_required` has returned success and, then or later, no record with another setting
is cached or in flight, the HMAC check sees the new setting in every request of the publisher that
comes after, if the setting is not changed again. -/
theorem revocation_takes_effect (hu : s₀.UniqueHashes)
    (has : Transition.run (step env) s₀ as = some s₁) (hst : s₁.threads[i]? = some st)
    (hr : r ∈ s₁.publishers.rows) (hstep : step env s₁ (.next i true) = some s₂)
    (hdone : s₂.threads[i]? = some (.done 200 true))
    (hbs : Transition.run (step env) s₂ bs = some m)
    (hcs : Transition.run (step env) m cs = some s₃) :
    (∀ b, Revokes env r st b → m.Copies env (Refused r.apiKeyHash) →
      Transition.Along (step env) (NotRegranted env r.apiKeyHash r.id b) s₂ (bs ++ cs) →
      ∀ j st' key p, m.threads.length ≤ j → s₃.threads[j]? = some st' →
        st'.granted = some (key, p) → env.hash (trim key) ≠ r.apiKeyHash) ∧
    ∀ c b, st = .updateWrite r.id c → c.hmacRequired = some b →
      m.Copies env (SeenHmac r.id b) →
      Transition.Along (step env) (HmacKept r.id b) s₂ (bs ++ cs) →
      ∀ j st' key p, m.threads.length ≤ j → s₃.threads[j]? = some st' →
        st'.granted = some (key, p) → p.id = r.id → p.requireHmac = b := by
  have hu₁ : s₁.UniqueHashes := uniqueHashes_run hu has
  refine ⟨fun b hrev hcopies halong j st' key p hj hst' hg hh => ?_, ?_⟩
  · -- the write makes the hash dead, and it stays dead until the caches have forgotten the key
    have hsucc : s₁.admissible env st = true ∧ s₂.publishers = s₁.rowsAfter env st := by
      exact publishers_of_success hst (by cases hrev <;> rfl) hstep hdone
    have hdead₂ : Dead r.apiKeyHash r.id b s₂.publishers :=
      hsucc.2 ▸ dead_of_revokes hu₁ hr hrev hsucc.1
    have hdead : Dead r.apiKeyHash r.id b m.publishers :=
      Transition.inv_of_run (fun hd ha h => dead_step hd ha h) hdead₂
        (Transition.along_append_left halong) hbs
    -- a dead hash is refused by all that is read from then on
    have hcoh : s₃.Coherent env (Refused r.apiKeyHash) m.threads.length :=
      coherent_run (fun _ ht => refused_of_dead ht) (fun hd ha h => dead_step hd ha h) hcopies hdead
        (Transition.along_append_right hbs halong) hcs
    obtain ⟨hact, hQ⟩ := hcoh.granted j st' hj hst' key p hg
    have hk : env.cacheKey key = "publisher:api_key:" ++ r.apiKeyHash :=
      congrArg ("publisher:api_key:" ++ ·) hh
    rw [hQ hk p rfl] at hact
    cases hact
  · -- the same argument, with the setting in the place of the hash
    rintro c b rfl hc hcopies halong j st' key p hj hst' hg hid
    have hsucc := publishers_of_success hst rfl hstep hdone
    have hset₂ : HmacSet r.id b s₂.publishers := hsucc.2 ▸ hmacSet_of_update hr hc
    have hset : HmacSet r.id b m.publishers :=
      Transition.inv_of_run (fun hs ha h => hmacSet_step hs ha h) hset₂
        (Transition.along_append_left halong) hbs
    have hcoh : s₃.Coherent env (SeenHmac r.id b) m.threads.length :=
      coherent_run (fun _ ht => seenHmac_of_hmacSet ht)
        (fun hs ha h => hmacSet_step hs ha h) hcopies
        hset (Transition.along_append_right hbs halong) hcs
    exact (hcoh.granted j st' hj hst' key p hg).2 p rfl hid

/-- A record in the memory cache grants its key to the next request. -/
theorem cached_record_grants {req : ApiRequest} {key : String} {p : Publisher}
    (hcache : s.cache = true) (hkey : req.apiKey = some key)
    (hget : s.l1.get cacheTtl s.now (env.cacheKey key) = some (some p)) (hact : p.active = true) :
    Transition.run (step env) s [.request req, .next s.threads.length true] =
      some { s with threads := s.threads ++ [.record req key p] } := by
  have hlast : (s.threads ++ [ApiStage.auth req])[s.threads.length]? = some (.auth req) := by
    rw [List.getElem?_append_right (Nat.le_refl _), Nat.sub_self]
    rfl
  rw [Transition.run, step, Option.bind_some, Transition.run, step]
  simp only [hlast, Option.bind_some, advance, hkey, hcache, hget,
    ApiRequest.resolve, hact, if_true,
    Option.map_some, Transition.run_nil, write, admissible, rowsAfter, Bool.and_self,
    List.set_append_right _ _ (Nat.le_refl _), Nat.sub_self, List.set_cons_zero]

end ApiSys

namespace Sample

def oldKey : String := "pk_live_0000000000000000000000000000000000000000000000000000000000000000"

def newKey : String := "pk_live_1111111111111111111111111111111111111111111111111111111111111111"

/-- The hashes are those of the two keys. -/
def apiEnv : ApiEnv where
  hash key :=
    if key = oldKey then "ad6488b73a68bbfd1c5300bcf63a86c1c9111e2842c86f220b2e28c49efcae13"
    else if key = newKey then "20630f862935c6ebd325ec4a7021b476baf4406b78504dbab96c74d9f900e72f"
    else ""
  hmacSecret := none
  hmac _ _ := ""

def newPublisher : CreatePublisherRequest :=
  ⟨"Solar", "solar@example.com", none, none, none, none, none, none, none, none, none, none⟩

def publisherRow : Publisher := newPublisher.row 5 1 (apiEnv.hash oldKey) "" 0

/-- One publisher, and a cache without Redis. -/
def apiSys : ApiSys := ⟨0, ⟨[publisherRow], by decide⟩, true, false, .empty, .empty, []⟩

def keyRequest : ApiRequest := ⟨some oldKey, false, none, ""⟩

def requireHmac : UpdatePublisherRequest :=
  ⟨none, none, none, some true, none, none, none, none, none, none, none, none⟩

/-- Request number `i` comes with the old key, and runs until it is let through or rejected. -/
def useKey (i : ℕ) : List ApiAction := .request keyRequest :: List.replicate 5 (.next i true)

/-- The key is used, and a request to regenerate it comes to its last statement. -/
def usedBefore : List ApiAction := useKey 0 ++ [.regenerate 5 newKey "", .next 1 true]

/-- The key is used, and a request to set `hmac_required` comes to its last statement. -/
def hmacBefore : List ApiAction := useKey 0 ++ [.update 5 requireHmac, .next 1 true]

end Sample

open Sample in
/-- A request with the old key is let through after the key has been regenerated. -/
theorem revoked_key_accepted :
    ∃ s₁ s₂ s₃, Transition.run (ApiSys.step apiEnv) apiSys usedBefore = some s₁ ∧
      (∃ enc, s₁.threads[1]? = some (.regenerateWrite 5 newKey enc)) ∧
      ApiSys.step apiEnv s₁ (.next 1 true) = some s₂ ∧
      s₂.threads[1]? = some (.done 200 true) ∧ s₂.threads.length = 2 ∧
      Transition.run (ApiSys.step apiEnv) s₂ [.request keyRequest, .next 2 true] = some s₃ ∧
      (s₃.threads[2]?.bind ApiStage.granted).map (fun g => (g.1, g.2.id)) = some (oldKey, 5) := by
  refine ⟨_, _, _, rfl, ⟨"", rfl⟩, rfl, rfl, rfl, rfl, ?_⟩
  decide

open Sample in
/-- The record of a key that was used before it is regenerated, or before the setting of its
publisher is changed, is in the memory cache for an hour; then the key is used again. -/
theorem revocation_takes_effect_expired :
    (∃ s₁ s₂ m s₃, Transition.run (ApiSys.step apiEnv) apiSys usedBefore = some s₁ ∧
      ApiSys.step apiEnv s₁ (.next 1 true) = some s₂ ∧
      ¬ s₂.Copies apiEnv (ApiSys.Refused publisherRow.apiKeyHash) ∧
      Transition.run (ApiSys.step apiEnv) s₂ [.tick 3600] = some m ∧
      Transition.run (ApiSys.step apiEnv) m (useKey 2) = some s₃ ∧
      ∀ j st key p, m.threads.length ≤ j → s₃.threads[j]? = some st →
        st.granted = some (key, p) → apiEnv.hash (trim key) ≠ publisherRow.apiKeyHash) ∧
    ∃ s₁ s₂ m s₃, Transition.run (ApiSys.step apiEnv) apiSys hmacBefore = some s₁ ∧
      ApiSys.step apiEnv s₁ (.next 1 true) = some s₂ ∧
      Transition.run (ApiSys.step apiEnv) s₂ [.tick 3600] = some m ∧
      Transition.run (ApiSys.step apiEnv) m (useKey 2) = some s₃ ∧
      ∀ j st key p, m.threads.length ≤ j → s₃.threads[j]? = some st →
        st.granted = some (key, p) → p.id = publisherRow.id → p.requireHmac = true := by
  have hu : apiSys.UniqueHashes := by
    intro r hr r' hr' _
    rw [List.mem_singleton.mp hr, List.mem_singleton.mp hr']
  have hexpired : ∀ (Q : String → Option Publisher → Prop) (s : ApiSys) (k : String)
      (v : Option Publisher), s.now = 3600 → s.l1 = TtlCache.empty.insert 0 k v → s.l2 = .empty →
      (s.threads.all fun st => st.copy.isNone) = true → s.Copies apiEnv Q := by
    intro Q s k v hnow h₁ h₂ hth
    refine ⟨?_, h₂ ▸ TtlCache.All.empty Q, fun st hst key v hv => ?_⟩
    · rw [h₁, hnow]
      exact (TtlCache.All.empty Q).insert_expired (Nat.le_refl _) k v
    · rw [Option.isNone_iff_eq_none.mp (List.all_eq_true.mp hth st hst)] at hv
      cases hv
  refine ⟨⟨_, _, _, _, rfl, rfl, ?_, rfl, rfl, ?_⟩, _, _, _, _, rfl, rfl, rfl, rfl, ?_⟩
  · -- at the moment of the revocation the memory cache still grants the key
    intro hc
    have hact : publisherRow.active = false :=
      hc.l1 (apiEnv.cacheKey oldKey) (some publisherRow)
        (TtlCache.get_insert_self (c := .empty) (by decide) _ _) rfl publisherRow rfl
    cases hact
  · have h₁ : Transition.run (ApiSys.step apiEnv) apiSys usedBefore = some _ := rfl
    exact (ApiSys.revocation_takes_effect (i := 1) hu h₁ rfl (List.mem_singleton_self publisherRow)
      rfl rfl (rfl : Transition.run (ApiSys.step apiEnv) _ [.tick 3600] = some _)
      (rfl : Transition.run (ApiSys.step apiEnv) _ (useKey 2) = some _)).1
      false (.regenerate (by decide)) (hexpired _ _ _ _ rfl rfl rfl rfl) (by decide)
  · have h₁ : Transition.run (ApiSys.step apiEnv) apiSys hmacBefore = some _ := rfl
    exact (ApiSys.revocation_takes_effect (i := 1) hu h₁ rfl (List.mem_singleton_self publisherRow)
      rfl rfl (rfl : Transition.run (ApiSys.step apiEnv) _ [.tick 3600] = some _)
      (rfl : Transition.run (ApiSys.step apiEnv) _ (useKey 2) = some _)).2
      requireHmac true rfl rfl (hexpired _ _ _ _ rfl rfl rfl rfl) (by decide)

end LeadsNebula
