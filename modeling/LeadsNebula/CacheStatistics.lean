/-
The hits and misses of the cache service (`core/src/cache.rs`).

A call counts a hit if L1 serves it.  Beyond L1 it looks into Redis with `get`, which
counts the lookup, and then counts once more what it has found.

* `Prog.Counts` — a program that succeeds raises a number by so much, with the rules for
  a sequence of programs;
* `getOrInsertWith_l1`, `getOrInsertWith_beyond` — what a call counts;
* `countsOnce_iff` — a call counts once exactly if L1 serves it;
* `counts_lookups_iff` — the same for all the calls of a run.
-/
import LeadsNebula.CacheRuns

/-! ### Programs that count -/

namespace Prog

variable {σ ε α β : Type} {μ : σ → ℕ}

/-- A program that gives `a` has raised `μ` by `n a`. -/
def Counts (μ : σ → ℕ) (m : Prog σ ε α) (n : α → ℕ) : Prop :=
  ∀ s a s', m s = (.ok a, s') → μ s' = μ s + n a

theorem Counts.pure (a : α) : Counts μ (pure a : Prog σ ε α) fun _ => 0 := by
  intro s a' s' h
  cases h
  rfl

theorem Counts.stop (e : ε) (n : α → ℕ) : Counts μ (Prog.stop e : Prog σ ε α) n := by
  intro s a s' h
  cases h

theorem Counts.orStop (e : ε) (o : Option α) : Counts μ (Prog.orStop e o) fun _ => 0 := by
  cases o with
  | none => exact .stop e _
  | some a => exact .pure a

/-- What the first program leaves to count, the second one counts. -/
theorem Counts.bind {m : Prog σ ε α} {f : α → Prog σ ε β} {n : α → ℕ} {k : ℕ}
    (hm : Counts μ m n) (hk : ∀ a, n a ≤ k) (hf : ∀ a, Counts μ (f a) fun _ => k - n a) :
    Counts μ (m >>= f) fun _ => k := by
  intro s b s' h
  cases hms : m s with
  | mk r t =>
    cases r with
    | error e =>
      rw [bind_of_error hms] at h
      cases h
    | ok a =>
      rw [bind_of_ok hms] at h
      have hfirst : μ t = μ s + n a := hm s a t hms
      have hsecond : μ s' = μ t + (k - n a) := hf a t b s' h
      have hle : n a ≤ k := hk a
      show μ s' = μ s + k
      omega

/-- A program that counts nothing comes first. -/
theorem Counts.zero_bind {m : Prog σ ε α} {f : α → Prog σ ε β} {k : ℕ}
    (hm : Counts μ m fun _ => 0) (hf : ∀ a, Counts μ (f a) fun _ => k) :
    Counts μ (m >>= f) fun _ => k :=
  hm.bind (fun _ => Nat.zero_le k) hf

theorem Counts.ifSome {o : Option α} {f : α → Prog σ ε Unit}
    (hf : ∀ a, Counts μ (f a) fun _ => 0) : Counts μ (Prog.ifSome o f) fun _ => 0 := by
  cases o with
  | none => exact .pure ()
  | some a => exact hf a

end Prog

namespace LeadsNebula

open CacheService CacheProg
open Prog (Counts)

variable {ν : Type}

/-- All the lookups that the service has counted. -/
def CacheService.counted (s : CacheService) : ℕ := s.hits + s.misses

/-! ### What the parts of a call count -/

theorem counts_modify {f : CacheService → CacheService} {n : ℕ}
    (h : ∀ s, (f s).counted = s.counted + n) : Counts counted (modify f) fun _ => n := by
  intro s a s' hrun
  cases hrun
  exact h s

theorem counts_read {α : Type} (f : CacheService → α) : Counts counted (read f) fun _ => 0 := by
  intro s a s' h
  cases h
  rfl

theorem counts_miss : Counts counted (modify .miss) fun _ => 1 := counts_modify fun _ => rfl

theorem counts_runSource {α : Type} (source : Except String α) :
    Counts counted (runSource source) fun _ => 0 := by
  cases source with
  | error message => exact .stop _ _
  | ok a => exact .pure a

/-- `get` counts the lookup, as a hit or as a miss. -/
theorem counted_cacheGet (key : String) (ok : Bool) (s : CacheService) :
    (cacheGet key ok s).2.counted = s.counted + 1 := by
  have hhit : s.hit.counted = s.counted + 1 := Nat.add_right_comm _ _ _
  have hmiss : s.miss.counted = s.counted + 1 := rfl
  unfold cacheGet
  cases s.redis with
  | none => exact hmiss
  | some r =>
    cases ok with
    | false => exact hmiss
    | true =>
      cases s.l2Get key with
      | none => exact hmiss
      | some e => exact hhit

theorem counts_cacheSetWithTtl (key : String) (value : Cached) (ttl : ℕ) (fault : Option Bool) :
    Counts counted (cacheSetWithTtl key value ttl fault) fun _ => 0 := by
  intro s a s' h
  have hs' : s' = (cacheSetWithTtl key value ttl fault s).2 := by rw [h]
  subst hs'
  rcases command_cases fault .redisSet
    (fun r s => s.withL2 (s.l2.setWithTtl s.now (redisKey r key) value ttl))
      s with heq | ⟨r, -, heq⟩
  · rw [cacheSetWithTtl, heq]
    rfl
  · rw [cacheSetWithTtl, heq]
    rfl

theorem counts_cacheStore (c : Codec ν) (key : String) (ttl : ℕ) (v : ν) (fault : Option Bool) :
    Counts counted (cacheStore c key ttl v fault) fun _ => 0 := by
  unfold cacheStore
  refine .zero_bind (.orStop _ _) fun text => ?_
  refine .zero_bind (counts_read _) fun now => ?_
  refine .zero_bind (counts_modify fun s => rfl) fun _ => ?_
  exact counts_cacheSetWithTtl key _ ttl fault

/-! ### What a call counts -/

/-- The lookup of a call when L1 has nothing for it. -/
def lookupBeyondL1 (c : Codec ν) (key : String) (ok : Bool) : CacheProg (Option (Served ν)) := do
  let second ← cacheGet key ok
  match c.readable second with
  | some (e, v) =>
    modify fun s => (s.l1Insert key e).hit
    pure (some ⟨v, .l2, e.fetchedAt⟩)
  | none => pure none

/-- What Redis serves is counted twice. -/
theorem counts_lookupBeyondL1 (c : Codec ν) (key : String) (ok : Bool) :
    Counts counted (lookupBeyondL1 c key ok) fun found => if found.isSome then 2 else 1 := by
  intro s found s' h
  unfold lookupBeyondL1 at h
  cases hget : cacheGet key ok s with
  | mk r t =>
    have ht : t.counted = s.counted + 1 := by rw [← counted_cacheGet key ok s, hget]
    cases r with
    | error e =>
      rw [Prog.bind_of_error hget] at h
      cases h
    | ok second =>
      rw [Prog.bind_of_ok hget] at h
      cases hread : c.readable second with
      | none =>
        rw [hread] at h
        cases h
        exact ht
      | some ev =>
        rw [hread] at h
        cases h
        show t.hits + 1 + t.misses = s.counted + 2
        have hsum : t.hits + t.misses = s.counted + 1 := ht
        omega

variable {c : Codec ν} {key : String} {ttl : ℕ} {faults : CallFaults} {s s' : CacheService}

theorem cacheLookup_beyond {ok : Bool} (h1 : c.readable (s.l1Get key) = none) :
    cacheLookup c key ok s = lookupBeyondL1 c key ok s := by
  simp only [cacheLookup, Prog.run_bind, CacheProg.read, h1]
  rfl

/-- What follows a lookup counts a miss, if the lookup has found nothing. -/
theorem counts_call {β : Type} {found : Served ν → CacheProg β} {missing : CacheProg β}
    (hfound : ∀ served, Counts counted (found served) fun _ => 0)
    (hmissing : Counts counted missing fun _ => 1) (c : Codec ν) (key : String) (ok : Bool) :
    Counts counted (lookupBeyondL1 c key ok >>= fun o => match o with
      | some served => found served
      | none => missing) fun _ => 2 := by
  refine (counts_lookupBeyondL1 c key ok).bind (fun o => ?_) (fun o => ?_)
  · split <;> omega
  · cases o with
    | some served => exact hfound served
    | none => exact hmissing

theorem getOrInsertWith_l1 {e : Cached} {v : ν} (source : Except String ν)
    (h1 : c.readable (s.l1Get key) = some (e, v)) :
    getOrInsertWith c key ttl source faults s = (.ok ⟨v, .l1, e.fetchedAt⟩, s.hit) := by
  rw [getOrInsertWith, Prog.bind_of_ok (cacheLookup_l1 key h1)]
  rfl

theorem getOrInsertWithSkipNone_l1 {e : Cached} {v : ν} (source : Except String (Option ν))
    (h1 : c.readable (s.l1Get key) = some (e, v)) :
    getOrInsertWithSkipNone c key ttl source faults s =
      (.ok ⟨some v, .l1, e.fetchedAt⟩, s.hit) := by
  rw [getOrInsertWithSkipNone, Prog.bind_of_ok (cacheLookup_l1 key h1)]
  rfl

/-- Beyond L1 a call counts twice. -/
theorem getOrInsertWith_beyond {source : Except String ν} {a : Served ν}
    (h1 : c.readable (s.l1Get key) = none)
    (h : getOrInsertWith c key ttl source faults s = (.ok a, s')) : s'.counted = s.counted + 2 := by
  rw [getOrInsertWith, Prog.run_bind, cacheLookup_beyond h1, ← Prog.run_bind] at h
  refine counts_call (fun served => .pure served) ?_ c key faults.getOk s a s' h
  refine counts_miss.bind (fun _ => le_rfl) fun _ => ?_
  refine .zero_bind (counts_runSource source) fun v => ?_
  refine .zero_bind (counts_read _) fun now => ?_
  exact .zero_bind (counts_cacheStore c key ttl v _) fun _ => .pure _

theorem getOrInsertWithSkipNone_beyond {source : Except String (Option ν)} {a : Served (Option ν)}
    (h1 : c.readable (s.l1Get key) = none)
    (h : getOrInsertWithSkipNone c key ttl source faults s = (.ok a, s')) :
    s'.counted = s.counted + 2 := by
  rw [getOrInsertWithSkipNone, Prog.run_bind, cacheLookup_beyond h1, ← Prog.run_bind] at h
  refine counts_call (fun served => .pure _) ?_ c key faults.getOk s a s' h
  refine counts_miss.bind (fun _ => le_rfl) fun _ => ?_
  refine .zero_bind (counts_runSource source) fun value => ?_
  refine .zero_bind (counts_read _) fun now => ?_
  exact .zero_bind (.ifSome fun v => counts_cacheStore c key ttl v _) fun _ => .pure _

/-! ### Runs -/

/-- Where an answer comes from. -/
def originOf {α : Type} : Except CacheError (Served α) → Option ServedFrom
  | .ok a => some a.origin
  | .error _ => none

namespace CacheOp

/-- Where the answer of a call comes from, if it returns `Ok`. -/
def origin (s : CacheService) : CacheOp ν → Option ServedFrom
  | getOrInsertWith c key ttl source faults =>
    originOf (LeadsNebula.getOrInsertWith c key ttl source faults s).1
  | getOrInsertWithSkipNone c key ttl source faults =>
    originOf (LeadsNebula.getOrInsertWithSkipNone c key ttl source faults s).1
  | _ => none

def ReturnsOk (s : CacheService) (op : CacheOp ν) : Prop :=
  op.call.isSome = true → (op.origin s).isSome = true

/-- The call counts one lookup, and a hit exactly if the value comes from the cache. -/
def CountsOnce (s : CacheService) (op : CacheOp ν) : Prop :=
  ∀ o, op.origin s = some o →
    (op.apply s).counted = s.counted + 1 ∧ ((op.apply s).hits = s.hits + 1 ↔ o ≠ .source)

/-- L1 has a text that the call can read. -/
def ServedByL1 (s : CacheService) (op : CacheOp ν) : Prop :=
  ∀ c key ttl, op.call = some (c, key, ttl) → (c.readable (s.l1Get key)).isSome = true

end CacheOp

/-- What the counters say after an answer, by whether L1 has it. -/
theorem counted_iff {α : Type} {r : Except CacheError (Served α) × CacheService}
    (hok : (originOf r.1).isSome = true)
    (hl1 : (c.readable (s.l1Get key)).isSome = true → originOf r.1 = some .l1 ∧ r.2 = s.hit)
    (hbeyond : c.readable (s.l1Get key) = none → ∀ a, r.1 = .ok a → r.2.counted = s.counted + 2) :
    (∀ o, originOf r.1 = some o →
        r.2.counted = s.counted + 1 ∧ (r.2.hits = s.hits + 1 ↔ o ≠ .source)) ↔
      (c.readable (s.l1Get key)).isSome = true := by
  obtain ⟨r, s'⟩ := r
  constructor
  · intro hcounts
    cases r with
    | error e => cases hok
    | ok a =>
      by_contra hnone
      have htwice := hbeyond (Option.not_isSome_iff_eq_none.mp hnone) a rfl
      obtain ⟨honce, -⟩ := hcounts a.origin rfl
      omega
  · intro hsome o ho
    obtain ⟨horigin, rfl⟩ := hl1 hsome
    obtain rfl : .l1 = o := Option.some.inj (horigin.symm.trans ho)
    refine ⟨Nat.add_right_comm _ _ _, ?_⟩
    exact iff_of_true rfl fun h => nomatch h

theorem countsOnce_iff {op : CacheOp ν} (hok : op.ReturnsOk s) :
    op.CountsOnce s ↔ op.ServedByL1 s := by
  cases op with
  | getOrInsertWith c key ttl source faults =>
    have hserved : (CacheOp.getOrInsertWith c key ttl source faults).ServedByL1 s ↔
        (c.readable (s.l1Get key)).isSome = true := by
      simp [CacheOp.ServedByL1, CacheOp.call]
    rw [hserved]
    refine counted_iff (hok rfl) (fun hsome => ?_) (fun hnone a ha => ?_)
    · obtain ⟨⟨e, v⟩, h1⟩ := Option.isSome_iff_exists.mp hsome
      rw [getOrInsertWith_l1 source h1]
      exact ⟨rfl, rfl⟩
    · exact getOrInsertWith_beyond hnone (Prod.ext ha rfl)
  | getOrInsertWithSkipNone c key ttl source faults =>
    have hserved : (CacheOp.getOrInsertWithSkipNone c key ttl source faults).ServedByL1 s ↔
        (c.readable (s.l1Get key)).isSome = true := by
      simp [CacheOp.ServedByL1, CacheOp.call]
    rw [hserved]
    refine counted_iff (hok rfl) (fun hsome => ?_) (fun hnone a ha => ?_)
    · obtain ⟨⟨e, v⟩, h1⟩ := Option.isSome_iff_exists.mp hsome
      rw [getOrInsertWithSkipNone_l1 source h1]
      exact ⟨rfl, rfl⟩
    · exact getOrInsertWithSkipNone_beyond hnone (Prod.ext ha rfl)
  | _ => exact iff_of_true (fun _ h => nomatch h) fun _ _ _ h => nomatch h

/-- In a run in which every call returns `Ok`, each counts one lookup exactly when L1 serves
each. -/
theorem counts_lookups_iff {s : CacheService} {ops : List (CacheOp ν)}
    (hok : Transition.Along cacheStep CacheOp.ReturnsOk s ops) :
    Transition.Along cacheStep CacheOp.CountsOnce s ops ↔
      Transition.Along cacheStep CacheOp.ServedByL1 s ops := by
  have hkeep : ∀ {s : CacheService} {op : CacheOp ν} {s' : CacheService},
      True → op.ReturnsOk s → cacheStep s op = some s' → True := fun _ _ _ => trivial
  exact Transition.along_congr hkeep (fun _ => countsOnce_iff) trivial hok

namespace Sample

/-- The value is in L1. -/
def warmCache : CacheService := cacheRun emptyCache [fetchOld]

theorem warm_lookup_counts_once :
    Transition.Along cacheStep CacheOp.CountsOnce warmCache [fetchOld] := by
  have hok : Transition.Along cacheStep CacheOp.ReturnsOk warmCache [fetchOld] :=
    ⟨fun _ => by decide, trivial⟩
  refine (counts_lookups_iff hok).mpr ⟨?_, trivial⟩
  intro c key ttl h
  cases h
  decide

/-- The first lookup of a key counts two misses; without L1 the next one counts two hits. -/
theorem lookups_count_twice :
    ((cacheRun emptyCache [fetchOld]).hits, (cacheRun emptyCache [fetchOld]).misses) = (0, 2) ∧
      (cacheRun emptyCache [fetchOld, .evict "k", fetchOld]).hits = 2 ∧
      ¬∀ (s : CacheService) (ops : List (CacheOp String)),
        Transition.Along cacheStep CacheOp.ReturnsOk s ops →
          Transition.Along cacheStep CacheOp.CountsOnce s ops := by
  refine ⟨by decide, by decide, fun hall => ?_⟩
  obtain ⟨hfirst, -⟩ := hall emptyCache [fetchOld] ⟨fun _ => by decide, trivial⟩
  obtain ⟨honce, -⟩ := hfirst .source rfl
  revert honce
  decide

end Sample

end LeadsNebula
