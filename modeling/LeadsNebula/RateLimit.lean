/-
The rate limit of `create_lead` (`leads.rs`).

Each publisher has a bucket of its own in a map behind a lock.  The times are those of
a monotonic clock, in nanoseconds; the handler compares whole seconds.

* `checkRate_eq_step` — the check is a step of a `FixedWindow` limiter, whose window is
  3600 seconds;
* `rate_limit` — what holds of every sequence of calls.
-/
import LeadsNebula.FixedWindow
import LeadsNebula.UuidText

namespace LeadsNebula

abbrev RateBucket := FixedWindow.Bucket

def rateLimitPerHour : ℕ := 360

def rateLimitWindowSeconds : ℕ := 3600

/-- Nanoseconds in a second. -/
def nanosPerSec : ℕ := 1000000000

/-- `Duration::as_secs`. -/
def asSecs (nanos : ℕ) : ℕ := nanos / nanosPerSec

def rateKey (publisherId : Uuid) : String := "publisher:" ++ publisherId.toString

/-- What comes of the check for one call. -/
structure RateDecision where
  publisherId : Uuid
  time : ℕ
  /-- The bucket is new, or its window has been renewed. -/
  reset : Bool
  /-- `retry_after_seconds`, if the call is rejected. -/
  retryAfter : Option ℕ

def RateDecision.admitted (d : RateDecision) : Bool := d.retryAfter.isNone

/-- The check at the start of `create_lead`, under the lock of the buckets. -/
def checkRate (buckets : String → Option RateBucket) (publisherId : Uuid) (now : ℕ) :
    (String → Option RateBucket) × RateDecision :=
  let key := rateKey publisherId
  let entry := (buckets key).getD ⟨now, 0⟩
  let expired := decide (rateLimitWindowSeconds ≤ asSecs (now - entry.start))
  let bucket : RateBucket := if expired then ⟨now, 0⟩ else entry
  let reset := (buckets key).isNone || expired
  if rateLimitPerHour ≤ bucket.count then
    let retryAfter := rateLimitWindowSeconds - asSecs (now - bucket.start)
    (Function.update buckets key (some bucket), ⟨publisherId, now, reset, some retryAfter⟩)
  else
    (Function.update buckets key (some { bucket with count := bucket.count + 1 }),
      ⟨publisherId, now, reset, none⟩)

/-- The decisions for a sequence of calls. -/
def rateDecisions (buckets : String → Option RateBucket) : List (Uuid × ℕ) → List RateDecision
  | [] => []
  | c :: calls => (checkRate buckets c.1 c.2).2 :: rateDecisions (checkRate buckets c.1 c.2).1 calls

/-- The buckets after a sequence of calls. -/
def rateBuckets (buckets : String → Option RateBucket) :
    List (Uuid × ℕ) → (String → Option RateBucket)
  | [] => buckets
  | c :: calls => rateBuckets (checkRate buckets c.1 c.2).1 calls

/-! ### The limiter -/

/-- The length of a window in nanoseconds. -/
def rateWindow : ℕ := rateLimitWindowSeconds * nanosPerSec

def RateDecision.event (d : RateDecision) : FixedWindow.Event String :=
  ⟨rateKey d.publisherId, d.time, d.reset, d.admitted⟩

theorem rateKey_inj {p q : Uuid} (h : rateKey p = rateKey q) : p = q := by
  refine Uuid.toString_inj ?_
  rw [rateKey, rateKey, ← String.toList_inj, String.toList_append, String.toList_append] at h
  exact String.toList_inj.mp (List.append_cancel_left h)

/-- A whole number of seconds has passed exactly if so many nanoseconds have. -/
theorem le_asSecs_iff {secs nanos : ℕ} : secs ≤ asSecs nanos ↔ secs * nanosPerSec ≤ nanos :=
  Nat.le_div_iff_mul_le (by decide)

/-- The check in terms of the bucket that the call meets. -/
theorem checkRate_eq (buckets : String → Option RateBucket) (p : Uuid) (now : ℕ) :
    checkRate buckets p now =
      let m := FixedWindow.meet rateWindow now (buckets (rateKey p))
      if rateLimitPerHour ≤ m.1.count then
        (Function.update buckets (rateKey p) (some m.1),
          ⟨p, now, m.2, some (rateLimitWindowSeconds - asSecs (now - m.1.start))⟩)
      else
        (Function.update buckets (rateKey p) (some { m.1 with count := m.1.count + 1 }),
          ⟨p, now, m.2, none⟩) := by
  rw [checkRate]
  cases hb : buckets (rateKey p) with
  -- a new bucket has not expired
  | none =>
    have hfresh : ¬ rateLimitWindowSeconds ≤ asSecs (now - now) := by
      rw [Nat.sub_self]
      decide
    simp only [Option.getD_none, hfresh, decide_false, FixedWindow.meet]
    rfl
  | some b =>
    -- expired, the code sets start and count anew
    by_cases hexp : rateWindow ≤ now - b.start
    · have hsecs : rateLimitWindowSeconds ≤ asSecs (now - b.start) := le_asSecs_iff.mpr hexp
      simp only [Option.getD_some, hsecs, decide_true, FixedWindow.meet, hexp, if_true,
        Bool.or_true]
    · have hsecs : ¬ rateLimitWindowSeconds ≤ asSecs (now - b.start) :=
        fun h => hexp (le_asSecs_iff.mp h)
      simp only [Option.getD_some, hsecs, decide_false, FixedWindow.meet, hexp, if_false]
      rfl

/-- The check is a step of the limiter. -/
theorem checkRate_eq_step (buckets : String → Option RateBucket) (p : Uuid) (now : ℕ) :
    (checkRate buckets p now).1 =
        (FixedWindow.step rateLimitPerHour rateWindow buckets (rateKey p) now).1 ∧
      (checkRate buckets p now).2.event =
        (FixedWindow.step rateLimitPerHour rateWindow buckets (rateKey p) now).2 := by
  rw [checkRate_eq, FixedWindow.step]
  simp only [FixedWindow.Bucket.charge]
  by_cases h : (FixedWindow.meet rateWindow now (buckets (rateKey p))).1.count < rateLimitPerHour
  · rw [if_neg (not_le.mpr h), if_pos h, decide_eq_true h]
    exact ⟨rfl, rfl⟩
  · rw [if_pos (not_lt.mp h), if_neg h, decide_eq_false h]
    exact ⟨rfl, rfl⟩

/-- The calls as the limiter sees them. -/
def rateCalls (calls : List (Uuid × ℕ)) : List (String × ℕ) := calls.map fun c => (rateKey c.1, c.2)

theorem map_event_rateDecisions (buckets : String → Option RateBucket) (calls : List (Uuid × ℕ)) :
    (rateDecisions buckets calls).map RateDecision.event =
      FixedWindow.run rateLimitPerHour rateWindow buckets (rateCalls calls) := by
  induction calls generalizing buckets with
  | nil => rfl
  | cons c calls ih =>
    obtain ⟨hstate, hevent⟩ := checkRate_eq_step buckets c.1 c.2
    rw [rateDecisions, List.map_cons, ih, hstate, hevent]
    rfl

theorem rateBuckets_eq_final (buckets : String → Option RateBucket) (calls : List (Uuid × ℕ)) :
    rateBuckets buckets calls =
      FixedWindow.final rateLimitPerHour rateWindow buckets (rateCalls calls) := by
  induction calls generalizing buckets with
  | nil => rfl
  | cons c calls ih =>
    rw [rateBuckets, ih, (checkRate_eq_step buckets c.1 c.2).1]
    rfl

theorem rateBuckets_append (buckets : String → Option RateBucket)
    (calls calls' : List (Uuid × ℕ)) :
    rateBuckets buckets (calls ++ calls') = rateBuckets (rateBuckets buckets calls) calls' := by
  induction calls generalizing buckets with
  | nil => rfl
  | cons c calls ih => exact ih _

/-! ### Every sequence of calls -/

/-- The calls of a publisher that were admitted, of those that `within` picks. -/
def admittedCalls (p : Uuid) (within : RateDecision → Bool) (ds : List RateDecision) : ℕ :=
  ds.countP fun d => (d.publisherId = p && d.admitted) && within d

/-- The buckets at the start: none. -/
def noBuckets : String → Option RateBucket := fun _ => none

theorem decide_rateKey_eq (p q : Uuid) : decide (rateKey q = rateKey p) = decide (q = p) :=
  decide_eq_decide.mpr ⟨rateKey_inj, fun h => congrArg rateKey h⟩

theorem admittedCalls_eq_admittedOf (p : Uuid) (ds : List RateDecision) :
    admittedCalls p (fun _ => true) ds =
      FixedWindow.admittedOf (rateKey p) (ds.map RateDecision.event) := by
  rw [admittedCalls, FixedWindow.admittedOf, List.countP_map]
  refine congrArg (List.countP · ds) (funext fun d => ?_)
  rw [Bool.and_true, ← decide_rateKey_eq]
  rfl

theorem admittedCalls_eq_admittedIn (p : Uuid) (a b : ℕ) (ds : List RateDecision) :
    admittedCalls p (fun d => a ≤ d.time && d.time ≤ b) ds =
      FixedWindow.admittedIn (rateKey p) a b (ds.map RateDecision.event) := by
  rw [admittedCalls, FixedWindow.admittedIn, List.countP_map]
  refine congrArg (List.countP · ds) (funext fun d => ?_)
  rw [← decide_rateKey_eq]
  rfl

/-- The decisions for a publisher are those of a run in which nobody else calls. -/
theorem rateDecisions_filter (buckets : String → Option RateBucket) (calls : List (Uuid × ℕ))
    (p : Uuid) :
    ((rateDecisions buckets calls).filter fun d => d.publisherId = p).map RateDecision.event =
      (rateDecisions buckets (calls.filter fun c => c.1 = p)).map RateDecision.event := by
  have hcalls : (rateCalls calls).filter (fun c => c.1 = rateKey p) =
      rateCalls (calls.filter fun c => c.1 = p) := by
    rw [rateCalls, rateCalls, List.filter_map]
    refine congrArg (List.map _) (List.filter_congr fun c _ => ?_)
    exact decide_rateKey_eq p c.1
  have hdecisions : ((rateDecisions buckets calls).filter fun d => d.publisherId = p).map
      RateDecision.event = ((rateDecisions buckets calls).map RateDecision.event).filter
        fun e => e.key = rateKey p := by
    rw [List.filter_map]
    refine congrArg (List.map _) (List.filter_congr fun d _ => ?_)
    exact (decide_rateKey_eq p d.publisherId).symm
  rw [hdecisions, map_event_rateDecisions, FixedWindow.run_filter _ rfl, hcalls,
    map_event_rateDecisions]

/-- A call is rejected only within the window of a full bucket, which it leaves as it is. -/
theorem checkRate_rejected {buckets : String → Option RateBucket} {p : Uuid} {now retryAfter : ℕ}
    (h : (checkRate buckets p now).2.retryAfter = some retryAfter) :
    ∃ b, buckets (rateKey p) = some b ∧ (checkRate buckets p now).1 (rateKey p) = some b ∧
      retryAfter = rateLimitWindowSeconds - asSecs (now - b.start) := by
  rw [checkRate_eq] at h ⊢
  simp only at h ⊢
  split at h
  · next hfull =>
    rw [if_pos hfull]
    rcases FixedWindow.meet_cases rateWindow now (buckets (rateKey p)) with
      ⟨hmeet, -⟩ | ⟨b, hb, hmeet, -⟩
    · -- a new bucket is not full
      rw [hmeet] at hfull
      exact absurd hfull (show ¬ rateLimitPerHour ≤ 0 by decide)
    · rw [hmeet] at h ⊢
      exact ⟨b, hb, Function.update_self _ _ _, (Option.some_inj.mp h).symm⟩
  · cases h

/-- After its window a bucket is renewed, and the call admitted. -/
theorem checkRate_admitted {buckets : String → Option RateBucket} {p : Uuid} {now : ℕ}
    {b : RateBucket} (hb : buckets (rateKey p) = some b) (h : rateWindow ≤ now - b.start) :
    (checkRate buckets p now).2.retryAfter = none := by
  rw [checkRate_eq, hb, FixedWindow.meet, if_pos h]
  rfl

theorem retry_admitted {before between : List (Uuid × ℕ)} {p : Uuid} {t t' retryAfter : ℕ}
    (htimes : ∀ c ∈ before, c.2 ≤ t) (hbetween : ∀ c ∈ between, c.1 ≠ p)
    (hrejected : (checkRate (rateBuckets noBuckets before) p t).2.retryAfter = some retryAfter)
    (hlater : t + retryAfter * nanosPerSec ≤ t') :
    (checkRate (rateBuckets noBuckets (before ++ (p, t) :: between)) p t').2.retryAfter = none := by
  obtain ⟨b, hb, hkept, rfl⟩ := checkRate_rejected hrejected
  have hstart : b.start ≤ t := by
    rw [rateBuckets_eq_final] at hb
    refine FixedWindow.start_le_final (fun c hc => ?_) (fun b' hb' => by cases hb') hb
    obtain ⟨c', hc', rfl⟩ := List.mem_map.mp hc
    exact htimes c' hc'
  have hbucket : rateBuckets noBuckets (before ++ (p, t) :: between) (rateKey p) = some b := by
    rw [rateBuckets_append, rateBuckets, rateBuckets_eq_final, FixedWindow.final_of_not_mem]
    · exact hkept
    · intro c hc hkey
      obtain ⟨c', hc', rfl⟩ := List.mem_map.mp hc
      exact hbetween c' hc' (rateKey_inj hkey)
  refine checkRate_admitted hbucket ?_
  -- the elapsed whole seconds and those still to wait make a window
  simp only [rateWindow, rateLimitWindowSeconds, nanosPerSec, asSecs] at hlater ⊢
  omega

/-- For every sequence of calls at non-decreasing times, and every publisher: at most 360 calls are
admitted from one reset of its bucket to the next, and at most 720 in any interval shorter than
3600 seconds; the decisions are those for the publisher's own calls alone; the counter never
exceeds 360; and a call that comes `retry_after_seconds` or more after a rejected one, with none of
the publisher's in between, is admitted. -/
theorem rate_limit (calls : List (Uuid × ℕ)) (hsorted : calls.Pairwise fun c c' => c.2 ≤ c'.2)
    (p : Uuid) :
    (∀ before d ds after, rateDecisions noBuckets calls = before ++ (d :: ds) ++ after →
        (∀ d' ∈ ds, d'.publisherId = p → d'.reset = false) →
        admittedCalls p (fun _ => true) (d :: ds) ≤ 360) ∧
      (∀ a b, b < a + 3600 * nanosPerSec →
        admittedCalls p (fun d => a ≤ d.time && d.time ≤ b) (rateDecisions noBuckets calls) ≤ 720) ∧
      ((rateDecisions noBuckets calls).filter fun d => d.publisherId = p).map
          RateDecision.admitted =
        (rateDecisions noBuckets (calls.filter fun c => c.1 = p)).map RateDecision.admitted ∧
      (∀ before after bucket, calls = before ++ after →
        rateBuckets noBuckets before (rateKey p) = some bucket → bucket.count ≤ 360) ∧
      ∀ before t between t' after retryAfter,
        calls = before ++ (p, t) :: (between ++ (p, t') :: after) →
        (∀ c ∈ between, c.1 ≠ p) →
        (checkRate (rateBuckets noBuckets before) p t).2.retryAfter = some retryAfter →
        t + retryAfter * nanosPerSec ≤ t' →
        (checkRate (rateBuckets noBuckets (before ++ (p, t) :: between)) p t').2.retryAfter =
          none := by
  refine ⟨?_, ?_, ?_, ?_, ?_⟩
  · -- within one window the bucket counts what it admits
    intro before d ds after h hreset
    have hrun := congrArg (List.map RateDecision.event) h
    rw [map_event_rateDecisions, List.map_append, List.map_append, List.map_cons] at hrun
    rw [admittedCalls_eq_admittedOf]
    refine FixedWindow.admitted_le_of_no_reset FixedWindow.countLe_init hrun ?_
    intro e he hkey
    obtain ⟨d', hd', rfl⟩ := List.mem_map.mp he
    exact hreset d' hd' (rateKey_inj hkey)
  · -- an interval of an hour meets at most two windows
    intro a b hab
    rw [admittedCalls_eq_admittedIn, map_event_rateDecisions]
    refine FixedWindow.admitted_le_of_interval hab ?_ FixedWindow.countLe_init
    exact List.pairwise_map.mpr hsorted
  · -- the buckets of other publishers play no part
    have h := congrArg (List.map FixedWindow.Event.admitted)
      (rateDecisions_filter noBuckets calls p)
    rw [List.map_map, List.map_map] at h
    exact h
  · intro before after bucket _ hb
    rw [rateBuckets_eq_final] at hb
    exact FixedWindow.countLe_final FixedWindow.countLe_init _ _ _ hb
  · -- the retry time is the rest of the window
    intro before t between t' after retryAfter hcalls hbetween
    refine retry_admitted (fun c hc => ?_) hbetween
    rw [hcalls] at hsorted
    exact (List.pairwise_append.mp hsorted).2.2 c hc (p, t) List.mem_cons_self

/-- The bucket after some calls at one time, all of which are admitted. -/
theorem rateBuckets_replicate (p : Uuid) {n : ℕ} (hn : n < 360) :
    rateBuckets noBuckets (List.replicate (n + 1) (p, 0)) (rateKey p) = some ⟨0, n + 1⟩ := by
  induction n with
  | zero =>
    show (checkRate noBuckets p 0).1 (rateKey p) = _
    rw [checkRate_eq, noBuckets, FixedWindow.meet, if_neg (by decide)]
    exact Function.update_self _ _ _
  | succ n ih =>
    have hbucket := ih (by omega)
    have hwindow : ¬rateWindow ≤ 0 - 0 := by decide
    have hopen : ¬rateLimitPerHour ≤ n + 1 := show ¬360 ≤ n + 1 by omega
    rw [List.replicate_succ', rateBuckets_append]
    show (checkRate (rateBuckets noBuckets (List.replicate (n + 1) (p, 0))) p 0).1 (rateKey p) = _
    rw [checkRate_eq, hbucket]
    simp only [FixedWindow.meet, hwindow, if_false, hopen]
    exact Function.update_self _ _ _

/-- Of 361 calls in a window the last is rejected, and may be made again after the hour, with
another publisher's call in between. -/
theorem rate_limit_full_bucket :
    (checkRate (rateBuckets noBuckets (List.replicate 360 (1, 0))) 1 1).2.retryAfter = some 3600 ∧
      (checkRate (rateBuckets noBuckets (List.replicate 360 (1, 0) ++ (1, 1) :: [(2, 5)])) 1
        (1 + 3600 * nanosPerSec)).2.retryAfter = none ∧
      admittedCalls 1 (fun d => 0 ≤ d.time && d.time ≤ 5) (rateDecisions noBuckets
        (List.replicate 360 (1, 0) ++ (1, 1) :: ([(2, 5)] ++ [(1, 1 + 3600 * nanosPerSec)]))) ≤
          720 := by
  have hsorted : List.Pairwise (fun c c' : Uuid × ℕ => c.2 ≤ c'.2) (List.replicate 360 (1, 0) ++
      (1, 1) :: ([(2, 5)] ++ [(1, 1 + 3600 * nanosPerSec)])) := by
    refine List.pairwise_append.mpr ⟨List.pairwise_replicate.mpr (Or.inr le_rfl), by decide, ?_⟩
    intro c hc c' _
    rw [List.eq_of_mem_replicate hc]
    exact Nat.zero_le _
  obtain ⟨-, hinterval, -, -, hretry⟩ := rate_limit _ hsorted 1
  have hfull : rateBuckets noBuckets (List.replicate 360 (1, 0)) (rateKey 1) = some ⟨0, 360⟩ :=
    rateBuckets_replicate 1 (by decide)
  have hrejected :
      (checkRate (rateBuckets noBuckets (List.replicate 360 (1, 0))) 1 1).2.retryAfter =
        some 3600 := by
    rw [checkRate_eq, hfull]
    rfl
  exact ⟨hrejected, hretry _ _ _ _ _ _ rfl (by decide) hrejected le_rfl, hinterval 0 5 (by decide)⟩

end LeadsNebula
