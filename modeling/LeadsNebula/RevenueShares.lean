/-
What the rows of `ping_tree_publishers` hold.

A share is converted to decimals, completed by the default, validated, and rounded
by its columns.

* `cents_mono`, `cents_eq_self` — rounding keeps the order, and numbers of two
  decimals;
* `triple_addPublisherToPingTree`, `triple_updatePingTreePublisherRevshare` — a
  request stores the valid share that it asks for, or changes nothing;
* `shares_stored` — along every run of requests every row has exactly one kind of
  share within its bounds, and what is stored is what was asked, to two decimals.
-/
import LeadsNebula.ActiveCampaigns
import LeadsNebula.RevenueCalculator

namespace LeadsNebula

namespace Dashboard

open Prog Revenue

/-! ### Rounding -/

theorem cents_mono {p q : ℚ} (h : p ≤ q) : cents p ≤ cents q := by
  unfold cents
  rw [round_eq, round_eq]
  have hfloor : ⌊p * 100 + 1 / 2⌋ ≤ ⌊q * 100 + 1 / 2⌋ := Int.floor_mono (by linarith)
  have hcast : (⌊p * 100 + 1 / 2⌋ : ℚ) ≤ ⌊q * 100 + 1 / 2⌋ := by exact_mod_cast hfloor
  linarith

/-- A number of two decimals is stored as it is. -/
theorem cents_eq_self (m : ℤ) : cents (m / 100) = m / 100 := by
  unfold cents
  rw [div_mul_cancel₀ _ (by norm_num), round_intCast]

theorem cents_zero : cents 0 = 0 := by simpa using cents_eq_self 0

theorem cents_hundred : cents 100 = 100 := by
  have h := cents_eq_self 10000
  norm_num at h
  exact h

theorem decimalColumn_eq_some {n : ℕ} {p q : ℚ} (h : decimalColumn n q = some p) : p = cents q := by
  unfold decimalColumn at h
  split at h
  · exact (Option.some.inj h).symm
  · cases h

/-! ### Shares -/

namespace Revshare

/-- The share that a request asks for. -/
def asked (percentage flatAmount : Option F64) : Revshare :=
  let number : F64 → Option ℚ
    | .fin q => some q
    | _ => none
  ⟨percentage.bind number, flatAmount.bind number⟩

/-- The share in the two decimals of its columns. -/
def rounded (s : Revshare) : Revshare := ⟨s.percentage.map cents, s.flatAmount.map cents⟩

theorem stored_eq_some {s t : Revshare} (h : s.stored = some t) : t = s.rounded := by
  have hmap : ∀ {n : ℕ} {o o' : Option ℚ}, o.mapM (decimalColumn n) = some o' →
      o' = o.map cents := by
    intro n o o' ho
    cases o with
    | none =>
      cases ho
      rfl
    | some q =>
      obtain ⟨p, hp, rfl⟩ := Option.map_eq_some_iff.mp ho
      rw [decimalColumn_eq_some hp]
      rfl
  obtain ⟨p, hp, h⟩ := Option.bind_eq_some_iff.mp h
  obtain ⟨f, hf, h⟩ := Option.bind_eq_some_iff.mp h
  cases h
  rw [hmap hp, hmap hf]
  rfl

/-- Both kinds, a percentage that is none, or a negative amount. -/
def OutOfBounds (s : Revshare) : Prop :=
  (s.percentage.isSome = true ∧ s.flatAmount.isSome = true) ∨
    (∃ p ∈ s.percentage, p < 0 ∨ 100 < p) ∨ ∃ flat ∈ s.flatAmount, flat < 0

theorem valid_eq_false_iff {s : Revshare} : s.valid = false ↔ s.OutOfBounds := by
  obtain ⟨percentage, flatAmount⟩ := s
  cases percentage with
  | none => cases flatAmount <;> simp [valid, OutOfBounds]
  | some p =>
    cases flatAmount with
    | none => simp [valid, OutOfBounds, or_iff_not_imp_left]
    | some flat => simp [valid, OutOfBounds]

/-- The default is valid. -/
theorem valid_applyDefaults (s : Revshare) : s.applyDefaults.valid = s.valid := by
  obtain ⟨percentage, flatAmount⟩ := s
  cases percentage <;> cases flatAmount <;> norm_num [applyDefaults, valid]

/-- Once the default is in, a valid share is one of a kind. -/
theorem admitted_applyDefaults {s : Revshare} (h : s.applyDefaults.valid = true) :
    Admitted s.applyDefaults.percentage s.applyDefaults.flatAmount := by
  refine ⟨?_, h⟩
  obtain ⟨percentage, flatAmount⟩ := s
  cases percentage <;> cases flatAmount <;> simp [applyDefaults, valid] at h ⊢

theorem admitted_rounded {s : Revshare} (h : Admitted s.percentage s.flatAmount) :
    Admitted s.rounded.percentage s.rounded.flatAmount := by
  obtain ⟨percentage, flatAmount⟩ := s
  rw [admitted_iff] at h ⊢
  rcases h with ⟨p, rfl, rfl, hp, hp'⟩ | ⟨flat, rfl, rfl, hflat⟩
  · refine Or.inl ⟨cents p, rfl, rfl, ?_, ?_⟩
    · exact cents_zero ▸ cents_mono hp
    · exact cents_hundred ▸ cents_mono hp'
  · exact Or.inr ⟨cents flat, rfl, rfl, cents_zero ▸ cents_mono hflat⟩

end Revshare

/-! ### The requests -/

section Requests

variable {cfg : DashConfig} {env : DashEnv} {s s' : Db} {id publisherId : Uuid}
  {percentage flatAmount : Option F64}

/-- The publisher's row in the ping tree has the share, and the other rows are as before. -/
def Recorded (id publisherId : Uuid) (share : Revshare) (s s' : Db) : Prop :=
  ∃ a ∈ (s' .pingTreePublishers).rows, a.pingTreeId = id ∧ a.publisherId = publisherId ∧
    a.revsharePercentage = share.percentage ∧ a.revshareFlatAmount = share.flatAmount ∧
    ∀ a', a'.id ≠ a.id → (a' ∈ (s' .pingTreePublishers).rows ↔ a' ∈ (s .pingTreePublishers).rows)

/-- What a request with these numbers leads to, unless it is refused. -/
def Stores (cfg : DashConfig) (id publisherId : Uuid) (percentage flatAmount : Option F64)
    (s s' : Db) : Prop :=
  (Revshare.ofRequest cfg percentage flatAmount).applyDefaults.valid = true ∧
    Recorded id publisherId
      (Revshare.ofRequest cfg percentage flatAmount).applyDefaults.rounded s s'

theorem triple_addPublisherToPingTree :
    Triple (fun t => t = s) (addPublisherToPingTree cfg env id publisherId percentage flatAmount)
      (fun _ s' => Stores cfg id publisherId percentage flatAmount s s') (fun _ s' => s' = s) := by
  refine Triple.bind (Triple.stmt (Triple.post Triple.first fun _ _ h => h.1) fun _ _ h => h)
    fun pingTree => ?_
  refine Triple.bind (Triple.orStop (Q := fun _ t => t = s) (fun _ _ _ h => h) fun _ _ h => h)
    fun t => ?_
  refine Triple.bind (Triple.stmt (Triple.post Triple.first fun _ _ h => h.1) fun _ _ h => h)
    fun publisher => ?_
  refine Triple.bind (Triple.orStop (Q := fun _ t => t = s) (fun _ _ _ h => h) fun _ _ h => h)
    fun _ => ?_
  refine Triple.bind (Triple.stopWhen fun _ _ h => h) fun _ => ?_
  refine Triple.bind (Triple.orStop (Q := fun share t => (t = s ∧
      (Revshare.ofRequest cfg percentage flatAmount).applyDefaults.valid = true) ∧
      share = (Revshare.ofRequest cfg percentage flatAmount).applyDefaults.rounded)
    (fun share hshare t h => ?_) fun _ _ h => h.1) fun share => ?_
  · -- the percentage and the amount are stored as the columns round them
    exact ⟨⟨h.1, Bool.not_eq_false' _ ▸ h.2⟩, Revshare.stored_eq_some hshare⟩
  refine Triple.bind (Triple.stmt (Triple.post Triple.present fun _ _ h => h.1) fun _ _ h => h.1.1)
    fun taken => ?_
  refine Triple.bind (Triple.stopWhen fun _ _ h => h.1.1) fun _ => ?_
  refine Triple.bind (Triple.insert (R := fun inserted s' => if inserted = true then
      Stores cfg id publisherId percentage flatAmount s s' else s' = s) ?_ ?_) fun inserted => ?_
  · -- the row that is there already answers the INSERT, and nothing has changed
    rintro u ⟨⟨⟨rfl, -⟩, -⟩, -⟩
    rfl
  · -- the new row is the one that the caller asked for
    rintro u s' ⟨⟨⟨rfl, hvalid⟩, rfl⟩, -⟩ - hrows -
    rw [if_pos rfl]
    refine ⟨hvalid, ⟨env.uuid 0, id, publisherId, t.vertical, _, _, env.now, env.now⟩, ?_, rfl, rfl,
      rfl, rfl, fun a' hne => ?_⟩
    · rw [hrows]
      exact List.mem_append_right _ List.mem_cons_self
    · rw [hrows, List.mem_append, List.mem_singleton]
      refine ⟨fun h => h.resolve_right fun heq => ?_, Or.inl⟩
      exact hne (congrArg PingTreePublisher.id heq)
  · cases inserted with
    | false => exact Triple.bind (Triple.stop fun _ h => h) fun _ => Triple.pure fun _ h => h
    | true => exact Triple.bind (Triple.pure fun _ h => h) fun _ => Triple.pure fun _ h => h

theorem triple_updatePingTreePublisherRevshare :
    Triple (fun t => t = s)
      (updatePingTreePublisherRevshare cfg env id publisherId percentage flatAmount)
      (fun _ s' => Stores cfg id publisherId percentage flatAmount s s') (fun _ s' => s' = s) := by
  refine Triple.bind (Triple.stmt Triple.first fun _ _ h => h) fun assignment => ?_
  refine Triple.bind (Triple.orStop (Q := fun a t => t = s ∧ a ∈ (s .pingTreePublishers).rows ∧
      a.pingTreeId = id ∧ a.publisherId = publisherId) (fun a ha t h => ?_) fun _ _ h => h.1)
    fun a => ?_
  · -- the assignment that was found is one of the table
    obtain ⟨rfl, rfl⟩ := h
    obtain ⟨hmem, hkey⟩ := List.mem_filter.mp (List.mem_of_mem_head? ha)
    exact ⟨rfl, hmem, of_decide_eq_true hkey⟩
  refine Triple.bind (Triple.stopWhen fun _ _ h => h.1) fun _ => ?_
  refine Triple.bind (Triple.orStop (Q := fun share t => (t = s ∧
      a ∈ (s .pingTreePublishers).rows ∧ a.pingTreeId = id ∧ a.publisherId = publisherId) ∧
      (Revshare.ofRequest cfg percentage flatAmount).applyDefaults.valid = true ∧
      share = (Revshare.ofRequest cfg percentage flatAmount).applyDefaults.rounded)
    (fun share hshare t h => ?_) fun _ _ h => h.1.1) fun share => ?_
  · exact ⟨h.1, Bool.not_eq_false' _ ▸ h.2, Revshare.stored_eq_some hshare⟩
  refine Triple.bind (Triple.stmt
    (Triple.update (R := Stores cfg id publisherId percentage flatAmount s)
    ?_) fun _ _ h => h.1.1) fun _ => Triple.pure fun _ h => h
  -- the UPDATE changes the shares of this assignment and of no other
  rintro u s' ⟨⟨rfl, hmem, rfl, rfl⟩, hvalid, rfl⟩ hrows -
  refine ⟨hvalid, { a with
    revsharePercentage := _
    revshareFlatAmount := _
    updatedAt := env.now }, ?_, rfl, rfl, rfl, rfl, fun a' hne => ?_⟩
  · rw [hrows]
    exact List.mem_map.mpr ⟨a, hmem, if_pos (decide_eq_true rfl)⟩
  · rw [hrows, List.mem_map]
    constructor
    · rintro ⟨b, hb, rfl⟩
      split at hne
      · exact absurd (of_decide_eq_true ‹_›) hne
      · rwa [if_neg ‹_›]
    · intro hb
      exact ⟨a', hb, if_neg fun h => hne (of_decide_eq_true h)⟩

theorem triple_removePublisherFromPingTree :
    Triple (fun t => t = s) (removePublisherFromPingTree env id publisherId)
      (fun _ s' => ∀ a, a ∈ (s' .pingTreePublishers).rows → a ∈ (s .pingTreePublishers).rows)
      (fun _ s' => s' = s) := by
  refine Triple.bind (Triple.stmt (Triple.post Triple.first fun _ _ h => h.1) fun _ _ h => h)
    fun pingTree => ?_
  refine Triple.bind (Triple.orStop (Q := fun _ t => t = s) (fun _ _ _ h => h) fun _ _ h => h)
    fun _ => ?_
  refine Triple.bind (Triple.stmt (Triple.delete (R := fun s' : Db =>
    ∀ a, a ∈ (s' .pingTreePublishers).rows → a ∈ (s .pingTreePublishers).rows) ?_) fun _ _ h => h)
    fun _ => Triple.pure fun _ h => h
  rintro u s' rfl hrows - a ha
  rw [hrows] at ha
  exact List.mem_of_mem_filter ha

/-! ### Runs -/

/-- Every row has exactly one kind of share, within its bounds. -/
def SharesOk (s : Db) : Prop :=
  ∀ a ∈ (s .pingTreePublishers).rows, Admitted a.revsharePercentage a.revshareFlatAmount

theorem Stores.sharesOk (hs : SharesOk s)
    (h : Stores cfg id publisherId percentage flatAmount s s') : SharesOk s' := by
  obtain ⟨hvalid, a, hmem, -, -, hp, hf, hothers⟩ := h
  intro a' ha'
  by_cases hid : a'.id = a.id
  · obtain rfl : a' = a := List.inj_on_of_nodup_map (s' .pingTreePublishers).nodup ha' hmem hid
    rw [hp, hf]
    exact Revshare.admitted_rounded (Revshare.admitted_applyDefaults hvalid)
  · exact hs a' ((hothers a' hid).mp ha')

end Requests

/-- The requests on the publishers of a ping tree. -/
def Request.editsShares : Request → Bool
  | .addPublisherToPingTree _ _ _ _ | .removePublisherFromPingTree _ _
  | .updatePingTreePublisherRevshare _ _ _ _ => true
  | _ => false

/-- The request asks for a share of the publisher in the ping tree. -/
def Request.AsksShare (req : Request) (id publisherId : Uuid) (percentage flatAmount : Option F64) :
    Prop :=
  req = .addPublisherToPingTree id publisherId percentage flatAmount ∨
    req = .updatePingTreePublisherRevshare id publisherId percentage flatAmount

/-- The numbers of a request that has any are decimals. -/
def AreDecimals (percentage flatAmount : Option F64) : Prop :=
  ∀ x, x ∈ percentage ∨ x ∈ flatAmount → ∃ q, x = .fin q ∧ fitsDecimal q = true

/-- `Decimal::from_str` reads the numbers of the decimal type. -/
def DashConfig.ReadsDecimals (cfg : DashConfig) : Prop :=
  ∀ q, fitsDecimal q = true → cfg.decimal q = some q

theorem ofRequest_eq_asked {cfg : DashConfig} {percentage flatAmount : Option F64}
    (hcfg : cfg.ReadsDecimals) (h : AreDecimals percentage flatAmount) :
    Revshare.ofRequest cfg percentage flatAmount = Revshare.asked percentage flatAmount := by
  unfold Revshare.ofRequest Revshare.asked
  refine congrArg₂ Revshare.mk (Option.bind_congr fun x hx => ?_) (Option.bind_congr fun x hx => ?_)
  · obtain ⟨q, rfl, hq⟩ := h x (Or.inl hx)
    exact hcfg q hq
  · obtain ⟨q, rfl, hq⟩ := h x (Or.inr hx)
    exact hcfg q hq

/-- A request for a share is refused if the share is out of bounds; a request that is refused
changes nothing, and one that is not stores the share, or the default if it names none. -/
def StoresAsAsked (cfg : DashConfig) (s : Db) (c : DashCall) : Prop :=
  ∀ id publisherId percentage flatAmount, c.req.AsksShare id publisherId percentage flatAmount →
    AreDecimals percentage flatAmount →
    ((Revshare.asked percentage flatAmount).OutOfBounds →
      ∃ e, (handle cfg c.user c.env c.req s).1 = .error e) ∧
    (∀ e, (handle cfg c.user c.env c.req s).1 = .error e →
      (handle cfg c.user c.env c.req s).2 = s) ∧
    ∀ body, (handle cfg c.user c.env c.req s).1 = .ok body →
      Recorded id publisherId (Revshare.asked percentage flatAmount).applyDefaults.rounded s
        (handle cfg c.user c.env c.req s).2

section Runs

variable {cfg : DashConfig} {s s' : Db} {c : DashCall}

/-- The postconditions of a request, for its answer and the database after it. -/
theorem triple_apply {α : Type} {m : Handler α} {Q : α → Db → Prop} {E : ℕ → Db → Prop}
    (h : Triple (fun t => t = s) m Q E) :
    (∀ a, (m s).1 = .ok a → Q a (m s).2) ∧ ∀ e, (m s).1 = .error e → E e (m s).2 := by
  obtain ⟨hok, herror⟩ := h s rfl
  exact ⟨fun a ha => hok a _ (Prod.ext ha rfl), fun e he => herror e _ (Prod.ext he rfl)⟩

theorem triple_asksShare {id publisherId : Uuid} {percentage flatAmount : Option F64}
    (h : c.req.AsksShare id publisherId percentage flatAmount) :
    Triple (fun t => t = s) (handle cfg c.user c.env c.req)
      (fun _ s' => Stores cfg id publisherId percentage flatAmount s s') (fun _ s' => s' = s) := by
  obtain h | h := h
  · rw [h]
    exact triple_addPublisherToPingTree
  · rw [h]
    exact triple_updatePingTreePublisherRevshare

theorem sharesOk_step (hs : SharesOk s) (hc : c.req.editsShares = true)
    (h : dashStep cfg s c = some s') : SharesOk s' := by
  obtain rfl := Option.some.inj h
  have hend : ∀ {Q : Json → Db → Prop}, Triple (fun t => t = s) (handle cfg c.user c.env c.req) Q
      (fun _ s' => s' = s) → (∀ j s', Q j s' → SharesOk s') →
        SharesOk (handle cfg c.user c.env c.req s).2 := by
    intro Q htriple hQ
    obtain ⟨hok, herror⟩ := triple_apply htriple
    cases hans : (handle cfg c.user c.env c.req s).1 with
    | ok body => exact hQ body _ (hok body hans)
    | error e => exact (herror e hans).symm ▸ hs
  obtain ⟨user, env, req⟩ := c
  cases req with
  | addPublisherToPingTree id publisherId percentage flatAmount =>
    exact hend (triple_asksShare (Or.inl rfl)) fun _ _ h => h.sharesOk hs
  | updatePingTreePublisherRevshare id publisherId percentage flatAmount =>
    exact hend (triple_asksShare (Or.inr rfl)) fun _ _ h => h.sharesOk hs
  | removePublisherFromPingTree id publisherId =>
    exact hend triple_removePublisherFromPingTree fun _ _ h a ha => hs a (h a ha)
  | _ => cases hc

theorem storesAsAsked (hcfg : cfg.ReadsDecimals) (s : Db) (c : DashCall) :
    StoresAsAsked cfg s c := by
  intro id publisherId percentage flatAmount hask hdec
  have htriple : Triple (fun t => t = s) (handle cfg c.user c.env c.req) _ _ :=
    triple_asksShare hask
  obtain ⟨hok, herror⟩ := triple_apply htriple
  unfold Stores at hok
  rw [ofRequest_eq_asked hcfg hdec, Revshare.valid_applyDefaults] at hok
  refine ⟨fun hout => ?_, herror, fun body hbody => (hok body hbody).2⟩
  cases hans : (handle cfg c.user c.env c.req s).1 with
  | error e => exact ⟨e, rfl⟩
  | ok body =>
    have hvalid := (hok body hans).1
    rw [Revshare.valid_eq_false_iff.mpr hout] at hvalid
    cases hvalid

end Runs

/-- Along a run of requests on the publishers of ping trees every row has exactly one kind of share
within its bounds, and each request whose numbers are decimals is refused if it asks for another
share, changes nothing if it is refused, and otherwise stores what it asks for to two decimals. -/
theorem shares_stored (cfg : DashConfig) (hcfg : cfg.ReadsDecimals) (s : Db) (calls : List DashCall)
    (hs : SharesOk s) (hcalls : ∀ c ∈ calls, c.req.editsShares = true) :
    Transition.Along (dashStep cfg) (fun s c => SharesOk s ∧ StoresAsAsked cfg s c) s calls ∧
      ∀ s', Transition.run (dashStep cfg) s calls = some s' → SharesOk s' := by
  have hedits : Transition.Along (dashStep cfg)
    (fun _ c => True ∧ c.req.editsShares = true) s calls :=
    Transition.along_and (Transition.along_true s calls) hcalls
  constructor
  · exact Transition.along_of_inv (fun {t c t'} (ht : SharesOk t) hc h => sharesOk_step ht hc.2 h)
      (fun ht _ => ⟨ht, storesAsAsked hcfg _ _⟩) hs hedits
  · exact fun s' hrun =>
      Transition.inv_of_run (fun hs hc h => sharesOk_step hs hc.2 h) hs hedits hrun

/-- The rows of a run conserve money, for every price that covers the fee. -/
theorem SharesOk.conserves {s : Db} (hs : SharesOk s) {a : PingTreePublisher}
    (ha : a ∈ (s .pingTreePublishers).rows) {v : ℚ} (hv : platformFee ≤ v) :
    0 ≤ publisherPayment (v - platformFee) a.revsharePercentage a.revshareFlatAmount ∧
      publisherPayment (v - platformFee) a.revsharePercentage a.revshareFlatAmount ≤
        v - platformFee :=
  publisherPayment_mem (hs a ha) (sub_nonneg.mpr hv)

end Dashboard

/-! ### Numbers that are stored otherwise -/

namespace Sample

open Dashboard

/-- A ping tree whose publisher gets half of the revenue. -/
def halfShare : Dashboard.Db where
  tables
    | .instances => oneTree .instances
    | .publishers => ⟨[ownPublisher], by decide⟩
    | .pingTrees => oneTree .pingTrees
    | .pingTreePublishers => ⟨[⟨50, 40, 6, "solar", some 50, none, 0, 0⟩], by decide⟩
    | _ => .empty

def shareCall (percentage flatAmount : Option ℚ) : DashCall :=
  dashCall 1 (.updatePingTreePublisherRevshare 40 6 (percentage.map .fin) (flatAmount.map .fin))

/-- The shares after a request that is not refused. -/
def sharesAfter (c : DashCall) : Option (List (Option ℚ × Option ℚ)) :=
  match handle dashConfig c.user c.env c.req halfShare with
  | (.ok _, s') => some ((s' .pingTreePublishers).rows.map fun a =>
      (a.revsharePercentage, a.revshareFlatAmount))
  | _ => none

/-- A third of the revenue is stored to two decimals.  A number out of the range of decimals counts
as absent: a percentage of that kind is not refused, and the default is stored, or the amount that
came with it. -/
theorem shares_otherwise :
    sharesAfter (shareCall (some (33333 / 1000)) none) = some [(some (3333 / 100), none)] ∧
      sharesAfter (shareCall (some (10 ^ 30)) none) = some [(some 80, none)] ∧
      sharesAfter (shareCall (some (10 ^ 30)) (some 5)) = some [(none, some 5)] := by
  decide +kernel

theorem sharesOk_halfShare : SharesOk halfShare := by
  intro a ha
  rw [List.mem_singleton.mp ha]
  decide

/-- Half a percent more is stored as it is. -/
theorem shares_stored_halfShare :
    SharesOk halfShare ∧ sharesAfter (shareCall (some (101 / 2)) none) = some
      [(some (101 / 2), none)] ∧
      ∀ s', Transition.run (dashStep dashConfig) halfShare
        [shareCall (some (101 / 2)) none] = some s' →
        SharesOk s' := by
  refine ⟨sharesOk_halfShare, by decide +kernel, ?_⟩
  exact (shares_stored dashConfig (fun _ hq => if_pos hq) halfShare _ sharesOk_halfShare
    (by decide)).2

end Sample

end LeadsNebula
