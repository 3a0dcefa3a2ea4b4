/-
What becomes of a lead that one request writes.

`Lead.sale` is the part of a row that says what became of the lead, without the
times, and `LeadStatement.onSale` is what a statement does to it.  As the
statements for a lead with one writer run in the order of its line, the row that
they end in is known from the start: it is the row of now with the line folded
over it (`Sys.outcome`).

* `outcome_step` — no step changes the outcome of a lead;
* `find_of_line_nil` — once the line has run, the row is the outcome.
-/
import LeadsNebula.SingleWriter

namespace LeadsNebula

/-- What became of a lead. -/
structure Sale where
  status : LeadStatus
  /-- `sold_at` is set. -/
  sold : Bool
  postId : Option String
  campaignId : Option Uuid
  buyerId : Option Uuid
  verticalData : Json

def Lead.sale (r : Lead) : Sale :=
  ⟨r.status, r.soldAt.isSome, r.postId, r.campaignId, r.buyerId, r.verticalData⟩

namespace LeadStatement

/-- The `SET` part of a statement. -/
def setSale : LeadStatement → Sale → Sale
  | insertLead _, v => v
  | updateSold u, v =>
    { status := u.status
      sold := true
      -- never `NULL`: a missing post id is bound as the empty text
      postId := some (u.postId.getD "")
      campaignId := u.campaignId.or v.campaignId
      buyerId := u.buyerId.or v.buyerId
      verticalData := u.verticalData.getD v.verticalData }
  | resetToken _ _, v => { v with postId := some "" }
  | updateStandard u, v =>
    { status := u.status
      sold := v.sold
      postId := some (u.postId.getD "")
      campaignId := u.campaignId.or v.campaignId
      buyerId := u.buyerId.or v.buyerId
      verticalData := match u.verticalData with
        | some vd => v.verticalData.concat vd
        | none => v.verticalData }
  | setStatus _ status vd, v => { v with status := status, verticalData := vd }
  | setPost _ postId, v => { v with status := .sold, postId := some postId }
  | setFullpostWinner _ campaignId buyerId _ postId, v =>
    { v with
      status := .sold, postId := some (postId.getD ""), campaignId := some campaignId
      buyerId := some buyerId }
  | claim _ _ token, v => { v with postId := some token }

/-- What a statement does to a row of its lead: one that is conditional on a token only changes
a row that holds the token. -/
def applySale (st : LeadStatement) (v : Sale) : Sale :=
  if st.token.all fun token => v.postId == some token then st.setSale v else v

/-- What a statement does to what is known of its lead; an insertion makes the row. -/
def onSale : LeadStatement → Option Sale → Option Sale
  | insertLead c, none => some (c.row 0).sale
  | st, v => v.map st.applySale

variable {st : LeadStatement} {now : Timestamp} {t : Leads} {l : Uuid} {r : Lead}

theorem sale_setRow : (st.setRow now r).sale = st.setSale r.sale := by
  cases st <;> rfl

/-- An update matches the row of its lead, if the row holds the token it is conditional on. -/
theorem matchesRow_own (hl : st.leadId = r.uuid) (hup : st.IsUpdate)
    (hclaim : st.isClaim = false) :
    st.matchesRow now r = st.token.all fun token => r.postId == some token := by
  cases st with
  | insertLead c => exact hup.elim
  | updateSold u =>
    simp only [leadId] at hl
    cases htoken : u.inprogToken <;> simp [matchesRow, token, hl, htoken]
  | claim l promiseId token => cases hclaim
  | _ =>
    simp only [leadId] at hl
    simp [matchesRow, token, hl]

theorem sale_applyRow (hl : st.leadId = r.uuid) (hclaim : st.isClaim = false) :
    (st.applyRow now r).sale = st.applySale r.sale := by
  by_cases hup : st.IsUpdate
  · rw [applyRow, matchesRow_own hl hup hclaim, applySale, ← sale_setRow]
    show _ = if st.token.all (fun token => r.postId == some token) then _ else _
    split <;> rfl
  · cases st with
    | insertLead c =>
      rw [applyRow]
      split <;> rfl
    | _ => exact absurd trivial hup

/-- A statement for another lead does not change what became of this one. -/
theorem sale_exec_of_ne (hl : st.leadId ≠ l) :
    ((st.exec now t).find l).map Lead.sale = (t.find l).map Lead.sale := by
  by_cases hup : st.IsUpdate
  · rw [find_exec_of_not_targets (not_or.mpr ⟨not_not.mpr hup, hl⟩)]
  · cases st with
    | insertLead c =>
      rcases find_exec now (insertLead c) t l with h | ⟨c', hc, h⟩
      · rw [h, Option.map_map]
        congr 1
        funext r
        show ((insertLead c).applyRow now r).sale = r.sale
        rw [applyRow]
        split <;> rfl
      · rw [h, ← insertLead.inj hc]
        rw [leadId] at hl
        rw [if_neg hl, Option.or_none]
    | _ => exact absurd trivial hup

/-- A statement changes what became of its lead as `onSale` says, if an insertion finds no row
with its `lead_id`. -/
theorem sale_exec (hl : st.leadId = l) (hclaim : st.isClaim = false)
    (hins : ¬ st.IsUpdate → st.affects now t = false) :
    ((st.exec now t).find l).map Lead.sale = st.onSale ((t.find l).map Lead.sale) := by
  -- only an insertion makes something of nothing
  have hmap : (∃ r, t.find l = some r) ∨ st.IsUpdate →
      st.onSale ((t.find l).map Lead.sale) =
        ((t.find l).map Lead.sale).map st.applySale := by
    intro h
    cases st with
    | insertLead c =>
      rcases h with ⟨r, hr⟩ | hup
      · rw [hr]
        rfl
      · exact hup.elim
    | _ => rfl
  have happly : ((t.find l).map (st.applyRow now)).map Lead.sale =
      ((t.find l).map Lead.sale).map st.applySale := by
    cases hr : t.find l with
    | none => rfl
    | some r =>
      simp only [Option.map_some]
      rw [sale_applyRow (hl.trans (Table.find_key hr).symm) hclaim]
  by_cases hup : st.IsUpdate
  · rw [find_exec_of_isUpdate hup, happly, hmap (Or.inr hup)]
  · cases st with
    | insertLead c =>
      have hno : ¬ t.rows.any ((insertLead c).matchesRow now) = true :=
        Bool.not_eq_true _ ▸ hins hup
      have hfind : ((insertLead c).exec now t).find l =
          (t.find l).or (if c.uuid = l then some (c.row now) else none) := by
        rw [exec, if_neg hno]
        exact Table.find_insert t (c.row now) l
      rw [leadId] at hl
      rw [hfind, if_pos hl]
      cases hr : t.find l with
      | none => rfl
      | some r => rfl
    | _ => exact absurd trivial hup

end LeadStatement

/-! ### The outcome of a lead -/

/-- What will have become of lead `l` once its line has run. -/
def Sys.outcome (s : Sys) (i : ℕ) (l : Uuid) : Option Sale :=
  (s.line i l).foldl (fun v st => st.onSale v) ((s.leads.find l).map Lead.sale)

theorem find_of_line_nil {s : Sys} {i : ℕ} {l : Uuid} (h : s.line i l = []) :
    (s.leads.find l).map Lead.sale = s.outcome i l := by
  rw [Sys.outcome, h]
  rfl

variable [StdText] {s s' : Sys} {a : Action} {i : ℕ} {l : Uuid}

/-- A line that `sale_exec` can follow: no claim, and insertions only at its head. -/
def Sys.Steady (s : Sys) (i : ℕ) (l : Uuid) : Prop :=
  (∀ st ∈ (s.line i l).tail, st.IsUpdate) ∧ ∀ st ∈ s.line i l, st.isClaim = false

/-- If the action inserts lead `l`, no row has its `lead_id`. -/
def Sys.Inserts (s : Sys) (l : Uuid) (a : Action) : Prop :=
  ∀ st ∈ s.executed a, st.leadId = l → ¬ st.IsUpdate → st.affects s.now s.leads = false

instance (s : Sys) (l : Uuid) (a : Action) : Decidable (s.Inserts l a) :=
  inferInstanceAs (Decidable (∀ st ∈ s.executed a, st.leadId = l → ¬ st.IsUpdate →
    st.affects s.now s.leads = false))

theorem steady_step (h : Step s a s') (halone : s.Alone i l) (hun : Sys.Untouched l s a)
    (hturn : s.InTurn i l a) (hok : a.succeeds = true) (hst : s.Steady i l) : s'.Steady i l := by
  rcases line_step h halone hun hturn hok hst.1 with ⟨hline, -⟩ | ⟨st, -, -, hline⟩
  · rw [Sys.Steady, hline]
    exact hst
  · rw [Sys.Steady, hline] at hst
    exact ⟨fun st' hst' => hst.1 st' (List.mem_of_mem_tail hst'),
      fun st' hst' => hst.2 st' (List.mem_cons_of_mem _ hst')⟩

/-- No step changes the outcome of a lead with one writer. -/
theorem outcome_step (h : Step s a s') (halone : s.Alone i l) (hun : Sys.Untouched l s a)
    (hturn : s.InTurn i l a) (hok : a.succeeds = true) (hins : s.Inserts l a)
    (hst : s.Steady i l) : s'.outcome i l = s.outcome i l := by
  have hleads := step_exec h
  rcases line_step h halone hun hturn hok hst.1 with ⟨hline, hother⟩ | ⟨st, hex, hl, hline⟩
  · -- the line waits: the action runs nothing, or a statement for another lead
    have hrow : (s'.leads.find l).map Lead.sale = (s.leads.find l).map Lead.sale := by
      rcases hleads with ⟨-, hleads, -⟩ | ⟨st, hex, hleads, -⟩
      · rw [hleads]
      · rw [hleads]
        exact LeadStatement.sale_exec_of_ne (hother st hex)
    rw [Sys.outcome, Sys.outcome, hline, hrow]
  · -- the first statement of the line runs
    have hclaim : st.isClaim = false := hst.2 st (hline ▸ List.mem_cons_self)
    rcases hleads with ⟨hnone, -⟩ | ⟨st', hex', hleads, -⟩
    · rw [hex] at hnone
      cases hnone
    · rw [hex, Option.some_inj] at hex'
      subst hex'
      rw [Sys.outcome, Sys.outcome, hline, hleads, List.foldl_cons,
        LeadStatement.sale_exec hl hclaim (hins st hex hl)]

/-- Request `i` is the one writer of lead `l`, whose line runs in order and ends in `v`. -/
structure OutcomeInv (i : ℕ) (l : Uuid) (v : Option Sale) (s : Sys) : Prop where
  alone : s.Alone i l
  steady : s.Steady i l
  outcome : s.outcome i l = v

theorem outcomeInv_step {v : Option Sale} (hinv : OutcomeInv i l v s) (h : Step s a s')
    (hun : Undisturbed l s a) (hturn : s.InTurn i l a) (hins : s.Inserts l a) :
    OutcomeInv i l v s' where
  alone := alone_step h hinv.alone hun.1
  steady := steady_step h hinv.alone hun.1 hturn hun.2 hinv.steady
  outcome := (outcome_step h hinv.alone hun.1 hturn hun.2 hins hinv.steady).trans hinv.outcome

end LeadsNebula
