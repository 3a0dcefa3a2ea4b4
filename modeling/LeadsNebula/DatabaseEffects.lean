/-
What programs over a database do to it, as a chain of small changes.

`Prog.Chains R m`: from every store the program leads to one that is reached by steps of
`R`, also if it stops early.  What each step of `R` keeps, the program keeps.  The view of
a database shows some columns of each table.

* `Chains.bind`, `Chains.stmt`, `Chains.collect` — the rules for the control flow;
* `Chains.of_triple`, `Chains.triple` — programs that check something before they write;
* `chains_update`, `chains_delete`, `chains_insert` — the statements;
* `view_update`, `view_insert` — what they change of a view.
-/
import LeadsNebula.Triple
import Mathlib.Logic.Relation

namespace Prog

variable {σ ε α β : Type}

def Chains (R : σ → σ → Prop) (m : Prog σ ε α) : Prop := ∀ s, Relation.ReflTransGen R s (m s).2

namespace Chains

variable {R : σ → σ → Prop} {m : Prog σ ε α}

/-- A program that only reads. -/
theorem reads (h : ∀ s, (m s).2 = s) : Chains R m := by
  intro s
  rw [h s]

theorem pure (a : α) : Chains R (Pure.pure a : Prog σ ε α) := fun _ => .refl

theorem stop (e : ε) : Chains R (Prog.stop e : Prog σ ε α) := fun _ => .refl

theorem bind {f : α → Prog σ ε β} (hm : Chains R m) (hf : ∀ a, Chains R (f a)) :
    Chains R (m >>= f) := by
  intro s
  have h := hm s
  rw [run_bind]
  cases hms : m s with
  | mk r s' =>
    rw [hms] at h
    cases r with
    | ok a => exact h.trans (hf a s')
    | error e => exact h

theorem orStop (e : ε) (o : Option α) : Chains R (Prog.orStop e o : Prog σ ε α) := by
  cases o with
  | none => exact stop e
  | some a => exact pure a

theorem whenever (c : Bool) {m : Prog σ ε Unit} (h : Chains R m) :
    Chains R (Prog.whenever c m) := by
  cases c with
  | false => exact pure ()
  | true => exact h

theorem ifSome (o : Option α) {f : α → Prog σ ε Unit} (h : ∀ a, Chains R (f a)) :
    Chains R (Prog.ifSome o f) := by
  cases o with
  | none => exact pure ()
  | some a => exact h a

theorem stmt (ok : Bool) (e : ε) (h : Chains R m) : Chains R (Prog.stmt ok e m) := by
  cases ok with
  | false => exact stop e
  | true => exact h

theorem attempt (ok : Bool) (d : α) (h : Chains R m) : Chains R (Prog.attempt ok d m) := by
  cases ok with
  | false => exact pure d
  | true => exact h

theorem collect {f : α → Prog σ ε β} (h : ∀ a, Chains R (f a)) (l : List α) :
    Chains R (Prog.collect f l) := by
  induction l with
  | nil => exact pure []
  | cons a l ih => exact bind (h a) fun b => bind ih fun bs => pure (b :: bs)

/-- A program whose checks are about the store that it starts from. -/
theorem of_triple (h : ∀ s₀, Triple (fun s => s = s₀) m (fun _ => Relation.ReflTransGen R s₀)
    fun _ => Relation.ReflTransGen R s₀) : Chains R m := by
  intro s
  obtain ⟨hok, herror⟩ := h s s rfl
  cases hms : m s with
  | mk r s' =>
    cases r with
    | ok a => exact hok a s' hms
    | error e => exact herror e s' hms

/-- What follows such checks. -/
theorem triple (h : Chains R m) (s₀ : σ) : Triple (Relation.ReflTransGen R s₀) m
    (fun _ => Relation.ReflTransGen R s₀) fun _ => Relation.ReflTransGen R s₀ := by
  intro s hs
  have hchain := hs.trans (h s)
  refine ⟨fun a s' heq => ?_, fun e s' heq => ?_⟩
  · rwa [heq] at hchain
  · rwa [heq] at hchain

/-- What every step keeps, the program keeps. -/
theorem keeps {I : σ → Prop} (h : Chains R m)
    (hR : ∀ s s', R s s' → I s → I s') {s : σ} (hs : I s) :
    I (m s).2 := by
  have hchain : ∀ s', Relation.ReflTransGen R s s' → I s' := by
    intro s' hs'
    induction hs' with
    | refl => exact hs
    | tail _ hstep ih => exact hR _ _ hstep ih
  exact hchain _ (h s)

theorem triple_keeps {I : σ → Prop} {E : ε → σ → Prop} (h : Chains R m)
    (hR : ∀ s s', R s s' → I s → I s') (hE : ∀ e s, I s → E e s) :
    Triple I m (fun _ => I) E := by
  intro s hs
  have hI := h.keeps hR hs
  refine ⟨fun a s' heq => ?_, fun e s' heq => hE e s' ?_⟩
  · rwa [heq] at hI
  · rwa [heq] at hI

end Chains

end Prog

variable {ι : Type} {ρ κ γ : ι → Type} {key : ∀ t, ρ t → κ t} {ε : Type}

namespace Database

open Prog

section

variable {R : Database key → Database key → Prop} (t : ι) (p : ρ t → Bool)

theorem chains_rows : Chains R (rows t p : Prog (Database key) ε _) := .reads fun _ => rfl

theorem chains_first : Chains R (first t p : Prog (Database key) ε _) := .reads fun _ => rfl

theorem chains_present : Chains R (present t p : Prog (Database key) ε _) := .reads fun _ => rfl

end

/-- The two agree on the other tables. -/
def Only (t : ι) (s s' : Database key) : Prop := ∀ t', t' ≠ t → s' t' = s t'

variable [DecidableEq ι] {R : Database key → Database key → Prop} {t : ι} {p : ρ t → Bool} {r : ρ t}

theorem chains_update {f : ρ t → ρ t} {hf : ∀ r, key t (f r) = key t r}
    (h : ∀ s s', (s' t).rows = (s t).rows.map (fun r => if p r then f r else r) → Only t s s' →
      R s s') : Chains R (update t p f hf : Prog (Database key) ε _) := by
  refine Chains.of_triple fun s₀ => Triple.update fun s s' hs hrows hothers => ?_
  subst hs
  exact .single (h s s' hrows hothers)

theorem chains_delete
    (h : ∀ s s', (s' t).rows = (s t).rows.filter (fun r => !p r) → Only t s s' → R s s') :
    Chains R (delete t p : Prog (Database key) ε _) := by
  refine Chains.of_triple fun s₀ => Triple.delete fun s s' hs hrows hothers => ?_
  subst hs
  exact .single (h s s' hrows hothers)

/-- A row whose key is taken is not inserted. -/
theorem chains_insert [∀ t, DecidableEq (κ t)]
    (h : ∀ s s', (s' t).rows = (s t).rows ++ [r] → Only t s s' → R s s') :
    Chains R (insert t r : Prog (Database key) ε _) := by
  refine Chains.of_triple fun s₀ => Triple.insert (fun s hs => hs ▸ .refl) ?_
  intro s s' hs _ hrows hothers
  subst hs
  exact .single (h s s' hrows hothers)

/-! ### Views -/

variable (cols : ∀ t, ρ t → γ t)

/-- The columns of the rows, table by table. -/
def view (db : Database key) (t : ι) : List (γ t) := (db t).rows.map (cols t)

variable {cols} {db db' : Database key}

theorem view_eq_update {l : List (γ t)} (hrows : (db' t).rows.map (cols t) = l)
    (hothers : Only t db db') : db'.view cols = Function.update (db.view cols) t l := by
  funext t'
  by_cases ht : t' = t
  · subst ht
    rw [Function.update_self]
    exact hrows
  · rw [Function.update_of_ne ht, view, hothers t' ht]
    rfl

theorem view_update {f : ρ t → ρ t} (hcols : ∀ r, cols t (f r) = cols t r)
    (hrows : (db' t).rows = (db t).rows.map fun r => if p r then f r else r)
    (hothers : Only t db db') : db'.view cols = db.view cols := by
  rw [view_eq_update (l := db.view cols t) ?_ hothers, Function.update_eq_self]
  rw [hrows, List.map_map]
  refine List.map_congr_left fun r _ => ?_
  show cols t (if p r then f r else r) = cols t r
  split
  · exact hcols r
  · rfl

theorem view_insert (hrows : (db' t).rows = (db t).rows ++ [r]) (hothers : Only t db db') :
    db'.view cols = Function.update (db.view cols) t (db.view cols t ++ [cols t r]) :=
  view_eq_update (by rw [hrows, List.map_append]; rfl) hothers

end Database
