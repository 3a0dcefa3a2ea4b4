/-
Pre- and postconditions of programs over a database.

`Triple P m Q E`: run from a store that meets `P`, the program gives a value and a
store that meet `Q`, or it stops with an answer and a store that meet `E`.

* `Triple.bind`, `Triple.orStop`, `Triple.whenever`, `Triple.ifSome`, `Triple.stmt`,
  `Triple.attempt` — the rules for the control flow;
* `Triple.rows`, `Triple.first`, `Triple.present`, `Triple.update`, `Triple.delete`,
  `Triple.insert` — what the statements read and write;
* `Triple.update_other`, `Triple.insert_other` — a statement on a table that the
  condition does not look at.
-/
import LeadsNebula.Confinement

namespace Prog

variable {σ ε α β : Type}

def Triple (P : σ → Prop) (m : Prog σ ε α) (Q : α → σ → Prop) (E : ε → σ → Prop) : Prop :=
  ∀ s, P s → (∀ a s', m s = (.ok a, s') → Q a s') ∧ ∀ e s', m s = (.error e, s') → E e s'

namespace Triple

variable {P P' : σ → Prop} {m : Prog σ ε α} {Q Q' : α → σ → Prop} {R : β → σ → Prop}
  {E : ε → σ → Prop}

theorem pure {a : α} (h : ∀ s, P s → Q a s) : Triple P (Pure.pure a : Prog σ ε α) Q E := by
  intro s hs
  constructor
  · rintro a' s' heq
    cases heq
    exact h s hs
  · rintro e s' heq
    cases heq

theorem stop {e : ε} (h : ∀ s, P s → E e s) : Triple P (Prog.stop e : Prog σ ε α) Q E := by
  intro s hs
  constructor
  · rintro a s' heq
    cases heq
  · rintro e' s' heq
    cases heq
    exact h s hs

theorem bind {f : α → Prog σ ε β} (hm : Triple P m Q E) (hf : ∀ a, Triple (Q a) (f a) R E) :
    Triple P (m >>= f) R E := by
  intro s hs
  obtain ⟨hok, herror⟩ := hm s hs
  rw [run_bind]
  cases hms : m s with
  | mk r s' =>
    cases r with
    | ok a => exact hf a s' (hok a s' hms)
    | error e =>
      constructor
      · rintro b s'' heq
        cases heq
      · rintro e' s'' heq
        cases heq
        exact herror e s' hms

theorem any : Triple P m (fun _ _ => True) fun _ _ => True :=
  fun _ _ => ⟨fun _ _ _ => trivial, fun _ _ _ => trivial⟩

theorem pre (h : Triple P m Q E) (hP : ∀ s, P' s → P s) : Triple P' m Q E :=
  fun s hs => h s (hP s hs)

theorem post (h : Triple P m Q E) (hQ : ∀ a s, Q a s → Q' a s) : Triple P m Q' E :=
  fun s hs => ⟨fun a s' heq => hQ a s' ((h s hs).1 a s' heq), (h s hs).2⟩

theorem orStop {e : ε} {o : Option α} (hsome : ∀ a ∈ o, ∀ s, P s → Q a s)
    (hnone : o = none → ∀ s, P s → E e s) : Triple P (Prog.orStop e o : Prog σ ε α) Q E := by
  cases o with
  | none => exact stop (hnone rfl)
  | some a => exact pure (hsome a rfl)

theorem whenever {c : Bool} {m : Prog σ ε Unit} {R : σ → Prop}
    (htrue : c = true → Triple P m (fun _ => R) E) (hfalse : c = false → ∀ s, P s → R s) :
    Triple P (Prog.whenever c m) (fun _ => R) E := by
  cases c with
  | false => exact pure (hfalse rfl)
  | true => exact htrue rfl

/-- A check that may stop the program. -/
theorem stopWhen {c : Bool} {e : ε} (h : c = true → ∀ s, P s → E e s) :
    Triple P (Prog.whenever c (Prog.stop e)) (fun _ s => P s ∧ c = false) E :=
  whenever (fun hc => stop (h hc)) fun hc _ hs => ⟨hs, hc⟩

theorem ifSome {γ : Type} {o : Option γ} {f : γ → Prog σ ε Unit} {R : σ → Prop}
    (hsome : ∀ a ∈ o, Triple P (f a) (fun _ => R) E) (hnone : o = none → ∀ s, P s → R s) :
    Triple P (Prog.ifSome o f) (fun _ => R) E := by
  cases o with
  | none => exact pure (hnone rfl)
  | some a => exact hsome a rfl

theorem stmt {ok : Bool} {e : ε} (h : Triple P m Q E) (hfail : ok = false → ∀ s, P s → E e s) :
    Triple P (Prog.stmt ok e m) Q E := by
  cases ok with
  | false => exact stop (hfail rfl)
  | true => exact h

theorem attempt {ok : Bool} {d : α} (h : Triple P m Q E) (hfail : ok = false → ∀ s, P s → Q d s) :
    Triple P (Prog.attempt ok d m) Q E := by
  cases ok with
  | false => exact pure (hfail rfl)
  | true => exact h

end Triple

end Prog

namespace Prog.Triple

variable {ι : Type} {ρ κ : ι → Type} {key : ∀ t, ρ t → κ t} {ε α : Type}
  {P : Database key → Prop} {E : ε → Database key → Prop} {t : ι} {p : ρ t → Bool}

theorem rows : Triple P (Database.rows t p : Prog (Database key) ε _)
    (fun l s => P s ∧ l = (s t).rows.filter p) E := by
  intro s hs
  constructor
  · rintro l s' heq
    cases heq
    exact ⟨hs, rfl⟩
  · rintro e s' heq
    cases heq

theorem first : Triple P (Database.first t p : Prog (Database key) ε _)
    (fun o s => P s ∧ o = ((s t).rows.filter p).head?) E :=
  bind rows fun _ => pure fun _ hs => ⟨hs.1, congrArg List.head? hs.2⟩

theorem present : Triple P (Database.present t p : Prog (Database key) ε _)
    (fun b s => P s ∧ b = (s t).rows.any p) E := by
  intro s hs
  rw [Database.present_eq]
  constructor
  · rintro b s' heq
    cases heq
    exact ⟨hs, rfl⟩
  · rintro e s' heq
    cases heq

variable [DecidableEq ι]

theorem update {f : ρ t → ρ t} {hf : ∀ r, key t (f r) = key t r} {R : Database key → Prop}
    (h : ∀ s s', P s → (s' t).rows = (s t).rows.map (fun r => if p r then f r else r) →
      (∀ t', t' ≠ t → s' t' = s t') → R s') :
    Triple P (Database.update t p f hf : Prog (Database key) ε _) (fun _ => R) E := by
  intro s hs
  constructor
  · rintro u s' heq
    cases heq
    refine h s _ hs ?_ fun t' ht => Database.set_of_ne s _ ht
    rw [Database.set_same]
    rfl
  · rintro e s' heq
    cases heq

theorem delete {R : Database key → Prop}
    (h : ∀ s s', P s → (s' t).rows = (s t).rows.filter (fun r => !p r) →
      (∀ t', t' ≠ t → s' t' = s t') → R s') :
    Triple P (Database.delete t p : Prog (Database key) ε _) (fun _ => R) E := by
  intro s hs
  constructor
  · rintro u s' heq
    cases heq
    refine h s _ hs ?_ fun t' ht => Database.set_of_ne s _ ht
    rw [Database.set_same]
    rfl
  · rintro e s' heq
    cases heq

theorem insert [∀ t, DecidableEq (κ t)] {r : ρ t} {R : Bool → Database key → Prop}
    (htaken : ∀ s, P s → R false s)
    (hfree : ∀ s s', P s → key t r ∉ (s t).rows.map (key t) → (s' t).rows = (s t).rows ++ [r] →
      (∀ t', t' ≠ t → s' t' = s t') → R true s') :
    Triple P (Database.insert t r : Prog (Database key) ε _) R E := by
  intro s hs
  by_cases hmem : key t r ∈ (s t).rows.map (key t)
  · -- the conflict leaves the database as it is
    rw [Database.insert_of_mem hmem]
    constructor
    · rintro b s' heq
      cases heq
      exact htaken s hs
    · rintro e s' heq
      cases heq
  · obtain ⟨s₁, hinsert, hrows, hothers⟩ :
        ∃ s₁, (Database.insert t r : Prog (Database key) ε Bool) s = (.ok true, s₁) ∧
          (s₁ t).rows = (s t).rows ++ [r] ∧ ∀ t', t' ≠ t → s₁ t' = s t' :=
      Database.insert_of_not_mem hmem
    rw [hinsert]
    constructor
    · rintro b s' heq
      cases heq
      exact hfree s s₁ hs hmem hrows hothers
    · rintro e s' heq
      cases heq

/-! ### Tables that the condition does not look at -/

theorem update_other {f : ρ t → ρ t} {hf : ∀ r, key t (f r) = key t r}
    (hP : ∀ s s', (∀ t', t' ≠ t → s' t' = s t') → P s → P s') :
    Triple P (Database.update t p f hf : Prog (Database key) ε _) (fun _ => P) E :=
  update fun s s' hs _ hothers => hP s s' hothers hs

theorem insert_other [∀ t, DecidableEq (κ t)] {r : ρ t}
    (hP : ∀ s s', (∀ t', t' ≠ t → s' t' = s t') → P s → P s') :
    Triple P (Database.insert t r : Prog (Database key) ε _) (fun _ => P) E :=
  insert (fun _ hs => hs) fun s s' hs _ _ hothers => hP s s' hothers hs

end Prog.Triple
