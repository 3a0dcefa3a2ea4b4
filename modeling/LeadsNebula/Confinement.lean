/-
Programs over a database, and the programs that keep to one part of it.

A `Database` is a family of tables.  A `Prog` runs on a store; it may stop early
with an answer, and then keeps what it has written.

A `DbPart` of a database is given by the rows that are foreign to it.  A program is
confined to a part if it leaves the foreign rows alone and runs as it would on a
database without them.

* `Confined.bind`, `Confined.rows`, `Confined.update`, `Confined.insert`,
  `Confined.delete` — the rules: a statement is confined if its condition selects
  no foreign row;
* `Confined.answers` — a list of confined programs, run one after the other, gives
  the answers that it gives on the part alone, and the foreign rows are as before.
-/
import LeadsNebula.Table
import Mathlib.Logic.Function.Basic

/-- A program over a store. -/
def Prog (σ ε α : Type) : Type := σ → Except ε α × σ

namespace Prog

variable {σ ε α β : Type}

instance : Monad (Prog σ ε) where
  pure a := fun s => (.ok a, s)
  bind m f := fun s =>
    match m s with
    | (.ok a, s') => f a s'
    | (.error e, s') => (.error e, s')

theorem run_bind (m : Prog σ ε α) (f : α → Prog σ ε β) (s : σ) :
    (m >>= f) s =
      match m s with
      | (.ok a, s') => f a s'
      | (.error e, s') => (.error e, s') := rfl

theorem bind_of_ok {m : Prog σ ε α} {f : α → Prog σ ε β} {s s' : σ} {a : α}
    (h : m s = (.ok a, s')) : (m >>= f) s = f a s' := by
  rw [run_bind, h]

theorem bind_of_error {m : Prog σ ε α} {f : α → Prog σ ε β} {s s' : σ} {e : ε}
    (h : m s = (.error e, s')) : (m >>= f) s = (.error e, s') := by
  rw [run_bind, h]

/-- Stops with an answer. -/
def stop (e : ε) : Prog σ ε α := fun s => (.error e, s)

def orStop (e : ε) : Option α → Prog σ ε α
  | some a => pure a
  | none => stop e

def whenever (c : Bool) (m : Prog σ ε Unit) : Prog σ ε Unit := if c then m else pure ()

def ifSome (o : Option α) (f : α → Prog σ ε Unit) : Prog σ ε Unit :=
  match o with
  | some a => f a
  | none => pure ()

/-- A check that may stop the program. -/
theorem whenever_stop_bind (c : Bool) (e : ε) (f : Unit → Prog σ ε β) (s : σ) :
    (whenever c (stop e) >>= f) s = if c then (.error e, s) else f () s := by
  cases c with
  | false => rfl
  | true => rfl

/-- A statement that may fail; the program then stops with `e`. -/
def stmt (ok : Bool) (e : ε) (m : Prog σ ε α) : Prog σ ε α := if ok then m else stop e

/-- A statement that may fail; its value is then `d`. -/
def attempt (ok : Bool) (d : α) (m : Prog σ ε α) : Prog σ ε α := if ok then m else pure d

theorem stmt_of_ok {ok : Bool} (h : ok = true) (e : ε) (m : Prog σ ε α) (s : σ) :
    stmt ok e m s = m s := by
  rw [h]
  rfl

theorem stmt_of_fail {ok : Bool} (h : ok = false) (e : ε) (m : Prog σ ε α) (s : σ) :
    stmt ok e m s = (.error e, s) := by
  rw [h]
  rfl

theorem attempt_of_ok {ok : Bool} (h : ok = true) (d : α) (m : Prog σ ε α) (s : σ) :
    attempt ok d m s = m s := by
  rw [h]
  rfl

theorem attempt_of_fail {ok : Bool} (h : ok = false) (d : α) (m : Prog σ ε α) (s : σ) :
    attempt ok d m s = (.ok d, s) := by
  rw [h]
  rfl

/-- A program that gives a fixed value at its end. -/
theorem then_pure_eq_ok {m : Prog σ ε Unit} {a b : α} {s : σ} :
    ((m >>= fun _ => pure a) s).1 = .ok b ↔ (m s).1 = .ok () ∧ a = b := by
  rw [run_bind]
  cases hm : m s with
  | mk r s' =>
    cases r with
    | error e =>
      constructor
      · intro h
        cases h
      · rintro ⟨h, -⟩
        cases h
    | ok u =>
      constructor
      · intro h
        exact ⟨rfl, Except.ok.inj h⟩
      · rintro ⟨-, rfl⟩
        rfl

theorem then_pure_cases (m : Prog σ ε Unit) (a : α) (s : σ) :
    ((m >>= fun _ => pure a) s).1 = .ok a ∨
      (m s).1 ≠ .ok () ∧ ∃ e, ((m >>= fun _ => pure a) s).1 = .error e := by
  rw [run_bind]
  cases m s with
  | mk r s' =>
    cases r with
    | error e => exact Or.inr ⟨fun h => (by cases h), e, rfl⟩
    | ok u => exact Or.inl rfl

theorem then_pure_state {m : Prog σ ε Unit} {a : α} {s : σ} :
    ((m >>= fun _ => pure a) s).2 = (m s).2 := by
  rw [run_bind]
  cases m s with
  | mk r s' =>
    cases r with
    | error e => rfl
    | ok u => rfl

/-- A statement that changes nothing, whether or not it is made. -/
theorem whenever_eq {m : Prog σ ε Unit} {s : σ} (h : m s = (.ok (), s)) (c : Bool) :
    whenever c m s = (.ok (), s) := by
  cases c with
  | false => rfl
  | true => exact h

theorem attempt_eq {m : Prog σ ε Unit} {s : σ} (h : m s = (.ok (), s)) (ok : Bool) :
    attempt ok () m s = (.ok (), s) := by
  cases ok with
  | false => rfl
  | true => exact h

/-- The values of a program for the elements of a list, in order. -/
def collect (f : α → Prog σ ε β) : List α → Prog σ ε (List β)
  | [] => pure []
  | a :: l => do
    let b ← f a
    let bs ← collect f l
    pure (b :: bs)

/-- The answers of the programs of a list, run one after the other. -/
def answers : List (Prog σ ε α) → σ → List (Except ε α) × σ
  | [], s => ([], s)
  | m :: ms, s =>
    let (a, s') := m s
    let (as, s'') := answers ms s'
    (a :: as, s'')

end Prog

variable {ι : Type} {ρ κ : ι → Type} {key : ∀ t, ρ t → κ t}

/-- A family of tables. -/
structure Database (key : ∀ t, ρ t → κ t) where
  tables : ∀ t, Table (key t)

namespace Database

instance : CoeFun (Database key) fun _ => ∀ t, Table (key t) := ⟨Database.tables⟩

/-- The rows that meet `g`, in every table. -/
def restrict (db : Database key) (g : ∀ t, ρ t → Bool) : Database key :=
  ⟨fun t => (db t).filter (g t)⟩

variable [DecidableEq ι]

def set (db : Database key) (t : ι) (tab : Table (key t)) : Database key :=
  ⟨Function.update db.tables t tab⟩

theorem restrict_set (db : Database key) (t : ι) (tab : Table (key t)) (g : ∀ t, ρ t → Bool) :
    (db.set t tab).restrict g = (db.restrict g).set t (tab.filter (g t)) :=
  congrArg mk <| funext fun t' =>
    Function.apply_update (fun t (tab : Table (key t)) => tab.filter (g t)) db.tables t tab t'

@[simp] theorem set_same (db : Database key) (t : ι) (tab : Table (key t)) :
    db.set t tab t = tab := by
  simp only [set, Function.update_self]

theorem set_of_ne (db : Database key) {t t' : ι} (tab : Table (key t)) (h : t' ≠ t) :
    db.set t tab t' = db t' := by
  simp only [set, Function.update_of_ne h]

theorem set_eq_self (db : Database key) (t : ι) : db.set t (db t) = db :=
  congrArg mk (Function.update_eq_self t db.tables)

/-! ### Statements -/

variable {ε α : Type}

/-- `SELECT … WHERE p`. -/
def rows (t : ι) (p : ρ t → Bool) : Prog (Database key) ε (List (ρ t)) :=
  fun db => (.ok ((db t).rows.filter p), db)

/-- `SELECT … WHERE p LIMIT 1`. -/
def first (t : ι) (p : ρ t → Bool) : Prog (Database key) ε (Option (ρ t)) := do
  let l ← rows t p
  pure l.head?

/-- `SELECT EXISTS(… WHERE p)`. -/
def present (t : ι) (p : ρ t → Bool) : Prog (Database key) ε Bool := do
  let l ← rows t p
  pure !l.isEmpty

omit [DecidableEq ι] in
theorem present_eq (t : ι) (p : ρ t → Bool) (db : Database key) :
    (present t p : Prog (Database key) ε Bool) db = (.ok ((db t).rows.any p), db) := by
  refine Prod.ext (congrArg Except.ok ?_) rfl
  show (!((db t).rows.filter p).isEmpty) = (db t).rows.any p
  rw [Bool.eq_iff_iff]
  simp [List.any_eq_true]

/-- `UPDATE … SET f WHERE p`. -/
def update (t : ι) (p : ρ t → Bool) (f : ρ t → ρ t) (hf : ∀ r, key t (f r) = key t r) :
    Prog (Database key) ε Unit :=
  fun db => (.ok (), db.set t ((db t).update p f hf))

theorem update_eq {t : ι} {p : ρ t → Bool} {f : ρ t → ρ t} (hf : ∀ r, key t (f r) = key t r)
    {db : Database key} (h : ∀ r ∈ (db t).rows, p r = false) :
    (update t p f hf : Prog (Database key) ε Unit) db = (.ok (), db) := by
  refine Prod.ext rfl ?_
  exact (congrArg (db.set t) (Table.update_eq_self hf h)).trans (set_eq_self db t)

/-- `DELETE … WHERE p`. -/
def delete (t : ι) (p : ρ t → Bool) : Prog (Database key) ε Unit :=
  fun db => (.ok (), db.set t ((db t).filter fun r => !p r))

/-- `INSERT`: whether the key was free. -/
def insert [∀ t, DecidableEq (κ t)] (t : ι) (r : ρ t) : Prog (Database key) ε Bool :=
  fun db => (.ok (key t r ∉ (db t).rows.map (key t)), db.set t ((db t).insert r))

section

variable [∀ t, DecidableEq (κ t)] {t : ι} {r : ρ t} {db : Database key}

theorem insert_of_mem (h : key t r ∈ (db t).rows.map (key t)) :
    (insert t r : Prog (Database key) ε Bool) db = (.ok false, db) := by
  refine Prod.ext ?_ ?_
  · simp [insert, h]
  · show db.set t ((db t).insert r) = db
    rw [Table.insert, dif_pos h]
    exact set_eq_self db t

theorem insert_of_not_mem (h : key t r ∉ (db t).rows.map (key t)) :
    ∃ db', (insert t r : Prog (Database key) ε Bool) db = (.ok true, db') ∧
      (db' t).rows = (db t).rows ++ [r] ∧ ∀ t', t' ≠ t → db' t' = db t' := by
  refine ⟨db.set t ((db t).insert r), Prod.ext ?_ rfl, ?_, fun t' ht => set_of_ne db _ ht⟩
  · simp [insert, h]
  · rw [set_same, Table.insert, dif_neg h]

end

end Database

/-- A part of a database: the rows that are foreign to it, what they are, and what is known of
the rows of the part. -/
structure DbPart (key : ∀ t, ρ t → κ t) where
  foreign : ∀ t, ρ t → Bool
  others : Database key
  ok : ∀ t, ρ t → Prop

namespace DbPart

open Prog Database

variable (P : DbPart key)

/-- The database without the foreign rows. -/
def own (db : Database key) : Database key := db.restrict fun t r => !P.foreign t r

/-- The databases with the foreign rows that `P` says. -/
structure Within (db : Database key) : Prop where
  foreign_eq : db.restrict P.foreign = P.others
  ok : ∀ t, ∀ r ∈ (db t).rows, P.foreign t r = false → P.ok t r

/-- No foreign row meets `p`. -/
def Outside (t : ι) (p : ρ t → Bool) : Prop := ∀ r ∈ (P.others t).rows, p r = false

/-- A row of the part. -/
structure Mine (t : ι) (r : ρ t) : Prop where
  foreign : P.foreign t r = false
  ok : P.ok t r

/-- A row of the part that the database has: no foreign row has its key. -/
structure Owned (t : ι) (r : ρ t) : Prop extends P.Mine t r where
  key_ne : ∀ r' ∈ (P.others t).rows, key t r' ≠ key t r

/-- The program leaves the foreign rows alone and runs as it does without them; its value meets
`Q`. -/
def Confined {ε α : Type} (m : Prog (Database key) ε α) (Q : α → Prop) : Prop :=
  ∀ db, P.Within db →
    m (P.own db) = ((m db).1, P.own (m db).2) ∧ P.Within (m db).2 ∧ ∀ a, (m db).1 = .ok a → Q a

variable {P}

theorem Within.mem_others {db : Database key} (h : P.Within db) {t : ι} {r : ρ t}
    (hr : r ∈ (db t).rows) (hf : P.foreign t r = true) : r ∈ (P.others t).rows := by
  rw [← h.foreign_eq]
  exact List.mem_filter.mpr ⟨hr, hf⟩

theorem Within.mem_of_others {db : Database key} (h : P.Within db) {t : ι} {r : ρ t}
    (hr : r ∈ (P.others t).rows) : r ∈ (db t).rows ∧ P.foreign t r = true := by
  rw [← h.foreign_eq] at hr
  exact List.mem_filter.mp hr

/-- A row that meets a condition that no foreign row meets. -/
theorem Within.foreign_eq_false {db : Database key} (h : P.Within db) {t : ι} {p : ρ t → Bool}
    (hp : P.Outside t p) {r : ρ t} (hr : r ∈ (db t).rows) (hpr : p r = true) :
    P.foreign t r = false := by
  by_contra hf
  rw [hp r (h.mem_others hr (Bool.not_eq_false _ ▸ hf))] at hpr
  cases hpr

theorem Within.owned {db : Database key} (h : P.Within db) {t : ι} {r : ρ t}
    (hr : r ∈ (db t).rows) (hf : P.foreign t r = false) : P.Owned t r where
  foreign := hf
  ok := h.ok t r hr hf
  key_ne := by
    intro r' hr' hkey
    obtain ⟨hmem, hf'⟩ := h.mem_of_others hr'
    rw [List.inj_on_of_nodup_map (db t).nodup hmem hr hkey, hf] at hf'
    cases hf'

/-- Writing a table whose foreign rows stay. -/
theorem Within.set [DecidableEq ι] {db : Database key} (hdb : P.Within db)
    {t : ι} {tab : Table (key t)}
    (hforeign : tab.filter (P.foreign t) = (db t).filter (P.foreign t))
    (hok : ∀ r ∈ tab.rows, P.foreign t r = false → P.ok t r) : P.Within (db.set t tab) where
  foreign_eq := by
    rw [restrict_set, hforeign, ← hdb.foreign_eq]
    exact set_eq_self _ t
  ok := by
    intro t' r hr hf
    by_cases ht : t' = t
    · subst ht
      rw [set_same] at hr
      exact hok r hr hf
    · rw [set_of_ne db tab ht] at hr
      exact hdb.ok t' r hr hf

namespace Confined

variable {ε α β : Type} {Q : α → Prop} {R : β → Prop}

/-! ### Rules for the control flow -/

theorem pure {a : α} (h : Q a) : P.Confined (Pure.pure a : Prog (Database key) ε α) Q := by
  intro db hdb
  refine ⟨rfl, hdb, fun a' ha => ?_⟩
  cases ha
  exact h

theorem stop {e : ε} : P.Confined (Prog.stop e : Prog (Database key) ε α) Q :=
  fun _ hdb => ⟨rfl, hdb, fun _ ha => (by cases ha)⟩

theorem bind {m : Prog (Database key) ε α} {f : α → Prog (Database key) ε β} (hm : P.Confined m Q)
    (hf : ∀ a, Q a → P.Confined (f a) R) : P.Confined (m >>= f) R := by
  intro db hdb
  obtain ⟨hown, hwithin, hQ⟩ := hm db hdb
  -- the first program, on the part and on the whole
  simp only [run_bind, hown]
  cases hms : m db with
  | mk a db' =>
    rw [hms] at hwithin hQ
    cases a with
    | ok a => exact hf a (hQ a rfl) db' hwithin
    | error e => exact ⟨rfl, hwithin, fun _ ha => (by cases ha)⟩

theorem mono {Q' : α → Prop} {m : Prog (Database key) ε α} (h : P.Confined m Q)
    (hQ : ∀ a, Q a → Q' a) : P.Confined m Q' :=
  fun db hdb => ⟨(h db hdb).1, (h db hdb).2.1, fun a ha => hQ a ((h db hdb).2.2 a ha)⟩

theorem orStop {e : ε} {o : Option α} (h : ∀ a ∈ o, Q a) :
    P.Confined (Prog.orStop e o : Prog (Database key) ε α) Q := by
  cases o with
  | none => exact stop
  | some a => exact pure (h a rfl)

theorem whenever {c : Bool} {m : Prog (Database key) ε Unit}
    (h : c = true → P.Confined m fun _ => True) :
    P.Confined (Prog.whenever c m) fun _ => True := by
  cases c with
  | false => exact pure trivial
  | true => exact h rfl

theorem ifSome {o : Option α} {f : α → Prog (Database key) ε Unit}
    (h : ∀ a ∈ o, P.Confined (f a) fun _ => True) :
    P.Confined (Prog.ifSome o f) fun _ => True := by
  cases o with
  | none => exact pure trivial
  | some a => exact h a rfl

theorem stmt {ok : Bool} {e : ε} {m : Prog (Database key) ε α} (h : P.Confined m Q) :
    P.Confined (Prog.stmt ok e m) Q := by
  cases ok with
  | false => exact stop
  | true => exact h

theorem attempt {ok : Bool} {d : α} {m : Prog (Database key) ε α} (h : P.Confined m Q) (hd : Q d) :
    P.Confined (Prog.attempt ok d m) Q := by
  cases ok with
  | false => exact pure hd
  | true => exact h

theorem collect {f : α → Prog (Database key) ε β} {l : List α}
    (h : ∀ a ∈ l, P.Confined (f a) R) :
    P.Confined (Prog.collect f l) fun bs => ∀ b ∈ bs, R b := by
  induction l with
  | nil => exact pure (fun _ hb => by cases hb)
  | cons a l ih =>
    refine bind (h a List.mem_cons_self) fun b hb => ?_
    refine bind (ih fun a ha => h a (List.mem_cons_of_mem _ ha)) fun bs hbs => pure ?_
    intro b' hb'
    rcases List.mem_cons.mp hb' with rfl | hb'
    · exact hb
    · exact hbs b' hb'

/-! ### Rules for the statements -/

theorem rows {t : ι} {p : ρ t → Bool} (h : P.Outside t p) :
    P.Confined (Database.rows t p : Prog (Database key) ε _)
      fun l => ∀ r ∈ l, P.Owned t r ∧ p r = true := by
  intro db hdb
  refine ⟨?_, hdb, ?_⟩
  · have hrows : (P.own db t).rows.filter p = (db t).rows.filter p := by
      refine Table.rows_filter_filter fun r hr hf => ?_
      rw [Bool.not_eq_false'] at hf
      exact h r (hdb.mem_others hr hf)
    exact Prod.ext (congrArg Except.ok hrows) rfl
  · intro l hl r hr
    cases hl
    obtain ⟨hr, hp⟩ := List.mem_filter.mp hr
    exact ⟨hdb.owned hr (hdb.foreign_eq_false h hr hp), hp⟩

/-- Reading more rows than the rest of the program looks at. -/
theorem rows_bind {t : ι} {p : ρ t → Bool} {f : List (ρ t) → Prog (Database key) ε β}
    (q : ρ t → Bool) (hf : ∀ l, f (l.filter q) = f l) (h : P.Outside t fun r => q r && p r)
    (hR : ∀ l, P.Confined (f l) R) : P.Confined (Database.rows t p >>= f) R := by
  have heq : Database.rows t p >>= f = Database.rows t (fun r => q r && p r) >>= f := by
    funext db
    simp only [run_bind, Database.rows]
    rw [← List.filter_filter, hf]
  rw [heq]
  exact bind (rows h) fun l _ => hR l

theorem first {t : ι} {p : ρ t → Bool} (h : P.Outside t p) :
    P.Confined (Database.first t p : Prog (Database key) ε _)
      fun o => ∀ r ∈ o, P.Owned t r ∧ p r = true :=
  bind (rows h) fun _ hl => pure fun r hr => hl r (List.mem_of_mem_head? hr)

theorem present {t : ι} {p : ρ t → Bool} (h : P.Outside t p) :
    P.Confined (Database.present t p : Prog (Database key) ε _) fun _ => True :=
  bind (rows h) fun _ _ => pure trivial

variable [DecidableEq ι]

theorem update {t : ι} {p : ρ t → Bool} {f : ρ t → ρ t} {hf : ∀ r, key t (f r) = key t r}
    (h : P.Outside t p) (hmine : ∀ r, P.Mine t r → p r = true → P.Mine t (f r)) :
    P.Confined (Database.update t p f hf : Prog (Database key) ε _) fun _ => True := by
  intro db hdb
  have hf' : ∀ r ∈ (db t).rows, p r = true → P.foreign t r = false ∧ P.Mine t (f r) := by
    intro r hr hp
    have hfr := hdb.foreign_eq_false h hr hp
    exact ⟨hfr, hmine r ⟨hfr, hdb.ok t r hr hfr⟩ hp⟩
  refine ⟨Prod.ext rfl ?_, hdb.set ?_ ?_, fun _ _ => trivial⟩
  · refine Eq.trans ?_ (restrict_set db t _ _).symm
    refine congrArg ((P.own db).set t) (Table.filter_update hf fun r hr hp => ?_).symm
    exact congrArg not ((hf' r hr hp).2.foreign.trans (hf' r hr hp).1.symm)
  · refine (Table.filter_update hf fun r hr hp => ?_).trans (Table.update_eq_self hf ?_)
    · rw [(hf' r hr hp).1, (hf' r hr hp).2.foreign]
    · intro r hr
      obtain ⟨hr, hfr⟩ := List.mem_filter.mp hr
      exact h r (hdb.mem_others hr hfr)
  · intro r hr hfr
    rcases Table.mem_update hf hr with ⟨hr, -⟩ | ⟨r₀, hr₀, hp, rfl⟩
    · exact hdb.ok t r hr hfr
    · exact (hf' r₀ hr₀ hp).2.ok

theorem delete {t : ι} {p : ρ t → Bool} (h : P.Outside t p) :
    P.Confined (Database.delete t p : Prog (Database key) ε _) fun _ => True := by
  intro db hdb
  refine ⟨Prod.ext rfl ?_, hdb.set ?_ ?_, fun _ _ => trivial⟩
  · refine Eq.trans ?_ (restrict_set db t _ _).symm
    refine congrArg ((P.own db).set t) (Table.ext ?_)
    exact List.filter_comm _ _ _
  · refine Table.ext ((List.filter_comm _ _ _).trans (List.filter_eq_self.mpr ?_))
    intro r hr
    obtain ⟨hr, hfr⟩ := List.mem_filter.mp hr
    rw [h r (hdb.mem_others hr hfr)]
    rfl
  · intro r hr hfr
    exact hdb.ok t r (List.mem_filter.mp hr).1 hfr

theorem insert [∀ t, DecidableEq (κ t)] {t : ι} {r : ρ t} (hr : P.Owned t r) :
    P.Confined (Database.insert t r : Prog (Database key) ε _) fun _ => True := by
  intro db hdb
  have hother : ∀ r' ∈ (db t).rows, P.foreign t r' = true → key t r' ≠ key t r :=
    fun r' hr' hf' => hr.key_ne r' (hdb.mem_others hr' hf')
  -- a foreign row has another key, so the conflict is the same in the restricted database
  have hkeys : key t r ∈ (P.own db t).rows.map (key t) ↔ key t r ∈ (db t).rows.map (key t) := by
    simp only [List.mem_map]
    constructor
    · rintro ⟨r', hr', hkey⟩
      exact ⟨r', (List.mem_filter.mp hr').1, hkey⟩
    · rintro ⟨r', hr', hkey⟩
      refine ⟨r', List.mem_filter.mpr ⟨hr', ?_⟩, hkey⟩
      cases hf' : P.foreign t r' with
      | false => exact congrArg not hf'
      | true => exact absurd hkey (hother r' hr' hf')
  refine ⟨Prod.ext ?_ ?_, hdb.set (Table.filter_insert_of_not hr.foreign) ?_, fun _ _ => trivial⟩
  · simp only [Database.insert, hkeys]
  · refine Eq.trans ?_ (restrict_set db t _ _).symm
    refine congrArg ((P.own db).set t) (Table.filter_insert ?_ ?_).symm
    · exact congrArg not hr.foreign
    · intro r' hr' hf'
      exact hother r' hr' (by simpa using hf')
  · intro r' hr' hfr'
    -- the foreign rows are those from before
    rcases Table.mem_insert hr' with hr' | rfl
    · exact hdb.ok t r' hr' hfr'
    · exact hr.ok

/-! ### Runs -/

omit [DecidableEq ι] in
/-- Confined programs, one after the other. -/
theorem answers {ms : List (Prog (Database key) ε α)} (h : ∀ m ∈ ms, P.Confined m fun _ => True)
    {db : Database key} (hdb : P.Within db) :
    Prog.answers ms (P.own db) = ((Prog.answers ms db).1, P.own (Prog.answers ms db).2) ∧
      P.Within (Prog.answers ms db).2 := by
  induction ms generalizing db with
  | nil => exact ⟨rfl, hdb⟩
  | cons m ms ih =>
    obtain ⟨hown, hwithin, -⟩ := h m List.mem_cons_self db hdb
    obtain ⟨hown', hwithin'⟩ := ih (fun m hm => h m (List.mem_cons_of_mem _ hm)) hwithin
    refine ⟨?_, hwithin'⟩
    simp only [Prog.answers, hown, hown']

end Confined

end DbPart
