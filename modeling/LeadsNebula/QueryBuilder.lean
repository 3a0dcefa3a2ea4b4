/-
UPDATE statements put together piece by piece.

A query builder collects a text with placeholders and the values bound to them.  What
the text says is found by reading it: characters to tokens, tokens to a statement.

* `Reads.bound` — a placeholder is read as the value that was bound to it;
* `parseUpdate_tokens` — a statement is read back from its tokens;
* `Reads.assign` — one more assignment, with its comma.
-/
import LeadsNebula.AssocList
import Mathlib.Data.List.Nodup

/-- A query text with placeholders, and the values bound to them. -/
structure QueryBuilder (V : Type*) where
  text : String
  arguments : List V

namespace QueryBuilder

variable {V : Type*}

def new (text : String) : QueryBuilder V := ⟨text, []⟩

def push (q : QueryBuilder V) (text : String) : QueryBuilder V := { q with text := q.text ++ text }

/-- Binds a value: the text gets the next placeholder, `$1` for the first. -/
def pushBind (q : QueryBuilder V) (v : V) : QueryBuilder V where
  text := q.text ++ ("$" ++ toString (q.arguments.length + 1))
  arguments := q.arguments ++ [v]

/-! ### Tokens -/

inductive Token (V : Type*) where
  | word (w : String)
  | sym (c : Char)
  | value (v : V)

/-- What is being read. -/
inductive Pending where
  | blank
  | word (cs : List Char)
  | dollar
  | param (n : ℕ)

def isStart (c : Char) : Bool := c.isAlpha || c = '_'

def isRest (c : Char) : Bool := isStart c || c.isDigit

/-- The character belongs to what is being read. -/
def Pending.extend : Pending → Char → Option Pending
  | .word cs, c => if isRest c then some (.word (cs ++ [c])) else none
  | .dollar, c => if c.isDigit then some (.param (Nat.ofDigitChars 10 [c] 0)) else none
  | .param n, c => if c.isDigit then some (.param (Nat.ofDigitChars 10 [c] n)) else none
  | .blank, _ => none

/-- The character cannot follow: a placeholder ends before a letter only with a blank between. -/
def Pending.junk : Pending → Char → Bool
  | .param _, c => isStart c
  | .word _, c => c = '$'
  | _, _ => false

variable (args : List V)

/-- What has been read, at its end. -/
def Pending.finish : Pending → Option (List (Token V))
  | .blank => some []
  | .word cs => some [.word (String.ofList cs)]
  | .param (n + 1) => (args[n]?).map fun v => [.value v]
  | _ => none

/-- A character at which something new begins. -/
def begin (c : Char) : Option (List (Token V) × Pending) :=
  if c = ' ' then some ([], .blank)
  else if isStart c then some ([], .word [c])
  else if c = '$' then some ([], .dollar)
  else if c ∈ [',', '=', '(', ')'] then some ([.sym c], .blank)
  else none

def step (p : Pending) (c : Char) : Option (List (Token V) × Pending) :=
  match p.extend c with
  | some p' => some ([], p')
  | none =>
    if p.junk c then none
    else (p.finish args).bind fun ts => (begin c).map fun r => (ts ++ r.1, r.2)

/-- Reads the characters; the tokens that are complete, and what is being read at the end. -/
def run : Pending → List Char → Option (List (Token V) × Pending)
  | p, [] => some ([], p)
  | p, c :: cs => (step args p c).bind fun r => (run r.2 cs).map fun r' => (r.1 ++ r'.1, r'.2)

def lex (text : String) : Option (List (Token V)) :=
  (run args .blank text.toList).bind fun r => (r.2.finish args).map (r.1 ++ ·)

variable {args}

theorem run_append {p p' : Pending} {cs : List Char} {ts : List (Token V)}
    (h : run args p cs = some (ts, p')) (ds : List Char) :
    run args p (cs ++ ds) = (run args p' ds).map fun r => (ts ++ r.1, r.2) := by
  induction cs generalizing p ts with
  | nil =>
    obtain ⟨rfl, rfl⟩ := Prod.mk.inj (Option.some.inj h)
    simp
  | cons c cs ih =>
    rw [run] at h
    obtain ⟨⟨us, p₁⟩, hstep, hrest⟩ := Option.bind_eq_some_iff.mp h
    obtain ⟨⟨us', p₂⟩, hrun, heq⟩ := Option.map_eq_some_iff.mp hrest
    obtain ⟨rfl, rfl⟩ := Prod.mk.inj heq
    rw [List.cons_append, run, hstep, Option.bind_some, ih hrun, Option.map_map]
    simp [Function.comp_def, List.append_assoc]

theorem run_append_none {p : Pending} {cs : List Char} (h : run args p cs = none) (ds : List Char) :
    run args p (cs ++ ds) = none := by
  induction cs generalizing p with
  | nil => cases h
  | cons c cs ih =>
    rw [run] at h
    rw [List.cons_append, run]
    cases hstep : step args p c with
    | none => rfl
    | some r =>
      rw [hstep, Option.bind_some, Option.map_eq_none_iff] at h
      rw [Option.bind_some, ih h, Option.map_none]

/-- A word is read to its end. -/
theorem run_word (ds : List Char) {cs : List Char} (h : ∀ c ∈ cs, isRest c) :
    run args (.word ds) cs = some ([], .word (ds ++ cs)) := by
  induction cs generalizing ds with
  | nil => simp [run]
  | cons c cs ih =>
    have hstep : step args (.word ds) c = some ([], .word (ds ++ [c])) := by
      simp [step, Pending.extend, h c List.mem_cons_self]
    rw [run, hstep, Option.bind_some, ih _ fun c hc => h c (List.mem_cons_of_mem _ hc)]
    simp

/-- The digits of a number are read to their end. -/
theorem run_digits (n : ℕ) {cs : List Char} (h : ∀ c ∈ cs, c.isDigit) :
    run args (.param n) cs = some ([], .param (Nat.ofDigitChars 10 cs n)) := by
  induction cs generalizing n with
  | nil => simp [run]
  | cons c cs ih =>
    have hstep : step args (.param n) c = some ([], .param (Nat.ofDigitChars 10 [c] n)) := by
      simp [step, Pending.extend, h c List.mem_cons_self]
    rw [run, hstep, Option.bind_some, ih _ fun c hc => h c (List.mem_cons_of_mem _ hc)]
    simp [Nat.ofDigitChars_cons]

theorem run_placeholder (n : ℕ) :
    run args .blank ("$" ++ toString n).toList = some ([], .param n) := by
  have hdigits : ∀ c ∈ Nat.toDigits 10 n, c.isDigit := by
    intro c hc
    exact Nat.isDigit_of_mem_toDigits (by decide) (by decide) hc
  have hdollar : run args .blank "$".toList = some ([], .dollar) := rfl
  rw [String.toList_append, run_append hdollar,
    Nat.toString_eq_ofList_toDigits, String.toList_ofList]
  obtain ⟨c, cs, hcs⟩ := List.exists_cons_of_ne_nil (Nat.toDigits_ne_nil (n := n) (b := 10))
  rw [hcs] at hdigits
  have hstep : step args .dollar c = some ([], .param (Nat.ofDigitChars 10 [c] 0)) := by
    simp [step, Pending.extend, hdigits c List.mem_cons_self]
  rw [hcs, run, hstep, Option.bind_some, run_digits _ fun c hc =>
    hdigits c (List.mem_cons_of_mem _ hc),
    ← Nat.ofDigitChars_append, List.singleton_append, ← hcs, Nat.ofDigitChars_ten_toDigits]
  rfl

/-! ### Statements -/

/-- What a column is set to. -/
inductive Expr (V : Type*) where
  | value (v : V)
  | null
  | now

inductive Condition (V : Type*) where
  | eq (col : String) (v : V)
  | isNull (col : String)

/-- `UPDATE table SET … WHERE …`, each column being set once. -/
structure Update (V : Type*) where
  table : String
  assignments : List (String × Expr V)
  conditions : List (Condition V)
  nodup : (assignments.map Prod.fst).Nodup

def keywords : List String := ["UPDATE", "SET", "WHERE", "AND", "IS", "NULL"]

/-- The name of a table or of a column. -/
def Name (w : String) : Prop :=
  w ∉ keywords ∧ w.toList ≠ [] ∧ (∀ c ∈ w.toList.head?, isStart c) ∧ ∀ c ∈ w.toList, isRest c

instance (w : String) : Decidable (Name w) :=
  -- by the entries of the list, not by all the characters there are
  haveI : Decidable (∀ c ∈ w.toList.head?, isStart c) :=
    Option.decidableForallMem _
  haveI : Decidable (∀ c ∈ w.toList, isRest c) := List.decidableBAll _ _
  inferInstanceAs (Decidable (w ∉ keywords ∧ w.toList ≠ [] ∧
    (∀ c ∈ w.toList.head?, isStart c) ∧ ∀ c ∈ w.toList, isRest c))

def Expr.tokens : Expr V → List (Token V)
  | .value v => [.value v]
  | .null => [.word "NULL"]
  | .now => [.word "NOW", .sym '(', .sym ')']

def assignmentTokens (a : String × Expr V) : List (Token V) := .word a.1 :: .sym '=' :: a.2.tokens

def Condition.tokens : Condition V → List (Token V)
  | .eq col v => [.word col, .sym '=', .value v]
  | .isNull col => [.word col, .word "IS", .word "NULL"]

def Condition.column : Condition V → String
  | .eq col _ => col
  | .isNull col => col

def parseAssignment : List (Token V) → Option (String × Expr V)
  | [.word col, .sym '=', .value v] => if col ∈ keywords then none else some (col, .value v)
  | [.word col, .sym '=', .word "NULL"] => if col ∈ keywords then none else some (col, .null)
  | [.word col, .sym '=', .word "NOW", .sym '(', .sym ')'] =>
    if col ∈ keywords then none else some (col, .now)
  | _ => none

def parseCondition : List (Token V) → Option (Condition V)
  | [.word col, .sym '=', .value v] => if col ∈ keywords then none else some (.eq col v)
  | [.word col, .word "IS", .word "NULL"] => if col ∈ keywords then none else some (.isNull col)
  | _ => none

def Token.isWord (w : String) : Token V → Bool
  | .word w' => w' = w
  | _ => false

def Token.isSym (c : Char) : Token V → Bool
  | .sym c' => c' = c
  | _ => false

def parseUpdate : List (Token V) → Option (Update V)
  | .word "UPDATE" :: .word table :: .word "SET" :: rest =>
    match rest.splitOnP (Token.isWord "WHERE") with
    | [sets, conditions] => do
      let assignments ← (sets.splitOnP (Token.isSym ',')).mapM parseAssignment
      let conditions ← (conditions.splitOnP (Token.isWord "AND")).mapM parseCondition
      if h : table ∉ keywords ∧ (assignments.map Prod.fst).Nodup then
        some ⟨table, assignments, conditions, h.2⟩
      else none
    | _ => none
  | _ => none

/-- The statement that the text and the bound values make, if they make one. -/
def statement (q : QueryBuilder V) : Option (Update V) := (lex q.arguments q.text).bind parseUpdate

def Update.tokens (u : Update V) : List (Token V) :=
  .word "UPDATE" :: .word u.table :: .word "SET" ::
    ([Token.sym ','].intercalate (u.assignments.map assignmentTokens) ++
      .word "WHERE" :: [Token.word "AND"].intercalate (u.conditions.map Condition.tokens))

theorem splitOnP_intercalate {α : Type*} {p : α → Bool} {x : α} (hx : p x = true)
    {ls : List (List α)} (hne : ls ≠ []) (h : ∀ l ∈ ls, ∀ y ∈ l, p y = false) :
    ([x].intercalate ls).splitOnP p = ls := by
  induction ls with
  | nil => exact absurd rfl hne
  | cons l ls ih =>
    have hl := h l List.mem_cons_self
    cases ls with
    | nil => simpa using List.splitOnP_eq_singleton hl
    | cons l' ls =>
      rw [List.intercalate_cons_cons, List.append_assoc, List.singleton_append,
        List.splitOnP_append_cons_of_forall_mem hl x hx,
        ih (by simp) fun l hl => h l (List.mem_cons_of_mem _ hl)]

theorem parseAssignment_tokens {a : String × Expr V} (h : a.1 ∉ keywords) :
    parseAssignment (assignmentTokens a) = some a := by
  obtain ⟨col, e⟩ := a
  cases e <;> simp [assignmentTokens, Expr.tokens, parseAssignment, h]

theorem parseCondition_tokens {c : Condition V} (h : c.column ∉ keywords) :
    parseCondition c.tokens = some c := by
  cases c with
  | eq col v => simp [Condition.tokens, parseCondition, show col ∉ keywords from h]
  | isNull col => simp [Condition.tokens, parseCondition, show col ∉ keywords from h]

/-- The statement has something to set and a condition, and no name in it is a keyword. -/
structure Update.Plain (u : Update V) : Prop where
  table : u.table ∉ keywords
  assigns : u.assignments ≠ []
  column : ∀ a ∈ u.assignments, a.1 ∉ keywords
  restricts : u.conditions ≠ []
  condition : ∀ c ∈ u.conditions, c.column ∉ keywords

theorem isSym_assignmentTokens (a : String × Expr V) :
    ∀ t ∈ assignmentTokens a, t.isSym ',' = false := by
  obtain ⟨col, e⟩ := a
  cases e <;> simp [assignmentTokens, Expr.tokens, Token.isSym]

theorem isWord_assignmentTokens {a : String × Expr V} (h : a.1 ∉ keywords) :
    ∀ t ∈ assignmentTokens a, t.isWord "WHERE" = false := by
  obtain ⟨col, e⟩ := a
  have hcol : col ≠ "WHERE" := by
    intro heq
    subst heq
    exact h (show "WHERE" ∈ keywords by decide)
  cases e <;> simp [assignmentTokens, Expr.tokens, Token.isWord, hcol]

theorem isWord_conditionTokens {w : String} (hw : w ∈ keywords) (his : w ≠ "IS")
    (hnull : w ≠ "NULL")
    {c : Condition V} (h : c.column ∉ keywords) : ∀ t ∈ c.tokens, t.isWord w = false := by
  have hcol : c.column ≠ w := by
    intro heq
    exact h (heq ▸ hw)
  cases c with
  | eq col v => simp [Condition.tokens, Token.isWord, show col ≠ w from hcol]
  | isNull col =>
    simp [Condition.tokens, Token.isWord, show col ≠ w from hcol, his.symm, hnull.symm]

/-- What stands in none of the parts does not stand between them. -/
theorem forall_mem_intercalate {α : Type*} {p : α → Bool} {x : α} (hx : p x = false)
    {ls : List (List α)} (h : ∀ l ∈ ls, ∀ y ∈ l, p y = false) :
    ∀ y ∈ [x].intercalate ls, p y = false := by
  induction ls with
  | nil => intro y hy; cases hy
  | cons l ls ih =>
    have hrest := ih fun l hl => h l (List.mem_cons_of_mem _ hl)
    intro y hy
    cases ls with
    | nil => exact h l List.mem_cons_self y (by simpa using hy)
    | cons l' ls =>
      rw [List.intercalate_cons_cons] at hy
      rcases List.mem_append.mp hy with hy | hy
      · rcases List.mem_append.mp hy with hy | hy
        · exact h l List.mem_cons_self y hy
        · rw [List.mem_singleton.mp hy]
          exact hx
      · exact hrest y hy

theorem mapM_map_of_forall {α β : Type*} {f : α → β} {g : β → Option α} {l : List α}
    (h : ∀ a ∈ l, g (f a) = some a) : (l.map f).mapM g = some l := by
  induction l with
  | nil => rfl
  | cons a l ih =>
    rw [List.map_cons, List.mapM_cons, h a List.mem_cons_self,
      ih fun a ha => h a (List.mem_cons_of_mem _ ha)]
    rfl

theorem parseUpdate_tokens {u : Update V} (h : u.Plain) : parseUpdate u.tokens = some u := by
  -- no token of a part is one that parts are cut at
  have hsets : ∀ t ∈ [Token.sym ','].intercalate (u.assignments.map assignmentTokens),
      t.isWord "WHERE" = false := by
    refine forall_mem_intercalate rfl fun l hl => ?_
    obtain ⟨a, ha, rfl⟩ := List.mem_map.mp hl
    exact isWord_assignmentTokens (h.column a ha)
  have hconditions : ∀ t ∈ [Token.word "AND"].intercalate (u.conditions.map Condition.tokens),
      t.isWord "WHERE" = false := by
    refine forall_mem_intercalate rfl fun l hl => ?_
    obtain ⟨c, hc, rfl⟩ := List.mem_map.mp hl
    exact isWord_conditionTokens (by decide) (by decide) (by decide) (h.condition c hc)
  have hcommas : ([Token.sym ','].intercalate (u.assignments.map assignmentTokens)).splitOnP
      (Token.isSym ',') = u.assignments.map assignmentTokens := by
    refine splitOnP_intercalate rfl (by simpa using h.assigns) fun l hl => ?_
    obtain ⟨a, -, rfl⟩ := List.mem_map.mp hl
    exact isSym_assignmentTokens a
  have hands : ([Token.word "AND"].intercalate (u.conditions.map Condition.tokens)).splitOnP
      (Token.isWord "AND") = u.conditions.map Condition.tokens := by
    refine splitOnP_intercalate rfl (by simpa using h.restricts) fun l hl => ?_
    obtain ⟨c, hc, rfl⟩ := List.mem_map.mp hl
    exact isWord_conditionTokens (by decide) (by decide) (by decide) (h.condition c hc)
  -- the three parts of the statement, cut where they were joined
  simp only [Update.tokens, parseUpdate]
  rw [List.splitOnP_append_cons_of_forall_mem hsets _ rfl, List.splitOnP_eq_singleton hconditions]
  simp only [hcommas, hands, mapM_map_of_forall fun a ha => parseAssignment_tokens (h.column a ha),
    mapM_map_of_forall fun c hc => parseCondition_tokens (h.condition c hc)]
  simp only [Option.bind_eq_bind, Option.bind_some]
  rw [dif_pos ⟨h.table, u.nodup⟩]

/-! ### Reading what has been pushed -/

/-- The text is read to these tokens, whatever is bound after it. -/
def Reads (q : QueryBuilder V) (ts : List (Token V)) (p : Pending) : Prop :=
  ∀ args, q.arguments <+: args → run args .blank q.text.toList = some (ts, p)

variable {q : QueryBuilder V} {ts us : List (Token V)} {p : Pending}

theorem Reads.push (h : Reads q ts .blank) {text : String}
    (htext : ∀ args : List V, run args .blank text.toList = some (us, p)) :
    Reads (q.push text) (ts ++ us) p := by
  intro args hargs
  rw [QueryBuilder.push, String.toList_append, run_append (h args hargs), htext args]
  rfl

theorem Reads.pushBind (h : Reads q ts .blank) (v : V) :
    Reads (q.pushBind v) ts (.param (q.arguments.length + 1)) := by
  intro args hargs
  have hread := h args ((List.prefix_append _ _).trans hargs)
  rw [QueryBuilder.pushBind, String.toList_append, run_append hread, run_placeholder]
  simp

theorem getElem?_append_singleton {α : Type*} {l args : List α} {v : α} (h : l ++ [v] <+: args) :
    args[l.length]? = some v := by
  obtain ⟨rest, rfl⟩ := h
  simp

theorem step_param {args : List V} {n : ℕ} {v : V} (hv : args[n]? = some v) {c : Char}
    (hstart : isStart c = false) (hdigit : c.isDigit = false) :
    step args (.param (n + 1)) c = (begin c).map fun r => (.value v :: r.1, r.2) := by
  simp [step, Pending.extend, Pending.junk, Pending.finish, hstart, hdigit, hv]

/-- A placeholder is read as the value that was bound to it. -/
theorem Reads.bound (h : Reads q ts .blank) (v : V) (text : String)
    (hc : text.toList.head?.any fun c => !isRest c)
    (htext : ∀ args : List V, run args .blank text.toList = some (us, p)) :
    Reads ((q.pushBind v).push text) (ts ++ .value v :: us) p := by
  intro args hargs
  obtain ⟨c, hhead, hrest⟩ := (Option.any_eq_true _ _).mp hc
  obtain ⟨cs, hc⟩ : ∃ cs, text.toList = c :: cs := List.head?_eq_some_iff.mp hhead
  obtain ⟨hstart, hdigit⟩ : isStart c = false ∧ c.isDigit = false := by
    simpa [isRest] using hrest
  have hread := h.pushBind v args hargs
  have hstep := step_param (getElem?_append_singleton hargs) hstart hdigit
  have hblank : step args .blank c = begin c := by
    simp [step, Pending.extend, Pending.junk, Pending.finish]
  have hrest := htext args
  rw [hc, run, hblank] at hrest
  rw [QueryBuilder.push, String.toList_append, run_append hread, hc, run, hstep]
  obtain ⟨r, hbegin, hrun⟩ := Option.bind_eq_some_iff.mp hrest
  obtain ⟨r', hr', heq⟩ := Option.map_eq_some_iff.mp hrun
  obtain ⟨rfl, rfl⟩ := Prod.mk.inj heq
  simp [hbegin, hr']

/-- A name before a blank. -/
theorem run_name (args : List V) {col : String} (hcol : Name col) (text : String)
    (hc : text.toList.head? = some ' ') (htext : run args .blank text.toList = some (us, p)) :
    run args .blank (col ++ text).toList = some (.word col :: us, p) := by
  obtain ⟨cs, hc⟩ : ∃ cs, text.toList = ' ' :: cs := List.head?_eq_some_iff.mp hc
  obtain ⟨-, hne, hhead, hrest⟩ := hcol
  obtain ⟨c, ds, hds⟩ := List.exists_cons_of_ne_nil hne
  rw [hds] at hhead hrest
  have hstart : isStart c = true := hhead c rfl
  -- the first letter starts a word, the others extend it
  have hspace : c ≠ ' ' := by
    intro heq
    rw [heq] at hstart
    cases hstart
  have hfirst : step args .blank c = some ([], .word [c]) := by
    simp [step, Pending.extend, Pending.junk, Pending.finish, begin, hspace, hstart]
  have hword : run args .blank col.toList = some ([], .word col.toList) := by
    rw [hds, run, hfirst, Option.bind_some, run_word _ fun c hc =>
      hrest c (List.mem_cons_of_mem _ hc)]
    rfl
  -- the blank after it ends the word
  have hstep : step args (.word col.toList) ' ' = some ([.word col], .blank) := by
    simp [step, Pending.extend, Pending.junk, Pending.finish, begin, isRest, isStart,
      show ' '.isAlpha = false by decide, show ' '.isDigit = false by decide]
  have hblank : step args .blank ' ' = some ([], .blank) := rfl
  rw [hc, run, hblank] at htext
  rw [String.toList_append, run_append hword, hc, run, hstep]
  obtain ⟨r, hr, heq⟩ := Option.map_eq_some_iff.mp htext
  obtain ⟨rfl, rfl⟩ := Prod.mk.inj heq
  simp [hr]

theorem Reads.lex (h : Reads q ts p) (hp : p.finish q.arguments = some us) :
    lex q.arguments q.text = some (ts ++ us) := by
  rw [QueryBuilder.lex, h q.arguments (List.prefix_refl _), Option.bind_some, hp, Option.map_some]

/-- Nothing that is pushed any more gives a text that can be read. -/
def Broken (q : QueryBuilder V) : Prop := ∀ args, q.arguments <+: args →
    run args .blank q.text.toList = none

theorem Broken.push (h : Broken q) (text : String) : Broken (q.push text) := by
  intro args hargs
  rw [QueryBuilder.push, String.toList_append]
  exact run_append_none (h args hargs) _

theorem Broken.pushBind (h : Broken q) (v : V) : Broken (q.pushBind v) := by
  intro args hargs
  rw [QueryBuilder.pushBind, String.toList_append]
  exact run_append_none (h args ((List.prefix_append _ _).trans hargs)) _

theorem Broken.statement (h : Broken q) : q.statement = none := by
  rw [QueryBuilder.statement, QueryBuilder.lex, h q.arguments (List.prefix_refl _)]
  rfl

/-- A letter right after a placeholder. -/
theorem Reads.broken (h : Reads q ts .blank) (v : V) (text : String)
    (hc : text.toList.head?.any fun c => isStart c && !c.isDigit) :
    Broken ((q.pushBind v).push text) := by
  intro args hargs
  obtain ⟨c, hhead, hletter⟩ := (Option.any_eq_true _ _).mp hc
  obtain ⟨cs, hc⟩ : ∃ cs, text.toList = c :: cs := List.head?_eq_some_iff.mp hhead
  obtain ⟨hstart, hdigit⟩ : isStart c = true ∧ c.isDigit = false := by simpa using hletter
  have hstep : step args (.param (q.arguments.length + 1)) c = none := by
    simp [step, Pending.extend, Pending.junk, hstart, hdigit]
  rw [QueryBuilder.push, String.toList_append, run_append (h.pushBind v args hargs), hc, run, hstep]
  rfl

/-! ### Field after field -/

/-- A builder, and whether anything is set. -/
structure Fields (V : Type*) where
  query : QueryBuilder V
  hasUpdates : Bool

namespace Fields

/-- `none` where a column is set to `NULL`. -/
def push (b : Fields V) (col : String) : Option V → Fields V
  | some v => ⟨((b.query.push (col ++ " = ")).pushBind v).push ", ", true⟩
  | none => ⟨b.query.push (col ++ " = NULL, "), true⟩

/-- A field that is set if it is given. -/
def field (b : Fields V) (f : String × Option (Option V)) : Fields V :=
  match f.2 with
  | some v => b.push f.1 v
  | none => b

end Fields

def exprOf : Option V → Expr V
  | some v => .value v
  | none => .null

/-- The fields that are given. -/
def given (fs : List (String × Option (Option V))) : List (String × Expr V) :=
  fs.filterMap fun f => f.2.map fun v => (f.1, exprOf v)

theorem map_fst_given_sublist (fs : List (String × Option (Option V))) :
    ((given fs).map Prod.fst).Sublist (fs.map Prod.fst) := by
  have hgiven : given fs = fs.filterMap fun f => (f.2.map exprOf).map fun e => (f.1, e) := by
    simp [given, Function.comp_def]
  rw [hgiven]
  exact AssocList.map_fst_filterMap_sublist fun _ o => Option.map exprOf o

def setTokens (table : String) (as : List (String × Expr V)) : List (Token V) :=
  [.word "UPDATE", .word table, .word "SET"] ++ as.flatMap fun a => assignmentTokens a ++ [.sym ',']

/-- What has been pushed so far. -/
structure Fields.Sets (b : Fields V) (table : String) (as : List (String × Expr V)) : Prop where
  reads : Reads b.query (setTokens table as) .blank
  hasUpdates : b.hasUpdates = !as.isEmpty

theorem Fields.Sets.push {b : Fields V} {table col : String} {as : List (String × Expr V)}
    (h : b.Sets table as) (hcol : Name col) (v : Option V) :
    (b.push col v).Sets table (as ++ [(col, exprOf v)]) := by
  have htokens : setTokens table (as ++ [(col, exprOf v)]) =
      setTokens table as ++ (assignmentTokens (col, exprOf v) ++ [.sym ',']) := by
    simp [setTokens]
  refine ⟨?_, by cases v <;> simp [Fields.push]⟩
  rw [htokens]
  cases v with
  | none =>
    exact h.reads.push fun args => run_name args hcol " = NULL, " rfl rfl
  | some v =>
    have heq : ∀ args : List V, run args .blank " = ".toList = some ([.sym '='], .blank) :=
      fun _ => rfl
    have hcomma : ∀ args : List V, run args .blank ", ".toList = some ([.sym ','], .blank) :=
      fun _ => rfl
    have hname := h.reads.push fun args => run_name args hcol " = " rfl (heq args)
    have hread := hname.bound v ", " rfl hcomma
    rw [List.append_assoc] at hread
    exact hread

theorem Fields.Sets.field {b : Fields V} {table : String} {as : List (String × Expr V)}
    (h : b.Sets table as) (f : String × Option (Option V)) (hcol : Name f.1) :
    (b.field f).Sets table (as ++ given [f]) := by
  obtain ⟨col, o⟩ := f
  cases o with
  | none => simpa [Fields.field, given] using h
  | some v => simpa [Fields.field, given] using h.push hcol v

/-- All the fields, one after another. -/
theorem Fields.Sets.fields {b : Fields V} {table : String} {as : List (String × Expr V)}
    (h : b.Sets table as) (fs : List (String × Option (Option V))) (hcols : ∀ f ∈ fs, Name f.1) :
    (fs.foldl Fields.field b).Sets table (as ++ given fs) := by
  induction fs generalizing b as with
  | nil => simpa [given] using h
  | cons f fs ih =>
    have hfirst := h.field f (hcols f List.mem_cons_self)
    have hrest := ih hfirst fun f hf => hcols f (List.mem_cons_of_mem _ hf)
    rw [List.append_assoc] at hrest
    rw [List.foldl_cons, show given (f :: fs) = given [f] ++ given fs by
      simp [given, List.filterMap_cons]; cases f.2 <;> rfl]
    exact hrest

theorem setTokens_append (table : String) (as : List (String × Expr V)) (a : String × Expr V)
    (us : List (Token V)) : setTokens table as ++ (assignmentTokens a ++ us) =
      .word "UPDATE" :: .word table :: .word "SET" ::
        ([Token.sym ','].intercalate ((as ++ [a]).map assignmentTokens) ++ us) := by
  have hcommas : (as.flatMap fun a => assignmentTokens a ++ [Token.sym ',']) ++ assignmentTokens a =
      [Token.sym ','].intercalate ((as ++ [a]).map assignmentTokens) := by
    induction as with
    | nil => simp
    | cons a' as ih =>
      rw [List.flatMap_cons, List.append_assoc, ih, List.cons_append, List.map_cons,
        List.intercalate_cons_of_ne_nil (by simp)]
  rw [← hcommas]
  simp [setTokens]

/-- A text that ends with an assignment and the conditions makes a statement. -/
theorem Reads.statement {u : Update V} {as : List (String × Expr V)} {a : String × Expr V}
    {vs : List (Token V)}
    (h : Reads q (setTokens u.table as ++ (assignmentTokens a ++ .word "WHERE" :: us)) p)
    (hp : p.finish q.arguments = some vs) (hassignments : u.assignments = as ++ [a])
    (hconditions : us ++ vs = [Token.word "AND"].intercalate (u.conditions.map Condition.tokens))
    (hplain : u.Plain) : q.statement = some u := by
  rw [QueryBuilder.statement, h.lex hp, Option.bind_some]
  have htokens : setTokens u.table as ++ (assignmentTokens a ++ .word "WHERE" :: us) ++ vs =
      u.tokens := by
    rw [List.append_assoc, List.append_assoc, List.cons_append, hconditions, setTokens_append,
      ← hassignments]
    rfl
  rw [htokens, parseUpdate_tokens hplain]

/-! ### Rows -/

/-- What a column is after the statement. -/
def Expr.cell (now : V) : Expr V → Option V
  | .value v => some v
  | .null => none
  | .now => some now

def Update.apply (u : Update V) (now : V) (row : String → Option V) (col : String) : Option V :=
  match u.assignments.lookup col with
  | some e => e.cell now
  | none => row col

theorem Update.apply_of_mem {u : Update V} {col : String} {e : Expr V}
    (h : (col, e) ∈ u.assignments)
    (now : V) (row : String → Option V) : u.apply now row col = e.cell now := by
  rw [Update.apply, AssocList.lookup_of_mem u.nodup h]

theorem Update.apply_of_notMem {u : Update V} {col : String} (h : col ∉ u.assignments.map Prod.fst)
    (now : V) (row : String → Option V) : u.apply now row col = row col := by
  rw [Update.apply, AssocList.lookup_eq_none_of_notMem h]

end QueryBuilder
