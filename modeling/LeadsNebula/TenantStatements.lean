/-
The statements of the dashboard's handlers, and what the handlers share, are confined
to an instance if their conditions select no row of another one.
-/
import LeadsNebula.Tenancy

namespace LeadsNebula

namespace Dashboard

open DbPart

variable {cfg : DashConfig} {env : DashEnv} {user : User} {i : Uuid} {db : Db}

/-- A condition that only rows of the instance meet. -/
theorem free_of_foreign_eq_false {t : Relation} {p : Row t → Bool}
    (h : ∀ r, p r = true → Foreign i db t r = false) : Free (others i db) t p := by
  intro r hr
  by_contra hp
  rw [Bool.not_eq_false] at hp
  obtain ⟨-, hf⟩ := mem_others.mp hr
  rw [h r hp] at hf
  cases hf

theorem fst_mem_of_mem_zipIdx {α : Type} {l : List α} {a : α × ℕ} (h : a ∈ l.zipIdx) : a.1 ∈ l :=
  List.mem_of_getElem? (List.mem_zipIdx_iff_getElem?.mp h)

theorem Owned.free_key {t : Relation} {r : Row t} (h : (partOf i db).Owned t r) :
    Free (others i db) t fun r' => key t r' = key t r :=
  fun r' hr' => decide_eq_false (h.key_ne r' hr')

theorem Free.mono {F : Db} {t : Relation} {p q : Row t → Bool} (h : Free F t p)
    (hpq : ∀ r, q r = true → p r = true) : Free F t q := by
  intro r hr
  by_contra hq
  rw [Bool.not_eq_false] at hq
  have hp := hpq r hq
  rw [h r hr] at hp
  cases hp

/-! ### Statements -/

section

variable {t : Relation} {p : Row t → Bool} {n : ℕ}

theorem confined_rows (h : Free (others i db) t p) :
    (partOf i db).Confined (Database.rows t p : Handler _)
      fun l => ∀ r ∈ l, (partOf i db).Owned t r ∧ p r = true := Confined.rows h

theorem confined_present (h : Free (others i db) t p) :
    (partOf i db).Confined (Database.present t p : Handler _) fun _ => True := Confined.present h

theorem confined_fetchAll (h : Free (others i db) t p) :
    (partOf i db).Confined (fetchAll env n t p)
      fun l => ∀ r ∈ l, (partOf i db).Owned t r ∧ p r = true := Confined.stmt (Confined.rows h)

theorem confined_fetchAllOrNone (h : Free (others i db) t p) :
    (partOf i db).Confined (fetchAllOrNone env n t p)
      fun l => ∀ r ∈ l, (partOf i db).Owned t r ∧ p r = true :=
  Confined.attempt (Confined.rows h) fun _ hr => (by cases hr)

theorem confined_fetchOptional (h : Free (others i db) t p) :
    (partOf i db).Confined (fetchOptional env n t p)
      fun o => ∀ r ∈ o, (partOf i db).Owned t r ∧ p r = true := Confined.stmt (Confined.first h)

theorem confined_fetchOrNone (h : Free (others i db) t p) :
    (partOf i db).Confined (fetchOrNone env n t p)
      fun o => ∀ r ∈ o, (partOf i db).Owned t r ∧ p r = true :=
  Confined.attempt (Confined.first h) fun _ hr => (by cases hr)

theorem confined_update {f : Row t → Row t} {hf : ∀ r, key t (f r) = key t r}
    (h : Free (others i db) t p)
    (hmine : ∀ r, (partOf i db).Mine t r → (partOf i db).Mine t (f r)) :
    (partOf i db).Confined (Database.update t p f hf : Handler _) fun _ => True :=
  Confined.update h fun r hr _ => hmine r hr

theorem confined_delete (h : Free (others i db) t p) :
    (partOf i db).Confined (Database.delete t p : Handler _) fun _ => True := Confined.delete h

/-- A new row of the instance. -/
theorem confined_insert {r : Row t} (hforeign : Foreign i db t r = false)
    (hkey : Free (others i db) t fun r' => key t r' = key t r) (hapart : Apart (others i db) t r) :
    (partOf i db).Confined (Database.insert t r : Handler _) fun _ => True :=
  Confined.insert ⟨⟨hforeign, hapart⟩, fun r' hr' => of_decide_eq_false (hkey r' hr')⟩

theorem confined_stopWhen {c : Bool} {e : ℕ} :
    (partOf i db).Confined (Prog.whenever c (Prog.stop e)) fun _ => c = false := by
  cases c with
  | false => exact Confined.pure rfl
  | true => exact Confined.stop

end

/-! ### What the handlers share -/

/-- No other instance has a vertical. -/
theorem free_verticals (p : Vertical → Bool) : Free (others i db) .verticals p :=
  free_of_foreign_eq_false fun _ _ => rfl

theorem owned_instance {r : Instance} (h : (partOf i db).Owned .instances r) : r.id = i := by
  simpa [partOf, Foreign] using h.foreign

theorem confined_getInstanceIdForUser (hu : Free (others i db) .instances (isInstanceOf user))
    (n : ℕ) :
    (partOf i db).Confined (getInstanceIdForUser env n user) fun o => ∀ id ∈ o, id = i := by
  refine Confined.bind (confined_fetchOptional hu) fun o ho => Confined.pure ?_
  intro id hid
  obtain ⟨r, hr, rfl⟩ := Option.mem_map.mp hid
  exact owned_instance (ho r hr).1

theorem confined_requireInstance (hu : Free (others i db) .instances (isInstanceOf user)) (n : ℕ) :
    (partOf i db).Confined (requireInstance env n user) fun id => id = i :=
  Confined.bind (confined_getInstanceIdForUser hu n) fun _ ho => Confined.orStop ho

theorem confined_targetInstance (hu : Free (others i db) .instances (isInstanceOf user)) (n : ℕ)
    {o : Option Uuid} (ho : SaysInstance i o) :
    (partOf i db).Confined (targetInstance env n user o) fun id => id = i := by
  cases o with
  | none => exact confined_requireInstance hu n
  | some id => exact Confined.pure (ho id rfl)

theorem confined_createAuditLog {n : ℕ} {log : AuditLog} (hid : Fresh (others i db) log.id)
    (hlog : ∀ j ∈ log.instanceId, j = i) :
    (partOf i db).Confined (createAuditLog env n log) fun _ => True := by
  have hforeign : Foreign i db .auditLogs log = false := by
    cases hj : log.instanceId with
    | none => simp [Foreign, hj]
    | some j => simp [Foreign, hj, hlog j hj]
  exact Confined.attempt (Confined.bind (confined_insert hforeign hid.auditLogs trivial) fun _ _ =>
    Confined.pure trivial) trivial

end Dashboard

end LeadsNebula
