import PartialCnf.Proofs.Extension
import Mathlib.Data.List.Forall2

/-!
The clause-by-clause status, read by loops that stop early and keep a flag, is the order-free
Kleene semantics, for every clause list and every assignment, checked or not. A literal is true
when its variable holds the literal's sign, and unassigned when its variable is 0, lies past the
end of the assignment or holds no value. A clause is satisfied when one of its literals is true,
else undetermined when one is unassigned, else falsified (so the empty clause is falsified). A
formula is falsified when one of its clauses is, wherever that clause stands, else satisfied
when all are. Hence reordering the clauses, or the literals inside any of them, changes no
status.
-/

namespace PartialCnf

namespace Literal

variable (a : Assignment) (l : Literal)

theorem status_eq_satisfied_iff_getElem? :
    l.status a = .satisfied ↔ l.var ≠ 0 ∧ a[l.var - 1]? = some (some l.sign) := by
  rw [status_eq_satisfied_iff, Option.join_eq_some_iff]

theorem status_eq_undetermined_iff :
    l.status a = .undetermined ↔ l.var = 0 ∨ a.size < l.var ∨ a[l.var - 1]? = some none := by
  by_cases zero : l.var = 0
  · simp [status, valueIn, zero, Status.ofValue]
  cases read : a[l.var - 1]? with
  | none =>
      -- only a variable past the end reads nothing
      have beyond : a.size < l.var := by
        have := Array.getElem?_eq_none_iff.mp read
        omega
      simp [status, valueIn, zero, read, beyond, Status.ofValue]
  | some x =>
      have inside : l.var ≤ a.size := by
        have := (Array.getElem?_eq_some_iff.mp read).1
        omega
      have notBeyond : ¬a.size < l.var := by omega
      cases x with
      | none => simp [status, valueIn, zero, read, Status.ofValue]
      | some b =>
          have settled := status_ne_undetermined a l zero (by simp [read])
          simp [settled, zero, notBeyond]

end Literal

namespace Clause

variable (a : Assignment)

-- variable 0 and a variable past the end of the assignment count as unassigned
example : Clause.status #[some false] [⟨0, true⟩, ⟨1, true⟩, ⟨7, false⟩] = .undetermined := by
  decide

theorem status_perm {c d : Clause} (perm : c.Perm d) : Clause.status a c = Clause.status a d := by
  rw [status_eq_foldr, status_eq_foldr]
  exact Status.foldr_or_congr _ _ fun _ _ => (perm.map _).mem_iff

theorem map_status_of_forall₂ {cs ds : List Clause} (within : List.Forall₂ List.Perm cs ds) :
    cs.map (Clause.status a) = ds.map (Clause.status a) := by
  induction within with
  | nil => rfl
  | cons head _ ih => rw [List.map_cons, List.map_cons, status_perm a head, ih]

end Clause

namespace Cnf

variable (a : Assignment)

/-- The Kleene conjunction of a formula: a falsified clause decides it wherever it stands, even
after undetermined ones. -/
theorem status_eq_ite (f : Cnf) :
    f.status a =
      if ∃ c ∈ f.clauses, Clause.status a c = .falsified then .falsified
      else if ∀ c ∈ f.clauses, Clause.status a c = .satisfied then .satisfied
      else .undetermined := by
  rw [status, Status.conjoin_eq_ite]
  by_cases fals : ∃ c ∈ f.clauses, Clause.status a c = .falsified
  · rw [if_pos fals, if_pos fals]
  -- with no falsified clause, the clauses are all satisfied exactly when none is undetermined
  have allSat : (∀ c ∈ f.clauses, Clause.status a c = .satisfied) ↔
      ¬∃ c ∈ f.clauses, Clause.status a c = .undetermined := by
    simp only [not_exists, not_and] at fals ⊢
    refine ⟨fun sat c member und => ?_, fun notUnd c member => ?_⟩
    · rw [sat c member] at und
      cases und
    · cases clauseStatus : Clause.status a c
      · exact absurd clauseStatus (fals c member)
      · exact absurd clauseStatus (notUnd c member)
      · rfl
  rw [if_neg fals, if_neg fals]
  simp only [allSat, ite_not]

-- the falsified second clause decides, though the first is undetermined
example : Cnf.status #[some true] ⟨2, [[⟨2, true⟩], [⟨1, false⟩]]⟩ = .falsified := by decide

/-- Reordering the clauses, and the literals inside each clause, keeps the status. -/
theorem status_of_perm {f g : Cnf} {cs : List Clause} (reorder : f.clauses.Perm cs)
    (within : List.Forall₂ List.Perm cs g.clauses) : f.status a = g.status a := by
  rw [status_eq_foldr, status_eq_foldr, ← Clause.map_status_of_forall₂ a within,
    Status.foldr_and_eq, Status.foldr_and_eq]
  simp only [(reorder.map (Clause.status a)).mem_iff]

/-- The clause-by-clause status is the order-free Kleene semantics. A clause is satisfied when
a literal is true, else undetermined when a literal is unassigned (its variable 0, past the end
of the assignment, or without a value), else falsified; a formula is falsified when any clause
is, else satisfied when every clause is; and no reordering of clauses or literals changes
either. -/
theorem status_kleene :
    (∀ c : Clause, Clause.status a c =
      if ∃ l ∈ c, l.var ≠ 0 ∧ a[l.var - 1]? = some (some l.sign) then .satisfied
      else if ∃ l ∈ c, l.var = 0 ∨ a.size < l.var ∨ a[l.var - 1]? = some none then .undetermined
      else .falsified) ∧
    (∀ f : Cnf, f.status a =
      if ∃ c ∈ f.clauses, Clause.status a c = .falsified then .falsified
      else if ∀ c ∈ f.clauses, Clause.status a c = .satisfied then .satisfied
      else .undetermined) ∧
    (∀ c d : Clause, c.Perm d → Clause.status a c = Clause.status a d) ∧
    (∀ (f g : Cnf) (cs : List Clause), f.clauses.Perm cs → List.Forall₂ List.Perm cs g.clauses →
      f.status a = g.status a) := by
  refine ⟨fun c => ?_, status_eq_ite a, fun _ _ perm => Clause.status_perm a perm,
    fun _ _ _ reorder within => status_of_perm a reorder within⟩
  simp only [Clause.status_eq_ite, Literal.status_eq_satisfied_iff_getElem?,
    Literal.status_eq_undetermined_iff]

end Cnf

end PartialCnf
