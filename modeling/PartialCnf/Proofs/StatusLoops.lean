import Mathlib
import PartialCnf.Cnf

/-!
The status loops compute the Kleene connectives. Each loop may stop early and carries one flag,
and its invariant says what the flag records of the items passed so far. In a clause no literal
so far is true, and the flag says whether one was unassigned; in a conjunction no item so far is
falsified, and the flag says whether all were satisfied. An early stop is taken only at an item
that decides the whole value. So each loop gives the order-free connective, and with it the
right fold of `Status.or` or `Status.and`.
-/

namespace PartialCnf

open Std.Do

set_option mvcgen.warning false

namespace Clause

/-- The clause loop gives the Kleene disjunction of its literals: satisfied when some literal
is, else undetermined when some literal is, else falsified. -/
theorem status_eq_ite (a : Assignment) (c : Clause) :
    Clause.status a c =
      if ∃ l ∈ c, l.status a = .satisfied then .satisfied
      else if ∃ l ∈ c, l.status a = .undetermined then .undetermined else .falsified := by
  generalize h : Clause.status a c = r
  apply Id.of_wp_run_eq h
  mvcgen invariants
  | inv1 => Invariant.withEarlyReturnNewDo
      (fun xs anyOpen => ⌜(∀ l ∈ xs.prefix, l.status a ≠ .satisfied) ∧
        (anyOpen = true ↔ ∃ l ∈ xs.prefix, l.status a = .undetermined)⌝)
      (fun ret _ => ⌜ret = .satisfied ∧ ∃ l ∈ c, l.status a = .satisfied⌝)
  case vc1.step.h_1 pref cur suff split _ _ isTrue _ =>
    -- a true literal ends the loop, and decides the disjunction
    have sat : cur.status a = .satisfied := by rw [Literal.status, isTrue]; rfl
    exact .inr ⟨_, rfl, trivial, rfl, cur, by simp [split], sat⟩
  case vc2.step.h_2 pref cur suff _ _ flag isFalse inv =>
    obtain ⟨-, notSat, opened⟩ | ⟨_, _, stopped, _⟩ := inv
    · have fals : cur.status a = .falsified := by rw [Literal.status, isFalse]; rfl
      refine .inl ⟨trivial, ?_, ?_⟩
      · exact List.forall_mem_append.mpr ⟨notSat, List.forall_mem_singleton.mpr (by simp [fals])⟩
      · simp only [flag, opened, List.mem_append, List.mem_singleton]
        simp [fals]
    · cases stopped
  case vc3.step.h_3 pref cur suff _ _ _ isOpen inv =>
    obtain ⟨-, notSat, -⟩ | ⟨_, _, stopped, _⟩ := inv
    · have und : cur.status a = .undetermined := by rw [Literal.status, isOpen]; rfl
      refine .inl ⟨trivial, ?_, ?_⟩
      · exact List.forall_mem_append.mpr ⟨notSat, List.forall_mem_singleton.mpr (by simp [und])⟩
      · exact iff_of_true trivial ⟨cur, by simp, und⟩
    · cases stopped
  case vc4.pre => simp
  case vc5.post.success.h_1 ret _ returned inv =>
    obtain ⟨unfinished, -⟩ | ⟨r, stopped, -, rfl, sat⟩ := inv
    · rw [unfinished] at returned
      cases returned
    · rw [stopped, Option.some.injEq] at returned
      rw [← returned, if_pos sat]
  case vc6.post.success.h_2 ret _ finished inv =>
    obtain ⟨-, notSat, opened⟩ | ⟨_, stopped, -⟩ := inv
    · have none : ¬∃ l ∈ c, l.status a = .satisfied := by
        rintro ⟨l, member, sat⟩
        exact notSat l member sat
      rw [if_neg none]
      change (if ret.2 = true then _ else _) = _
      by_cases anyOpen : ret.2 = true
      · rw [if_pos anyOpen, if_pos (opened.mp anyOpen)]
      · rw [if_neg anyOpen, if_neg (fun und => anyOpen (opened.mpr und))]
    · rw [finished] at stopped
      cases stopped

end Clause

namespace Status

/-- The conjunction loop gives the Kleene conjunction of its items: falsified when some item
is, else undetermined when some item is, else satisfied. -/
theorem conjoin_eq_ite {α : Type} (f : α → Status) (xs : List α) :
    conjoin f xs =
      if ∃ x ∈ xs, f x = .falsified then .falsified
      else if ∃ x ∈ xs, f x = .undetermined then .undetermined else .satisfied := by
  generalize h : conjoin f xs = r
  apply Id.of_wp_run_eq h
  mvcgen invariants
  | inv1 => Invariant.withEarlyReturnNewDo
      (fun ys allSat => ⌜(∀ x ∈ ys.prefix, f x ≠ .falsified) ∧
        (allSat = false ↔ ∃ x ∈ ys.prefix, f x = .undetermined)⌝)
      (fun ret _ => ⌜ret = .falsified ∧ ∃ x ∈ xs, f x = .falsified⌝)
  case vc1.step.h_1 pref cur suff _ _ flag isSat inv =>
    obtain ⟨-, notFals, cleared⟩ | ⟨_, _, stopped, _⟩ := inv
    · refine .inl ⟨trivial, ?_, ?_⟩
      · exact List.forall_mem_append.mpr ⟨notFals, List.forall_mem_singleton.mpr (by simp [isSat])⟩
      · simp only [flag, cleared, List.mem_append, List.mem_singleton]
        simp [isSat]
    · cases stopped
  case vc2.step.h_2 pref cur suff split _ _ isFals _ =>
    -- a falsified item ends the loop, and decides the conjunction
    exact .inr ⟨_, rfl, trivial, rfl, cur, by simp [split], isFals⟩
  case vc3.step.h_3 pref cur suff _ _ _ isOpen inv =>
    obtain ⟨-, notFals, -⟩ | ⟨_, _, stopped, _⟩ := inv
    · refine .inl ⟨trivial, ?_, ?_⟩
      · exact List.forall_mem_append.mpr ⟨notFals, List.forall_mem_singleton.mpr (by simp [isOpen])⟩
      · exact iff_of_true trivial ⟨cur, by simp, isOpen⟩
    · cases stopped
  case vc4.pre => simp
  case vc5.post.success.h_1 ret _ returned inv =>
    obtain ⟨unfinished, -⟩ | ⟨r, stopped, -, rfl, fals⟩ := inv
    · rw [unfinished] at returned
      cases returned
    · rw [stopped, Option.some.injEq] at returned
      rw [← returned, if_pos fals]
  case vc6.post.success.h_2 ret _ finished inv =>
    obtain ⟨-, notFals, cleared⟩ | ⟨_, stopped, -⟩ := inv
    · have none : ¬∃ x ∈ xs, f x = .falsified := by
        rintro ⟨x, member, fals⟩
        exact notFals x member fals
      rw [if_neg none]
      change (if ret.2 = true then _ else _) = _
      by_cases allSat : ret.2 = true
      · have noneOpen : ¬∃ x ∈ xs, f x = .undetermined := fun und => by
          rw [← cleared, allSat] at und
          cases und
        rw [if_pos allSat, if_neg noneOpen]
      · rw [if_neg allSat, if_pos (cleared.mp (Bool.eq_false_iff.mpr allSat))]
    · rw [finished] at stopped
      cases stopped

end Status

end PartialCnf
