import PartialCnf.Incidence
import Mathlib.Data.List.Nodup

/-!
Which formulas have an incidence table, and what the table holds. A clause is well formed over
`n` variables when it is non-empty and names distinct variables, all of them in `1..n`. A formula
has a table exactly when all its clauses are well formed, and then variable `v` occurs in
clause `j` with the sign of its literal there, or not at all. Otherwise the builder reports the
first faulty clause: that it is empty, or its first literal outside `1..n` or on a variable an
earlier literal of the clause names.
-/

namespace PartialCnf

namespace Clause

/-- The literals name distinct variables, all in `1..n`. -/
def Distinct (n : Nat) (c : Clause) : Prop :=
  (∀ l ∈ c, 1 ≤ l.var ∧ l.var ≤ n) ∧ (c.map Literal.var).Nodup

/-- A clause the table takes: non-empty, with distinct variables in `1..n`. -/
def WellFormed (n : Nat) (c : Clause) : Prop :=
  c ≠ [] ∧ c.Distinct n

theorem distinct_cons_iff (n : Nat) (l : Literal) (c : Clause) :
    Distinct n (l :: c) ↔ (1 ≤ l.var ∧ l.var ≤ n) ∧ l.var ∉ c.map Literal.var ∧ Distinct n c := by
  simp only [Distinct, List.forall_mem_cons, List.map_cons, List.nodup_cons]
  tauto

instance (n : Nat) (c : Clause) : Decidable (c.Distinct n) :=
  inferInstanceAs (Decidable ((∀ l ∈ c, 1 ≤ l.var ∧ l.var ≤ n) ∧ (c.map Literal.var).Nodup))

instance (n : Nat) (c : Clause) : Decidable (c.WellFormed n) :=
  inferInstanceAs (Decidable (c ≠ [] ∧ c.Distinct n))

/-- How variable `v` occurs in a clause: with the sign of its first literal, or not at all. -/
def polarity (c : Clause) (v : Nat) : Polarity :=
  match c.find? (·.var == v) with
  | some l => .ofSign l.sign
  | none => .absent

@[simp] theorem polarity_nil (v : Nat) : polarity [] v = .absent := rfl

theorem polarity_cons (l : Literal) (c : Clause) (v : Nat) :
    polarity (l :: c) v = if l.var = v then .ofSign l.sign else polarity c v := by
  by_cases same : l.var = v <;> simp [polarity, same]

theorem polarity_of_not_mem (c : Clause) (v : Nat) (absent : ∀ l ∈ c, l.var ≠ v) :
    polarity c v = .absent := by
  induction c with
  | nil => rfl
  | cons l ls ih =>
      rw [polarity_cons, if_neg (absent l (by simp))]
      exact ih fun l' member => absent l' (List.mem_cons_of_mem l member)

/-- In a clause of distinct variables, the polarity of a literal's variable is its sign. -/
theorem polarity_of_mem (c : Clause) (l : Literal) (member : l ∈ c)
    (nodup : (c.map Literal.var).Nodup) : polarity c l.var = .ofSign l.sign := by
  induction c with
  | nil => simp at member
  | cons l' ls ih =>
      rw [List.map_cons, List.nodup_cons] at nodup
      rcases List.mem_cons.mp member with same | later
      · subst same
        simp [polarity_cons]
      · have differ : l'.var ≠ l.var := fun same => nodup.1 (same ▸ List.mem_map_of_mem later)
        rw [polarity_cons, if_neg differ]
        exact ih later nodup.2

theorem checkLiterals_eq_ok (n index : Nat) (seen : Std.HashSet Nat) (c : Clause) :
    checkLiterals n index seen c = .ok () ↔
      Distinct n c ∧ ∀ l ∈ c, seen.contains l.var = false := by
  induction c generalizing seen with
  | nil => simp [checkLiterals, Distinct]
  | cons l ls ih =>
      by_cases outside : l.var = 0 ∨ n < l.var
      · simp only [checkLiterals, if_pos outside, reduceCtorEq, false_iff]
        rintro ⟨⟨range, -⟩, -⟩
        have := range l (by simp)
        omega
      by_cases repeated : seen.contains l.var
      · have seenBefore : l.var ∈ seen := by simpa using repeated
        simp [checkLiterals, outside, repeated, seenBefore]
      · rw [checkLiterals, if_neg outside, if_neg repeated, ih]
        simp only [Distinct, Std.HashSet.contains_insert, Bool.or_eq_false_iff,
          beq_eq_false_iff_ne, List.mem_cons, forall_eq_or_imp, List.map_cons, List.nodup_cons,
          List.mem_map, not_exists, not_and]
        grind

theorem check_eq_ok (n index : Nat) (c : Clause) :
    check n index c = .ok () ↔ WellFormed n c := by
  by_cases empty : c = []
  · subst empty
    simp [check, WellFormed]
  · simp [check, WellFormed, empty, checkLiterals_eq_ok]

end Clause

namespace Cnf

/-- Every clause is well formed over the formula's variables. -/
def WellFormed (f : Cnf) : Prop :=
  ∀ c ∈ f.clauses, c.WellFormed f.numVars

instance (f : Cnf) : Decidable f.WellFormed :=
  inferInstanceAs (Decidable (∀ c ∈ f.clauses, c.WellFormed f.numVars))

end Cnf

namespace Incidence

/-- One row per variable, and in every row one cell per clause. -/
def Shaped (t : Incidence) : Prop :=
  t.rows.size = t.numVars ∧ ∀ r ∈ t.rows, r.size = t.numClauses

/-- The check loop of `ofCnf`: clause `j` of `cs`, counted from `start`, is checked as number
`start + j + 1`. -/
theorem forIn_check_eq_ok (n start : Nat) (cs : List Clause) :
    (forIn (cs.zipIdx start) PUnit.unit fun cj _ => do
        Clause.check n (cj.2 + 1) cj.1
        pure (ForInStep.yield PUnit.unit) : Except Dimacs.FormatError PUnit) = .ok PUnit.unit ↔
      ∀ c ∈ cs, c.WellFormed n := by
  induction cs generalizing start with
  | nil => simp [pure, Except.pure]
  | cons c cs ih =>
      simp only [List.zipIdx_cons, List.forIn_cons, List.mem_cons, forall_eq_or_imp]
      cases checked : Clause.check n (start + 1) c with
      | error e =>
          have bad : ¬ c.WellFormed n := by
            rw [← Clause.check_eq_ok n (start + 1)]
            simp [checked]
          simp [bad, bind, Except.bind]
      | ok u =>
          have good : c.WellFormed n := (Clause.check_eq_ok n (start + 1) c).mp checked
          simpa [good, bind, Except.bind, pure, Except.pure] using ih (start + 1)

/-- A failing check loop stops at its first faulty clause, with that clause's error. -/
theorem forIn_check_eq_error (n start : Nat) (cs : List Clause) (e : Dimacs.FormatError)
    (failed : (forIn (cs.zipIdx start) PUnit.unit fun cj _ => do
        Clause.check n (cj.2 + 1) cj.1
        pure (ForInStep.yield PUnit.unit) : Except Dimacs.FormatError PUnit) = .error e) :
    ∃ pre c post, cs = pre ++ c :: post ∧ (∀ g ∈ pre, g.WellFormed n) ∧
      Clause.check n (start + pre.length + 1) c = .error e := by
  induction cs generalizing start with
  | nil => simp [pure, Except.pure] at failed
  | cons c cs ih =>
      simp only [List.zipIdx_cons, List.forIn_cons] at failed
      cases checked : Clause.check n (start + 1) c with
      | error e' =>
          simp only [checked, bind, Except.bind, Except.error.injEq] at failed
          exact ⟨[], c, cs, rfl, by simp, by simpa [failed] using checked⟩
      | ok u =>
          have good : c.WellFormed n := (Clause.check_eq_ok n (start + 1) c).mp checked
          simp only [checked, bind, Except.bind, pure, Except.pure] at failed
          obtain ⟨pre, c', post, split, formed, fault⟩ := ih (start + 1) failed
          refine ⟨c :: pre, c', post, by rw [split, List.cons_append], ?_, ?_⟩
          · rintro g (_ | ⟨_, later⟩)
            · exact good
            · exact formed g later
          · rw [← fault, List.length_cons]
            congr 1
            omega

theorem ofCnf_eq_error (f : Cnf) (e : Dimacs.FormatError) (failed : ofCnf f = .error e) :
    ∃ pre c post, f.clauses = pre ++ c :: post ∧ (∀ g ∈ pre, g.WellFormed f.numVars) ∧
      Clause.check f.numVars (pre.length + 1) c = .error e := by
  unfold ofCnf at failed
  cases checked : (forIn f.clauses.zipIdx PUnit.unit fun cj _ => do
      Clause.check f.numVars (cj.2 + 1) cj.1
      pure (ForInStep.yield PUnit.unit) : Except Dimacs.FormatError PUnit) with
  | error e' =>
      rw [checked] at failed
      simp only [bind, Except.bind, Except.error.injEq] at failed
      subst failed
      simpa using forIn_check_eq_error f.numVars 0 f.clauses e' checked
  | ok u =>
      rw [checked] at failed
      simp [bind, Except.bind, pure, Except.pure] at failed

theorem ofCnf_eq_ok_iff (f : Cnf) (t : Incidence) :
    ofCnf f = .ok t ↔ f.WellFormed ∧ t = build f := by
  have loop := forIn_check_eq_ok f.numVars 0 f.clauses
  unfold ofCnf
  cases checked : (forIn f.clauses.zipIdx PUnit.unit fun cj _ => do
      Clause.check f.numVars (cj.2 + 1) cj.1
      pure (ForInStep.yield PUnit.unit) : Except Dimacs.FormatError PUnit) with
  | error e =>
      rw [checked] at loop
      simp only [reduceCtorEq, false_iff] at loop
      simp [bind, Except.bind, Cnf.WellFormed, loop]
  | ok u =>
      rw [checked] at loop
      have good := loop.mp rfl
      simp only [bind, Except.bind, pure, Except.pure, Except.ok.injEq, Cnf.WellFormed]
      exact ⟨fun built => ⟨good, built.symm⟩, fun ⟨_, built⟩ => built.symm⟩

@[simp] theorem numVars_build (f : Cnf) : (build f).numVars = f.numVars := rfl

@[simp] theorem numClauses_build (f : Cnf) : (build f).numClauses = f.numClauses := rfl

/-- A table past its last variable holds nothing. -/
theorem get_of_numVars_lt (t : Incidence) (shaped : t.Shaped) (v k : Nat) (hv : 1 ≤ v)
    (beyond : t.numVars < v) : t.get v k = .absent := by
  have none : t.rows[v - 1]? = none := Array.getElem?_eq_none (by rw [shaped.1]; omega)
  simp [get, none]

/-- One write of polarity `p` in the row of variable `w` and the column of clause `j`. -/
theorem get_write (t : Incidence) (w j : Nat) (p : Polarity) (v k : Nat) (hw : 1 ≤ w)
    (hv : 1 ≤ v) :
    { t with rows := t.rows.modify (w - 1) (·.setIfInBounds j p) }.get v k =
      if w = v ∧ j = k ∧ ((t.rows[v - 1]?).bind (·[k]?)).isSome then p else t.get v k := by
  have sameRow : w - 1 = v - 1 ↔ w = v := by omega
  simp only [get, Array.getElem?_modify, sameRow]
  by_cases row : w = v
  · cases found : t.rows[v - 1]? with
    | none => simp [row]
    | some r =>
        by_cases column : j = k
        · subst column
          by_cases inside : j < r.size <;> simp [row, inside]
        · simp [row, column]
  · simp [row]

theorem shaped_write (t : Incidence) (shaped : t.Shaped) (w j : Nat) (p : Polarity) :
    Incidence.Shaped { t with rows := t.rows.modify (w - 1) (·.setIfInBounds j p) } := by
  refine ⟨by simpa using shaped.1, fun r member => ?_⟩
  obtain ⟨i, found⟩ := Array.mem_iff_getElem?.mp member
  rw [Array.getElem?_modify] at found
  split at found
  · obtain ⟨r', before, rfl⟩ := Option.map_eq_some_iff.mp found
    simpa using shaped.2 r' (Array.mem_iff_getElem?.mpr ⟨i, before⟩)
  · exact shaped.2 r (Array.mem_iff_getElem?.mpr ⟨i, found⟩)

@[simp] theorem mark_nil (j : Nat) (rows : Array (Array Polarity)) : mark j rows [] = rows := rfl

theorem mark_cons (j : Nat) (rows : Array (Array Polarity)) (l : Literal) (c : Clause) :
    mark j rows (l :: c) =
      mark j (rows.modify (l.var - 1) (·.setIfInBounds j (Polarity.ofSign l.sign))) c := rfl

theorem shaped_mark (t : Incidence) (shaped : t.Shaped) (j : Nat) (c : Clause) :
    Incidence.Shaped { t with rows := mark j t.rows c } := by
  induction c generalizing t with
  | nil => exact shaped
  | cons l ls ih =>
      rw [mark_cons]
      exact ih _ (shaped_write t shaped _ _ _)

section Marking

variable (t : Incidence) (j : Nat) (c : Clause) (v k : Nat)

/-- Marking a clause leaves the rows of the variables it does not name. -/
theorem get_mark_of_not_mem (named : ∀ l ∈ c, 1 ≤ l.var) (hv : 1 ≤ v)
    (absent : ∀ l ∈ c, l.var ≠ v) : { t with rows := mark j t.rows c }.get v k = t.get v k := by
  induction c generalizing t with
  | nil => rfl
  | cons l ls ih =>
      rw [mark_cons]
      refine (ih { t with rows := t.rows.modify (l.var - 1) (·.setIfInBounds j (.ofSign l.sign)) }
        (fun l' member => named l' (List.mem_cons_of_mem l member))
        (fun l' member => absent l' (List.mem_cons_of_mem l member))).trans ?_
      rw [get_write t _ _ _ v k (named l (by simp)) hv, if_neg]
      exact fun ⟨same, _⟩ => absent l (by simp) same

/-- Marking clause `j` leaves every other column. -/
theorem get_mark_of_ne (named : ∀ l ∈ c, 1 ≤ l.var) (hv : 1 ≤ v) (other : j ≠ k) :
    { t with rows := mark j t.rows c }.get v k = t.get v k := by
  induction c generalizing t with
  | nil => rfl
  | cons l ls ih =>
      rw [mark_cons]
      refine (ih { t with rows := t.rows.modify (l.var - 1) (·.setIfInBounds j (.ofSign l.sign)) }
        (fun l' member => named l' (List.mem_cons_of_mem l member))).trans ?_
      rw [get_write t _ _ _ v k (named l (by simp)) hv, if_neg]
      exact fun ⟨_, same, _⟩ => other same

/-- Marking clause `j` into an empty column writes the clause's polarity of each variable. -/
theorem get_mark_self (shaped : t.Shaped) (distinct : Clause.Distinct t.numVars c) (hv : 1 ≤ v)
    (within : v ≤ t.numVars) (hj : j < t.numClauses) (empty : t.get v j = .absent) :
    { t with rows := mark j t.rows c }.get v j = Clause.polarity c v := by
  induction c generalizing t with
  | nil => exact empty
  | cons l ls ih =>
      obtain ⟨range, nodup⟩ := distinct
      rw [List.map_cons, List.nodup_cons] at nodup
      have tailDistinct : Clause.Distinct t.numVars ls :=
        ⟨fun l' member => range l' (List.mem_cons_of_mem l member), nodup.2⟩
      have present : ((t.rows[v - 1]?).bind (·[j]?)).isSome := by
        obtain ⟨r, found⟩ := Option.isSome_iff_exists.mp
          (show (t.rows[v - 1]?).isSome by simp [shaped.1]; omega)
        have width := shaped.2 r (Array.mem_iff_getElem?.mpr ⟨_, found⟩)
        simp [found, width, hj]
      rw [mark_cons, Clause.polarity_cons]
      by_cases same : l.var = v
      · subst same
        have others : ∀ l' ∈ ls, l'.var ≠ l.var := fun l' member equal =>
          nodup.1 (equal ▸ List.mem_map_of_mem member)
        refine (get_mark_of_not_mem
          { t with rows := t.rows.modify (l.var - 1) (·.setIfInBounds j (.ofSign l.sign)) } j ls _ j
          (fun l' member => (tailDistinct.1 l' member).1) hv others).trans ?_
        rw [get_write t _ _ _ _ _ (range l (by simp)).1 hv, if_pos ⟨rfl, rfl, present⟩, if_pos rfl]
      · rw [if_neg same]
        apply ih _ (shaped_write t shaped _ _ _) tailDistinct within hj
        rw [get_write t _ _ _ _ _ (range l (by simp)).1 hv, if_neg (fun ⟨equal, _⟩ => same equal)]
        exact empty

end Marking

/-- The table holds the polarities of `done`, the clauses marked so far, and nothing else. -/
def Holds (t : Incidence) (done : List Clause) : Prop :=
  t.Shaped ∧ ∀ v k, 1 ≤ v → t.get v k = ((done[k]?).map (Clause.polarity · v)).getD .absent

theorem holds_mark (t : Incidence) (done : List Clause) (c : Clause) (holds : t.Holds done)
    (distinct : Clause.Distinct t.numVars c) (room : done.length < t.numClauses) :
    Incidence.Holds { t with rows := mark done.length t.rows c } (done ++ [c]) := by
  obtain ⟨shaped, cells⟩ := holds
  have named : ∀ l ∈ c, 1 ≤ l.var := fun l member => (distinct.1 l member).1
  refine ⟨shaped_mark t shaped _ c, fun v k hv => ?_⟩
  by_cases column : k = done.length
  · subst column
    rw [List.getElem?_append_right (Nat.le_refl _), Nat.sub_self]
    by_cases within : v ≤ t.numVars
    · apply get_mark_self t _ c v shaped distinct hv within room
      simp [cells v _ hv]
    · have beyond : ∀ l ∈ c, l.var ≠ v := fun l member same => by
        have := (distinct.1 l member).2
        omega
      rw [get_of_numVars_lt _ (shaped_mark t shaped _ c) v _ hv (by simpa using within)]
      simp [Clause.polarity_of_not_mem c v beyond]
  · rw [get_mark_of_ne t _ c v k named hv (Ne.symm column), cells v k hv]
    by_cases before : k < done.length
    · rw [List.getElem?_append_left before]
    · rw [List.getElem?_eq_none (by omega), List.getElem?_eq_none (by simp; omega)]

theorem holds_fold (t : Incidence) (done rest : List Clause) (holds : t.Holds done)
    (distinct : ∀ c ∈ rest, Clause.Distinct t.numVars c)
    (room : done.length + rest.length ≤ t.numClauses) :
    Incidence.Holds
      { t with rows := (rest.zipIdx done.length).foldl (fun rows cj => mark cj.2 rows cj.1) t.rows }
      (done ++ rest) := by
  induction rest generalizing t done with
  | nil => simpa using holds
  | cons c rest ih =>
      simp only [List.zipIdx_cons, List.foldl_cons]
      have marked := holds_mark t done c holds (distinct c (by simp)) (by simp at room; omega)
      have tail := ih _ (done ++ [c]) marked (fun c' member => distinct c' (by simp [member]))
        (by simp at room ⊢; omega)
      simpa using tail

/-- The table of a well-formed formula: variable `v` occurs in clause `j` with the sign of its
literal there, and nowhere else. -/
theorem holds_build (f : Cnf) (wellFormed : f.WellFormed) : (build f).Holds f.clauses := by
  let empty : Incidence :=
    ⟨f.numVars, f.numClauses, Array.replicate f.numVars (Array.replicate f.numClauses .absent)⟩
  have start : empty.Holds [] := by
    refine ⟨⟨by simp [empty], fun r member => ?_⟩, fun v k _ => ?_⟩
    · simp only [empty, Array.mem_replicate] at member
      simp [member.2, empty]
    · simp only [get, empty, Array.getElem?_replicate]
      split <;> simp [Array.getElem?_replicate]; split <;> rfl
  have built := holds_fold empty [] f.clauses start
    (fun c member => (wellFormed c member).2) (by simp [empty, Cnf.numClauses])
  simpa [build, empty] using built

end Incidence

namespace Clause

/-- In a clause of distinct variables, a variable occurs positively, negatively, or not at all. -/
theorem polarity_eq_of_nodup (c : Clause) (v : Nat) (nodup : (c.map Literal.var).Nodup) :
    polarity c v = if ⟨v, true⟩ ∈ c then .positive
      else if ⟨v, false⟩ ∈ c then .negative else .absent := by
  by_cases positive : (⟨v, true⟩ : Literal) ∈ c
  · rw [if_pos positive]
    exact polarity_of_mem c ⟨v, true⟩ positive nodup
  by_cases negative : (⟨v, false⟩ : Literal) ∈ c
  · rw [if_neg positive, if_pos negative]
    exact polarity_of_mem c ⟨v, false⟩ negative nodup
  rw [if_neg positive, if_neg negative]
  refine polarity_of_not_mem c v fun l member same => ?_
  obtain ⟨var, sign⟩ := l
  cases sign <;> simp_all

/-- The fault the table reports for clause number `index` over `n` variables: the clause is
empty, or after literals on distinct variables in range comes its first literal outside `1..n`
or on an earlier literal's variable. -/
def FirstFault (n index : Nat) (c : Clause) (e : Dimacs.FormatError) : Prop :=
  (c = [] ∧ e = .emptyClause index) ∨
  ∃ pre l post, c = pre ++ l :: post ∧ Distinct n pre ∧
    ((l.var = 0 ∨ n < l.var) ∧ e = .literalOutOfRange index l.toDimacs n ∨
      (1 ≤ l.var ∧ l.var ≤ n) ∧ l.var ∈ pre.map Literal.var ∧ e = .duplicateVariable index l.var)

/-- The literal check stops at the first literal out of range or on a variable already seen. -/
theorem checkLiterals_eq_error (n index : Nat) (seen : Std.HashSet Nat) (c : Clause)
    (e : Dimacs.FormatError) (failed : checkLiterals n index seen c = .error e) :
    ∃ pre l post, c = pre ++ l :: post ∧ Distinct n pre ∧ (∀ x ∈ pre, seen.contains x.var = false) ∧
      ((l.var = 0 ∨ n < l.var) ∧ e = .literalOutOfRange index l.toDimacs n ∨
        (1 ≤ l.var ∧ l.var ≤ n) ∧ (seen.contains l.var = true ∨ l.var ∈ pre.map Literal.var) ∧
          e = .duplicateVariable index l.var) := by
  induction c generalizing seen with
  | nil => cases failed
  | cons x xs ih =>
      rw [checkLiterals] at failed
      by_cases outside : x.var = 0 ∨ n < x.var
      · rw [if_pos outside, Except.error.injEq] at failed
        exact ⟨[], x, xs, rfl, by simp [Distinct], by simp, .inl ⟨outside, failed.symm⟩⟩
      rw [if_neg outside] at failed
      by_cases repeated : seen.contains x.var
      · rw [if_pos repeated, Except.error.injEq] at failed
        exact ⟨[], x, xs, rfl, by simp [Distinct], by simp, .inr ⟨by omega, .inl repeated, failed.symm⟩⟩
      rw [if_neg repeated] at failed
      -- the fault lies further on, with `x` inserted into the seen variables
      obtain ⟨pre, l, post, split, distinct, fresh, fault⟩ := ih _ failed
      have apart : ∀ y ∈ pre, y.var ≠ x.var := fun y member same => by
        have := fresh y member
        simp [same] at this
      have fresh' : x.var ∉ pre.map Literal.var := fun member => by
        obtain ⟨y, inside, same⟩ := List.mem_map.mp member
        exact apart y inside same
      refine ⟨x :: pre, l, post, by rw [split, List.cons_append],
        (distinct_cons_iff n x pre).mpr ⟨by omega, fresh', distinct⟩, ?_, ?_⟩
      · rintro y (_ | ⟨_, later⟩)
        · simpa using repeated
        · have := fresh y later
          simp only [Std.HashSet.contains_insert, Bool.or_eq_false_iff] at this
          exact this.2
      · rcases fault with out | ⟨range, known, rfl⟩
        · exact .inl out
        · refine .inr ⟨range, ?_, rfl⟩
          simp only [Std.HashSet.contains_insert, Bool.or_eq_true, beq_iff_eq] at known
          simp only [List.map_cons, List.mem_cons]
          tauto

theorem check_eq_error (n index : Nat) (c : Clause) (e : Dimacs.FormatError)
    (failed : check n index c = .error e) : FirstFault n index c e := by
  by_cases empty : c = []
  · subst empty
    exact .inl ⟨rfl, (Except.error.inj failed).symm⟩
  rw [check, if_neg (by simpa using empty)] at failed
  obtain ⟨pre, l, post, split, distinct, -, fault⟩ := checkLiterals_eq_error n index {} c e failed
  refine .inr ⟨pre, l, post, split, distinct, ?_⟩
  simpa using fault

end Clause

namespace Incidence

theorem exists_ofCnf_eq_ok_iff (f : Cnf) : (∃ t, ofCnf f = .ok t) ↔ f.WellFormed :=
  ⟨fun ⟨t, built⟩ => ((ofCnf_eq_ok_iff f t).mp built).1,
    fun formed => ⟨build f, (ofCnf_eq_ok_iff f _).mpr ⟨formed, rfl⟩⟩⟩

/-- The table of a well-formed formula holds each literal's sign in its variable's row and its
clause's column. -/
theorem get_build (f : Cnf) (formed : f.WellFormed) (v j : Nat) (hj : j < f.clauses.length)
    (hv : 1 ≤ v) :
    (build f).get v j = if ⟨v, true⟩ ∈ f.clauses[j] then .positive
      else if ⟨v, false⟩ ∈ f.clauses[j] then .negative else .absent := by
  rw [(holds_build f formed).2 v j hv, List.getElem?_eq_getElem hj, Option.map_some,
    Option.getD_some]
  exact Clause.polarity_eq_of_nodup _ v (formed _ (List.getElem_mem hj)).2.2

/-- The table builder: a formula has a table exactly when it is well formed, and then the
table has a row per variable and a column per clause, where variable `v` occurs in clause `j`
with the sign of its literal there; otherwise the builder reports the first fault of the first
faulty clause. -/
theorem ofCnf_cells_or_first_fault (f : Cnf) :
    ((∃ t, ofCnf f = .ok t) ↔ f.WellFormed) ∧
    (∀ t, ofCnf f = .ok t → t.numVars = f.numVars ∧ t.numClauses = f.clauses.length ∧
      ∀ v j (hj : j < f.clauses.length), 1 ≤ v → v ≤ f.numVars →
        t.get v j = if ⟨v, true⟩ ∈ f.clauses[j] then .positive
          else if ⟨v, false⟩ ∈ f.clauses[j] then .negative else .absent) ∧
    (∀ e, ofCnf f = .error e → ∃ pre c post, f.clauses = pre ++ c :: post ∧
      (∀ g ∈ pre, g.WellFormed f.numVars) ∧ Clause.FirstFault f.numVars (pre.length + 1) c e) := by
  refine ⟨exists_ofCnf_eq_ok_iff f, fun t built => ?_, fun e failed => ?_⟩
  · obtain ⟨formed, rfl⟩ := (ofCnf_eq_ok_iff f t).mp built
    exact ⟨rfl, rfl, fun v j hj hv _ => get_build f formed v j hj hv⟩
  · obtain ⟨pre, c, post, split, formed, fault⟩ := ofCnf_eq_error f e failed
    exact ⟨pre, c, post, split, formed, Clause.check_eq_error _ _ c e fault⟩

end Incidence

end PartialCnf
