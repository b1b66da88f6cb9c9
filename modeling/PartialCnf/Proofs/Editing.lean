import PartialCnf.Proofs.Evaluation
import PartialCnf.Formula.Report

/-!
Changing a formula's assignment. `set`, `unset` and `assign` check their guards in a fixed
order and then make one write: a refused change returns its error and emits nothing, and an
accepted one changes the value of its variable alone and moves the count of assigned variables
by one. Over any run of changes the table stays the one built from the formula, so the kept
status is always the clause-by-clause status of the variables' values.
-/

namespace PartialCnf

namespace Formula

@[ext] theorem ext {f g : Formula} (table : f.table = g.table)
    (assignment : f.assignment = g.assignment) : f = g := by
  cases f
  cases g
  subst table assignment
  simp_all

@[simp] theorem table_write (f : Formula) (v : Nat) (x : Value) : (f.write v x).table = f.table :=
  rfl

@[simp] theorem numVars_write (f : Formula) (v : Nat) (x : Value) :
    (f.write v x).numVars = f.numVars := rfl

theorem size_assignment (f : Formula) : f.assignment.size = f.numVars := f.size_eq

theorem inRange_iff (f : Formula) (v : Nat) : f.inRange v = true ↔ 1 ≤ v ∧ v ≤ f.numVars := by
  simp [inRange]

theorem get_of_not_inRange (f : Formula) (v : Nat) (outside : f.inRange v = false) :
    f.get v = none := by
  simp [get, outside]

theorem getElem?_assignment (f : Formula) (v : Nat) (inside : 1 ≤ v ∧ v ≤ f.numVars) :
    f.assignment[v - 1]? = some (f.get v) := by
  have within : f.inRange v = true := (inRange_iff f v).mpr inside
  have slot : v - 1 < f.assignment.size := by rw [size_assignment]; omega
  simp [get, within, Array.getElem?_eq_getElem slot]

theorem get_write_self (f : Formula) (v : Nat) (x : Value) (inside : 1 ≤ v ∧ v ≤ f.numVars) :
    (f.write v x).get v = x := by
  have written := getElem?_assignment (f.write v x) v (by simpa using inside)
  have slot : v - 1 < f.assignment.size := by rw [size_assignment]; omega
  simp only [write, Array.getElem?_setIfInBounds_self_of_lt (by simpa using slot),
    Option.some.injEq] at written
  exact written.symm

@[simp] theorem inRange_write (f : Formula) (v : Nat) (x : Value) (w : Nat) :
    (f.write v x).inRange w = f.inRange w := rfl

theorem get_write_of_ne (f : Formula) (v w : Nat) (x : Value) (named : 1 ≤ v) (other : w ≠ v) :
    (f.write v x).get w = f.get w := by
  by_cases inside : 1 ≤ w ∧ w ≤ f.numVars
  · have apart : v - 1 ≠ w - 1 := by omega
    have kept := getElem?_assignment (f.write v x) w (by simpa using inside)
    simp only [write, Array.getElem?_setIfInBounds_ne apart, getElem?_assignment f w inside,
      Option.some.injEq] at kept
    exact kept.symm
  · have outside : f.inRange w = false := by
      rw [Bool.eq_false_iff]
      exact fun within => inside ((inRange_iff f w).mp within)
    rw [get_of_not_inRange _ w (by rw [inRange_write]; exact outside),
      get_of_not_inRange _ w outside]

/-- A write at a variable in range moves the count of assigned variables by what it does to
that variable's slot. -/
theorem assignedCount_write (f : Formula) (v : Nat) (x : Value)
    (inside : 1 ≤ v ∧ v ≤ f.numVars) :
    (f.write v x).assignedCount + (if (f.get v).isSome then 1 else 0) =
      f.assignedCount + (if x.isSome then 1 else 0) := by
  have slot : v - 1 < f.assignment.size := by rw [size_assignment]; omega
  have read : f.assignment[v - 1] = f.get v := by
    simpa [Array.getElem?_eq_getElem slot] using getElem?_assignment f v inside
  have counted : (if (f.get v).isSome then 1 else 0) ≤ f.assignment.countP Option.isSome := by
    split
    · exact Array.countP_pos_iff.mpr ⟨_, Array.getElem_mem slot, by rw [read]; assumption⟩
    · exact Nat.zero_le _
  simp only [assignedCount, write, Array.setIfInBounds_def, dif_pos slot, Array.countP_set slot,
    read]
  omega

section Guards

variable (f : Formula) (v : Nat)

theorem set_of_outside (x : Value) (outside : ¬(1 ≤ v ∧ v ≤ f.numVars)) :
    f.set v x = .error (.variableOutOfRange v f.numVars) := by
  have refused : f.inRange v = false := by
    rw [Bool.eq_false_iff]
    exact fun within => outside ((inRange_iff f v).mp within)
  simp [set, refused]

theorem set_none (inside : 1 ≤ v ∧ v ≤ f.numVars) : f.set v none = .error (.invalidValue 0) := by
  simp [set, (inRange_iff f v).mpr inside]

theorem set_of_assigned (x : Value) (inside : 1 ≤ v ∧ v ≤ f.numVars) (given : x.isSome)
    (taken : (f.get v).isSome) : f.set v x = .error (.alreadyAssigned v) := by
  simp [set, (inRange_iff f v).mpr inside, Option.isSome_iff_ne_none.mp given, taken]

theorem set_of_free (x : Value) (inside : 1 ≤ v ∧ v ≤ f.numVars) (given : x.isSome)
    (free : f.get v = none) : f.set v x = .ok (f.write v x) := by
  simp [set, (inRange_iff f v).mpr inside, Option.isSome_iff_ne_none.mp given, free]

theorem unset_of_outside (outside : ¬(1 ≤ v ∧ v ≤ f.numVars)) :
    f.unset v = .error (.variableOutOfRange v f.numVars) := by
  have refused : f.inRange v = false := by
    rw [Bool.eq_false_iff]
    exact fun within => outside ((inRange_iff f v).mp within)
  simp [unset, refused]

theorem unset_of_free (inside : 1 ≤ v ∧ v ≤ f.numVars) (free : f.get v = none) :
    f.unset v = .error (.notAssigned v) := by
  simp [unset, (inRange_iff f v).mpr inside, free]

theorem unset_of_assigned (inside : 1 ≤ v ∧ v ≤ f.numVars) (taken : (f.get v).isSome) :
    f.unset v = .ok (f.write v none) := by
  simp [unset, (inRange_iff f v).mpr inside, Option.isSome_iff_ne_none.mp taken]

end Guards

section Outcomes

variable (f : Formula) (v : Nat)

theorem set_eq_outside_iff (x : Value) :
    f.set v x = .error (.variableOutOfRange v f.numVars) ↔ ¬(1 ≤ v ∧ v ≤ f.numVars) := by
  refine ⟨fun refused inside => ?_, set_of_outside f v x⟩
  cases x with
  | none => simp [set_none f v inside] at refused
  | some b =>
      cases free : f.get v with
      | none => simp [set_of_free f v (some b) inside rfl free] at refused
      | some _ => simp [set_of_assigned f v (some b) inside rfl (by simp [free])] at refused

theorem set_eq_invalid_iff (x : Value) (inside : 1 ≤ v ∧ v ≤ f.numVars) :
    f.set v x = .error (.invalidValue 0) ↔ x = none := by
  refine ⟨fun refused => ?_, fun given => given ▸ set_none f v inside⟩
  cases x with
  | none => rfl
  | some b =>
      cases free : f.get v with
      | none => simp [set_of_free f v (some b) inside rfl free] at refused
      | some _ => simp [set_of_assigned f v (some b) inside rfl (by simp [free])] at refused

theorem set_eq_assigned_iff (x : Value) (inside : 1 ≤ v ∧ v ≤ f.numVars) (given : x ≠ none) :
    f.set v x = .error (.alreadyAssigned v) ↔ (f.get v).isSome := by
  have some : x.isSome := Option.isSome_iff_ne_none.mpr given
  cases free : f.get v with
  | none => simp [set_of_free f v x inside some free]
  | some _ => simp [set_of_assigned f v x inside some (by simp [free])]

theorem set_eq_ok_iff (g : Formula) (x : Value) :
    f.set v x = .ok g ↔ (1 ≤ v ∧ v ≤ f.numVars) ∧ x ≠ none ∧ f.get v = none ∧ g = f.write v x := by
  by_cases inside : 1 ≤ v ∧ v ≤ f.numVars
  · cases x with
    | none => simp [set_none f v inside]
    | some b =>
        cases free : f.get v with
        | none =>
            rw [set_of_free f v (some b) inside rfl free, Except.ok.injEq]
            simp [inside, eq_comm]
        | some _ => simp [set_of_assigned f v (some b) inside rfl (by simp [free])]
  · simp [set_of_outside f v x inside, inside]

theorem unset_eq_outside_iff :
    f.unset v = .error (.variableOutOfRange v f.numVars) ↔ ¬(1 ≤ v ∧ v ≤ f.numVars) := by
  refine ⟨fun refused inside => ?_, unset_of_outside f v⟩
  cases free : f.get v with
  | none => simp [unset_of_free f v inside free] at refused
  | some _ => simp [unset_of_assigned f v inside (by simp [free])] at refused

theorem unset_eq_free_iff (inside : 1 ≤ v ∧ v ≤ f.numVars) :
    f.unset v = .error (.notAssigned v) ↔ f.get v = none := by
  cases free : f.get v with
  | none => simp [unset_of_free f v inside free]
  | some _ => simp [unset_of_assigned f v inside (by simp [free])]

theorem unset_eq_ok_iff (g : Formula) :
    f.unset v = .ok g ↔ (1 ≤ v ∧ v ≤ f.numVars) ∧ f.get v ≠ none ∧ g = f.write v none := by
  by_cases inside : 1 ≤ v ∧ v ≤ f.numVars
  · cases free : f.get v with
    | none => simp [unset_of_free f v inside free]
    | some _ =>
        rw [unset_of_assigned f v inside (by simp [free]), Except.ok.injEq]
        simp [inside, eq_comm]
  · simp [unset_of_outside f v inside, inside]

/-- An accepted `set` keeps the table, gives its variable the value, keeps every other variable
and counts one more assigned variable. -/
theorem set_accepted (g : Formula) (x : Value) (accepted : f.set v x = .ok g) :
    g.table = f.table ∧ g.get v = x ∧ (∀ w, w ≠ v → g.get w = f.get w) ∧
      g.assignedCount = f.assignedCount + 1 := by
  obtain ⟨inside, given, free, rfl⟩ := (set_eq_ok_iff f v g x).mp accepted
  have counted := assignedCount_write f v x inside
  simp only [free, Option.isSome_none, Option.isSome_iff_ne_none.mpr given] at counted
  exact ⟨rfl, get_write_self f v x inside, fun w other => get_write_of_ne f v w x inside.1 other,
    by simpa using counted⟩

theorem unset_accepted (g : Formula) (accepted : f.unset v = .ok g) :
    g.table = f.table ∧ g.get v = none ∧ (∀ w, w ≠ v → g.get w = f.get w) ∧
      g.assignedCount + 1 = f.assignedCount := by
  obtain ⟨inside, taken, rfl⟩ := (unset_eq_ok_iff f v g).mp accepted
  have counted := assignedCount_write f v none inside
  simp only [Option.isSome_iff_ne_none.mpr taken, Option.isSome_none] at counted
  exact ⟨rfl, get_write_self f v none inside,
    fun w other => get_write_of_ne f v w none inside.1 other, by simpa using counted⟩

end Outcomes

section Reporting

variable {m : Type → Type} [Monad m] [LogSink m]

theorem setM_of_error (f : Formula) (v : Nat) (x : Value) (e : AssignError)
    (refused : f.set v x = .error e) : (f.setM v x : m _) = pure (.error e) := by
  simp [setM, refused]

theorem unsetM_of_error (f : Formula) (v : Nat) (e : AssignError)
    (refused : f.unset v = .error e) : (f.unsetM v : m _) = pure (.error e) := by
  simp [unsetM, refused]

end Reporting

/-- The values of the variables `1..numVars`, in order. -/
def values (f : Formula) : Assignment :=
  Array.ofFn fun i : Fin f.numVars => f.get (i + 1)

@[simp] theorem size_values (f : Formula) : f.values.size = f.numVars := by
  simp [values]

theorem values_eq_assignment (f : Formula) : f.values = f.assignment := by
  apply Array.ext
  · simp [size_assignment]
  · intro i inside _
    have slot : i < f.assignment.size := by simpa [size_assignment] using inside
    have read := getElem?_assignment f (i + 1) (by simp at inside; omega)
    rw [Nat.add_sub_cancel, Array.getElem?_eq_getElem slot, Option.some.injEq] at read
    simp [values, read]

/-- The count of assigned variables is the number of variables in `1..numVars` with a value. -/
theorem assignedCount_eq (f : Formula) :
    f.assignedCount = ((List.range' 1 f.numVars).filter fun w => (f.get w).isSome).length := by
  have listed : (List.ofFn fun i : Fin f.numVars => f.get (i + 1)) =
      (List.range' 1 f.numVars).map f.get := by
    apply List.ext_getElem
    · simp
    · intro i _ _
      simp [Nat.add_comm]
  rw [← List.countP_eq_length_filter, assignedCount, ← values_eq_assignment, values,
    ← Array.countP_toList, Array.toList_ofFn, listed, List.countP_map]
  rfl

theorem isComplete_iff (f : Formula) :
    f.isComplete = true ↔ ∀ w, 1 ≤ w → w ≤ f.numVars → (f.get w).isSome := by
  rw [isComplete, beq_iff_eq, assignedCount, Array.countP_eq_size, ← values_eq_assignment, values]
  simp only [Array.mem_ofFn, forall_exists_index, forall_apply_eq_imp_iff]
  constructor
  · intro all w named within
    simpa [Nat.sub_add_cancel named] using all ⟨w - 1, by omega⟩
  · intro all i
    exact all (i + 1) (by omega) i.isLt

theorem change_guards (f : Formula) (v : Nat) (x : Value) (l : Literal) :
    (f.set v x = .error (.variableOutOfRange v f.numVars) ↔ ¬(1 ≤ v ∧ v ≤ f.numVars)) ∧
    ((1 ≤ v ∧ v ≤ f.numVars) → (f.set v x = .error (.invalidValue 0) ↔ x = none)) ∧
    ((1 ≤ v ∧ v ≤ f.numVars) → x ≠ none →
      (f.set v x = .error (.alreadyAssigned v) ↔ (f.get v).isSome)) ∧
    (f.unset v = .error (.variableOutOfRange v f.numVars) ↔ ¬(1 ≤ v ∧ v ≤ f.numVars)) ∧
    ((1 ≤ v ∧ v ≤ f.numVars) → (f.unset v = .error (.notAssigned v) ↔ f.get v = none)) ∧
    f.assign l = f.set l.var (some l.sign) ∧
    (∀ (m : Type → Type) [Monad m] [LogSink m] (e : AssignError),
      (f.set v x = .error e → (f.setM v x : m _) = pure (.error e)) ∧
      (f.unset v = .error e → (f.unsetM v : m _) = pure (.error e)) ∧
      (f.assign l = .error e → (f.assignM l : m _) = pure (.error e))) ∧
    ((∃ g, f.set v x = .ok g) ↔ (1 ≤ v ∧ v ≤ f.numVars) ∧ x ≠ none ∧ f.get v = none) ∧
    (∀ g, f.set v x = .ok g → g.table = f.table ∧ g.get v = x ∧
      (∀ w, w ≠ v → g.get w = f.get w) ∧ g.assignedCount = f.assignedCount + 1) ∧
    ((∃ g, f.unset v = .ok g) ↔ (1 ≤ v ∧ v ≤ f.numVars) ∧ f.get v ≠ none) ∧
    (∀ g, f.unset v = .ok g → g.table = f.table ∧ g.get v = none ∧
      (∀ w, w ≠ v → g.get w = f.get w) ∧ g.assignedCount + 1 = f.assignedCount) ∧
    f.assignedCount = ((List.range' 1 f.numVars).filter fun w => (f.get w).isSome).length ∧
    (f.isComplete = true ↔ ∀ w, 1 ≤ w → w ≤ f.numVars → (f.get w).isSome) := by
  refine ⟨set_eq_outside_iff f v x, set_eq_invalid_iff f v x, set_eq_assigned_iff f v x,
    unset_eq_outside_iff f v, unset_eq_free_iff f v, rfl, ?_, ?_, fun g => set_accepted f v g x, ?_,
    unset_accepted f v, assignedCount_eq f, isComplete_iff f⟩
  · intro m _ _ e
    exact ⟨setM_of_error f v x e, unsetM_of_error f v e, setM_of_error f l.var (some l.sign) e⟩
  · simp [set_eq_ok_iff]
  · simp [unset_eq_ok_iff]

theorem table_of_ofCnf (c : Cnf) (f : Formula) (built : ofCnf c = .ok f) :
    Incidence.ofCnf c = .ok f.table := by
  unfold ofCnf at built
  cases table : Incidence.ofCnf c with
  | error e => simp [table, Except.map] at built
  | ok t =>
      simp only [table, Except.map, Except.ok.injEq] at built
      rw [← built]

theorem exists_ofCnf_eq_ok (c : Cnf) (wellFormed : c.WellFormed) : ∃ f, ofCnf c = .ok f := by
  have table := (Incidence.ofCnf_eq_ok_iff c (Incidence.build c)).mpr ⟨wellFormed, rfl⟩
  simp [ofCnf, table, Except.map]

/-- A formula over the table of a well-formed CNF keeps the CNF's clause-by-clause status of
its variables' values. -/
theorem status_eq_cnf_status (c : Cnf) (g : Formula) (wellFormed : c.WellFormed)
    (table : g.table = Incidence.build c) : g.status = Cnf.status g.values c := by
  have sized : g.assignment.size = c.numVars := by
    rw [size_assignment, numVars, table, Incidence.numVars_build]
  rw [g.status_eq, table, values_eq_assignment, evaluate_build c wellFormed _ sized]

/-- A change asked of a formula's assignment. -/
inductive Edit where
  | set (v : Nat) (x : Value)
  | unset (v : Nat)
  | assign (l : Literal)
  deriving DecidableEq, Repr

/-- One change: the formula it leads to, or why it is refused. -/
def edit (f : Formula) : Edit → Except AssignError Formula
  | .set v x => f.set v x
  | .unset v => f.unset v
  | .assign l => f.assign l

/-- The formula after a run of changes; a refused change leaves the formula as it was. -/
def replay (f : Formula) : List Edit → Formula
  | [] => f
  | e :: es =>
    match f.edit e with
    | .ok g => g.replay es
    | .error _ => f.replay es

theorem table_edit (f g : Formula) (e : Edit) (accepted : f.edit e = .ok g) :
    g.table = f.table := by
  cases e with
  | set v x => exact (set_accepted f v g x accepted).1
  | unset v => exact (unset_accepted f v g accepted).1
  | assign l => exact (set_accepted f l.var g _ accepted).1

theorem table_replay (f : Formula) (es : List Edit) : (f.replay es).table = f.table := by
  induction es generalizing f with
  | nil => rfl
  | cons e es ih =>
      cases accepted : f.edit e with
      | ok g => rw [replay, accepted, ih g, table_edit f g e accepted]
      | error _ => rw [replay, accepted, ih f]

theorem status_tracks_clauses (c : Cnf) (f : Formula) (built : ofCnf c = .ok f) :
    (∀ t a, Incidence.ofCnf c = .ok t → a.size = c.numVars → t.evaluate a = Cnf.status a c) ∧
    (∀ es, (f.replay es).status = Cnf.status (f.replay es).values c) ∧
    (∀ es e g, (f.replay es).edit e = .ok g → g.status = Cnf.status g.values c) := by
  obtain ⟨wellFormed, table⟩ := (Incidence.ofCnf_eq_ok_iff c f.table).mp (table_of_ofCnf c f built)
  refine ⟨fun t a accepted sized => ?_, fun es => ?_, fun es e g accepted => ?_⟩
  · obtain ⟨-, rfl⟩ := (Incidence.ofCnf_eq_ok_iff c t).mp accepted
    exact evaluate_build c wellFormed a sized
  · exact status_eq_cnf_status c _ wellFormed (by rw [table_replay, table])
  · exact status_eq_cnf_status c g wellFormed
      (by rw [table_edit _ g e accepted, table_replay, table])

theorem xor_pair_status_tracks_clauses :
    ∃ f, ofCnf ⟨2, [[⟨1, true⟩, ⟨2, true⟩], [⟨1, false⟩, ⟨2, false⟩]]⟩ = .ok f ∧
      (∀ t a, Incidence.ofCnf ⟨2, [[⟨1, true⟩, ⟨2, true⟩], [⟨1, false⟩, ⟨2, false⟩]]⟩ = .ok t →
        a.size = 2 →
        t.evaluate a = Cnf.status a ⟨2, [[⟨1, true⟩, ⟨2, true⟩], [⟨1, false⟩, ⟨2, false⟩]]⟩) ∧
      (∀ es, (f.replay es).status =
        Cnf.status (f.replay es).values ⟨2, [[⟨1, true⟩, ⟨2, true⟩], [⟨1, false⟩, ⟨2, false⟩]]⟩) ∧
      (∀ es e g, (f.replay es).edit e = .ok g →
        g.status = Cnf.status g.values ⟨2, [[⟨1, true⟩, ⟨2, true⟩], [⟨1, false⟩, ⟨2, false⟩]]⟩) := by
  obtain ⟨f, built⟩ := exists_ofCnf_eq_ok ⟨2, [[⟨1, true⟩, ⟨2, true⟩], [⟨1, false⟩, ⟨2, false⟩]]⟩
    (by decide)
  exact ⟨f, built, status_tracks_clauses _ f built⟩

end Formula

end PartialCnf
