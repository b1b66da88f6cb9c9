import PartialCnf.Incidence

/-!
A formula with a partial assignment of its variables. The clauses are fixed when the formula
is built from a CNF; setting and unsetting variables changes only the assignment, and the
status is the table's evaluation of it. Each change checks, in this order, that the variable is
in `1..numVars`, that a value is given, and that the variable is not already assigned (or, to
unset it, that it is).
-/

namespace PartialCnf

/-- Why a variable cannot be given or cleared of a value. -/
inductive AssignError where
  | variableOutOfRange (var numVars : Nat)
  | invalidValue (value : Int)
  | alreadyAssigned (var : Nat)
  | notAssigned (var : Nat)
  deriving DecidableEq, Repr

def AssignError.message : AssignError → String
  | .variableOutOfRange v n => "variable " ++ toString v ++ " out of range 1..=" ++ toString n
  | .invalidValue x => "value " ++ toString x ++ " is not -1 or 1"
  | .alreadyAssigned v => "variable " ++ toString v ++ " is already assigned"
  | .notAssigned v => "variable " ++ toString v ++ " is not assigned"

def Value.ofInt (x : Int) : Except AssignError Value :=
  match Value.ofInt? x with
  | some v => .ok v
  | none => .error (.invalidValue x)

def Value.name : Value → String
  | some true => "True"
  | some false => "False"
  | none => "Unassigned"

/-- A formula's incidence table, an assignment of one value per variable, and the status the
table gives that assignment, kept so that reading it costs nothing. -/
structure Formula where
  table : Incidence
  assignment : Assignment
  status : Status
  size_eq : assignment.size = table.numVars
  status_eq : status = table.evaluate assignment

namespace Formula

/-- The formula of a CNF with nothing assigned, or the first fault of its clauses. -/
def ofCnf (f : Cnf) : Except Dimacs.FormatError Formula :=
  (Incidence.ofCnf f).map fun t =>
    ⟨t, Array.replicate t.numVars none, t.evaluate (Array.replicate t.numVars none), Array.size_replicate, rfl⟩

def numVars (f : Formula) : Nat := f.table.numVars

def numClauses (f : Formula) : Nat := f.table.numClauses

def inRange (f : Formula) (v : Nat) : Bool := 1 ≤ v && v ≤ f.numVars

/-- The value of variable `v`; unassigned outside `1..numVars`. -/
def get (f : Formula) (v : Nat) : Value :=
  if f.inRange v then (f.assignment[v - 1]?).join else none

def write (f : Formula) (v : Nat) (x : Value) : Formula :=
  let a := f.assignment.setIfInBounds (v - 1) x
  ⟨f.table, a, f.table.evaluate a, by rw [Array.size_setIfInBounds]; exact f.size_eq, rfl⟩

/-- Gives variable `v` a value. -/
def set (f : Formula) (v : Nat) (x : Value) : Except AssignError Formula :=
  if !f.inRange v then .error (.variableOutOfRange v f.numVars)
  else if x.isNone then .error (.invalidValue 0)
  else if (f.get v).isSome then .error (.alreadyAssigned v)
  else .ok (f.write v x)

/-- Clears the value of variable `v`. -/
def unset (f : Formula) (v : Nat) : Except AssignError Formula :=
  if !f.inRange v then .error (.variableOutOfRange v f.numVars)
  else if (f.get v).isNone then .error (.notAssigned v)
  else .ok (f.write v none)

/-- Makes a literal true by setting its variable to its sign. -/
def assign (f : Formula) (l : Literal) : Except AssignError Formula :=
  f.set l.var (some l.sign)

def assignedCount (f : Formula) : Nat := f.assignment.countP Option.isSome

def isComplete (f : Formula) : Bool := f.assignedCount == f.assignment.size

end Formula

end PartialCnf
