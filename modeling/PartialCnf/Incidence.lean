import PartialCnf.Cnf
import PartialCnf.Dimacs.Error
import Std.Data.HashSet

/-!
The incidence table of a formula: for each variable a row, and in it for each clause the sign
with which the variable occurs there, if it does. Only formulas the reader would accept have a
table: clauses are checked in order, and in each the literals in order, for emptiness, a
variable outside `1..numVars`, and a variable that occurs twice.

The table evaluates a partial assignment variable by variable: each clause keeps a running
status, which a true occurrence makes satisfied and an unassigned one undetermined. The running
statuses are then read in one pass that stops at the first falsified clause.
-/

namespace PartialCnf

open Dimacs (FormatError)

/-- How a variable occurs in a clause. -/
inductive Polarity where
  | negative
  | absent
  | positive
  deriving DecidableEq, Repr

namespace Polarity

def toInt : Polarity → Int
  | .negative => -1
  | .absent => 0
  | .positive => 1

def ofSign (sign : Bool) : Polarity :=
  if sign then .positive else .negative

/-- What a variable's value adds to the status of a clause it occurs in with this polarity:
nothing (the unit `falsified`) when absent or false, `undetermined` while unassigned. -/
def contribution : Polarity → Value → Status
  | .absent, _ => .falsified
  | _, none => .undetermined
  | .positive, some true => .satisfied
  | .negative, some false => .satisfied
  | _, some _ => .falsified

end Polarity

/-- A variable-major table: `rows[v - 1][j]` is how variable `v` occurs in clause `j`. -/
structure Incidence where
  numVars : Nat
  numClauses : Nat
  rows : Array (Array Polarity)
  deriving DecidableEq, Repr

namespace Clause

/-- The first fault of clause number `index` (counted from 1) in a table over `numVars`
variables: `seen` holds the variables of the literals before. -/
def checkLiterals (numVars index : Nat) : Std.HashSet Nat → Clause → Except FormatError Unit
  | _, [] => .ok ()
  | seen, l :: ls =>
    if l.var = 0 ∨ numVars < l.var then .error (.literalOutOfRange index l.toDimacs numVars)
    else if seen.contains l.var then .error (.duplicateVariable index l.var)
    else checkLiterals numVars index (seen.insert l.var) ls

def check (numVars index : Nat) (c : Clause) : Except FormatError Unit :=
  if c.isEmpty then .error (.emptyClause index) else checkLiterals numVars index {} c

end Clause

namespace Incidence

def mark (j : Nat) (rows : Array (Array Polarity)) (c : Clause) : Array (Array Polarity) :=
  c.foldl (fun rows l => rows.modify (l.var - 1) (·.setIfInBounds j (Polarity.ofSign l.sign))) rows

/-- The table of a formula whose clauses are all checked. -/
def build (f : Cnf) : Incidence :=
  let empty := Array.replicate f.numVars (Array.replicate f.numClauses Polarity.absent)
  ⟨f.numVars, f.numClauses, (f.clauses.zipIdx.foldl (fun rows cj => mark cj.2 rows cj.1) empty)⟩

/-- The table of a formula, or the first fault of its clauses. -/
def ofCnf (f : Cnf) : Except FormatError Incidence := do
  for cj in f.clauses.zipIdx do
    Clause.check f.numVars (cj.2 + 1) cj.1
  pure (build f)

def get (t : Incidence) (v j : Nat) : Polarity :=
  ((t.rows[v - 1]?).bind (·[j]?)).getD .absent

/-- The status of a formula from its table, variable by variable. -/
def evaluate (t : Incidence) (a : Assignment) : Status :=
  let start := Array.replicate t.numClauses Status.falsified
  let tallies := (t.rows.zip a).foldl
    (fun ts rx => Array.zipWith (fun s p => s.or (p.contribution rx.2)) ts rx.1) start
  Status.conjoin id tallies.toList

end Incidence

end PartialCnf
