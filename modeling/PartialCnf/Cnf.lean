import PartialCnf.Literal
import PartialCnf.Status

/-!
Formulas in conjunctive normal form, and their value under a partial assignment read clause by
clause. A literal is undetermined when its variable is unassigned or outside the assignment. A
clause is read literal by literal, stopping at the first true one and remembering whether one
was unassigned; a formula clause by clause, stopping at the first falsified one and remembering
whether all were satisfied.
-/

namespace PartialCnf

/-- A clause: a disjunction of literals, in the order they were written. -/
abbrev Clause := List Literal

/-- A formula over the variables `1..numVars`, as a list of clauses. -/
structure Cnf where
  numVars : Nat
  clauses : List Clause
  deriving DecidableEq, Repr

namespace Literal

/-- The value an assignment gives a literal; variable 0 and variables past the end are
unassigned. -/
def valueIn (a : Assignment) (l : Literal) : Value :=
  if l.var = 0 then none else (a[l.var - 1]?).join.map (· == l.sign)

/-- The status of a literal under a partial assignment. -/
def status (a : Assignment) (l : Literal) : Status :=
  Status.ofValue (l.valueIn a)

end Literal

namespace Clause

/-- The status of a clause, its literals taken in order: a true literal satisfies it at once;
past the last literal it is undetermined if one was unassigned, and falsified if not. -/
def status (a : Assignment) (c : Clause) : Status := Id.run do
  let mut anyOpen := false
  for l in c do
    match l.valueIn a with
    | some true => return .satisfied
    | some false => pure ()
    | none => anyOpen := true
  return if anyOpen then .undetermined else .falsified

end Clause

namespace Cnf

def numClauses (f : Cnf) : Nat :=
  f.clauses.length

def maxWidth (f : Cnf) : Nat :=
  f.clauses.foldl (fun w c => max w c.length) 0

/-- The status of a formula, its clauses taken in order: a falsified clause decides it at once,
an undetermined one keeps it from being satisfied. -/
def status (a : Assignment) (f : Cnf) : Status :=
  Status.conjoin (Clause.status a) f.clauses

end Cnf

end PartialCnf
