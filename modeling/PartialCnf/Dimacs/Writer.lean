import PartialCnf.Cnf

/-!
DIMACS text of a formula: the header `p cnf <vars> <clauses>`, then one line per clause with
each literal followed by a blank and the terminating `0`. Nothing is checked: variable 0 and
variables past the header are written as they are.
-/

namespace PartialCnf

namespace Dimacs

def headerLine (numVars numClauses : Nat) : String :=
  "p cnf " ++ toString numVars ++ " " ++ toString numClauses ++ "\n"

/-- A clause line: every literal and a blank after it, then `0` and a newline. -/
def clauseLine (c : Clause) : String :=
  c.foldl (fun s l => s ++ toString l.toDimacs ++ " ") "" ++ "0\n"

end Dimacs

namespace Cnf

/-- The DIMACS text of a formula. -/
def toDimacs (f : Cnf) : String :=
  f.clauses.foldl (fun s c => s ++ Dimacs.clauseLine c) (Dimacs.headerLine f.numVars f.numClauses)

end Cnf

end PartialCnf
