import PartialCnf.Files

/-!
Why a DIMACS text is refused. Line numbers count every physical line from 1; a clause's number
is the count of clauses completed before it, plus one.
-/

namespace PartialCnf

namespace Dimacs

/-- A fault of a DIMACS text, or of reading it. -/
inductive FormatError where
  | io (e : IoError)
  | missingHeader
  | invalidHeader (line : Nat)
  | duplicateHeader (line : Nat)
  | dataBeforeHeader (line : Nat)
  | invalidToken (line : Nat) (token : String)
  | literalOutOfRange (clause : Nat) (lit : Int) (numVars : Nat)
  | duplicateVariable (clause : Nat) (var : Nat)
  | emptyClause (clause : Nat)
  | unterminatedClause
  | clauseCountMismatch (declared found : Nat)
  deriving DecidableEq, Repr

namespace FormatError

def message : FormatError → String
  | .io e => "failed to read cnf input: " ++ e.message
  | .missingHeader => "missing header, expected: p cnf <vars> <clauses>"
  | .invalidHeader n => "line " ++ toString n ++ ": invalid header, expected: p cnf <vars> <clauses>"
  | .duplicateHeader n => "line " ++ toString n ++ ": second header line"
  | .dataBeforeHeader n => "line " ++ toString n ++ ": clause data before header"
  | .invalidToken n t => "line " ++ toString n ++ ": invalid literal token '" ++ t ++ "'"
  | .literalOutOfRange c l n =>
    "clause " ++ toString c ++ ": literal " ++ toString l ++ " outside declared range 1..=" ++ toString n
  | .duplicateVariable c v => "clause " ++ toString c ++ ": variable " ++ toString v ++ " occurs more than once"
  | .emptyClause c => "clause " ++ toString c ++ ": empty clause"
  | .unterminatedClause => "last clause is missing its terminating 0"
  | .clauseCountMismatch d f => "header declares " ++ toString d ++ " clauses, found " ++ toString f

end FormatError

end Dimacs

end PartialCnf
