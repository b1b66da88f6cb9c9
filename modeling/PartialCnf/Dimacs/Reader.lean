import PartialCnf.Cnf
import PartialCnf.Dimacs.Error
import PartialCnf.Dimacs.Lines
import PartialCnf.Text.Blank
import PartialCnf.Text.Numeral
import Std.Data.HashSet

/-!
The strict DIMACS reader. Lines are taken one at a time:

* a line whose first character is `c` is a comment, even before blanks are trimmed;
* a line of blanks only is skipped;
* a trimmed line starting with `p` is the header `p cnf <vars> <clauses>`, exactly four words,
  the counts unsigned 32- and 64-bit numerals; a second header is refused;
* any other line before the header is refused;
* otherwise each word is a 64-bit numeral: `0` closes the current clause, which must not be
  empty, and any other value is a literal whose variable lies in `1..vars` and does not occur
  earlier in the same clause.

Clauses may span lines. At the end the header must have been seen, no clause may be left open,
and the count of clauses must be the one the header declares.
-/

namespace PartialCnf

namespace Dimacs

structure Header where
  numVars : Nat
  numClauses : Nat
  deriving DecidableEq, Repr

def readHeader (cs : List Char) : Option Header :=
  match Text.words cs with
  | [['p'], ['c', 'n', 'f'], vars, clauses] => do
    let v ← Text.readInt? .word32 vars
    let c ← Text.readInt? .word64 clauses
    pure ⟨v.toNat, c.toNat⟩
  | _ => none

/-- What the reader knows after some lines: the header, the completed clauses, and the open
clause with the set of its variables. -/
structure Progress where
  header : Option Header := none
  clauses : Array Clause := #[]
  current : Array Literal := #[]
  seen : Std.HashSet Nat := {}

namespace Progress

/-- Takes one word of a clause line, under a header of `numVars` variables. -/
def token (numVars line : Nat) (p : Progress) (word : List Char) : Except FormatError Progress :=
  match Text.readInt? .int64 word with
  | none => .error (.invalidToken line (String.ofList word))
  | some v =>
    let clause := p.clauses.size + 1
    if v = 0 then
      if p.current.isEmpty then .error (.emptyClause clause)
      else .ok { p with clauses := p.clauses.push p.current.toList, current := #[], seen := {} }
    else
      match Literal.ofDimacs? v with
      | some l =>
        if numVars < l.var then .error (.literalOutOfRange clause v numVars)
        else if p.seen.contains l.var then .error (.duplicateVariable clause l.var)
        else .ok { p with current := p.current.push l, seen := p.seen.insert l.var }
      | none => .error (.literalOutOfRange clause v numVars)

/-- Takes one decoded line, numbered `line`. -/
def takeLine (line : Nat) (p : Progress) (cs : List Char) : Except FormatError Progress :=
  match cs with
  | 'c' :: _ => .ok p
  | _ =>
    let clean := Text.trim cs
    match clean with
    | [] => .ok p
    | 'p' :: _ =>
      if p.header.isSome then .error (.duplicateHeader line)
      else match readHeader clean with
        | some h => .ok { p with header := some h }
        | none => .error (.invalidHeader line)
    | _ =>
      match p.header with
      | none => .error (.dataBeforeHeader line)
      | some h => (Text.words clean).foldlM (token h.numVars line) p

/-- The formula read, once every line has been taken. -/
def finish (p : Progress) : Except FormatError Cnf :=
  match p.header with
  | none => .error .missingHeader
  | some h =>
    if !p.current.isEmpty then .error .unterminatedClause
    else if p.clauses.size ≠ h.numClauses then .error (.clauseCountMismatch h.numClauses p.clauses.size)
    else .ok ⟨h.numVars, p.clauses.toList⟩

end Progress

def takeLines : Nat → Progress → List (List UInt8) → Except FormatError Progress
  | _, p, [] => .ok p
  | line, p, bytes :: rest =>
    match decodeLine bytes with
    | none => .error (.io .invalidUtf8)
    | some cs =>
      match p.takeLine line cs with
      | .error e => .error e
      | .ok p => takeLines (line + 1) p rest

end Dimacs

namespace Cnf

/-- The formula a DIMACS byte stream holds, or the first fault met in it. -/
def ofDimacs (bytes : List UInt8) : Except Dimacs.FormatError Cnf :=
  (Dimacs.takeLines 1 {} (Dimacs.lines bytes)).bind Dimacs.Progress.finish

def ofDimacsText (s : String) : Except Dimacs.FormatError Cnf :=
  ofDimacs s.toUTF8.toList

end Cnf

end PartialCnf
