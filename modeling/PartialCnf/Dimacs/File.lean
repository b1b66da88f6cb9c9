import PartialCnf.Dimacs.Reader
import PartialCnf.Dimacs.Writer
import PartialCnf.Files
import PartialCnf.Log

/-!
DIMACS files: reading one logs its path and counts at debug level once it is read; writing one
replaces the file with the formula's DIMACS text.
-/

namespace PartialCnf

namespace Dimacs

def fileTarget : String := "cnfstate::cnf::dimacs"

def readRecord (path : String) (f : Cnf) : Log.Record :=
  ⟨.debug, fileTarget, "read " ++ path ++ ": vars=" ++ toString f.numVars ++ " clauses=" ++ toString f.numClauses⟩

variable {m : Type → Type} [Monad m] [FileSystem m] [LogSink m]

/-- The formula in the file at `path`. -/
def readCnf (path : String) : m (Except FormatError Cnf) := do
  match ← FileSystem.readBytes path with
  | .error e => pure (.error (.io e))
  | .ok bytes =>
    match Cnf.ofDimacs bytes with
    | .error e => pure (.error e)
    | .ok f => LogSink.emit (readRecord path f); pure (.ok f)

/-- Writes the DIMACS text of a formula to the file at `path`. -/
def writeCnf (path : String) (f : Cnf) : m (Except IoError Unit) :=
  FileSystem.writeText path f.toDimacs

end Dimacs

end PartialCnf
