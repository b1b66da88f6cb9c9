import PartialCnf.Formula
import PartialCnf.Dimacs.File

/-!
Formulas that report. Building a formula logs its counts and status at debug level; each
successful change of the assignment logs the variable, its new value and the new status at
trace level. A failed step logs nothing and changes nothing.
-/

namespace PartialCnf

namespace Formula

def target : String := "cnfstate::engine::formula"

def readyRecord (f : Formula) : Log.Record :=
  ⟨.debug, target, "formula ready: vars=" ++ toString f.numVars ++ " clauses=" ++ toString f.numClauses ++
    " value=" ++ f.status.describe⟩

def setRecord (v : Nat) (x : Value) (s : Status) : Log.Record :=
  ⟨.trace, target, "set x" ++ toString v ++ " := " ++ x.name ++ " -> " ++ s.describe⟩

def unsetRecord (v : Nat) (s : Status) : Log.Record :=
  ⟨.trace, target, "unset x" ++ toString v ++ " -> " ++ s.describe⟩

variable {m : Type → Type} [Monad m] [LogSink m]

def ofCnfM (c : Cnf) : m (Except Dimacs.FormatError Formula) := do
  match ofCnf c with
  | .error e => pure (.error e)
  | .ok f => LogSink.emit f.readyRecord; pure (.ok f)

/-- Builds the formula in a DIMACS file and reports both the file and the formula. -/
def openFile [FileSystem m] (path : String) : m (Except Dimacs.FormatError Formula) := do
  match ← Dimacs.readCnf path with
  | .error e => pure (.error e)
  | .ok c => ofCnfM c

/-- Sets a variable and reports the new status. -/
def setM (f : Formula) (v : Nat) (x : Value) : m (Except AssignError Formula) := do
  match f.set v x with
  | .error e => pure (.error e)
  | .ok g => LogSink.emit (setRecord v x g.status); pure (.ok g)

/-- Clears a variable and reports the new status. -/
def unsetM (f : Formula) (v : Nat) : m (Except AssignError Formula) := do
  match f.unset v with
  | .error e => pure (.error e)
  | .ok g => LogSink.emit (unsetRecord v g.status); pure (.ok g)

def assignM (f : Formula) (l : Literal) : m (Except AssignError Formula) :=
  f.setM l.var (some l.sign)

end Formula

end PartialCnf
