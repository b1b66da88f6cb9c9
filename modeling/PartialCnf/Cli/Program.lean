import PartialCnf.Cli.Parse
import PartialCnf.Cli.Failure
import PartialCnf.Log.Filter
import PartialCnf.Formula.Report
import PartialCnf.Generate

/-!
The `cnfstate` program: `info` prints the counts and status of a DIMACS file, `eval` makes the
given literals true in turn and prints the status after each, and `gen` writes a seeded random
k-CNF. A refused command line exits with status 2, a failed command with status 1. Log records
go to standard error as the directive list (`info` when none is given) lets them through.
-/

namespace PartialCnf

namespace Cli

def infoCommand : Command where
  name := "info"
  about := "Print counts and the value with nothing assigned"
  groupId := some "Info"
  args := [{ id := "path", valueName := "PATH", required := true }]

def evalCommand : Command where
  name := "eval"
  about := "Assign DIMACS literals in order, printing the value after each one"
  groupId := some "Eval"
  args := [
    { id := "path", valueName := "PATH", required := true },
    { id := "lits", valueName := "LITS", many := true, negativeNumbers := true, kind := .integer .int64 none }]

def genCommand : Command where
  name := "gen"
  about := "Write a seeded random k-CNF"
  groupId := some "Gen"
  args := [
    { id := "vars", valueName := "VARS", long := some "vars", required := true, kind := .integer .int64 (some .word32) },
    { id := "clauses", valueName := "CLAUSES", long := some "clauses", required := true, kind := .integer .word64 none },
    { id := "k", valueName := "K", long := some "k", default := some "3", kind := .integer .word64 none },
    { id := "seed", valueName := "SEED", long := some "seed", default := some "1", kind := .integer .word64 none },
    { id := "out", valueName := "OUT", long := some "out", required := true }]

/-- The program's command line. -/
def program : Command where
  name := "cnfstate"
  about := "Load a DIMACS CNF and track its value under a partial assignment"
  subcommands := [infoCommand, evalCommand, genCommand]

/-- What the program is asked to do. -/
inductive Request where
  | info (path : String)
  | eval (path : String) (lits : List Int)
  | gen (vars clauses k seed : Nat) (out : String)
  deriving DecidableEq, Repr

def Request.ofInvocation? (inv : Invocation) : Option Request :=
  match inv.path with
  | ["info"] => some (.info (inv.text "path"))
  | ["eval"] => some (.eval (inv.text "path") (inv.ints "lits"))
  | ["gen"] => some (.gen (inv.int "vars").toNat (inv.int "clauses").toNat (inv.int "k").toNat
      (inv.int "seed").toNat (inv.text "out"))
  | _ => none

/-- How the program ends: its exit status and what it wrote. -/
structure Outcome where
  status : Nat
  stdout : String
  stderr : String
  deriving DecidableEq, Repr

def formatCauses : Dimacs.FormatError → List String
  | .io e => [(Dimacs.FormatError.io e).message, e.message]
  | e => [e.message]

variable {m : Type → Type} [Monad m] [FileSystem m] [LogSink m]

def load (path : String) : m (Except Failure Formula) := do
  match ← Formula.openFile path with
  | .ok f => pure (.ok f)
  | .error e => pure (.error { message := "invalid cnf input: " ++ path, causes := formatCauses e })

def assignedRecord (f : Formula) : Log.Record :=
  ⟨.info, "cnfstate", "assigned " ++ toString f.assignedCount ++ "/" ++ toString f.numVars ++
    " variables, value " ++ f.status.describe⟩

def assignAll (f : Formula) : List Int → String → m (String × Option Failure)
  | [], out => do
    LogSink.emit (assignedRecord f)
    pure (out, none)
  | raw :: rest, out =>
    match Literal.ofDimacs? raw with
    | none => pure (out, some { message := "invalid literal " ++ toString raw })
    | some l => do
      match ← f.assignM l with
      | .error e => pure (out, some { message := "cannot assign literal " ++ toString raw, causes := [e.message] })
      | .ok g => assignAll g rest (out ++ toString raw ++ " -> " ++ toString g.status.toInt ++ "\n")

/-- Carries out a request: what it prints on standard output, and its failure if it fails. -/
def Request.perform : Request → m (String × Option Failure)
  | .info path => do
    match ← load path with
    | .error e => pure ("", some e)
    | .ok f => pure ("vars=" ++ toString f.numVars ++ " clauses=" ++ toString f.numClauses ++ " value=" ++
        toString f.status.toInt ++ "\n", none)
  | .eval path lits => do
    match ← load path with
    | .error e => pure ("", some e)
    | .ok f => if lits.isEmpty then pure ("", some { message := "no literals given" }) else assignAll f lits ""
  | .gen vars clauses k seed out => do
    match Generate.seeded vars clauses k seed.toUInt64 with
    | .error e => pure ("", some { message := e.message })
    | .ok f =>
      match ← Dimacs.writeCnf out f with
      | .error e => pure ("", some { message := "failed to write " ++ out, causes := [e.message] })
      | .ok () => pure ("GEN: wrote " ++ out ++ " | vars=" ++ toString f.numVars ++ " clauses=" ++
          toString f.numClauses ++ " k=" ++ toString k ++ " seed=" ++ toString seed ++ "\n", none)

end Cli

namespace Log

instance {m : Type → Type} [Monad m] : LogSink (StateT (Array Record) m) where
  emit r := modify (·.push r)

end Log

instance {m : Type → Type} {σ : Type} [Monad m] [FileSystem m] : FileSystem (StateT σ m) where
  readBytes path := StateT.lift (FileSystem.readBytes path)
  writeText path text := StateT.lift (FileSystem.writeText path text)

namespace Cli

/-- Runs the program on its arguments, with the directive list of its log if one is given. -/
def run {m : Type → Type} [Monad m] [FileSystem m] (args : List String) (logSpec : Option String) : m Outcome := do
  let (filter, warnings) := Log.Filter.parse (logSpec.getD "info")
  let warn := String.join (warnings.map fun w => "warning: " ++ w ++ ", ignoring it\n")
  match parse program args with
  | .error (.help text) => pure ⟨0, text, warn⟩
  | .error (.helpOnMissing text) => pure ⟨2, "", warn ++ text⟩
  | .error (.refused e) => pure ⟨2, "", warn ++ e.render⟩
  | .ok inv =>
    match Request.ofInvocation? inv with
    | none => pure ⟨0, "", warn⟩
    | some req =>
      let ((out, failure), records) ← (req.perform : StateT (Array Log.Record) m _).run #[]
      let logs := String.join ((records.toList.filter filter.shows).map Log.Record.line)
      match failure with
      | none => pure ⟨0, out, warn ++ logs⟩
      | some f => pure ⟨1, out, warn ++ logs ++ f.render⟩

end Cli

end PartialCnf
