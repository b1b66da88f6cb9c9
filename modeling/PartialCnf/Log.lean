/-!
Log records: a level, the source that emits it, and a message. A monad that can keep records
is a `LogSink`; the library emits a record after reading a file, after building a formula and
after each change of an assignment.
-/

namespace PartialCnf

namespace Log

/-- The severity of a record, from the most to the least severe. -/
inductive Level where
  | error
  | warn
  | info
  | debug
  | trace
  deriving DecidableEq, Repr

namespace Level

def rank : Level → Nat
  | .error => 1
  | .warn => 2
  | .info => 3
  | .debug => 4
  | .trace => 5

def name : Level → String
  | .error => "ERROR"
  | .warn => "WARN"
  | .info => "INFO"
  | .debug => "DEBUG"
  | .trace => "TRACE"

end Level

/-- One log record. -/
structure Record where
  level : Level
  target : String
  message : String
  deriving DecidableEq, Repr

/-- A record as level and message: `DEBUG read a.cnf: vars=2 clauses=2`. -/
def Record.brief (r : Record) : String :=
  r.level.name ++ " " ++ r.message

end Log

/-- A monad that keeps log records. -/
class LogSink (m : Type → Type) where
  emit : Log.Record → m Unit

end PartialCnf
