/-!
How a failed command reports on standard error: `Error: ` and its message, then, when it has
causes, a blank line, `Caused by:` and each cause indented by four blanks; several causes are
numbered from 0, the number right-aligned in five places. Lines after the first of a cause
keep its indentation.
-/

namespace PartialCnf

namespace Cli

/-- A failure of a command: its message and the causes under it, outermost first. -/
structure Failure where
  message : String
  causes : List String := []
  deriving DecidableEq, Repr

def causeText (number : Option Nat) (text : String) : String :=
  let first := match number with
    | some n => String.ofList (List.replicate (5 - (toString n).length) ' ') ++ toString n ++ ": "
    | none => "    "
  let more := if number.isSome then "       " else "    "
  match text.splitOn "\n" with
  | [] => first
  | l :: ls => first ++ l ++ String.join (ls.map fun x => "\n" ++ more ++ x)

/-- The report of a failure, ending in a newline. -/
def Failure.render (f : Failure) : String :=
  let many := f.causes.length > 1
  let causes := f.causes.zipIdx.map fun ci => "\n" ++ causeText (if many then some ci.2 else none) ci.1
  "Error: " ++ f.message ++ (if f.causes.isEmpty then "" else "\n\nCaused by:" ++ String.join causes) ++ "\n"

end Cli

end PartialCnf
