import PartialCnf.Text.Numeral

/-!
The grammar of a command line: commands with an about line, subcommands, positional arguments
and options that take one value. Every command but the generated `help` subcommand has the
flag `-h, --help`; every command with subcommands also has the `help` subcommand.
-/

namespace PartialCnf

namespace Cli

/-- How the text of a value is checked, and what it becomes. -/
inductive ValueKind where
  | text
  | integer (range : Text.IntRange) (bounds : Option Text.IntRange)
  deriving DecidableEq, Repr

inductive ArgValue where
  | text (s : String)
  | int (n : Int)
  deriving DecidableEq, Repr

/-- A positional argument (no `long` name) or an option `--long <VALUE>`. -/
structure Arg where
  id : String
  valueName : String
  long : Option String := none
  required : Bool := false
  many : Bool := false
  negativeNumbers : Bool := false
  default : Option String := none
  help : String := ""
  kind : ValueKind := .text
  deriving DecidableEq, Repr

namespace Arg

def isPositional (a : Arg) : Bool := a.long.isNone

/-- The argument as usage lines write it, as a required one or not: `--vars <VARS>`,
`<PATH>`, `[LITS]...`. -/
def form (a : Arg) (required : Bool) : String :=
  match a.long with
  | some l => "--" ++ l ++ " <" ++ a.valueName ++ ">"
  | none =>
    (if required then "<" ++ a.valueName ++ ">" else "[" ++ a.valueName ++ "]") ++
      (if a.many then "..." else "")

def display (a : Arg) : String := a.form a.required

end Arg

/-- A command: its name, about line, arguments in order and subcommands. The arguments of a
subcommand form a group, named by `groupId`, that usage lines may show as one choice. -/
structure Command where
  name : String
  about : String
  args : List Arg := []
  subcommands : List Command := []
  helpFlag : Bool := true
  groupId : Option String := none

def helpCommand : Command where
  name := "help"
  about := "Print this message or the help of the given subcommand(s)"
  args := [{ id := "subcommand", valueName := "COMMAND", many := true, help := "Print help for the subcommand(s)" }]
  helpFlag := false

namespace Command

def allSubcommands (c : Command) : List Command :=
  if c.subcommands.isEmpty then [] else c.subcommands ++ [helpCommand]

def hasSubcommands (c : Command) : Bool := !c.subcommands.isEmpty

def findSub? (c : Command) (name : String) : Option Command :=
  c.allSubcommands.find? (·.name == name)

def positionals (c : Command) : List Arg := c.args.filter Arg.isPositional

def options (c : Command) : List Arg := c.args.filter (!·.isPositional)

def hasPositionals (c : Command) : Bool := c.args.any Arg.isPositional

def positionalAt? (c : Command) (index : Nat) : Option Arg := c.positionals[index - 1]?

def option? (c : Command) (long : String) : Option Arg := c.options.find? (·.long == some long)

/-- The long names, in order, with `help` last when the command has the help flag. -/
def longs (c : Command) : List String :=
  c.options.filterMap Arg.long ++ (if c.helpFlag then ["help"] else [])

def arg? (c : Command) (id : String) : Option Arg := c.args.find? (·.id == id)

def withGroup (c : Command) (ids : List String) : List String :=
  match c.groupId, ids.findIdx? fun id => (c.arg? id).isSome with
  | some g, some i => ids.take (i + 1) ++ [g] ++ ids.drop (i + 1)
  | _, _ => ids

/-- The group as usage lines show it: `<PATH|LITS>`, options with their value. -/
def groupForm (c : Command) : String :=
  "<" ++ "|".intercalate (c.args.map fun a => if a.isPositional then a.valueName else a.form true) ++ ">"

end Command

end Cli

end PartialCnf
