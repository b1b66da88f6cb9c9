import PartialCnf.Cli.Grammar

/-!
Usage lines and help text. The usage of a command is its name, `[OPTIONS]` when it has an
optional option, its required options, its positional arguments and `<COMMAND>` when it has
subcommands. Errors show it with the arguments already used added to the required ones, and
then without `[OPTIONS]`. The help text is the about line, the usage, and sections
`Commands:`, `Arguments:` and `Options:`, each in two columns separated by two blanks.
-/

namespace PartialCnf

namespace Cli

namespace Command

def needsOptionsTag (c : Command) : Bool :=
  c.options.any (!·.required)

def optionForm? (c : Command) (id : String) : Option String :=
  if id == "help" && c.helpFlag then some "--help"
  else (c.arg? id).bind fun a => if a.isPositional then none else some (a.form true)

/-- The arguments of a usage line when the arguments `used` count as required: the
required options and the used ones, then the group of all arguments if it is used, then every
positional argument outside that group. -/
def usageArgs (c : Command) (used : List String) : List String :=
  let wanted := (c.args.filter (·.required)).map (·.id) ++ used
  let grouped := c.groupId.any wanted.contains
  let inGroup := fun (id : String) => grouped && (c.arg? id).isSome
  let opts := (wanted.filter fun id => (c.optionForm? id).isSome && !inGroup id).foldl
    (fun seen id => if seen.contains id then seen else seen ++ [id]) []
  opts.filterMap c.optionForm? ++ (if grouped then [c.groupForm] else []) ++
    (c.positionals.filter (!inGroup ·.id)).map fun p => p.form (wanted.contains p.id)

/-- The usage line of a command called `bin`, for arguments `used` so far. -/
def usage (c : Command) (bin : String) (used : List String) : String :=
  let tag := if used.isEmpty && c.needsOptionsTag then ["[OPTIONS]"] else []
  let sub := if c.hasSubcommands then ["<COMMAND>"] else []
  " ".intercalate (bin :: tag ++ c.usageArgs used ++ sub)

def helpUsage (c : Command) (bin : String) : String := c.usage bin []

/-- The missing required arguments as messages list them: options first, then positionals. -/
def missingList (c : Command) (missing : List String) : List String :=
  let args := missing.filterMap c.arg?
  (args.filter (!·.isPositional) ++ args.filter Arg.isPositional).map (·.form true)

end Command

def padRight (s : String) (width : Nat) : String :=
  s ++ String.ofList (List.replicate (width - s.length) ' ')

def columns (rows : List (String × String)) : List String :=
  let width := rows.foldl (fun w r => max w r.1.length) 2
  rows.map fun r => "  " ++ padRight r.1 width ++ "  " ++ r.2

def Arg.helpColumn (a : Arg) : String :=
  match a.default with
  | none => a.help
  | some d => if a.help.isEmpty then "[default: " ++ d ++ "]" else a.help ++ " [default: " ++ d ++ "]"

namespace Command

def optionLines (c : Command) : List String :=
  let rows := c.options.map (fun o => (o.form true, o.helpColumn)) ++
    (if c.helpFlag then [("--help", "Print help")] else [])
  let width := rows.foldl (fun w r => max w r.1.length) 2
  rows.map fun r =>
    let short := if r.1 == "--help" then "-h, " else "    "
    "  " ++ short ++ padRight r.1 width ++ "  " ++ r.2

/-- The help text of a command called `bin`. -/
def helpText (c : Command) (bin : String) : String :=
  let commands := if c.hasSubcommands then
    ["Commands:\n" ++ "\n".intercalate (columns (c.allSubcommands.map fun s => (s.name, s.about)))] else []
  let arguments := if c.hasPositionals then
    ["Arguments:\n" ++ "\n".intercalate (columns (c.positionals.map fun p => (p.display, p.helpColumn)))] else []
  let options := if c.helpFlag || !c.options.isEmpty then ["Options:\n" ++ "\n".intercalate c.optionLines] else []
  let body := c.about ++ "\n\nUsage: " ++ c.helpUsage bin ++ "\n\n" ++ "\n\n".intercalate (commands ++ arguments ++ options)
  body.trimAsciiEnd.toString ++ "\n"

end Command

end Cli

end PartialCnf
