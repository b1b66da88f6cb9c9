import PartialCnf.Cli.Usage
import PartialCnf.Cli.Similarity

/-!
Reading a command line against a grammar. Words are taken from left to right:

* a subcommand name descends into that subcommand, and `help` prints the help of the
  subcommands named after it;
* `--` makes every later word a positional value;
* `--name` or `--name=value` is an option (or the help flag), `-x…` a short flag, unless it
  is a negative number where one is welcome;
* any other word is the value of the option before it, or the next positional value.

A value is checked once the next word is taken (or the line ends), so an error of a value
comes before an error of a later word that is not an argument. At the end the required
arguments must all be there; an unknown word is refused with the closest known name as a
hint, by Jaro similarity.
-/

namespace PartialCnf

namespace Cli

/-- What a refused command line is refused for. -/
inductive Fault where
  | unknownArgument (arg : String)
  | unrecognizedSubcommand (name : String)
  | missingRequired (args : List String)
  | invalidValue (value arg reason : String)
  | missingValue (arg : String)
  | repeated (arg : String)
  | unexpectedValue (value arg : String)
  | missingSubcommand (bin : String) (names : List String)
  deriving DecidableEq, Repr

def Fault.message : Fault → String
  | .unknownArgument a => "unexpected argument '" ++ a ++ "' found"
  | .unrecognizedSubcommand n => "unrecognized subcommand '" ++ n ++ "'"
  | .missingRequired args =>
    "the following required arguments were not provided:" ++ String.join (args.map ("\n  " ++ ·))
  | .invalidValue v a r => "invalid value '" ++ v ++ "' for '" ++ a ++ "': " ++ r
  | .missingValue a => "a value is required for '" ++ a ++ "' but none was supplied"
  | .repeated a => "the argument '" ++ a ++ "' cannot be used multiple times"
  | .unexpectedValue v a => "unexpected value '" ++ v ++ "' for '" ++ a ++ "' found; no more were expected"
  | .missingSubcommand bin names =>
    "'" ++ bin ++ "' requires a subcommand but one was not provided\n  [subcommands: " ++ ", ".intercalate names ++ "]"

/-- A refused command line: the fault, hints, and the usage line to show. -/
structure UsageError where
  fault : Fault
  similarSubcommands : List String := []
  similarArgument : Option String := none
  tips : List String := []
  usage : Option String := none
  tryHelp : Bool := true
  deriving DecidableEq, Repr

def UsageError.render (e : UsageError) : String :=
  let quoted := fun (n : String) => "'" ++ n ++ "'"
  let subTip := match e.similarSubcommands with
    | [] => []
    | [n] => ["tip: a similar subcommand exists: " ++ quoted n]
    | ns => ["tip: some similar subcommands exist: " ++ ", ".intercalate (ns.map quoted)]
  let argTip := (e.similarArgument.map fun a => "tip: a similar argument exists: " ++ quoted a).toList
  let tips := subTip ++ argTip ++ e.tips.map ("tip: " ++ ·)
  let tipText := if tips.isEmpty then "" else "\n" ++ String.join (tips.map ("\n  " ++ ·))
  let usageText := match e.usage with
    | some u => "\n\nUsage: " ++ u
    | none => ""
  "error: " ++ e.fault.message ++ tipText ++ usageText ++
    (if e.tryHelp then "\n\nFor more information, try '--help'.\n" else "\n")

/-- Why reading stopped before the command could run. -/
inductive Stop where
  /-- Help was asked for: printed on standard output. -/
  | help (text : String)
  /-- Nothing was given where a subcommand is needed: the help goes to standard error. -/
  | helpOnMissing (text : String)
  | refused (e : UsageError)
  deriving DecidableEq, Repr

/-- The subcommands taken and the values of the arguments of the last one. -/
structure Invocation where
  path : List String
  values : List (String × List ArgValue)
  deriving DecidableEq, Repr

structure Ctx where
  bin : String
  cmd : Command

inductive Mode where
  | ready
  | option (a : Arg)
  | positional (a : Arg)

/-- The state of reading: the values so far by argument, in the order the arguments were first
given; the argument whose values are not yet checked; what the last word expects; the index of
the next positional argument; and whether `--` was seen. -/
structure Scan where
  matched : List (String × List ArgValue) := []
  pending : Option (Arg × List String) := none
  mode : Mode := .ready
  position : Nat := 1
  trailing : Bool := false

namespace Scan

def has (s : Scan) (id : String) : Bool := s.matched.any (·.1 == id)

def used (s : Scan) : List String := s.matched.map (·.1)

def start (s : Scan) (id : String) : Scan :=
  if s.has id then s else { s with matched := s.matched ++ [(id, [])] }

def add (s : Scan) (id : String) (v : ArgValue) : Scan :=
  { s with matched := s.matched.map fun e => if e.1 == id then (e.1, e.2 ++ [v]) else e }

end Scan

def checkValue (a : Arg) (raw : String) : Except Fault ArgValue :=
  match a.kind with
  | .text => .ok (.text raw)
  | .integer syn bounds =>
    match Text.readInt syn raw.toList with
    | .error e => .error (.invalidValue raw a.display e.message)
    | .ok n =>
      match bounds with
      | some b =>
        if b.lo ≤ n ∧ n ≤ b.hi then .ok (.int n)
        else .error (.invalidValue raw a.display
          (toString n ++ " is not in " ++ toString b.lo ++ "..=" ++ toString b.hi))
      | none => .ok (.int n)

/-- Takes the values of an argument: an option needs one and may be given once. -/
def react (ctx : Ctx) (a : Arg) (raws : List String) (s : Scan) : Scan × Option UsageError :=
  if raws.isEmpty then (s, some { fault := .missingValue a.display })
  else if !a.isPositional && s.has a.id then
    ({ s with matched := s.matched.filter (·.1 != a.id) },
      some { fault := .repeated a.display, usage := some (ctx.cmd.helpUsage ctx.bin) })
  else
    raws.foldl (fun acc raw =>
      match acc.2 with
      | some _ => acc
      | none =>
        match checkValue a raw with
        | .ok v => (acc.1.add a.id v, none)
        | .error f => (acc.1, some { fault := f })) (s.start a.id, none)

def resolve (ctx : Ctx) (s : Scan) : Scan × Option UsageError :=
  match s.pending with
  | none => (s, none)
  | some (a, raws) => react ctx a raws { s with pending := none }

inductive Step where
  | next (s : Scan)
  | descend (s : Scan) (sub : Command)
  | stop (e : Stop)

def refuse (e : UsageError) : Step := .stop (.refused e)

def resolveThen (ctx : Ctx) (s : Scan) (k : Scan → Step) : Step :=
  match resolve ctx s with
  | (_, some e) => refuse e
  | (s, none) => k s

def passTip (a : String) : String :=
  "to pass '" ++ a ++ "' as a value, use '-- " ++ a ++ "'"

def flagLike (a : String) : Bool :=
  a.startsWith "-" && a != "-" && a != "--"

def argError (ctx : Ctx) (a : String) (s : Scan) : UsageError :=
  let usage := some (ctx.cmd.helpUsage ctx.bin)
  if s.trailing && (ctx.cmd.findSub? a).isSome then
    { fault := .unknownArgument a, usage,
      tips := ["subcommand '" ++ a ++ "' exists; to use it, remove the '--' before it"] }
  else
    let trailingTip := !s.trailing && ctx.cmd.hasPositionals && flagLike a
    let candidates := similar a (ctx.cmd.allSubcommands.map (·.name))
    if ctx.cmd.hasSubcommands && !candidates.isEmpty then
      { fault := .unrecognizedSubcommand a, similarSubcommands := candidates, usage,
        tips := if trailingTip then ["to pass '" ++ a ++ "' as a value, use '" ++ ctx.bin ++ " -- " ++ a ++ "'"] else [] }
    else if ctx.cmd.hasSubcommands && !ctx.cmd.hasPositionals then
      { fault := .unrecognizedSubcommand a, usage }
    else
      { fault := .unknownArgument a, usage, tips := if trailingTip then [passTip a] else [] }

def startPositional (ctx : Ctx) (p : Arg) (a : String) (s : Scan) : Step :=
  resolveThen ctx s fun s =>
    let s := { s with pending := some (p, [a]) }
    if p.many then .next { s with mode := .positional p }
    else .next { s with mode := .ready, position := s.position + 1 }

/-- A word that is a positional value. Values of a positional argument that takes many are
gathered unchecked until another argument or the end of the line comes. -/
def positionalStep (ctx : Ctx) (a : String) (s : Scan) : Step :=
  match ctx.cmd.positionalAt? s.position with
  | some p =>
    match s.pending with
    | some (q, vs) =>
      if q.id == p.id && p.many then .next { s with pending := some (p, vs ++ [a]), mode := .positional p }
      else startPositional ctx p a s
    | none => startPositional ctx p a s
  | none => refuse (argError ctx a (resolve ctx s).1)

def valueStep (ctx : Ctx) (a : String) (s : Scan) : Step :=
  match s.mode, s.pending with
  | .option _, some (p, vs) => .next { s with pending := some (p, vs ++ [a]), mode := .ready }
  | _, _ => positionalStep ctx a s

/-- The refusal of an unknown long flag, with the most similar long name of the command, or
else of a subcommand named later on the line. -/
def unknownLong (ctx : Ctx) (name : String) (rest : List String) (s : Scan) : UsageError :=
  let flag := "--" ++ name
  match (similar name ctx.cmd.longs).getLast? with
  | some cand =>
    let s := if cand == "help" then s.start "help" else
      match ctx.cmd.option? cand with
      | some o => s.start o.id
      | none => s
    { fault := .unknownArgument flag, similarArgument := some ("--" ++ cand),
      usage := some (ctx.cmd.usage ctx.bin s.used) }
  | none =>
    let nearby := ctx.cmd.allSubcommands.filterMap fun sub =>
      match (similar name sub.longs).getLast?, rest.idxOf? sub.name with
      | some cand, some i => some (i, sub.name, cand)
      | _, _ => none
    let best := nearby.foldl (fun b x =>
      match b with
      | some y => if x.1 < y.1 then some x else b
      | none => some x) none
    let trailingTip := best.isNone && !s.trailing && ctx.cmd.hasPositionals
    { fault := .unknownArgument flag, usage := some (ctx.cmd.usage ctx.bin s.used),
      tips := (if trailingTip then [passTip flag] else []) ++
        (best.map fun b => "'" ++ b.2.1 ++ " --" ++ b.2.2 ++ "' exists").toList }

def longStep (ctx : Ctx) (a : String) (rest : List String) (s : Scan) : Step :=
  let body := a.toList.drop 2
  let name := String.ofList (body.takeWhile (· != '='))
  let attached := match body.dropWhile (· != '=') with
    | [] => none
    | _ :: v => some (String.ofList v)
  if name == "help" && ctx.cmd.helpFlag then
    match attached with
    | some v =>
      let given := (ctx.cmd.withGroup s.used).filter fun id => !(ctx.cmd.arg? id).any (·.required)
      refuse { fault := .unexpectedValue v "--help", usage := some (ctx.cmd.usage ctx.bin (given ++ ["help"])) }
    | none => resolveThen ctx s fun _ => .stop (.help (ctx.cmd.helpText ctx.bin))
  else
    match ctx.cmd.option? name with
    | some o =>
      match attached with
      | some v =>
        resolveThen ctx s fun s =>
          match react ctx o [v] s with
          | (_, some e) => refuse e
          | (s, none) => .next { s with mode := .ready }
      | none => resolveThen ctx s fun s => .next { s with pending := some (o, []), mode := .option o }
    | none => refuse (unknownLong ctx name rest (resolve ctx s).1)

/-- Whether the text after a `-` reads as a number: digits with at most one point after the first
character and at most one exponent mark `e` or `E` after the first character, not last and
not before the point. -/
def looksNumeric (cs : List Char) : Bool :=
  let step := fun (st : Option (Bool × Option Nat)) (ci : Char × Nat) =>
    match st with
    | none => none
    | some (dot, e) =>
      let c := ci.1
      let i := ci.2
      if c.isDigit then some (dot, e)
      else if c == '.' && !dot && e.isNone && 0 < i then some (true, e)
      else if (c == 'e' || c == 'E') && e.isNone && 0 < i then some (dot, some i)
      else none
  match cs.zipIdx.foldl step (some (false, none)) with
  | none => false
  | some (_, none) => true
  | some (_, some i) => i + 1 < cs.length

def shortStep (ctx : Ctx) (a : String) (s : Scan) : Step :=
  let flags := a.toList.drop 1
  let negative := looksNumeric flags
  let hyphenValue := match s.mode with
    | .option o => o.negativeNumbers && negative
    | .positional o => o.negativeNumbers && negative
    | .ready => false
  let atPosition := (ctx.cmd.positionalAt? s.position).any (·.negativeNumbers) && negative
  if hyphenValue || atPosition then valueStep ctx a s
  else
    let c := flags.headD '-'
    if c == 'h' && ctx.cmd.helpFlag then resolveThen ctx s fun _ => .stop (.help (ctx.cmd.helpText ctx.bin))
    else
      let s := (resolve ctx s).1
      let flag := String.ofList ['-', c]
      refuse {
        fault := .unknownArgument flag, usage := some (ctx.cmd.helpUsage ctx.bin),
        tips := if !s.trailing && ctx.cmd.hasPositionals then [passTip flag] else [] }

def helpWalk : String → Command → List String → Stop
  | bin, c, [] => .help (c.helpText bin)
  | bin, c, n :: ns =>
    match c.findSub? n with
    | some sub => helpWalk (bin ++ " " ++ sub.name) sub ns
    | none => .refused { fault := .unrecognizedSubcommand n, usage := some (c.helpUsage bin), tryHelp := c.helpFlag }

/-- What one word does, given the words after it. -/
def step (ctx : Ctx) (a : String) (rest : List String) (s : Scan) : Step :=
  if s.trailing then positionalStep ctx a s
  else
    let sub := match s.mode with
      | .positional _ => none
      | _ => ctx.cmd.findSub? a
    match sub with
    | some sub => if sub.name == "help" then .stop (helpWalk ctx.bin ctx.cmd rest) else .descend s sub
    | none =>
      if a == "--" then .next { s with trailing := true }
      else if a.startsWith "--" then longStep ctx a rest s
      else if a.startsWith "-" && a.length ≥ 2 then shortStep ctx a s
      else valueStep ctx a s

/-- Reads words until they end or a subcommand is named; a subcommand comes with the words
after it. -/
def scan (ctx : Ctx) : (args : List String) → Scan →
    Except Stop (Scan × Option (Command × { r : List String // r.length < args.length }))
  | [], s => .ok (s, none)
  | a :: rest, s =>
    match step ctx a rest s with
    | .next s =>
      (scan ctx rest s).map fun r =>
        (r.1, r.2.map fun d => (d.1, ⟨d.2.1, Nat.lt_succ_of_lt d.2.2⟩))
    | .descend s sub => .ok (s, some (sub, ⟨rest, Nat.lt_succ_self _⟩))
    | .stop e => .error e

def missingError (ctx : Ctx) (s : Scan) : Option UsageError :=
  let missing := (ctx.cmd.args.filter fun a => a.required && !s.has a.id).map (·.id)
  if missing.isEmpty then none
  else some {
    fault := .missingRequired (ctx.cmd.missingList missing),
    usage := some (ctx.cmd.usage ctx.bin (s.used ++ missing)) }

def withDefaults (c : Command) (matched : List (String × List ArgValue)) : List (String × List ArgValue) :=
  matched ++ c.args.filterMap fun a =>
    if matched.any (·.1 == a.id) then none
    else a.default.bind fun d => (checkValue a d).toOption.map fun v => (a.id, [v])

/-- The checks of a command once its words are read. -/
def finish (ctx : Ctx) (path : List String) (s : Scan) : Except Stop Invocation :=
  match resolve ctx s with
  | (_, some e) => .error (.refused e)
  | (s, none) =>
    if ctx.cmd.hasSubcommands then
      if s.matched.isEmpty then .error (.helpOnMissing (ctx.cmd.helpText ctx.bin))
      else .error (.refused {
        fault := .missingSubcommand ctx.bin (ctx.cmd.allSubcommands.map (·.name)),
        usage := some (ctx.cmd.helpUsage ctx.bin) })
    else match missingError ctx s with
      | some e => .error (.refused e)
      | none => .ok { path, values := withDefaults ctx.cmd s.matched }

def parseIn (bin : String) (cmd : Command) (path : List String) (args : List String) : Except Stop Invocation :=
  match scan ⟨bin, cmd⟩ args {} with
  | .error e => .error e
  | .ok (_, some (sub, ⟨rest, _⟩)) => parseIn (bin ++ " " ++ sub.name) sub (path ++ [sub.name]) rest
  | .ok (s, none) => finish ⟨bin, cmd⟩ path s
termination_by args.length

/-- Reads a command line against a command. -/
def parse (cmd : Command) (args : List String) : Except Stop Invocation :=
  parseIn cmd.name cmd [] args

namespace Invocation

def get (inv : Invocation) (id : String) : List ArgValue :=
  ((inv.values.find? (·.1 == id)).map (·.2)).getD []

def text (inv : Invocation) (id : String) : String :=
  match inv.get id with
  | .text s :: _ => s
  | _ => ""

def ints (inv : Invocation) (id : String) : List Int :=
  (inv.get id).filterMap fun
    | .int n => some n
    | .text _ => none

def int (inv : Invocation) (id : String) : Int :=
  (inv.ints id).headD 0

end Invocation

end Cli

end PartialCnf
