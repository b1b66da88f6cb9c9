import PartialCnf.Log
import PartialCnf.Text.Blank
import PartialCnf.Regex.Automaton

/-!
Which log records are shown, by a directive list such as `info`, `cnfstate=debug`,
`warn,cnfstate::engine=trace` or `debug/pattern`. Each comma-separated part is a level (for every
source), a source prefix (every level), or `prefix=level`; a later part for the same prefix
replaces an earlier one. A record is shown when the longest prefix that matches its source
allows its level, and some part of its message matches the regular expression after `/` if one
is given. Without any directive only errors are shown. Parts that cannot be read, and a regular
expression that cannot be compiled, are reported and skipped.
-/

namespace PartialCnf

namespace Log

/-- A source prefix (none for every source) and the most verbose level rank it allows
(0 allows nothing). -/
structure Directive where
  name : Option String
  level : Nat
  deriving DecidableEq, Repr

/-- Directives from the shortest prefix to the longest, and a pattern for messages. -/
structure Filter where
  directives : List Directive
  pattern : Option Regex.Automaton := none
  deriving DecidableEq, Repr

def levelRank? (s : String) : Option Nat :=
  ["off", "error", "warn", "info", "debug", "trace"].idxOf? (s.map Char.toLower)

def insertDirective (ds : List Directive) (d : Directive) : List Directive :=
  if ds.any (·.name == d.name) then ds.map fun e => if e.name == d.name then d else e
  else ds ++ [d]

def Directive.width (d : Directive) : Nat := (d.name.map String.utf8ByteSize).getD 0

def trimmed (s : String) : String := String.ofList (Text.trim s.toList)

/-- Reads one comma-separated part into the directives, or a warning. -/
def readPart (acc : List Directive × List String) (part : String) : List Directive × List String :=
  let s := trimmed part
  if s.isEmpty then acc
  else match s.splitOn "=" with
    | [p0] =>
      match levelRank? p0 with
      | some l => (insertDirective acc.1 ⟨none, l⟩, acc.2)
      | none => (insertDirective acc.1 ⟨some p0, 5⟩, acc.2)
    | [p0, p1] =>
      let p1 := trimmed p1
      if p1.isEmpty then (insertDirective acc.1 ⟨some p0, 5⟩, acc.2)
      else match levelRank? p1 with
        | some l => (insertDirective acc.1 ⟨some p0, l⟩, acc.2)
        | none => (acc.1, acc.2 ++ ["invalid logging spec '" ++ p1 ++ "'"])
    | _ => (acc.1, acc.2 ++ ["invalid logging spec '" ++ s ++ "'"])

def Filter.build (ds : List Directive) (pattern : Option Regex.Automaton) : Filter :=
  if ds.isEmpty then ⟨[⟨none, 1⟩], pattern⟩
  else ⟨ds.mergeSort fun a b => decide (a.width ≤ b.width), pattern⟩

/-- Reads a directive list: the filter and the warnings for parts that were skipped. -/
def Filter.parse (spec : String) : Filter × List String :=
  match spec.splitOn "/" with
  | _ :: _ :: _ :: _ => (Filter.build [] none, ["invalid logging spec '" ++ spec ++ "' (too many '/'s)"])
  | parts =>
    let read := ((parts.headD "").splitOn ",").foldl readPart ([], [])
    match parts[1]?.map Regex.compile with
    | some (.error e) => (Filter.build read.1 none, read.2 ++ ["invalid regex filter - " ++ e.message])
    | some (.ok a) => (Filter.build read.1 (some a), read.2)
    | none => (Filter.build read.1 none, read.2)

/-- Whether a record is shown. -/
def Filter.shows (f : Filter) (r : Record) : Bool :=
  let matching := f.directives.reverse.find? fun d =>
    match d.name with
    | none => true
    | some n => n.isPrefixOf r.target
  let allowed := match matching with
    | some d => r.level.rank ≤ d.level
    | none => false
  allowed && (f.pattern.map fun p => p.isMatch r.message).getD true

/-- A record as a line of standard error: `[INFO  cnfstate] message`, the level padded to five
characters. A message of several lines has its later lines indented by four blanks. -/
def Record.line (r : Record) : String :=
  "[" ++ r.level.name ++ String.ofList (List.replicate (5 - r.level.name.length) ' ') ++ " " ++ r.target ++
    "] " ++ "\n    ".intercalate (r.message.splitOn "\n") ++ "\n"

end Log

end PartialCnf
