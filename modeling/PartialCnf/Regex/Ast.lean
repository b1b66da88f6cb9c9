/-!
The syntax tree of a regular expression, with the places in the pattern that error messages
point at. A position counts characters from the start and holds the line and column it is on;
a span runs from one position up to another.

The tree keeps what the later stages need: literals with how they were written, classes in
brackets with their set operations, repetitions, groups with their flags, and the flag
directives that change the rest of a group.
-/

namespace PartialCnf

namespace Regex

/-- A place in a pattern: characters before it, and its line and column, both from 1. -/
structure Position where
  offset : Nat
  line : Nat
  column : Nat
  deriving DecidableEq, Repr, Inhabited

/-- The part of a pattern from `start` up to `stop`. -/
structure Span where
  start : Position
  stop : Position
  deriving DecidableEq, Repr, Inhabited

def Span.at (p : Position) : Span := ⟨p, p⟩

def Span.oneLine (s : Span) : Bool := s.start.line == s.stop.line

def Span.le (a b : Span) : Bool :=
  a.start.offset < b.start.offset || (a.start.offset == b.start.offset && a.stop.offset ≤ b.stop.offset)

inductive Flag where
  | caseInsensitive
  | multiLine
  | dotAll
  | swapGreed
  | unicode
  | crlf
  | ignoreSpace
  deriving DecidableEq, Repr

inductive FlagItem where
  | negation
  | flag (f : Flag)
  deriving DecidableEq, Repr

/-- The flags of a group or directive, each with its span, in order. -/
abbrev Flags := List (Span × FlagItem)

def flagState (flags : Flags) (f : Flag) : Option Bool :=
  (flags.foldl (fun (acc : Bool × Option Bool) item =>
    match item.2 with
    | .negation => (false, acc.2)
    | .flag g => if g = f then (acc.1, some acc.1) else acc) (true, none)).2

/-- How a literal was written: `\xNN` can stand for a byte, every other form for a character. -/
inductive LiteralForm where
  | plain
  | byteEscape
  deriving DecidableEq, Repr

/-- A character of the pattern. -/
structure Literal where
  span : Span
  form : LiteralForm := .plain
  char : Char
  deriving DecidableEq, Repr

def Literal.byte? (l : Literal) : Option Nat :=
  if l.form = .byteEscape ∧ l.char.toNat ≤ 0xFF then some l.char.toNat else none

/-- A zero-width assertion. -/
inductive Assertion where
  | startLine
  | endLine
  | startText
  | endText
  | wordBoundary
  | notWordBoundary
  | wordStart
  | wordEnd
  | wordStartHalf
  | wordEndHalf
  deriving DecidableEq, Repr

inductive AsciiClass where
  | alnum | alpha | ascii | blank | cntrl | digit | graph
  | lower | print | punct | space | upper | word | xdigit
  deriving DecidableEq, Repr

def AsciiClass.ofName? : String → Option AsciiClass
  | "alnum" => some .alnum
  | "alpha" => some .alpha
  | "ascii" => some .ascii
  | "blank" => some .blank
  | "cntrl" => some .cntrl
  | "digit" => some .digit
  | "graph" => some .graph
  | "lower" => some .lower
  | "print" => some .print
  | "punct" => some .punct
  | "space" => some .space
  | "upper" => some .upper
  | "word" => some .word
  | "xdigit" => some .xdigit
  | _ => none

inductive PerlClass where
  | digit
  | space
  | word
  deriving DecidableEq, Repr

inductive PropertyQuery where
  | oneLetter (c : Char)
  | named (name : String)
  | namedValue (name value : String)
  deriving DecidableEq, Repr

inductive ClassOp where
  | intersection
  | difference
  | symmetricDifference
  deriving DecidableEq, Repr

mutual

inductive ClassItem where
  | empty (span : Span)
  | literal (lit : Literal)
  | range (span : Span) (lo hi : Literal)
  | ascii (span : Span) (kind : AsciiClass) (negated : Bool)
  | property (span : Span) (negated : Bool) (query : PropertyQuery)
  | perl (span : Span) (kind : PerlClass) (negated : Bool)
  | bracketed (span : Span) (negated : Bool) (set : ClassSet)
  | union (span : Span) (items : List ClassItem)
  deriving Repr

/-- The contents of a bracketed class: items, or a set operation between two contents. -/
inductive ClassSet where
  | item (i : ClassItem)
  | op (span : Span) (kind : ClassOp) (lhs rhs : ClassSet)
  deriving Repr

end

def ClassItem.span : ClassItem → Span
  | .empty s | .range s _ _ | .ascii s _ _ | .property s _ _ | .perl s _ _ | .bracketed s _ _
  | .union s _ => s
  | .literal l => l.span

def ClassSet.span : ClassSet → Span
  | .item i => i.span
  | .op s _ _ _ => s

inductive Repeat where
  | zeroOrOne
  | zeroOrMore
  | oneOrMore
  | exactly (n : Nat)
  | atLeast (n : Nat)
  | between (m n : Nat)
  deriving DecidableEq, Repr

/-- What a group is: capturing, by its number and possibly a name, or not capturing and possibly
with flags. Capture groups are numbered from one in the order they open. -/
inductive GroupKind where
  | numbered (index : Nat)
  | named (index : Nat) (name : String)
  | plain (flags : Flags)
  deriving DecidableEq, Repr

/-- A regular expression as written, each part with the span it covers. -/
inductive Ast where
  | empty (span : Span)
  | setFlags (span : Span) (flags : Flags)
  | literal (lit : Literal)
  | dot (span : Span)
  | assertion (span : Span) (kind : Assertion)
  | property (span : Span) (negated : Bool) (query : PropertyQuery)
  | perl (span : Span) (kind : PerlClass) (negated : Bool)
  | bracketed (span : Span) (negated : Bool) (set : ClassSet)
  /-- A repetition, greedy unless a `?` follows its operator. -/
  | repetition (span : Span) (count : Repeat) (greedy : Bool) (sub : Ast)
  | group (span : Span) (kind : GroupKind) (sub : Ast)
  | alternation (span : Span) (branches : List Ast)
  | concat (span : Span) (items : List Ast)
  deriving Repr

def Ast.span : Ast → Span
  | .empty s | .setFlags s _ | .dot s | .assertion s _ | .property s _ _ | .perl s _ _
  | .bracketed s _ _ | .repetition s _ _ _ | .group s _ _ | .alternation s _ | .concat s _ => s
  | .literal l => l.span

end Regex

end PartialCnf
