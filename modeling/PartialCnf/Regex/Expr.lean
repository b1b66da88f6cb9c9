import PartialCnf.Regex.Parse
import PartialCnf.Regex.CharSet

/-!
The meaning of a syntax tree: an expression over sets of characters, assertions, repetitions,
sequences and alternatives. Flags are read in order; a flag directive holds to the end of its
group, across later branches too.

Unicode mode is on unless turned off. Without case tables or Unicode class tables, a Unicode
property, `\d`, `\s`, `\w` and any literal or class under case-insensitive matching are
refused in Unicode mode; with Unicode off, these work on ASCII, and whatever could match a byte
above ASCII (a `.`, a negated class, `\xFF`) is refused, since texts are UTF-8.
-/

namespace PartialCnf

namespace Regex

/-- A zero-width assertion with its meaning fixed by the flags. -/
inductive Look where
  | start
  | finish
  | startLF
  | endLF
  | startCRLF
  | endCRLF
  | wordAscii
  | notWordAscii
  | wordStartAscii
  | wordEndAscii
  | wordStartHalfAscii
  | wordEndHalfAscii
  | wordUnicode
  | notWordUnicode
  | wordStartUnicode
  | wordEndUnicode
  | wordStartHalfUnicode
  | wordEndHalfUnicode
  deriving DecidableEq, Repr

def Look.needsWordTables : Look → Bool
  | .wordUnicode | .notWordUnicode | .wordStartUnicode | .wordEndUnicode
  | .wordStartHalfUnicode | .wordEndHalfUnicode => true
  | _ => false

/-- A regular expression by its meaning, kept in the shape the size of its automaton depends
on: runs of characters, classes and capture groups stay apart. Two alternatives share a
beginning only when it is the same tree, so the tree keeps what tells parts apart even where
the meaning is alike: the number and name of a capture group, the greed of a repetition, and
whether a class is of Unicode characters or of bytes. -/
inductive Expr where
  | empty
  | literal (chars : List Char)
  | chars (domain : Domain) (ranges : List (Nat × Nat))
  | look (l : Look)
  | rep (min : Nat) (max : Option Nat) (greedy : Bool) (sub : Expr)
  | capture (index : Nat) (name : Option String) (sub : Expr)
  | concat (items : List Expr)
  | alt (branches : List Expr)
  deriving Repr

namespace Expr

mutual

def same : Expr → Expr → Bool
  | .empty, .empty => true
  | .literal a, .literal b => a == b
  | .chars d rs, .chars e ts => d == e && rs == ts
  | .look a, .look b => a == b
  | .rep a b g s, .rep c d h t => a == c && b == d && g == h && same s t
  | .capture i n s, .capture j m t => i == j && n == m && same s t
  | .concat xs, .concat ys => sameAll xs ys
  | .alt xs, .alt ys => sameAll xs ys
  | _, _ => false

def sameAll : List Expr → List Expr → Bool
  | [], [] => true
  | x :: xs, y :: ys => same x y && sameAll xs ys
  | _, _ => false

end

mutual

/-- Whether every match of the expression is empty. A class without ranges matches nothing
and so has no longest match: it does not count as zero-width. -/
def zeroWidth : Expr → Bool
  | .empty | .look _ => true
  | .literal _ | .chars _ _ => false
  | .rep _ _ _ sub | .capture _ _ sub => sub.zeroWidth
  | .concat items => allZeroWidth items
  | .alt branches => allZeroWidth branches

def allZeroWidth : List Expr → Bool
  | [] => true
  | e :: rest => e.zeroWidth && allZeroWidth rest

end

/-- A repetition, simplified: a zero-width part repeats at most once, `{0}` is empty and
`{1}` is the part itself. -/
def repeating (lo : Nat) (hi : Option Nat) (greedy : Bool) (e : Expr) : Expr :=
  let (lo, hi) := if e.zeroWidth then (min lo 1, some ((hi.map (min · 1)).getD 1)) else (lo, hi)
  if lo = 0 ∧ hi = some 0 then .empty
  else if lo = 1 ∧ hi = some 1 then e
  else .rep lo hi greedy e

theorem repeating_zero (greedy : Bool) (e : Expr) : repeating 0 (some 0) greedy e = .empty := by
  cases h : e.zeroWidth <;> simp [repeating, h]

def never : Expr := .chars .bytes []

def ofClass (s : CharSet) : Expr :=
  match s.ranges with
  | [] => never
  | [(a, b)] => if a = b then .literal [Char.ofNat a] else .chars s.domain s.ranges
  | _ => .chars s.domain s.ranges

def joinItems : List Expr → List Expr
  | [] => []
  | .empty :: rest => joinItems rest
  | .literal a :: rest =>
    match joinItems rest with
    | .literal b :: more => .literal (a ++ b) :: more
    | more => .literal a :: more
  | e :: rest => e :: joinItems rest

/-- A sequence: inner sequences spliced in, runs joined, empties dropped; no item is the
empty text and one item is itself. -/
def sequence (items : List Expr) : Expr :=
  let flat := items.flatMap fun
    | .concat xs => xs
    | e => [e]
  match joinItems flat with
  | [] => .empty
  | [e] => e
  | xs => .concat xs

def singleChars : List Expr → Option (List Char)
  | [] => some []
  | .literal [c] :: rest => (singleChars rest).map (c :: ·)
  | _ => none

/-- The union of alternatives that are all classes, as a class of Unicode characters. Each
class joins the union in turn, as a set operation: a class of bytes counts by its code points,
which are ASCII. -/
def classUnion : CharSet → List Expr → Option CharSet
  | acc, [] => some acc
  | acc, .chars _ rs :: rest => classUnion (acc.union ⟨.unicode, rs, rs.isEmpty⟩) rest
  | _, _ => none

def sequences : List Expr → Option (List (List Expr))
  | [] => some []
  | .concat xs :: rest => (sequences rest).map (xs :: ·)
  | _ => none

def commonPrefix : List Expr → List Expr → List Expr
  | x :: xs, y :: ys => if same x y then x :: commonPrefix xs ys else []
  | _, _ => []

/-- Alternatives: inner alternatives spliced in; single characters, or classes, become one
class; sequences that all begin alike share that beginning, followed by the alternatives of
what is left. `fuel` bounds the nesting of shared beginnings, each of which shortens the
sequences. -/
def choiceWith : Nat → List Expr → Expr
  | fuel, branches =>
    let flat := branches.flatMap fun
      | .alt xs => xs
      | e => [e]
    match flat with
    | [] => never
    | [e] => e
    | _ =>
      match singleChars flat with
      | some cs => ofClass (CharSet.ofRanges .unicode (cs.map fun c => (c.toNat, c.toNat)))
      | none =>
        match classUnion (CharSet.empty .unicode) flat with
        | some s => ofClass s
        | none =>
          match sequences flat, fuel with
          | some (first :: rest), fuel + 1 =>
            let pre := rest.foldl commonPrefix first
            if pre.isEmpty then .alt flat
            else
              let tails := (first :: rest).map fun xs => sequence (xs.drop pre.length)
              sequence (pre ++ [choiceWith fuel tails])
          | _, _ => .alt flat

mutual

def weight : Expr → Nat
  | .rep _ _ _ sub | .capture _ _ sub => sub.weight + 1
  | .concat items | .alt items => weightAll items + 1
  | _ => 1

def weightAll : List Expr → Nat
  | [] => 0
  | e :: rest => e.weight + weightAll rest

end

/-- Alternatives, simplified as `choiceWith` says. Sharing a beginning takes at least one node
from every alternative, so the number of nodes is fuel enough. -/
def choice (branches : List Expr) : Expr := choiceWith (weightAll branches + 1) branches

mutual

def hasUnicodeWord : Expr → Bool
  | .look l => l.needsWordTables
  | .empty | .literal _ | .chars _ _ => false
  | .rep _ _ _ sub | .capture _ _ sub => sub.hasUnicodeWord
  | .concat items => anyUnicodeWord items
  | .alt branches => anyUnicodeWord branches

def anyUnicodeWord : List Expr → Bool
  | [] => false
  | e :: rest => e.hasUnicodeWord || anyUnicodeWord rest

end

end Expr

/-- The flags in force. -/
structure Mode where
  caseInsensitive : Bool := false
  multiLine : Bool := false
  dotAll : Bool := false
  swapGreed : Bool := false
  unicode : Bool := true
  crlf : Bool := false
  deriving DecidableEq, Repr

def Mode.apply (m : Mode) (flags : Flags) : Mode :=
  let st := flagState flags
  { caseInsensitive := (st .caseInsensitive).getD m.caseInsensitive
    multiLine := (st .multiLine).getD m.multiLine
    dotAll := (st .dotAll).getD m.dotAll
    swapGreed := (st .swapGreed).getD m.swapGreed
    unicode := (st .unicode).getD m.unicode
    crlf := (st .crlf).getD m.crlf }

def Mode.domain (m : Mode) : Domain := if m.unicode then .unicode else .bytes

def refuse {α : Type} (span : Span) (kind : ErrorKind) : Except Error α := .error ⟨kind, span, none⟩

/-- A property name as tables would look it up: without blanks, `_` and `-`, in lower case,
ASCII only and without a leading `is`. -/
def normalizeProperty (name : String) : String :=
  let cs := name.toList
  let isPrefix := cs.length ≥ 2 && (cs.take 2).map Char.toLower = ['i', 's']
  let kept := ((if isPrefix then cs.drop 2 else cs).filter fun c =>
    c.toNat < 0x80 && c ≠ ' ' && c ≠ '_' && c ≠ '-').map Char.toLower
  if isPrefix && kept = ['c'] then "isc" else String.ofList kept

/-- Why a property class is refused: without Unicode mode it is not allowed; with it, the
general-category names `cf`, `sc` and `lc` miss their values and every other name its property. -/
def propertyError (m : Mode) (span : Span) (query : PropertyQuery) : Error :=
  if !m.unicode then ⟨.unicodeNotAllowed, span, none⟩
  else
    let kind := match query with
      | .oneLetter c =>
        if ["cf", "sc", "lc"].contains (normalizeProperty (String.singleton c)) then ErrorKind.unicodePropertyValueNotFound
        else .unicodePropertyNotFound
      | .named n =>
        if ["cf", "sc", "lc"].contains (normalizeProperty n) then .unicodePropertyValueNotFound
        else .unicodePropertyNotFound
      | .namedValue _ _ => .unicodePropertyNotFound
    ⟨kind, span, none⟩

/-- Case folding and negation of a class, in that order. In Unicode mode folding a class that
is not empty needs the case tables; with Unicode off, ASCII letters fold and the result must be
ASCII. -/
def foldAndNegate (m : Mode) (span : Span) (negated : Bool) (cls : CharSet) : Except Error CharSet := do
  if m.unicode then
    let cls ← if m.caseInsensitive then
        if cls.needsCaseTables then refuse span .unicodeCaseUnavailable else pure { cls with folded := true }
      else pure cls
    pure (if negated then cls.negate else cls)
  else
    let cls := if m.caseInsensitive then cls.foldAscii else cls
    let cls := if negated then cls.negate else cls
    if cls.isAscii then pure cls else refuse span .invalidUtf8

def classByte (lit : Literal) : Except Error Nat :=
  match lit.byte? with
  | some b => if b ≤ 0x7F then pure b else refuse lit.span .invalidUtf8
  | none => if lit.char.toNat ≤ 0x7F then pure lit.char.toNat else refuse lit.span .unicodeNotAllowed

def perlBytes (span : Span) (kind : PerlClass) (negated : Bool) : Except Error CharSet :=
  let cls := CharSet.ofRanges .bytes (perlRanges kind)
  let cls := if negated then cls.negate else cls
  if cls.isAscii then pure cls else refuse span .invalidUtf8

mutual

def classItem (m : Mode) (acc : CharSet) : ClassItem → Except Error CharSet
  | .empty _ => pure acc
  | .literal lit => do
    if m.unicode then pure (acc.push (lit.char.toNat, lit.char.toNat))
    else
      let b ← classByte lit
      pure (acc.push (b, b))
  | .range _ lo hi => do
    if m.unicode then pure (acc.push (lo.char.toNat, hi.char.toNat))
    else
      let a ← classByte lo
      let b ← classByte hi
      pure (acc.push (a, b))
  | .ascii span kind negated => do
    let cls ← foldAndNegate m span negated (CharSet.ofRanges m.domain (asciiRanges kind))
    pure (acc.union cls)
  | .property span _ query => .error (propertyError m span query)
  | .perl span kind negated => do
    if m.unicode then refuse span .unicodePerlClassNotFound
    else pure (acc.union (← perlBytes span kind negated))
  | .bracketed span negated set => do
    let inner ← classSet m set
    pure (acc.union (← foldAndNegate m span negated inner))
  | .union _ items => classItems m acc items

def classItems (m : Mode) (acc : CharSet) : List ClassItem → Except Error CharSet
  | [] => pure acc
  | i :: rest => do classItems m (← classItem m acc i) rest

/-- The set of class contents. Under case-insensitive matching both sides of an operation are
folded first, the right side first. -/
def classSet (m : Mode) : ClassSet → Except Error CharSet
  | .item i => classItem m (CharSet.empty m.domain) i
  | .op _ kind lhs rhs => do
    let l ← classSet m lhs
    let r ← classSet m rhs
    let (l, r) ← if !m.caseInsensitive then pure (l, r)
      else if m.unicode then do
        if r.needsCaseTables then refuse rhs.span .unicodeCaseUnavailable
        if l.needsCaseTables then refuse lhs.span .unicodeCaseUnavailable
        pure ({ l with folded := true }, { r with folded := true })
      else pure (l.foldAscii, r.foldAscii)
    let result := match kind with
      | .intersection => l.intersect r
      | .difference => l.difference r
      | .symmetricDifference => l.symmetricDifference r
    pure ((CharSet.empty m.domain).union result)

end

def lookOf (m : Mode) : Assertion → Look
  | .startLine => if m.multiLine then (if m.crlf then .startCRLF else .startLF) else .start
  | .endLine => if m.multiLine then (if m.crlf then .endCRLF else .endLF) else .finish
  | .startText => .start
  | .endText => .finish
  | .wordBoundary => if m.unicode then .wordUnicode else .wordAscii
  | .notWordBoundary => if m.unicode then .notWordUnicode else .notWordAscii
  | .wordStart => if m.unicode then .wordStartUnicode else .wordStartAscii
  | .wordEnd => if m.unicode then .wordEndUnicode else .wordEndAscii
  | .wordStartHalf => if m.unicode then .wordStartHalfUnicode else .wordStartHalfAscii
  | .wordEndHalf => if m.unicode then .wordEndHalfUnicode else .wordEndHalfAscii

/-- The set `.` matches: any character, or any but a line feed (and carriage return in CRLF
mode). With Unicode off it would match any byte, which is refused. -/
def dotSet (m : Mode) (span : Span) : Except Error CharSet :=
  if !m.unicode then refuse span .invalidUtf8
  else if m.dotAll then pure (CharSet.ofRanges .unicode [(0, 0x10FFFF)])
  else if m.crlf then pure (CharSet.ofRanges .unicode [(0x0A, 0x0A), (0x0D, 0x0D)]).negate
  else pure (CharSet.ofRanges .unicode [(0x0A, 0x0A)]).negate

/-- A literal: itself, or the class of both cases of an ASCII letter under case-insensitive
matching with Unicode off. -/
def literalExpr (m : Mode) (lit : Literal) : Except Error Expr := do
  if !m.unicode then
    match lit.byte? with
    | some b => if b > 0x7F then refuse lit.span .invalidUtf8
    | none => pure ()
  let c := lit.char.toNat
  if !m.caseInsensitive then pure (.literal [lit.char])
  else if m.unicode then refuse lit.span .unicodeCaseUnavailable
  else pure (Expr.ofClass (CharSet.ofRanges .bytes [(c, c)]).foldAscii)

def Repeat.bounds : Repeat → Nat × Option Nat
  | .zeroOrOne => (0, some 1)
  | .zeroOrMore => (0, none)
  | .oneOrMore => (1, none)
  | .exactly n => (n, some n)
  | .atLeast n => (n, none)
  | .between m n => (m, some n)

/-- Giving meaning to a tree, with the flags in force as state. -/
abbrev ExprM := StateT Mode (Except Error)

mutual

/-- The meaning of a syntax tree, or the first part refused, from left to right. -/
def toExpr : Ast → ExprM Expr
  | .empty _ => pure .empty
  | .setFlags _ flags => do
    modify (·.apply flags)
    pure .empty
  | .literal lit => do literalExpr (← get) lit
  | .dot span => do pure (Expr.ofClass (← dotSet (← get) span))
  | .assertion _ kind => do pure (.look (lookOf (← get) kind))
  | .property span _ query => do throw (propertyError (← get) span query)
  | .perl span kind negated => do
    let m ← get
    if m.unicode then refuse span .unicodePerlClassNotFound
    else pure (Expr.ofClass (← perlBytes span kind negated))
  | .bracketed span negated set => do
    let m ← get
    let cls ← classSet m set
    pure (Expr.ofClass (← foldAndNegate m span negated cls))
  | .repetition _ count greedy sub => do
    let e ← toExpr sub
    let m ← get
    pure (Expr.repeating count.bounds.1 count.bounds.2 (greedy != m.swapGreed) e)
  | .group _ kind sub => do
    let outer ← get
    match kind with
    | .plain flags => set (outer.apply flags)
    | _ => pure ()
    let e ← toExpr sub
    set outer
    match kind with
    | .plain _ => pure e
    | .numbered index => pure (.capture index none e)
    | .named index name => pure (.capture index (some name) e)
  | .alternation _ branches => do pure (Expr.choice (← toExprAll branches))
  | .concat _ items => do pure (Expr.sequence (← toExprAll items))

def toExprAll : List Ast → ExprM (List Expr)
  | [] => pure []
  | a :: rest => do
    let e ← toExpr a
    pure (e :: (← toExprAll rest))

end

end Regex

end PartialCnf
