import PartialCnf.Regex.Error
import PartialCnf.Text.Blank
import PartialCnf.Text.Alphabet

/-!
Reading a pattern character by character: the cursor with its line and column, blanks and
`#` comments skipped in verbose mode, and the small forms that need no nesting: escapes,
hexadecimal and property escapes, flags, capture names and decimal counts.

Every loop here moves the cursor forward, so it is run with a budget of one more step than the
pattern has characters.
-/

namespace PartialCnf

namespace Regex

/-- A sequence being read: where it starts and its items so far. -/
structure Seq where
  start : Position
  items : Array Ast

def Seq.toAst (s : Seq) (stop : Position) : Ast :=
  match s.items.toList with
  | [] => .empty ⟨s.start, stop⟩
  | [a] => a
  | as => .concat ⟨s.start, stop⟩ as

/-- A group whose closing parenthesis is still to come (with the sequence it interrupts), or
the branches of an alternation read so far and where the first began. -/
inductive GroupFrame where
  | group (before : Seq) (openSpan : Span) (kind : GroupKind) (ignoreSpace : Bool)
  | alternation (start : Position) (branches : Array Ast)

structure Union where
  span : Span
  items : Array ClassItem

namespace Union

def push (u : Union) (i : ClassItem) : Union :=
  ⟨⟨if u.items.isEmpty then i.span.start else u.span.start, i.span.stop⟩, u.items.push i⟩

def toItem (u : Union) : ClassItem :=
  match u.items.toList with
  | [] => .empty u.span
  | [i] => i
  | items => .union u.span items

end Union

/-- A bracket still open (with the items of the class around it, its span so far and whether
it is negated), or a set operation waiting for its right side. -/
inductive ClassFrame where
  | opened (parent : Union) (span : Span) (negated : Bool)
  | op (kind : ClassOp) (lhs : ClassSet)

/-- The state of reading a pattern. -/
structure Reader where
  pattern : Array Char
  pos : Position := ⟨0, 1, 1⟩
  ignoreSpace : Bool := false
  names : List (String × Span) := []
  captures : Nat := 0
  groups : List GroupFrame := []
  classes : List ClassFrame := []

/-- Reading a pattern, or the first reason to refuse it. -/
abbrev ReadM := StateT Reader (Except Error)

def Position.after (p : Position) (c : Char) : Position :=
  if c = '\n' then ⟨p.offset + 1, p.line + 1, 1⟩ else ⟨p.offset + 1, p.line, p.column + 1⟩

/-- A piece of a pattern that stands on its own. -/
inductive Primitive where
  | literal (lit : Literal)
  | assertion (span : Span) (kind : Assertion)
  | dot (span : Span)
  | perl (span : Span) (kind : PerlClass) (negated : Bool)
  | property (span : Span) (negated : Bool) (query : PropertyQuery)

namespace Primitive

def span : Primitive → Span
  | .literal l => l.span
  | .assertion s _ | .dot s | .perl s _ _ | .property s _ _ => s

def toAst : Primitive → Ast
  | .literal l => .literal l
  | .assertion s k => .assertion s k
  | .dot s => .dot s
  | .perl s k n => .perl s k n
  | .property s n q => .property s n q

end Primitive

namespace Reader

def fail {α : Type} (span : Span) (kind : ErrorKind) : ReadM α := throw ⟨kind, span, none⟩

def current? : ReadM (Option Char) := do
  let r ← get
  pure r.pattern[r.pos.offset]?

def char : ReadM Char := do pure ((← current?).getD '\x00')

def atEnd : ReadM Bool := do pure (← current?).isNone

def cursor : ReadM Position := do pure (← get).pos

def seek (p : Position) : ReadM Unit := modify fun r => { r with pos := p }

def here : ReadM Span := do pure (Span.at (← cursor))

def spanChar : ReadM Span := do
  let p ← cursor
  match ← current? with
  | some c => pure ⟨p, p.after c⟩
  | none => pure (Span.at p)

/-- A step budget no loop can exhaust. -/
def budget : ReadM Nat := do pure ((← get).pattern.size + 1)

def bump : ReadM Bool := do
  let r ← get
  match r.pattern[r.pos.offset]? with
  | none => pure false
  | some c =>
    let p := r.pos.after c
    set { r with pos := p }
    pure r.pattern[p.offset]?.isSome

def peek : ReadM (Option Char) := do
  let r ← get
  pure r.pattern[r.pos.offset + 1]?

def skipComment : Nat → ReadM Unit
  | 0 => pure ()
  | fuel + 1 => do
    match ← current? with
    | none => pure ()
    | some c =>
      discard bump
      if c ≠ '\n' then skipComment fuel

def skipSpace : Nat → ReadM Unit
  | 0 => pure ()
  | fuel + 1 => do
    match ← current? with
    | none => pure ()
    | some c =>
      if Text.isBlank c then
        discard bump
        skipSpace fuel
      else if c = '#' then
        discard bump
        skipComment (← budget)
        skipSpace fuel
      else pure ()

def bumpSpace : ReadM Unit := do
  if (← get).ignoreSpace then skipSpace (← budget)

def bumpAndBumpSpace : ReadM Bool := do
  if !(← bump) then return false
  bumpSpace
  return !(← atEnd)

/-- The first character after blanks in `cs`, where a `#` starts a comment that the next
character other than a blank ends. -/
def firstAfterSpace : List Char → Bool → Option Char
  | [], _ => none
  | c :: rest, inComment =>
    if Text.isBlank c then firstAfterSpace rest inComment
    else if !inComment && c = '#' then firstAfterSpace rest true
    else some c

def peekSpace : ReadM (Option Char) := do
  let r ← get
  if !r.ignoreSpace then peek
  else if r.pattern[r.pos.offset]?.isNone then pure none
  else
    let rest := (r.pattern.extract (r.pos.offset + 1) r.pattern.size).toList
    pure ((firstAfterSpace rest false).orElse fun _ => rest.head?)

def bumpIf (s : List Char) : ReadM Bool := do
  let r ← get
  if (r.pattern.extract r.pos.offset (r.pos.offset + s.length)).toList = s then
    for _ in s do discard bump
    pure true
  else pure false

def slice (start stop : Nat) : ReadM String := do
  pure (String.ofList ((← get).pattern.extract start stop).toList)

end Reader

open Reader

def isMetaChar (c : Char) : Bool :=
  "\\.+*?()|[]\x7b\x7d^$#&-~".contains c

def isEscapeable (c : Char) : Bool :=
  isMetaChar c || (c.toNat < 0x80 && !c.isAlphanum && c ≠ '<' && c ≠ '>')

def isHexDigit (c : Char) : Bool :=
  c.isDigit || ('a' ≤ c && c ≤ 'f') || ('A' ≤ c && c ≤ 'F')

def hexValue (ds : List Char) : Option Nat :=
  let v := ds.foldl (fun acc c =>
    acc * 16 + (if c.isDigit then c.toNat - 48 else if c ≤ 'F' then c.toNat - 55 else c.toNat - 87)) 0
  if v < Nat.pow 2 32 then some v else none

def charOf? (n : Nat) : Option Char :=
  if n.isValidChar then some (Char.ofNat n) else none

def isCaptureChar (c : Char) (first : Bool) : Bool :=
  if first then c = '_' || Text.isAlphabetic c
  else c = '_' || c = '.' || c = '[' || c = ']' || Text.isAlphanumeric c

def readHexDigits (count : Nat) (byteEscape : Bool) : ReadM Literal := do
  let start ← cursor
  let mut digits : List Char := []
  for i in List.range count do
    if i > 0 then
      if !(← bumpAndBumpSpace) then fail (← here) .escapeUnexpectedEof
    let c ← char
    if !isHexDigit c then fail (← spanChar) .escapeHexInvalidDigit
    digits := digits ++ [c]
  discard bumpAndBumpSpace
  let span : Span := ⟨start, ← cursor⟩
  match (hexValue digits).bind charOf? with
  | none => fail span .escapeHexInvalid
  | some ch => pure ⟨span, if byteEscape then .byteEscape else .plain, ch⟩

def braceDigits : Nat → List Char → ReadM (List Char)
  | 0, acc => pure acc
  | fuel + 1, acc => do
    if (← bumpAndBumpSpace) && (← char) ≠ '}' then
      let c ← char
      if !isHexDigit c then fail (← spanChar) .escapeHexInvalidDigit
      braceDigits fuel (acc ++ [c])
    else pure acc

def readHexBrace : ReadM Literal := do
  let bracePos ← cursor
  let start := (← spanChar).stop
  let digits ← braceDigits (← budget) []
  if ← atEnd then fail ⟨bracePos, ← cursor⟩ .escapeUnexpectedEof
  let stop ← cursor
  discard bumpAndBumpSpace
  if digits.isEmpty then fail ⟨bracePos, ← cursor⟩ .escapeHexEmpty
  match (hexValue digits).bind charOf? with
  | none => fail ⟨start, stop⟩ .escapeHexInvalid
  | some ch => pure ⟨⟨start, ← cursor⟩, .plain, ch⟩

def readHex : ReadM Literal := do
  let c ← char
  let count := if c = 'x' then 2 else if c = 'u' then 4 else 8
  if !(← bumpAndBumpSpace) then fail (← here) .escapeUnexpectedEof
  if (← char) = '{' then readHexBrace else readHexDigits count (c = 'x')

def braceName : Nat → List Char → ReadM (List Char)
  | 0, acc => pure acc
  | fuel + 1, acc => do
    if (← bumpAndBumpSpace) && (← char) ≠ '}' then braceName fuel (acc ++ [← char])
    else pure acc

def splitFirst (s sep : List Char) : Option (List Char × List Char) :=
  (List.range (s.length + 1)).findSome? fun i =>
    if sep.isPrefixOf (s.drop i) then some (s.take i, s.drop (i + sep.length)) else none

/-- How a property name in braces is read: `name!=value`, `name:value`, `name=value` or a
plain name. -/
def PropertyQuery.ofBraces (name : List Char) : PropertyQuery :=
  let pair := fun (p : List Char × List Char) => PropertyQuery.namedValue (String.ofList p.1) (String.ofList p.2)
  match splitFirst name ['!', '='] with
  | some p => pair p
  | none =>
    match splitFirst name [':'] with
    | some p => pair p
    | none =>
      match splitFirst name ['='] with
      | some p => pair p
      | none => .named (String.ofList name)

def readProperty : ReadM (Span × Bool × PropertyQuery) := do
  let negated := (← char) = 'P'
  if !(← bumpAndBumpSpace) then fail (← here) .escapeUnexpectedEof
  if (← char) = '{' then
    let start := (← spanChar).stop
    let name ← braceName (← budget) []
    if ← atEnd then fail (← here) .escapeUnexpectedEof
    discard bump
    pure (⟨start, ← cursor⟩, negated, PropertyQuery.ofBraces name)
  else
    let start ← cursor
    let c ← char
    if c = '\\' then fail (← spanChar) .unicodeClassInvalid
    discard bumpAndBumpSpace
    pure (⟨start, ← cursor⟩, negated, .oneLetter c)

def boundaryName : Nat → List Char → ReadM (List Char)
  | 0, acc => pure acc
  | fuel + 1, acc => do
    let c ← char
    if !(← atEnd) && (c.isAlpha || c = '-') then
      let acc := acc ++ [c]
      discard bumpAndBumpSpace
      boundaryName fuel acc
    else pure acc

/-- After `\b`, reads `{start}`, `{end}`, `{start-half}` or `{end-half}`; a brace followed by
anything but a letter or dash is left for a counted repetition. -/
def readSpecialBoundary (wbStart : Position) : ReadM (Option Assertion) := do
  let start ← cursor
  if !(← bumpAndBumpSpace) then fail ⟨wbStart, ← cursor⟩ .specialWordOrRepetitionUnexpectedEof
  let contents ← cursor
  let c ← char
  if !(c.isAlpha || c = '-') then
    seek start
    return none
  let name ← boundaryName (← budget) []
  if (← atEnd) || (← char) ≠ '}' then fail ⟨start, ← cursor⟩ .specialWordBoundaryUnclosed
  let stop ← cursor
  discard bump
  match String.ofList name with
  | "start" => pure (some .wordStart)
  | "end" => pure (some .wordEnd)
  | "start-half" => pure (some .wordStartHalf)
  | "end-half" => pure (some .wordEndHalf)
  | _ => fail ⟨contents, stop⟩ .specialWordBoundaryUnrecognized

/-- Reads an escape from its backslash on. -/
def readEscape : ReadM Primitive := do
  let start ← cursor
  if !(← bump) then fail ⟨start, ← cursor⟩ .escapeUnexpectedEof
  let c ← char
  if c.isDigit then fail ⟨start, (← spanChar).stop⟩ .unsupportedBackreference
  if c = 'x' ∨ c = 'u' ∨ c = 'U' then
    let lit ← readHex
    return .literal { lit with span := { lit.span with start := start } }
  if c = 'p' ∨ c = 'P' then
    let (span, negated, query) ← readProperty
    return .property { span with start := start } negated query
  if "dswDSW".contains c then
    discard bump
    let kind := if c = 'd' ∨ c = 'D' then PerlClass.digit else if c = 's' ∨ c = 'S' then .space else .word
    return .perl ⟨start, ← cursor⟩ kind c.isUpper
  discard bump
  let span : Span := ⟨start, ← cursor⟩
  if isEscapeable c then return .literal ⟨span, .plain, c⟩
  match c with
  | 'a' => pure (.literal ⟨span, .plain, '\x07'⟩)
  | 'f' => pure (.literal ⟨span, .plain, '\x0C'⟩)
  | 't' => pure (.literal ⟨span, .plain, '\t'⟩)
  | 'n' => pure (.literal ⟨span, .plain, '\n'⟩)
  | 'r' => pure (.literal ⟨span, .plain, '\r'⟩)
  | 'v' => pure (.literal ⟨span, .plain, '\x0B'⟩)
  | 'A' => pure (.assertion span .startText)
  | 'z' => pure (.assertion span .endText)
  | 'b' =>
    if !(← atEnd) && (← char) = '{' then
      match ← readSpecialBoundary start with
      | some kind => return .assertion ⟨start, ← cursor⟩ kind
      | none => pure ()
    pure (.assertion span .wordBoundary)
  | 'B' => pure (.assertion span .notWordBoundary)
  | '<' => pure (.assertion span .wordStart)
  | '>' => pure (.assertion span .wordEnd)
  | _ => fail span .escapeUnrecognized

/-- Reads a piece that stands on its own: an escape, `.`, `^`, `$` or a character. -/
def readPrimitive : ReadM Primitive := do
  let span ← spanChar
  match ← char with
  | '\\' => readEscape
  | '.' => discard bump; pure (.dot span)
  | '^' => discard bump; pure (.assertion span .startLine)
  | '$' => discard bump; pure (.assertion span .endLine)
  | c => discard bump; pure (.literal ⟨span, .plain, c⟩)

def readFlag : ReadM Flag := do
  match ← char with
  | 'i' => pure .caseInsensitive
  | 'm' => pure .multiLine
  | 's' => pure .dotAll
  | 'U' => pure .swapGreed
  | 'u' => pure .unicode
  | 'R' => pure .crlf
  | 'x' => pure .ignoreSpace
  | _ => fail (← spanChar) .flagUnrecognized

/-- Reads flags up to `:` or `)`: each at most once, `-` at most once and not last. -/
def readFlagItems : Nat → Flags → Option Span → ReadM Flags
  | 0, items, _ => pure items
  | fuel + 1, items, lastNegation => do
    let c ← char
    if c = ':' ∨ c = ')' then
      match lastNegation with
      | some s => fail s .flagDanglingNegation
      | none => return items
    let span ← spanChar
    let item ← if c = '-' then pure FlagItem.negation else FlagItem.flag <$> readFlag
    match items.find? (·.2 = item) with
    | some earlier =>
      throw ⟨if c = '-' then .flagRepeatedNegation else .flagDuplicate, span, some earlier.1⟩
    | none => pure ()
    if !(← bump) then fail (← here) .flagUnexpectedEof
    readFlagItems fuel (items ++ [(span, item)]) (if c = '-' then some span else none)

def captureNameChars (start : Position) : Nat → ReadM Unit
  | 0 => pure ()
  | fuel + 1 => do
    let c ← char
    if c = '>' then return
    if !isCaptureChar c ((← cursor) == start) then fail (← spanChar) .groupNameInvalid
    if ← bump then captureNameChars start fuel

def readCaptureName : ReadM String := do
  if ← atEnd then fail (← here) .groupNameUnexpectedEof
  let start ← cursor
  captureNameChars start (← budget)
  let stop ← cursor
  if ← atEnd then fail (← here) .groupNameUnexpectedEof
  discard bump
  let name ← slice start.offset stop.offset
  if name.isEmpty then fail (Span.at start) .groupNameEmpty
  let span : Span := ⟨start, stop⟩
  match (← get).names.find? (·.1 = name) with
  | some earlier => throw ⟨.groupNameDuplicate, span, some earlier.2⟩
  | none => modify fun r => { r with names := (name, span) :: r.names }
  pure name

def decimalDigits : Nat → List Char → ReadM (List Char)
  | 0, acc => pure acc
  | fuel + 1, acc => do
    let c ← char
    if !(← atEnd) && c.isDigit then
      discard bumpAndBumpSpace
      decimalDigits fuel (acc ++ [c])
    else pure acc

def skipBlanks : Nat → ReadM Unit
  | 0 => pure ()
  | fuel + 1 => do
    match ← current? with
    | some c => if Text.isBlank c then discard bump; skipBlanks fuel
    | none => pure ()

def skipBlanksVerbose : Nat → ReadM Unit
  | 0 => pure ()
  | fuel + 1 => do
    match ← current? with
    | some c => if Text.isBlank c then discard bumpAndBumpSpace; skipBlanksVerbose fuel
    | none => pure ()

/-- Reads a decimal number below `2^32`, with blanks around it. A missing or too large number
is returned as a fault, with the cursor after what was read. -/
def readDecimal : ReadM (Except Error Nat) := do
  skipBlanks (← budget)
  let start ← cursor
  let digits ← decimalDigits (← budget) []
  let span : Span := ⟨start, ← cursor⟩
  skipBlanksVerbose (← budget)
  if digits.isEmpty then return .error ⟨.decimalEmpty, span, none⟩
  let n := digits.foldl (fun acc c => acc * 10 + (c.toNat - 48)) 0
  pure (if n < Nat.pow 2 32 then .ok n else .error ⟨.decimalInvalid, span, none⟩)

end Regex

end PartialCnf
