import PartialCnf.Regex.Reader

/-!
Reading a whole pattern into its syntax tree. Sequences are gathered left to right; an open
parenthesis saves the sequence so far on a stack of groups, `|` closes a branch, and `)` pops
back. A bracket starts a class, read with its own stack of open brackets and set operations;
a repetition applies to the piece just before it.

The first fault found while reading refuses the pattern, with the span it is at.
-/

namespace PartialCnf

namespace Regex

open Reader

def Primitive.toClassItem : Primitive → ReadM ClassItem
  | .literal l => pure (.literal l)
  | .perl s k n => pure (.perl s k n)
  | .property s n q => pure (.property s n q)
  | p => fail p.span .classEscapeInvalid

def Primitive.toClassLiteral : Primitive → ReadM Literal
  | .literal l => pure l
  | p => fail p.span .classRangeLiteral

def unclosedClass {α : Type} : ReadM α := do
  match (← get).classes.findSome? fun
      | .opened _ span _ => some span
      | .op _ _ => none with
  | some span => fail span .classUnclosed
  | none => fail (← here) .classUnclosed

def skipToColon : Nat → ReadM Unit
  | 0 => pure ()
  | fuel + 1 => do
    if (← char) ≠ ':' then
      if ← bump then skipToColon fuel

/-- Reads `[:name:]` inside a class; anything else leaves the cursor where it was. -/
def readAsciiClass : ReadM (Option ClassItem) := do
  let start ← cursor
  let back : ReadM (Option ClassItem) := do
    seek start
    pure none
  if !(← bump) || (← char) ≠ ':' then return ← back
  if !(← bump) then return ← back
  let negated := (← char) = '^'
  if negated then
    if !(← bump) then return ← back
  let nameStart := (← cursor).offset
  skipToColon (← budget)
  if ← atEnd then return ← back
  let name ← slice nameStart (← cursor).offset
  if !(← bumpIf [':', ']']) then return ← back
  match AsciiClass.ofName? name with
  | some kind => pure (some (.ascii ⟨start, ← cursor⟩ kind negated))
  | none => back

def leadingDashes (start : Position) : Nat → Union → ReadM Union
  | 0, u => pure u
  | fuel + 1, u => do
    if (← char) ≠ '-' then return u
    let u := u.push (.literal ⟨← spanChar, .plain, '-'⟩)
    if !(← bumpAndBumpSpace) then fail (Span.at start) .classUnclosed
    leadingDashes start fuel u

/-- Reads the start of a bracket: `[`, `[^`, leading dashes and a leading `]`, all literal. -/
def readClassOpen : ReadM (Span × Bool × Union) := do
  let start ← cursor
  if !(← bumpAndBumpSpace) then fail ⟨start, ← cursor⟩ .classUnclosed
  let negated := (← char) = '^'
  if negated then
    if !(← bumpAndBumpSpace) then fail ⟨start, ← cursor⟩ .classUnclosed
  let mut union ← leadingDashes start (← budget) ⟨← here, #[]⟩
  if union.items.isEmpty && (← char) = ']' then
    union := union.push (.literal ⟨← spanChar, .plain, ']'⟩)
    if !(← bumpAndBumpSpace) then fail ⟨start, ← cursor⟩ .classUnclosed
  pure (⟨start, ← cursor⟩, negated, union)

def pushClassOpen (parent : Union) : ReadM Union := do
  let (span, negated, nested) ← readClassOpen
  modify fun r => { r with classes := .opened parent span negated :: r.classes }
  pure nested

def popClassOp (rhs : ClassSet) : ReadM ClassSet := do
  match (← get).classes with
  | .op kind lhs :: rest =>
    modify fun r => { r with classes := rest }
    pure (.op ⟨lhs.span.start, rhs.span.stop⟩ kind lhs rhs)
  | _ => pure rhs

def pushClassOp (kind : ClassOp) (items : Union) : ReadM Union := do
  let lhs ← popClassOp (.item items.toItem)
  modify fun r => { r with classes := .op kind lhs :: r.classes }
  pure ⟨← here, #[]⟩

def popClass (items : Union) : ReadM (Union ⊕ (Span × Bool × ClassSet)) := do
  let set ← popClassOp (.item items.toItem)
  match (← get).classes with
  | .opened parent span negated :: rest =>
    modify fun r => { r with classes := rest }
    discard bump
    let span := { span with stop := ← cursor }
    if rest.isEmpty then pure (.inr (span, negated, set))
    else pure (.inl (parent.push (.bracketed span negated set)))
  | _ => unclosedClass

def readClassPiece : ReadM Primitive := do
  if (← char) = '\\' then readEscape
  else
    let lit : Literal := ⟨← spanChar, .plain, ← char⟩
    discard bump
    pure (.literal lit)

/-- Reads an item of a class, or a range `a-z` of two literals in order. A dash before `]` or
another dash is no range. -/
def readClassRange : ReadM ClassItem := do
  let first ← readClassPiece
  bumpSpace
  if ← atEnd then unclosedClass
  let next ← peekSpace
  if (← char) ≠ '-' || next = some ']' || next = some '-' then return ← first.toClassItem
  if !(← bumpAndBumpSpace) then unclosedClass
  let second ← readClassPiece
  let span : Span := ⟨first.span.start, second.span.stop⟩
  let lo ← first.toClassLiteral
  let hi ← second.toClassLiteral
  if hi.char < lo.char then fail span .classRangeInvalid
  pure (.range span lo hi)

def readClassLoop : Nat → Union → ReadM (Span × Bool × ClassSet)
  | 0, _ => unclosedClass
  | fuel + 1, union => do
    bumpSpace
    if ← atEnd then unclosedClass
    let c ← char
    let twice := (← peek) = some c
    if c = '[' then
      if !(← get).classes.isEmpty then
        match ← readAsciiClass with
        | some item => return ← readClassLoop fuel (union.push item)
        | none => pure ()
      readClassLoop fuel (← pushClassOpen union)
    else if c = ']' then
      match ← popClass union with
      | .inl outer => readClassLoop fuel outer
      | .inr cls => pure cls
    else if twice && (c = '&' || c = '-' || c = '~') then
      discard (bumpIf [c, c])
      let kind := if c = '&' then ClassOp.intersection else if c = '-' then .difference else .symmetricDifference
      readClassLoop fuel (← pushClassOp kind union)
    else readClassLoop fuel (union.push (← readClassRange))

/-- Reads a bracketed class. -/
def readClass : ReadM (Span × Bool × ClassSet) := do
  readClassLoop (← budget) ⟨← here, #[]⟩

/-- What an open parenthesis starts: flags for the rest of the group, or a group. -/
inductive Opened where
  | setFlags (span : Span) (flags : Flags)
  | group (openSpan : Span) (kind : GroupKind)

def lookAroundPrefix : ReadM Bool := do
  if ← bumpIf ['?', '='] then return true
  if ← bumpIf ['?', '!'] then return true
  if ← bumpIf ['?', '<', '='] then return true
  bumpIf ['?', '<', '!']

def nextCapture : ReadM Nat := do
  modify fun r => { r with captures := r.captures + 1 }
  pure (← get).captures

def readGroupOpen : ReadM Opened := do
  let openSpan ← spanChar
  discard bump
  bumpSpace
  if ← lookAroundPrefix then fail ⟨openSpan.start, ← cursor⟩ .unsupportedLookAround
  let inner ← here
  let named ← do if ← bumpIf ['?', 'P', '<'] then pure true else bumpIf ['?', '<']
  if named then
    let index ← nextCapture
    let name ← readCaptureName
    return .group openSpan (.named index name)
  if ← bumpIf ['?'] then
    if ← atEnd then fail openSpan .groupUnclosed
    let flags ← readFlagItems (← budget) [] none
    let last ← char
    discard bump
    if last = ')' then
      if flags.isEmpty then fail inner .repetitionMissing
      return .setFlags ⟨openSpan.start, ← cursor⟩ flags
    return .group openSpan (.plain flags)
  pure (.group openSpan (.numbered (← nextCapture)))

def Seq.push (s : Seq) (a : Ast) : Seq := { s with items := s.items.push a }

/-- Opens a group, saving the sequence before it; flags alone join the sequence. The group's
own sequence starts after what opened it. -/
def pushGroup (seq : Seq) : ReadM Seq := do
  match ← readGroupOpen with
  | .setFlags span flags =>
    match flagState flags .ignoreSpace with
    | some v => modify fun r => { r with ignoreSpace := v }
    | none => pure ()
    pure (seq.push (.setFlags span flags))
  | .group openSpan kind =>
    let old := (← get).ignoreSpace
    let new := match kind with
      | .plain flags => (flagState flags .ignoreSpace).getD old
      | _ => old
    modify fun r => { r with groups := .group seq openSpan kind old :: r.groups, ignoreSpace := new }
    pure ⟨← cursor, #[]⟩

/-- Closes the innermost group, with its branches if it has several. Its body ends before the
closing parenthesis, the group after it. -/
def popGroup (inner : Seq) : ReadM Seq := do
  let (before, openSpan, kind, ignore, branches, rest) ← match (← get).groups with
    | .group c s k i :: rest => pure (c, s, k, i, none, rest)
    | .alternation a bs :: .group c s k i :: rest => pure (c, s, k, i, some (a, bs), rest)
    | _ => fail (← spanChar) .groupUnopened
  modify fun r => { r with groups := rest, ignoreSpace := ignore }
  let close ← cursor
  discard bump
  let body := match branches with
    | some (a, bs) => Ast.alternation ⟨a, close⟩ (bs.push (inner.toAst close)).toList
    | none => inner.toAst close
  pure (before.push (.group ⟨openSpan.start, ← cursor⟩ kind body))

def pushAlternate (seq : Seq) : ReadM Seq := do
  let branch := seq.toAst (← cursor)
  modify fun r => match r.groups with
    | .alternation a bs :: rest => { r with groups := .alternation a (bs.push branch) :: rest }
    | gs => { r with groups := .alternation seq.start #[branch] :: gs }
  discard bump
  pure ⟨← cursor, #[]⟩

def popGroupEnd (seq : Seq) : ReadM Ast := do
  let stop ← cursor
  match (← get).groups with
  | [] => pure (seq.toAst stop)
  | [.alternation a bs] => pure (.alternation ⟨a, stop⟩ (bs.push (seq.toAst stop)).toList)
  | .alternation _ _ :: .group _ s _ _ :: _ => fail s .groupUnclosed
  | .group _ s _ _ :: _ => fail s .groupUnclosed
  | _ => fail (← here) .groupUnclosed

def repeated (seq : Seq) : ReadM Ast := do
  match seq.items.back? with
  | none | some (.empty _) | some (.setFlags _ _) => fail (← here) .repetitionMissing
  | some a => pure a

/-- Reads `?`, `*` or `+`, and a `?` after it that makes it lazy. The repetition spans its
piece and the operator. -/
def readUncounted (seq : Seq) (count : Repeat) : ReadM Seq := do
  let sub ← repeated seq
  let lazy := (← bump) && (← char) = '?'
  if lazy then discard bump
  pure { seq with items := seq.items.pop.push (.repetition ⟨sub.span.start, ← cursor⟩ count (!lazy) sub) }

def readCount : ReadM (Except Error Nat) := do
  pure ((← readDecimal).mapError fun e =>
    if e.kind = .decimalEmpty then { e with kind := .repetitionCountDecimalEmpty } else e)

/-- Reads `{n}`, `{n,}` or `{m,n}` with `m ≤ n`, and a `?` after it that makes it lazy. A fault in
the first count is reported once the comma and what follows it are read. -/
def readCounted (seq : Seq) : ReadM Seq := do
  let start ← cursor
  let sub ← repeated seq
  if !(← bumpAndBumpSpace) then fail ⟨start, ← cursor⟩ .repetitionCountUnclosed
  let first ← readCount
  if ← atEnd then fail ⟨start, ← cursor⟩ .repetitionCountUnclosed
  let count ← if (← char) = ',' then do
      if !(← bumpAndBumpSpace) then fail ⟨start, ← cursor⟩ .repetitionCountUnclosed
      if (← char) ≠ '}' then
        let lo ← liftExcept first
        let hi ← liftExcept (← readCount)
        pure (Repeat.between lo hi)
      else pure (.atLeast (← liftExcept first))
    else pure (.exactly (← liftExcept first))
  if (← atEnd) || (← char) ≠ '}' then fail ⟨start, ← cursor⟩ .repetitionCountUnclosed
  let lazy := (← bumpAndBumpSpace) && (← char) = '?'
  if lazy then discard bump
  let opSpan : Span := ⟨start, ← cursor⟩
  match count with
  | .between m n => if n < m then fail opSpan .repetitionCountInvalid
  | _ => pure ()
  pure { seq with items := seq.items.pop.push (.repetition ⟨sub.span.start, opSpan.stop⟩ count (!lazy) sub) }

def readLoop : Nat → Seq → ReadM Seq
  | 0, seq => pure seq
  | fuel + 1, seq => do
    bumpSpace
    if ← atEnd then return seq
    let seq ← match ← char with
      | '(' => pushGroup seq
      | ')' => popGroup seq
      | '|' => pushAlternate seq
      | '[' => do
        let (span, negated, set) ← readClass
        pure (seq.push (.bracketed span negated set))
      | '?' => readUncounted seq .zeroOrOne
      | '*' => readUncounted seq .zeroOrMore
      | '+' => readUncounted seq .oneOrMore
      | '{' => readCounted seq
      | _ => do pure (seq.push (← readPrimitive).toAst)
    readLoop fuel seq

mutual

/-- The span of the first part nested deeper than `nestLimit`, visiting parts before their
insides and from left to right; `depth` parts enclose this one. Groups, repetitions,
sequences, alternations and brackets count, as do unions and set operations inside a class. -/
def Ast.tooDeep (depth : Nat) : Ast → Option Span
  | .bracketed span _ set =>
    if depth + 1 > nestLimit then some span else ClassSet.tooDeep (depth + 1) set
  | .repetition span _ _ sub | .group span _ sub =>
    if depth + 1 > nestLimit then some span else sub.tooDeep (depth + 1)
  | .alternation span parts | .concat span parts =>
    if depth + 1 > nestLimit then some span else Ast.tooDeepAll (depth + 1) parts
  | _ => none

def Ast.tooDeepAll (depth : Nat) : List Ast → Option Span
  | [] => none
  | a :: rest => (a.tooDeep depth).orElse fun _ => Ast.tooDeepAll depth rest

def ClassSet.tooDeep (depth : Nat) : ClassSet → Option Span
  | .item i => ClassItem.tooDeep depth i
  | .op span _ lhs rhs =>
    if depth + 1 > nestLimit then some span
    else (ClassSet.tooDeep (depth + 1) lhs).orElse fun _ => ClassSet.tooDeep (depth + 1) rhs

def ClassItem.tooDeep (depth : Nat) : ClassItem → Option Span
  | .bracketed span _ set =>
    if depth + 1 > nestLimit then some span else ClassSet.tooDeep (depth + 1) set
  | .union span items =>
    if depth + 1 > nestLimit then some span else ClassItem.tooDeepAll (depth + 1) items
  | _ => none

def ClassItem.tooDeepAll (depth : Nat) : List ClassItem → Option Span
  | [] => none
  | i :: rest => (ClassItem.tooDeep depth i).orElse fun _ => ClassItem.tooDeepAll depth rest

end

/-- The syntax tree of a pattern, or the first fault in it. Nesting is checked once the whole
pattern is read. -/
def parse (pattern : String) : Except Error Ast :=
  let run : ReadM Ast := do
    let seq ← readLoop (← budget) ⟨⟨0, 1, 1⟩, #[]⟩
    let ast ← popGroupEnd seq
    match ast.tooDeep 0 with
    | some span => fail span .nestLimitExceeded
    | none => pure ast
  (run.run' { pattern := pattern.toList.toArray })

end Regex

end PartialCnf
