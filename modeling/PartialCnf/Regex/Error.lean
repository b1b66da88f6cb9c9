import PartialCnf.Regex.Ast

/-!
Why a pattern is refused, and the text that says so. The text quotes the pattern, marks the
span at fault (and a second span for a repeated flag or name) with carets under it, and ends
with the reason. A pattern of several lines is framed by rules of tildes and numbers its lines.
-/

namespace PartialCnf

namespace Regex

/-- The reasons a pattern is refused while it is read or given its meaning. -/
inductive ErrorKind where
  | classEscapeInvalid
  | classRangeInvalid
  | classRangeLiteral
  | classUnclosed
  | decimalEmpty
  | decimalInvalid
  | escapeHexEmpty
  | escapeHexInvalid
  | escapeHexInvalidDigit
  | escapeUnexpectedEof
  | escapeUnrecognized
  | flagDanglingNegation
  | flagDuplicate
  | flagRepeatedNegation
  | flagUnexpectedEof
  | flagUnrecognized
  | groupNameDuplicate
  | groupNameEmpty
  | groupNameInvalid
  | groupNameUnexpectedEof
  | groupUnclosed
  | groupUnopened
  | repetitionCountInvalid
  | repetitionCountDecimalEmpty
  | repetitionCountUnclosed
  | repetitionMissing
  | specialWordBoundaryUnclosed
  | specialWordBoundaryUnrecognized
  | specialWordOrRepetitionUnexpectedEof
  | unicodeClassInvalid
  | unsupportedBackreference
  | unsupportedLookAround
  | unicodeNotAllowed
  | invalidUtf8
  | unicodePropertyNotFound
  | unicodePropertyValueNotFound
  | unicodePerlClassNotFound
  | unicodeCaseUnavailable
  | nestLimitExceeded
  deriving DecidableEq, Repr

/-- How deep groups, repetitions, sequences, alternations and classes may nest. -/
def nestLimit : Nat := 250

def ErrorKind.message : ErrorKind → String
  | .classEscapeInvalid => "invalid escape sequence found in character class"
  | .classRangeInvalid => "invalid character class range, the start must be <= the end"
  | .classRangeLiteral => "invalid range boundary, must be a literal"
  | .classUnclosed => "unclosed character class"
  | .decimalEmpty => "decimal literal empty"
  | .decimalInvalid => "decimal literal invalid"
  | .escapeHexEmpty => "hexadecimal literal empty"
  | .escapeHexInvalid => "hexadecimal literal is not a Unicode scalar value"
  | .escapeHexInvalidDigit => "invalid hexadecimal digit"
  | .escapeUnexpectedEof => "incomplete escape sequence, reached end of pattern prematurely"
  | .escapeUnrecognized => "unrecognized escape sequence"
  | .flagDanglingNegation => "dangling flag negation operator"
  | .flagDuplicate => "duplicate flag"
  | .flagRepeatedNegation => "flag negation operator repeated"
  | .flagUnexpectedEof => "expected flag but got end of regex"
  | .flagUnrecognized => "unrecognized flag"
  | .groupNameDuplicate => "duplicate capture group name"
  | .groupNameEmpty => "empty capture group name"
  | .groupNameInvalid => "invalid capture group character"
  | .groupNameUnexpectedEof => "unclosed capture group name"
  | .groupUnclosed => "unclosed group"
  | .groupUnopened => "unopened group"
  | .repetitionCountInvalid => "invalid repetition count range, the start must be <= the end"
  | .repetitionCountDecimalEmpty => "repetition quantifier expects a valid decimal"
  | .repetitionCountUnclosed => "unclosed counted repetition"
  | .repetitionMissing => "repetition operator missing expression"
  | .specialWordBoundaryUnclosed =>
    "special word boundary assertion is either unclosed or contains an invalid character"
  | .specialWordBoundaryUnrecognized =>
    "unrecognized special word boundary assertion, valid choices are: start, end, start-half or end-half"
  | .specialWordOrRepetitionUnexpectedEof =>
    "found either the beginning of a special word boundary or a bounded repetition on a \\b with an opening brace, but no closing brace"
  | .unicodeClassInvalid => "invalid Unicode character class"
  | .unsupportedBackreference => "backreferences are not supported"
  | .unsupportedLookAround => "look-around, including look-ahead and look-behind, is not supported"
  | .unicodeNotAllowed => "Unicode not allowed here"
  | .invalidUtf8 => "pattern can match invalid UTF-8"
  | .unicodePropertyNotFound => "Unicode property not found"
  | .unicodePropertyValueNotFound => "Unicode property value not found"
  | .unicodePerlClassNotFound =>
    "Unicode-aware Perl class not found (make sure the unicode-perl feature is enabled)"
  | .unicodeCaseUnavailable =>
    "Unicode-aware case insensitivity matching is not available (make sure the unicode-case feature is enabled)"
  | .nestLimitExceeded =>
    "exceed the maximum number of nested parentheses/brackets (" ++ toString nestLimit ++ ")"

/-- A refused pattern: the reason, the span at fault, and an earlier span it clashes with. -/
structure Error where
  kind : ErrorKind
  span : Span
  aux : Option Span := none
  deriving DecidableEq, Repr

/-- The lines of a text: split at line feeds, a carriage return before one dropped, and no
line after a final line feed. -/
def textLines (s : String) : List String :=
  let parts := s.splitOn "\n"
  let parts := if s.endsWith "\n" then parts.dropLast else parts
  if s.isEmpty then [] else
  parts.zipIdx.map fun (p, i) =>
    if i + 1 < (s.splitOn "\n").length && p.endsWith "\r" then String.ofList p.toList.dropLast else p

def repeatChar (c : Char) (n : Nat) : String := String.ofList (List.replicate n c)

/-- The marks under one line for the spans on it: blanks up to each span, then a caret for
each of its characters, at least one. -/
def markLine (indent : Nat) (spans : List Span) : String :=
  let marks := spans.foldl (fun (acc : String × Nat) s =>
    let gap := (s.start.column - 1) - acc.2
    let carets := max 1 (s.stop.column - s.start.column)
    (acc.1 ++ repeatChar ' ' gap ++ repeatChar '^' carets, acc.2 + gap + carets)) ("", 0)
  repeatChar ' ' indent ++ marks.1

def notate (lines : List String) (width : Nat) (spans : List Span) : String :=
  let indent := if width = 0 then 4 else width + 2
  String.join (lines.zipIdx.map fun (line, i) =>
    let number := if width = 0 then "    "
      else repeatChar ' ' (width - (toString (i + 1)).length) ++ toString (i + 1) ++ ": "
    let here := spans.filter fun s => s.start.line == i + 1
    number ++ line ++ "\n" ++ (if here.isEmpty then "" else markLine indent here ++ "\n"))

/-- The text of a refused pattern. -/
def Error.render (pattern : String) (e : Error) : String :=
  let lines := textLines pattern
  let count := lines.length + (if pattern.endsWith "\n" then 1 else 0)
  let width := if count ≤ 1 then 0 else (toString count).length
  let all := e.span :: e.aux.toList
  let oneLine := (all.filter Span.oneLine).mergeSort Span.le
  let multi := (all.filter (!·.oneLine)).mergeSort Span.le
  let body := notate lines width oneLine
  if pattern.contains '\n' then
    let rule := repeatChar '~' 79
    let notes := multi.map fun s =>
      "on line " ++ toString s.start.line ++ " (column " ++ toString s.start.column ++ ") through line " ++
        toString s.stop.line ++ " (column " ++ toString (s.stop.column - 1) ++ ")"
    "regex parse error:\n" ++ rule ++ "\n" ++ body ++ rule ++ "\n" ++
      (if notes.isEmpty then "" else "\n".intercalate notes ++ "\n") ++ "error: " ++ e.kind.message
  else
    "regex parse error:\n" ++ body ++ "error: " ++ e.kind.message

end Regex

end PartialCnf
