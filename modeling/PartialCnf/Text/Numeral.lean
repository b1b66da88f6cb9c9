/-!
Decimal integer text: an optional sign, then ASCII digits, read into a range of integers. A
range that holds negative numbers takes `+` or `-`, any other takes `+` only. The text is read
from left to right and the first fault met decides the error: a character that is not a digit,
or a prefix already outside the range.
-/

namespace PartialCnf

namespace Text

/-- A range of integers that a numeral is read into. -/
structure IntRange where
  lo : Int
  hi : Int
  deriving DecidableEq, Repr

namespace IntRange

def int64 : IntRange := ⟨-9223372036854775808, 9223372036854775807⟩

def word32 : IntRange := ⟨0, 4294967295⟩

def word64 : IntRange := ⟨0, 18446744073709551615⟩

def signed (r : IntRange) : Bool := decide (r.lo < 0)

end IntRange

/-- Why a text is not a numeral of a range. -/
inductive NumeralError where
  | empty
  | invalidDigit
  | tooLarge
  | tooSmall
  deriving DecidableEq, Repr

def NumeralError.message : NumeralError → String
  | .empty => "cannot parse integer from empty string"
  | .invalidDigit => "invalid digit found in string"
  | .tooLarge => "number too large to fit in target type"
  | .tooSmall => "number too small to fit in target type"

def readDigits (r : IntRange) (negative : Bool) : List Char → Int → Except NumeralError Int
  | [], acc => .ok acc
  | c :: cs, acc =>
    if c.isDigit then
      let d : Int := c.toNat - '0'.toNat
      let acc := if negative then acc * 10 - d else acc * 10 + d
      if r.hi < acc then .error .tooLarge
      else if acc < r.lo then .error .tooSmall
      else readDigits r negative cs acc
    else .error .invalidDigit

/-- The integer a text names in a range. A sign alone is an invalid digit. -/
def readInt (r : IntRange) (cs : List Char) : Except NumeralError Int :=
  match cs with
  | [] => .error .empty
  | ['+'] | ['-'] => .error .invalidDigit
  | '+' :: ds => readDigits r false ds 0
  | '-' :: ds => if r.signed then readDigits r true ds 0 else .error .invalidDigit
  | ds => readDigits r false ds 0

def readInt? (r : IntRange) (cs : List Char) : Option Int :=
  (readInt r cs).toOption

end Text

end PartialCnf
