/-!
Literals: a variable index with a sign, and the DIMACS integers that name them. A nonzero
integer `v` names variable `|v|`, positive when `v > 0`; variables are 32-bit indices, so a
magnitude past `maxVar` names no literal, and neither does zero.
-/

namespace PartialCnf

/-- The largest variable index a literal can carry (`2³² - 1`). -/
def maxVar : Nat := 4294967295

/-- A variable with a sign: `sign = true` stands for the variable, `false` for its negation. -/
structure Literal where
  var : Nat
  sign : Bool
  deriving DecidableEq, Repr

namespace Literal

/-- The literal a DIMACS integer names, if any. -/
def ofDimacs? (v : Int) : Option Literal :=
  if v = 0 ∨ maxVar < v.natAbs then none else some ⟨v.natAbs, decide (0 < v)⟩

/-- The DIMACS integer of a literal: the variable, negated for a negative sign. -/
def toDimacs (l : Literal) : Int :=
  if l.sign then (l.var : Int) else -(l.var : Int)

def neg (l : Literal) : Literal :=
  { l with sign := !l.sign }

@[simp] theorem neg_var (l : Literal) : l.neg.var = l.var := rfl

@[simp] theorem neg_sign (l : Literal) : l.neg.sign = !l.sign := rfl

@[simp] theorem neg_neg (l : Literal) : l.neg.neg = l := by
  cases l
  simp [neg]

theorem toDimacs_neg (l : Literal) : l.neg.toDimacs = -l.toDimacs := by
  cases l with
  | mk var sign => cases sign <;> simp [toDimacs, neg]

end Literal

end PartialCnf
