/-!
Sources of random 32-bit words, and the draws made from them: a value uniform in `1..=n` by
widening multiplication with one correction word, and a fair bit from the top bit of a word.
Everything downstream of a source sees only its words, so a statement about the draws holds for
every source.
-/

namespace PartialCnf

namespace Random

/-- A state that yields one 32-bit word and its successor. -/
class WordSource (σ : Type) where
  next : σ → UInt32 × σ

variable {σ : Type} [WordSource σ]

def wordCount : Nat := 4294967296

/-- A value in `1..=n` for `1 ≤ n < 2³²`. The word `x` gives `x · n = hi · 2³² + lo`; when `lo`
falls in the top `n` values a second word `y` adds its high part of `y · n` to `lo`, and a carry
out of 32 bits raises `hi` by one. The value is `1 + hi`. -/
def drawUpTo (n : Nat) (g : σ) : Nat × σ :=
  let (x, g) := WordSource.next g
  let hi := x.toNat * n / wordCount
  let lo := x.toNat * n % wordCount
  if wordCount - n < lo then
    let (y, g) := WordSource.next g
    let carry := if wordCount ≤ lo + y.toNat * n / wordCount then 1 else 0
    (1 + hi + carry, g)
  else
    (1 + hi, g)

/-- A fair bit: whether the next word has its top bit set. -/
def drawBool (g : σ) : Bool × σ :=
  let (x, g) := WordSource.next g
  (decide (2147483648 ≤ x.toNat), g)

end Random

end PartialCnf
