/-!
Expansion of a 64-bit seed into a 256-bit key by the permuted congruential generator PCG32: the
state advances by `s ↦ s · 6364136223846793005 + 11634580027462260723` modulo `2⁶⁴` before each
output, and each output is the xorshifted high half rotated right by the top five bits.
-/

namespace PartialCnf

namespace Random

namespace Pcg

def rotateRight (x r : UInt32) : UInt32 :=
  (x >>> r) ||| (x <<< (32 - r))

/-- One step: the advanced state and its output word. -/
def step (s : UInt64) : UInt64 × UInt32 :=
  let s := s * 6364136223846793005 + 11634580027462260723
  let xorshifted := (((s >>> 18) ^^^ s) >>> 27).toUInt32
  (s, rotateRight xorshifted (s >>> 59).toUInt32)

def words : Nat → UInt64 → List UInt32
  | 0, _ => []
  | count + 1, s => let (s, w) := step s; w :: words count s

/-- The eight key words that a seed expands to. -/
def key (seed : UInt64) : List UInt32 :=
  words 8 seed

end Pcg

end Random

end PartialCnf
