/-!
UTF-8 for automata over bytes. A range of code points becomes a list of byte-range sequences:
each sequence is one range of bytes per position, and the texts the sequences spell are exactly
the encodings of the code points in the range.

The split follows three rules, applied in this order until none applies: a range crossing the
surrogate block is cut around it (and what lies inside is dropped); a range whose code points
need different numbers of bytes is cut where the number changes; and a range whose ends differ
in a leading part but do not fill the trailing positions is cut at the first or last aligned
block. What is left has, at every byte position, all bytes between those of its ends.
-/

namespace PartialCnf

namespace Regex

def utf8Bytes (n : Nat) : List Nat :=
  if n < 0x80 then [n]
  else if n < 0x800 then [0xC0 + n / 64, 0x80 + n % 64]
  else if n < 0x10000 then [0xE0 + n / 4096, 0x80 + n / 64 % 64, 0x80 + n % 64]
  else [0xF0 + n / 262144, 0x80 + n / 4096 % 64, 0x80 + n / 64 % 64, 0x80 + n % 64]

def utf8Text (cs : List Char) : List Nat := cs.flatMap fun c => utf8Bytes c.toNat

def widest : Nat → Nat
  | 1 => 0x7F
  | 2 => 0x7FF
  | 3 => 0xFFFF
  | _ => 0x10FFFF

/-- What to do with a range: cut it in two, keep it as one sequence, or drop it. -/
inductive Cut where
  | two (first second : Nat × Nat)
  | one (seq : List (Nat × Nat))
  | none
  deriving DecidableEq, Repr

def lengthCut (lo hi : Nat) : Option (Nat × Nat × Nat × Nat) :=
  ([1, 2, 3].find? fun i => lo ≤ widest i ∧ widest i < hi).map fun i =>
    (lo, widest i, widest i + 1, hi)

/-- The cut of a range at an aligned block of `64 ^ i` code points, for the first `i` where the
ends differ above the block but the range does not start or end on its edge. -/
def blockCut (lo hi : Nat) : Option (Nat × Nat × Nat × Nat) :=
  [1, 2, 3].findSome? fun i =>
    let size := Nat.pow 64 i
    if lo / size = hi / size then none
    else if lo % size ≠ 0 then some (lo, lo - lo % size + size - 1, lo - lo % size + size, hi)
    else if hi % size ≠ size - 1 then some (lo, hi - hi % size - 1, hi - hi % size, hi)
    else none

/-- One step on a range of code points. -/
def cutRange (lo hi : Nat) : Cut :=
  if lo < 0xE000 ∧ hi > 0xD7FF then .two (lo, 0xD7FF) (0xE000, hi)
  else if hi < lo then .none
  else match lengthCut lo hi with
    | some (a, b, c, d) => .two (a, b) (c, d)
    | none =>
      if hi ≤ 0x7F then .one [(lo, hi)]
      else match blockCut lo hi with
        | some (a, b, c, d) => .two (a, b) (c, d)
        | none => .one ((utf8Bytes lo).zip (utf8Bytes hi))

/-- The byte-range sequences of a range of code points, in order. `fuel` bounds the depth of
cuts; every cut is by surrogates, by length or by one of three block sizes, so sixteen levels
are enough. -/
def sequencesWith : Nat → Nat → Nat → List (List (Nat × Nat))
  | 0, _, _ => []
  | fuel + 1, lo, hi =>
    match cutRange lo hi with
    | .two a b => sequencesWith fuel a.1 a.2 ++ sequencesWith fuel b.1 b.2
    | .one seq => [seq]
    | .none => []

/-- The byte-range sequences of a range of code points. -/
def utf8Sequences (lo hi : Nat) : List (List (Nat × Nat)) := sequencesWith 16 lo hi

-- the ASCII range is one sequence of one byte range
example : utf8Sequences 0 0x7F = [[(0, 0x7F)]] := by decide

-- a two-byte range is one lead byte range followed by one continuation byte range
example : utf8Sequences 0x80 0x7FF = [[(0xC2, 0xDF), (0x80, 0xBF)]] := by decide

end Regex

end PartialCnf
