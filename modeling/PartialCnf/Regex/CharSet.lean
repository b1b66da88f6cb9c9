import PartialCnf.Regex.Ast

/-!
Sets of characters as lists of inclusive ranges of code points. A set lives in one of two
domains: Unicode scalar values, where stepping past `U+D7FF` lands on `U+E000`, or bytes `0` to
`255`.

Adding ranges sorts the list and joins ranges that overlap or touch as numbers, so `U+D7FF`
and `U+E000` stay apart. Complement, intersection and difference walk the sorted ranges and
keep what they produce without joining it again. A complement steps over the surrogate block,
and a gap it finds between `U+D7FF` and `U+E000` comes out as the range from the one to the
other, which holds both.

A set also records whether it is closed under simple case folding. A new set is closed only when
it is empty; adding ranges opens it, and the set operations keep the flag as folding would.
-/

namespace PartialCnf

namespace Regex

/-- The code points a set may hold. -/
inductive Domain where
  | unicode
  | bytes
  deriving DecidableEq, Repr

namespace Domain

def top : Domain → Nat
  | .unicode => 0x10FFFF
  | .bytes => 0xFF

def succ (d : Domain) (n : Nat) : Nat :=
  if d = .unicode ∧ n = 0xD7FF then 0xE000 else n + 1

def pred (d : Domain) (n : Nat) : Nat :=
  if d = .unicode ∧ n = 0xE000 then 0xD7FF else n - 1

end Domain

def spanning (a b : Nat) : Nat × Nat := (min a b, max a b)

/-- A set of code points and whether it is closed under case folding. -/
structure CharSet where
  domain : Domain
  ranges : List (Nat × Nat)
  folded : Bool
  deriving DecidableEq, Repr

/-- Sorted, merged ranges: each range ends at least two code points before the next begins.
A list that is already so comes back unchanged. -/
def mergeRanges (rs : List (Nat × Nat)) : List (Nat × Nat) :=
  let sorted := (rs.map fun r => spanning r.1 r.2).mergeSort fun a b => a.1 ≤ b.1
  (sorted.foldl (fun (acc : List (Nat × Nat)) r =>
    match acc with
    | last :: rest =>
      if r.1 ≤ last.2 + 1 then (last.1, max last.2 r.2) :: rest else r :: acc
    | [] => [r]) []).reverse

/-- The gaps between sorted ranges, within the domain: one before the first range if it does
not start at zero, one between each two neighbours, and one after the last if it does not end
at the top. -/
def gaps (d : Domain) (rs : List (Nat × Nat)) : List (Nat × Nat) :=
  match rs with
  | [] => [(0, d.top)]
  | first :: rest =>
    let before := if first.1 > 0 then [(0, d.pred first.1)] else []
    let between := (rs.zip rest).map fun p => spanning (d.succ p.1.2) (d.pred p.2.1)
    let lastHi := ((first :: rest).getLast?.map (·.2)).getD first.2
    let after := if lastHi < d.top then [(d.succ lastHi, d.top)] else []
    before ++ between ++ after

/-- The common parts of two sorted lists of ranges, walking both: after each pair the range
that ends first gives way to the next of its list, and the walk stops when a list runs out. -/
def meet : List (Nat × Nat) → List (Nat × Nat) → List (Nat × Nat)
  | a :: as, b :: bs =>
    let here := if max a.1 b.1 ≤ min a.2 b.2 then [(max a.1 b.1, min a.2 b.2)] else []
    here ++ if a.2 < b.2 then meet as (b :: bs) else meet (a :: as) bs
  | _, _ => []
termination_by as bs => as.length + bs.length

def cutOut (d : Domain) (a b : Nat × Nat) : List (Nat × Nat) :=
  if b.1 ≤ a.1 ∧ a.2 ≤ b.2 then []
  else
    (if b.1 > a.1 then [spanning a.1 (d.pred b.1)] else []) ++
    (if b.2 < a.2 then [spanning (d.succ b.2) a.2] else [])

/-- How a range fares against the ranges taken out that meet it: the pieces below them that
are final, what remains of the range if anything, and the ranges still to take out. A range
taken out that reaches past the range's end stays for the next range. -/
def cutAll (d : Domain) (range : Nat × Nat) : List (Nat × Nat) →
    List (Nat × Nat) × Option (Nat × Nat) × List (Nat × Nat)
  | [] => ([], some range, [])
  | b :: bs =>
    if max range.1 b.1 > min range.2 b.2 then ([], some range, b :: bs)
    else
      let next := fun (r : Nat × Nat) =>
        if b.2 > range.2 then ([], some r, b :: bs) else cutAll d r bs
      match cutOut d range b with
      | [] => ([], none, b :: bs)
      | [r] => next r
      | r :: r2 :: _ =>
        let (done, left, rest) := next r2
        (r :: done, left, rest)

/-- The ranges of `as` without those of `bs`, both sorted; `fuel` bounds the steps, each of
which uses up a range of one list. -/
def removeAll (d : Domain) : Nat → List (Nat × Nat) → List (Nat × Nat) → List (Nat × Nat)
  | 0, as, _ => as
  | _, [], _ => []
  | _, as, [] => as
  | fuel + 1, a :: as, b :: bs =>
    if b.2 < a.1 then removeAll d fuel (a :: as) bs
    else if a.2 < b.1 then a :: removeAll d fuel as (b :: bs)
    else
      let (done, left, rest) := cutAll d a (b :: bs)
      done ++ left.toList ++ removeAll d fuel as rest

namespace CharSet

def ofRanges (d : Domain) (rs : List (Nat × Nat)) : CharSet :=
  ⟨d, mergeRanges rs, rs.isEmpty⟩

def empty (d : Domain) : CharSet := ofRanges d []

def isEmpty (s : CharSet) : Bool := s.ranges.isEmpty

def contains (s : CharSet) (n : Nat) : Bool := s.ranges.any fun r => r.1 ≤ n ∧ n ≤ r.2

def isAscii (s : CharSet) : Bool := s.ranges.all fun r => r.2 ≤ 0x7F

def push (s : CharSet) (r : Nat × Nat) : CharSet :=
  ⟨s.domain, mergeRanges (s.ranges ++ [r]), false⟩

/-- Both sets together. An empty or equal second set changes nothing. -/
def union (s t : CharSet) : CharSet :=
  if t.ranges.isEmpty ∨ s.ranges = t.ranges then s
  else ⟨s.domain, mergeRanges (s.ranges ++ t.ranges), s.folded && t.folded⟩

/-- The code points of the domain not in the set. The complement of the empty set is folded. -/
def negate (s : CharSet) : CharSet :=
  if s.ranges.isEmpty then ⟨s.domain, [(0, s.domain.top)], true⟩
  else { s with ranges := gaps s.domain s.ranges }

def intersect (s t : CharSet) : CharSet :=
  if s.ranges.isEmpty then s
  else if t.ranges.isEmpty then ⟨s.domain, [], true⟩
  else ⟨s.domain, meet s.ranges t.ranges, s.folded && t.folded⟩

def difference (s t : CharSet) : CharSet :=
  if s.ranges.isEmpty ∨ t.ranges.isEmpty then s
  else
    ⟨s.domain, removeAll s.domain (s.ranges.length + t.ranges.length) s.ranges t.ranges,
      s.folded && t.folded⟩

def symmetricDifference (s t : CharSet) : CharSet :=
  (s.union t).difference (s.intersect t)

/-- The set with the other case of every ASCII letter in it; the set is then folded. -/
def foldAscii (s : CharSet) : CharSet :=
  if s.folded then s
  else
    let extra := s.ranges.flatMap fun r =>
      (if max r.1 0x61 ≤ min r.2 0x7A then [(max r.1 0x61 - 32, min r.2 0x7A - 32)] else []) ++
      (if max r.1 0x41 ≤ min r.2 0x5A then [(max r.1 0x41 + 32, min r.2 0x5A + 32)] else [])
    ⟨s.domain, mergeRanges (s.ranges ++ extra), true⟩

/-- Whether folding the set by Unicode case would need case tables: it is neither empty nor
already folded. -/
def needsCaseTables (s : CharSet) : Bool := !s.folded && !s.ranges.isEmpty

end CharSet

def asciiRanges : AsciiClass → List (Nat × Nat)
  | .alnum => [(0x30, 0x39), (0x41, 0x5A), (0x61, 0x7A)]
  | .alpha => [(0x41, 0x5A), (0x61, 0x7A)]
  | .ascii => [(0x00, 0x7F)]
  | .blank => [(0x09, 0x09), (0x20, 0x20)]
  | .cntrl => [(0x00, 0x1F), (0x7F, 0x7F)]
  | .digit => [(0x30, 0x39)]
  | .graph => [(0x21, 0x7E)]
  | .lower => [(0x61, 0x7A)]
  | .print => [(0x20, 0x7E)]
  | .punct => [(0x21, 0x2F), (0x3A, 0x40), (0x5B, 0x60), (0x7B, 0x7E)]
  | .space => [(0x09, 0x0D), (0x20, 0x20)]
  | .upper => [(0x41, 0x5A)]
  | .word => [(0x30, 0x39), (0x41, 0x5A), (0x5F, 0x5F), (0x61, 0x7A)]
  | .xdigit => [(0x30, 0x39), (0x41, 0x46), (0x61, 0x66)]

def perlRanges : PerlClass → List (Nat × Nat)
  | .digit => asciiRanges .digit
  | .space => asciiRanges .space
  | .word => asciiRanges .word

end Regex

end PartialCnf
