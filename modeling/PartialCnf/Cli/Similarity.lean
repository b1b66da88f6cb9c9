/-!
Similarity of names, for suggestions: the Jaro similarity of two strings, computed in double
precision exactly as `(m/|a| + m/|b| + (m - t)/m) / 3`, where `m` counts the characters matched
within a window of `max |a| |b| / 2 - 1` positions and `t` is half the matched characters out of
order. A name is suggested when its similarity exceeds 0.7; suggestions come in ascending order of
similarity, ties in the order given.
-/

namespace PartialCnf

namespace Cli

def firstMatch (c : Char) (b : Array Char) (taken : Array Bool) (lo hi : Nat) : Option Nat :=
  (List.range' lo (hi - lo)).find? fun j => b.getD j ' ' == c && !taken.getD j true

/-- Matches the characters of `a` in turn: the flags of matched positions in `a` and in `b`. -/
def matchFlags (a : List Char) (b : Array Char) (window : Nat) : Array Bool × Array Bool :=
  let step (acc : Array Bool × Array Bool) (ci : Char × Nat) : Array Bool × Array Bool :=
    let lo := ci.2 - window
    let hi := min b.size (ci.2 + window + 1)
    match firstMatch ci.1 b acc.2 lo hi with
    | some j => (acc.1.set! ci.2 true, acc.2.set! j true)
    | none => acc
  a.zipIdx.foldl step (Array.replicate a.length false, Array.replicate b.size false)

def flagged (cs : List Char) (flags : Array Bool) : List Char :=
  (cs.zipIdx.filter fun ci => flags.getD ci.2 false).map (·.1)

/-- The Jaro similarity of two strings, in double precision. -/
def jaro (s t : String) : Float :=
  let a := s.toList
  let b := t.toList
  if a.isEmpty && b.isEmpty then 1.0
  else if a.isEmpty || b.isEmpty then 0.0
  else
    let window := max a.length b.length / 2 - 1
    let (fa, fb) := matchFlags a b.toArray window
    let ma := flagged a fa
    let mb := flagged b fb
    let m := ma.length
    if m = 0 then 0.0
    else
      let t := ((ma.zip mb).countP fun p => p.1 != p.2) / 2
      (m.toFloat / a.length.toFloat + m.toFloat / b.length.toFloat + (m - t).toFloat / m.toFloat) / 3.0

/-- The names similar to `v`, in ascending order of similarity. -/
def similar (v : String) (names : List String) : List String :=
  let scored := names.filterMap fun n => let c := jaro v n; if c > 0.7 then some (c, n) else none
  (scored.mergeSort fun x y => decide (x.1 ≤ y.1)).map (·.2)

end Cli

end PartialCnf
