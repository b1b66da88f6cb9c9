import PartialCnf.Regex.Expr
import PartialCnf.Regex.Utf8

/-!
The size of the automata the engine builds for a pattern, counted as the engine counts it, so
that a pattern is refused exactly when the engine would refuse it.

The engine builds two automata over bytes: one that reads forward and keeps a pair of states
for every capture group (and one pair around the whole pattern), and one that reads backward
and keeps none. Each counts 32 bytes a state, plus 8 bytes for every transition of a state
with several byte ranges and 4 for every alternative of a union state. A union gains an
alternative each time a part that ends in it is continued. The count must not pass
`sizeLimit`; it only grows, so the first state or alternative past the limit ends the
compilation.

How the engine compiles each kind of part:

* a run of characters is one state a byte of its UTF-8 encoding;
* an ASCII class is a state with one transition a range, plus an empty exit state;
* any other class goes through UTF-8: forward, into a tree of byte-range states that shares
  equal states through a table of 10000 slots; backward, into chains of single byte ranges
  that share equal beginnings through a table of 1000 slots (a table slot holds the last entry
  put there, so clashing entries are not shared);
* alternatives that are all runs of characters go through a trie of their bytes;
* other alternatives get a union state and an empty exit state;
* repetitions are copies of their part, joined by union and empty states.

Every automaton begins with a loop over any byte, so that a match may start anywhere, unless
every match is anchored at the start (forward) or at the end (backward).
-/

namespace PartialCnf

namespace Regex

/-- The largest automaton allowed, in bytes. -/
def sizeLimit : Nat := 10485760

/-- What a compilation has added so far: the states, and the bytes of the lists some states
hold. -/
structure Tally where
  states : Nat := 0
  extra : Nat := 0
  deriving DecidableEq, Repr

def Tally.bytes (t : Tally) : Nat := 32 * t.states + t.extra

/-- A compilation step: the tally so far becomes a result and a new tally, or nothing once the
count passes the limit. -/
abbrev Count := StateT Tally Option

def addState (extra : Nat) : Count Nat := fun t =>
  let next : Tally := { states := t.states + 1, extra := t.extra + extra }
  if next.bytes > sizeLimit then none else some (t.states, next)

def grow : Count Unit := fun t =>
  let next : Tally := { t with extra := t.extra + 4 }
  if next.bytes > sizeLimit then none else some ((), next)

-- a compiled part reports whether its exit is a union state, which gains an alternative when
-- the part is continued; any other exit only learns its target
def link (exitUnion : Bool) : Count Unit := if exitUnion then grow else pure ()

theorem link_false : link false = pure () := rfl

theorem addState_past (extra : Nat) (t : Tally)
    (h : sizeLimit < 32 * (t.states + 1) + (t.extra + extra)) : addState extra t = none := by
  simp only [addState, Tally.bytes, gt_iff_lt, h, ite_true]

def emptyState : Count Bool := do
  discard (addState 0)
  pure false

def byteChain : Nat → Count Bool
  | 0 => pure false
  | n + 1 => do
    discard (addState 0)
    byteChain n

/-! ### Tables that forget on clashes -/

def fnvMix (h : UInt64) (x : Nat) : UInt64 := (h ^^^ x.toUInt64) * 1099511628211

def fnvStart : UInt64 := 14695981039346656037

/-- A table with one entry a slot: putting an entry in a slot replaces what was there, and
looking a key up finds it only if it is the one in its slot. -/
abbrev SlotTable (κ : Type) := List (Nat × κ × Nat)

def SlotTable.lookup {κ : Type} [BEq κ] (tbl : SlotTable κ) (slot : Nat) (key : κ) : Option Nat :=
  match tbl.find? (·.1 == slot) with
  | some (_, k, v) => if k == key then some v else none
  | none => none

def SlotTable.put {κ : Type} (tbl : SlotTable κ) (slot : Nat) (key : κ) (v : Nat) : SlotTable κ :=
  (slot, key, v) :: tbl.filter (·.1 != slot)

/-! ### Classes, forward -/

abbrev Transition := Nat × Nat × Nat

def transitionsSlot (key : List Transition) : Nat :=
  (key.foldl (fun h t => fnvMix (fnvMix (fnvMix h t.1) t.2.1) t.2.2) fnvStart).toNat % 10000

structure Pending where
  trans : List Transition
  last : Option (Nat × Nat)
  deriving DecidableEq, Repr

def Pending.close (p : Pending) (next : Nat) : List Transition :=
  p.trans ++ (p.last.map fun r => (r.1, r.2, next)).toList

/-- The forward compilation of a class: the common exit, the path of pending states from the
start, and the table of states added. -/
structure Forward where
  target : Nat
  pending : Array Pending
  table : SlotTable (List Transition)

def Forward.state (b : Forward) (trans : List Transition) : Count (Forward × Nat) := do
  let slot := transitionsSlot trans
  match b.table.lookup slot trans with
  | some id => pure (b, id)
  | none =>
    let id ← addState (8 * trans.length)
    pure ({ b with table := b.table.put slot trans id }, id)

def Forward.freezeTop (b : Forward) (next : Nat) : Forward :=
  { b with pending := b.pending.modify (b.pending.size - 1) fun p => ⟨p.close next, none⟩ }

def Forward.closeAfter (keep : Nat) : Nat → Forward → Nat → Count Forward
  | 0, b, next => pure (b.freezeTop next)
  | fuel + 1, b, next =>
    if keep + 1 < b.pending.size then do
      let p := b.pending.back?.getD ⟨[], none⟩
      let (b, id) ← ({ b with pending := b.pending.pop } : Forward).state (p.close next)
      Forward.closeAfter keep fuel b id
    else pure (b.freezeTop next)

def sharedLength : List Pending → List (Nat × Nat) → Nat
  | p :: ps, r :: rs => if p.last = some r then sharedLength ps rs + 1 else 0
  | _, _ => 0

def Forward.extend (b : Forward) : List (Nat × Nat) → Forward
  | [] => b
  | r :: rest =>
    let pending := b.pending.modify (b.pending.size - 1) fun p => { p with last := some r }
    { b with pending := rest.foldl (fun acc r => acc.push ⟨[], some r⟩) pending }

def Forward.addSeq (b : Forward) (seq : List (Nat × Nat)) : Count Forward := do
  let shared := sharedLength b.pending.toList seq
  let b ← Forward.closeAfter shared b.pending.size b b.target
  pure (b.extend (seq.drop shared))

def classForward (ranges : List (Nat × Nat)) : Count Bool := do
  let target ← addState 0
  let seqs := ranges.flatMap fun r => utf8Sequences r.1 r.2
  let b ← seqs.foldlM (fun b seq => b.addSeq seq)
    ({ target, pending := #[⟨[], none⟩], table := [] } : Forward)
  let b ← Forward.closeAfter 0 b.pending.size b b.target
  discard (b.state (b.pending[0]?.getD (⟨[], none⟩ : Pending)).trans)
  pure false

/-! ### Classes, backward -/

def suffixSlot (key : Nat × Nat × Nat) : Nat :=
  (fnvMix (fnvMix (fnvMix fnvStart key.1) key.2.1) key.2.2).toNat % 1000

def suffixChain (tbl : SlotTable (Nat × Nat × Nat)) : List (Nat × Nat) → Nat →
    Count (SlotTable (Nat × Nat × Nat))
  | [], _ => pure tbl
  | r :: rest, last => do
    let key := (last, r.1, r.2)
    let slot := suffixSlot key
    match tbl.lookup slot key with
    | some id => suffixChain tbl rest id
    | none =>
      let id ← addState 0
      suffixChain (tbl.put slot key id) rest id

def classBackward (ranges : List (Nat × Nat)) : Count Bool := do
  discard (addState 0)
  let exit ← addState 0
  let seqs := ranges.flatMap fun r => utf8Sequences r.1 r.2
  discard (seqs.foldlM (fun tbl seq => do
    let tbl ← suffixChain tbl seq exit
    grow
    pure tbl) ([] : SlotTable (Nat × Nat × Nat)))
  pure false

def classPart (backward : Bool) (ranges : List (Nat × Nat)) : Count Bool :=
  if ranges.all (·.2 ≤ 0x7F) then do
    discard (addState 0)
    discard (addState (8 * ranges.length))
    pure false
  else if backward then classBackward ranges
  else classForward ranges

/-! ### Alternatives of runs of characters -/

/-- A trie node: its transitions (byte, child), and where each of its matches cuts them. -/
structure TrieNode where
  trans : List (Nat × Nat)
  chunks : List (Nat × Nat)
  deriving DecidableEq, Repr

def TrieNode.openStart (n : TrieNode) : Nat := (n.chunks.getLast?.map (·.2)).getD 0

def TrieNode.openChunk (n : TrieNode) : List (Nat × Nat) := n.trans.drop n.openStart

def TrieNode.addMatch (n : TrieNode) : TrieNode :=
  if n.trans.isEmpty && !n.chunks.isEmpty then n
  else { n with chunks := n.chunks ++ [(n.openStart, n.trans.length)] }

def trieStep (t : Array TrieNode) (node b : Nat) : Array TrieNode × Nat :=
  let n := t[node]?.getD ⟨[], []⟩
  match n.openChunk.find? (·.1 == b) with
  | some (_, child) => (t, child)
  | none =>
    let child := t.size
    let pos := n.openStart + (n.openChunk.filter (·.1 < b)).length
    let n := { n with trans := n.trans.take pos ++ [(b, child)] ++ n.trans.drop pos }
    ((t.setIfInBounds node n).push ⟨[], []⟩, child)

def trieAdd (t : Array TrieNode) (bytes : List Nat) : Array TrieNode :=
  let (t, last) := bytes.foldl (fun acc b => trieStep acc.1 acc.2 b) (t, 0)
  t.setIfInBounds last ((t[last]?.getD ⟨[], []⟩).addMatch)

def TrieNode.allChunks (n : TrieNode) : List (List (Nat × Nat)) :=
  n.chunks.map (fun c => (n.trans.drop c.1).take (c.2 - c.1)) ++ [n.openChunk]

/-- Adds the states of a trie node below it: each chunk is one state of its bytes (one byte
range when it has one byte), each child that is not a leaf is compiled first, and the node is a
union of its chunks with the common exit between them. `fuel` bounds the depth. -/
def trieState (t : Array TrieNode) : Nat → Nat → Count Unit
  | 0, _ => pure ()
  | fuel + 1, node => do
    let n := t[node]?.getD ⟨[], []⟩
    let chunks := n.allChunks
    let mut alternatives := chunks.length - 1
    for chunk in chunks do
      for (_, child) in chunk do
        if !((t[child]?.map (·.trans.isEmpty)).getD true) then trieState t fuel child
      if chunk.length = 1 then
        discard (addState 0)
        alternatives := alternatives + 1
      else if chunk.length > 1 then
        discard (addState (8 * chunk.length))
        alternatives := alternatives + 1
    discard (addState (4 * alternatives))

def literalTrie (backward : Bool) (runs : List (List Char)) : Count Bool := do
  let root : Array TrieNode := #[⟨[], []⟩]
  let t := runs.foldl (fun t cs => trieAdd t (if backward then (utf8Text cs).reverse else utf8Text cs)) root
  discard (addState 0)
  trieState t t.size 0
  pure false

def literalRuns : List Expr → Option (List (List Char))
  | [] => some []
  | .literal cs :: rest => (literalRuns rest).map (cs :: ·)
  | _ => none

/-! ### Sequences, alternatives, groups and repetitions -/

def linkAll : List (Count Bool) → Bool → Count Bool
  | [], exit => pure exit
  | p :: rest, exit => do
    let e ← p
    link exit
    linkAll rest e

def sequenceOf : List (Count Bool) → Count Bool
  | [] => emptyState
  | p :: rest => do linkAll rest (← p)

def moreAlternatives : List (Count Bool) → Count Unit
  | [] => pure ()
  | p :: rest => do
    let e ← p
    grow
    link e
    moreAlternatives rest

def alternativesOf : List (Count Bool) → Count Bool
  | [] => emptyState
  | [p] => p
  | p :: q :: rest => do
    let e1 ← p
    let e2 ← q
    discard (addState 0)
    discard (addState 0)
    grow
    link e1
    grow
    link e2
    moreAlternatives rest
    pure false

def captured (p : Count Bool) : Count Bool := do
  discard (addState 0)
  let e ← p
  discard (addState 0)
  link e
  pure false

def countMoreCopies (p : Count Bool) : Nat → Bool → Count Bool
  | 0, exit => pure exit
  | n + 1, exit => fun t =>
    match p t with
    | none => none
    | some (e, t) =>
      match link exit t with
      | none => none
      | some (_, t) => countMoreCopies p n e t

def countCopies (p : Count Bool) : Nat → Count Bool
  | 0 => emptyState
  | n + 1 => fun t =>
    match p t with
    | none => none
    | some (e, t) => countMoreCopies p n e t

def countOptionalCopies (p : Count Bool) : Nat → Bool → Count Bool
  | 0, prev => do
    link prev
    pure false
  | n + 1, prev => fun t =>
    let step : Count Bool := do
      discard (addState 0)
      let e ← p
      link prev
      grow
      grow
      pure e
    match step t with
    | none => none
    | some (e, t) => countOptionalCopies p n e t

/-- A repetition of a part, from `lo` to `hi` copies. `nonEmpty` says whether every match of
the part is non-empty, which lets an unbounded repetition loop through a single union. -/
def repetitionOf (p : Count Bool) (nonEmpty : Bool) (lo : Nat) (hi : Option Nat) : Count Bool :=
  match lo, hi with
  | 0, some 1 => do
    discard (addState 0)
    let e ← p
    discard (addState 0)
    grow
    grow
    link e
    pure false
  | 0, none =>
    if nonEmpty then do
      discard (addState 0)
      let e ← p
      grow
      link e
      pure true
    else do
      let e ← p
      discard (addState 0)
      link e
      grow
      discard (addState 0)
      discard (addState 0)
      grow
      grow
      grow
      pure false
  | 1, none => do
    let e ← p
    discard (addState 0)
    link e
    grow
    pure true
  | n + 2, none => do
    let pe ← countCopies p (n + 1)
    let le ← p
    discard (addState 0)
    link pe
    link le
    grow
    pure true
  | lo, some hi =>
    if lo = hi then countCopies p lo
    else do
      let pe ← countCopies p lo
      discard (addState 0)
      countOptionalCopies p (hi - lo) pe

namespace Expr

mutual

/-- The fewest bytes a match takes, if the expression can match at all. -/
def minLen : Expr → Option Nat
  | .empty | .look _ => some 0
  | .literal cs => some (utf8Text cs).length
  | .chars _ rs => rs.head?.map fun r => (utf8Bytes r.1).length
  | .rep lo _ _ sub => sub.minLen.map (· * lo)
  | .capture _ _ sub => sub.minLen
  | .concat items => minLenSum items
  | .alt branches => minLenLeast branches

def minLenSum : List Expr → Option Nat
  | [] => some 0
  | e :: rest => do pure ((← e.minLen) + (← minLenSum rest))

def minLenLeast : List Expr → Option Nat
  | [] => none
  | [e] => e.minLen
  | e :: rest => do pure (min (← e.minLen) (← minLenLeast rest))

end

mutual

def startsAnchored : Expr → Bool
  | .look l => l = .start
  | .rep lo _ _ sub => lo > 0 && sub.startsAnchored
  | .capture _ _ sub => sub.startsAnchored
  | .concat items => leadingAnchored items
  | .alt branches => !branches.isEmpty && allStartAnchored branches
  | _ => false

def leadingAnchored : List Expr → Bool
  | [] => false
  | e :: rest => e.startsAnchored || (e.zeroWidth && leadingAnchored rest)

def allStartAnchored : List Expr → Bool
  | [] => true
  | e :: rest => e.startsAnchored && allStartAnchored rest

end

mutual

def endsAnchored : Expr → Bool
  | .look l => l = .finish
  | .rep lo _ _ sub => lo > 0 && sub.endsAnchored
  | .capture _ _ sub => sub.endsAnchored
  | .concat items => trailingAnchored items
  | .alt branches => !branches.isEmpty && allEndAnchored branches
  | _ => false

def trailingAnchored : List Expr → Bool
  | [] => false
  | e :: rest => trailingAnchored rest || (allZeroWidth rest && e.endsAnchored)

def allEndAnchored : List Expr → Bool
  | [] => true
  | e :: rest => e.endsAnchored && allEndAnchored rest

end

end Expr

mutual

/-- The compilation of an expression, forward (with capture groups) or backward; gives whether
its exit is a union. -/
def compilePart (backward : Bool) : Expr → Count Bool
  | .empty => emptyState
  | .literal cs => byteChain (utf8Text cs).length
  | .chars _ rs => classPart backward rs
  | .look _ => emptyState
  | .capture _ _ sub => if backward then compilePart backward sub else captured (compilePart backward sub)
  | .rep lo hi _ sub => repetitionOf (compilePart backward sub) (sub.minLen.any (· > 0)) lo hi
  | .concat items =>
    let ps := compileParts backward items
    sequenceOf (if backward then ps.reverse else ps)
  | .alt branches =>
    match literalRuns branches with
    | some runs => if runs.length ≥ 2 then literalTrie backward runs
      else alternativesOf (compileParts backward branches)
    | none => alternativesOf (compileParts backward branches)

def compileParts (backward : Bool) : List Expr → List (Count Bool)
  | [] => []
  | e :: rest => compilePart backward e :: compileParts backward rest

end

/-- The whole automaton: the loop over any byte unless anchored, the pattern (in a capture
group when forward), and the match state. -/
def compileWhole (backward : Bool) (e : Expr) : Count Unit := do
  let anchored := if backward then e.endsAnchored else e.startsAnchored
  let pre ← if anchored then emptyState else do
    discard (addState 0)
    discard (addState 0)
    discard (addState 8)
    grow
    pure true
  let body := compilePart backward e
  let exit ← if backward then body else captured body
  discard (addState 0)
  link exit
  link pre

/-- Whether the automaton of an expression, forward or backward, stays within the limit. -/
def fitsLimit (backward : Bool) (e : Expr) : Bool := ((compileWhole backward e).run {}).isSome

end Regex

end PartialCnf
