import PartialCnf.Regex.Footprint

/-!
Matching by a nondeterministic automaton. An expression becomes an array of nodes: a node reads
one character of a set, checks an assertion, splits in two, or accepts. The search keeps the set
of nodes alive at each place of the text, starting the automaton anew at every place, so a text
matches when some part of it does; each place costs at most one visit of every node.

Compiling refuses a pattern that cannot be read or given a meaning, one whose automata would pass
the size limit, and one with a word assertion of Unicode mode (no word tables).
-/

namespace PartialCnf

namespace Regex

/-- A node of the automaton. -/
inductive Node where
  | chars (ranges : List (Nat × Nat)) (next : Nat)
  | look (l : Look) (next : Nat)
  | split (first second : Nat)
  | accept
  deriving DecidableEq, Repr

/-- An automaton: its nodes and where it starts. Node `0` accepts. -/
structure Automaton where
  nodes : Array Node
  start : Nat
  deriving DecidableEq, Repr

def isWordChar : Option Char → Bool
  | some c => c.isAlphanum || c = '_'
  | none => false

/-- Whether an assertion holds between the character before a place and the one after it. -/
def Look.holds (l : Look) (prev next : Option Char) : Bool :=
  match l with
  | .start => prev.isNone
  | .finish => next.isNone
  | .startLF => prev.isNone || prev = some '\n'
  | .endLF => next.isNone || next = some '\n'
  | .startCRLF => prev.isNone || prev = some '\n' || (prev = some '\r' && next ≠ some '\n')
  | .endCRLF => next.isNone || next = some '\r' || (next = some '\n' && prev ≠ some '\r')
  | .wordAscii => isWordChar prev != isWordChar next
  | .notWordAscii => isWordChar prev == isWordChar next
  | .wordStartAscii => !isWordChar prev && isWordChar next
  | .wordEndAscii => isWordChar prev && !isWordChar next
  | .wordStartHalfAscii => !isWordChar prev
  | .wordEndHalfAscii => !isWordChar next
  | .wordUnicode | .notWordUnicode | .wordStartUnicode | .wordEndUnicode | .wordStartHalfUnicode
  | .wordEndHalfUnicode => false

def addNode (nodes : Array Node) (n : Node) : Array Node × Nat :=
  let i := nodes.size
  (nodes.push n, i)

def copies (part : Nat → Array Node → Array Node × Nat) : Nat → Nat → Array Node → Array Node × Nat
  | 0, next, nodes => (nodes, next)
  | count + 1, next, nodes =>
    let (nodes, entry) := part next nodes
    copies part count entry nodes

def optionalCopies (part : Nat → Array Node → Array Node × Nat) : Nat → Nat → Array Node → Array Node × Nat
  | 0, next, nodes => (nodes, next)
  | count + 1, next, nodes =>
    let (nodes, entry) := part next nodes
    let (nodes, choice) := addNode nodes (.split entry next)
    optionalCopies part count choice nodes

def loopOf (part : Nat → Array Node → Array Node × Nat) (next : Nat) (nodes : Array Node) : Array Node × Nat :=
  let (nodes, choice) := addNode nodes (.split 0 next)
  let (nodes, entry) := part choice nodes
  (nodes.setIfInBounds choice (.split entry next), choice)

def alternatives (entries : List Nat) (nodes : Array Node) : Array Node × Nat :=
  match entries.reverse with
  | [] => addNode nodes (.chars [] 0)
  | last :: before => before.foldl (fun acc e => addNode acc.1 (.split e acc.2)) (nodes, last)

def runOf (cs : List Char) (next : Nat) (nodes : Array Node) : Array Node × Nat :=
  cs.foldr (fun c acc => addNode acc.1 (.chars [(c.toNat, c.toNat)] acc.2)) (nodes, next)

mutual

/-- Adds the nodes of an expression that lead on to `next`; returns them and the entry. -/
def build : Expr → Nat → Array Node → Array Node × Nat
  | .empty, next, nodes => (nodes, next)
  | .literal cs, next, nodes => runOf cs next nodes
  | .chars _ rs, next, nodes => addNode nodes (.chars rs next)
  | .look l, next, nodes => addNode nodes (.look l next)
  | .capture _ _ sub, next, nodes => build sub next nodes
  | .rep lo hi _ sub, next, nodes =>
    let part := fun n ns => build sub n ns
    let (nodes, tail) := match hi with
      | none => loopOf part next nodes
      | some h => optionalCopies part (h - lo) next nodes
    copies part lo tail nodes
  | .concat items, next, nodes => buildSeq items next nodes
  | .alt branches, next, nodes =>
    let (nodes, entries) := buildEach branches next nodes
    alternatives entries nodes

def buildSeq : List Expr → Nat → Array Node → Array Node × Nat
  | [], next, nodes => (nodes, next)
  | e :: rest, next, nodes =>
    let (nodes, after) := buildSeq rest next nodes
    build e after nodes

def buildEach : List Expr → Nat → Array Node → Array Node × List Nat
  | [], _, nodes => (nodes, [])
  | e :: rest, next, nodes =>
    let (nodes, entry) := build e next nodes
    let (nodes, entries) := buildEach rest next nodes
    (nodes, entry :: entries)

end

/-- The automaton of an expression. -/
def Automaton.ofExpr (e : Expr) : Automaton :=
  let (nodes, start) := build e 0 #[.accept]
  ⟨nodes, start⟩

structure Reached where
  marks : Array Nat
  reading : List Nat
  accepted : Bool

/-- The nodes reached from `todo` without reading, at a place between `prev` and `next`. A node
is visited once a place: its mark is set to the place's number `place`. -/
def Automaton.closure (a : Automaton) (prev next : Option Char) (place : Nat) :
    Nat → List Nat → Reached → Reached
  | 0, _, r => r
  | _, [], r => r
  | fuel + 1, i :: rest, r =>
    if r.marks[i]?.getD place == place then a.closure prev next place fuel rest r
    else
      let r := { r with marks := r.marks.setIfInBounds i place }
      match a.nodes[i]? with
      | some (.split x y) => a.closure prev next place fuel (x :: y :: rest) r
      | some (.look l n) =>
        if l.holds prev next then a.closure prev next place fuel (n :: rest) r
        else a.closure prev next place fuel rest r
      | some (.chars _ _) => a.closure prev next place fuel rest { r with reading := i :: r.reading }
      | some .accept => a.closure prev next place fuel rest { r with accepted := true }
      | none => a.closure prev next place fuel rest r

def Automaton.advance (a : Automaton) (c : Char) (i : Nat) : Option Nat :=
  match a.nodes[i]? with
  | some (.chars rs n) => if rs.any (fun r => r.1 ≤ c.toNat ∧ c.toNat ≤ r.2) then some n else none
  | _ => none

/-- Whether a match ends at or after this place, given the place's number, the character before
it, the rest of the text, the nodes reached by reading up to here, and the visit marks. -/
def Automaton.search (a : Automaton) : Nat → Option Char → List Char → List Nat → Array Nat → Bool
  | place, prev, rest, seeds, marks =>
    let todo := seeds ++ [a.start]
    let r := a.closure prev rest.head? place (todo.length + 2 * a.nodes.size + 1) todo ⟨marks, [], false⟩
    if r.accepted then true
    else match rest with
      | [] => false
      | c :: more => a.search (place + 1) (some c) more (r.reading.filterMap (a.advance c)) r.marks

/-- Whether some part of the text matches. -/
def Automaton.isMatch (a : Automaton) (text : String) : Bool :=
  a.search 1 none text.toList [] (Array.replicate a.nodes.size 0)

/-- Why a pattern cannot be used. -/
inductive CompileError where
  | malformed (pattern : String) (e : Error)
  | unicodeWord
  | tooBig
  deriving DecidableEq, Repr

def CompileError.message : CompileError → String
  | .malformed p e => e.render p
  | .unicodeWord => "error building NFA"
  | .tooBig => "Compiled regex exceeds size limit of " ++ toString sizeLimit ++ " bytes."

/-- The automaton of a pattern, or why there is none. The forward automaton is sized first;
the word assertion is refused only once it fits, and the backward automaton is sized last. -/
def compile (pattern : String) : Except CompileError Automaton := do
  let ast ← (parse pattern).mapError (CompileError.malformed pattern)
  let e ← ((toExpr ast).run' {}).mapError (CompileError.malformed pattern)
  if !fitsLimit false e then throw .tooBig
  if e.hasUnicodeWord then throw .unicodeWord
  if !fitsLimit true e then throw .tooBig
  pure (Automaton.ofExpr e)

end Regex

end PartialCnf
