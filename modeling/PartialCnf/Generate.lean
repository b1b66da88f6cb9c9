import PartialCnf.Cnf
import PartialCnf.Random.ChaCha
import Std.Data.HashSet.Lemmas

/-!
Seeded random k-CNF. Every clause draws `k` distinct variables uniformly from `1..n`, drawing
again on a repeat, with a fair sign for each, and lists them by variable. One row of flags,
one for each variable, is shared by all clauses: a clause raises the flag of each variable it
draws and lowers them again once drawn. The row keeps only the indices of its raised flags, so
its room grows with the width and not with the variable count. The width must be positive and
at most `n`. A draw budget bounds the redrawing; it only matters for sources that repeat
themselves forever.
-/

namespace PartialCnf

namespace Generate

open PartialCnf.Random

/-- Why no formula was generated. -/
inductive GenError where
  | widthZero
  | widthExceeds (k numVars : Nat)
  | exhausted
  deriving DecidableEq, Repr

def GenError.message : GenError → String
  | .widthZero => "clause width k must be positive"
  | .widthExceeds k n => "clause width " ++ toString k ++ " exceeds variable count " ++ toString n
  | .exhausted => "random source exhausted"

/-- How many draws a single variable may take before the source counts as exhausted. -/
def drawBudget : Nat := 18446744073709551616

/-- A row of `size` boolean flags, kept as the set of indices whose flag is raised. -/
structure Flags where
  size : Nat
  raised : Std.HashSet Nat
  raised_lt : ∀ i, raised.contains i = true → i < size

namespace Flags

def replicate (size : Nat) : Flags :=
  ⟨size, {}, fun i raised => by simp at raised⟩

def get (a : Flags) (i : Nat) : Bool :=
  a.raised.contains i

def setIfInBounds (a : Flags) (i : Nat) (b : Bool) : Flags :=
  if inside : i < a.size then
    { size := a.size
      raised := if b then a.raised.insert i else a.raised.erase i
      raised_lt := fun j member => by
        cases b
        · simp only [Bool.false_eq_true, if_false, Std.HashSet.contains_erase, Bool.and_eq_true,
            Bool.not_eq_true', beq_eq_false_iff_ne] at member
          exact a.raised_lt j member.2
        · simp only [if_true, Std.HashSet.contains_insert, Bool.or_eq_true, beq_iff_eq] at member
          rcases member with rfl | member
          · exact inside
          · exact a.raised_lt j member }
  else a

end Flags

variable {σ : Type} [WordSource σ]

/-- A variable of `1..n` whose flag in `picked` is lowered, drawing again on each repeat;
`none` once `fuel` draws are spent. -/
def drawFresh (n : Nat) (picked : Flags) : Nat → σ → Option (Nat × σ)
  | 0, _ => none
  | fuel + 1, g =>
    let (v, g) := drawUpTo n g
    if picked.get v then drawFresh n picked fuel g else some (v, g)

/-- Appends `need` literals on fresh variables to `clause`, each variable followed by its sign,
and raises the flag of each variable in `picked`. -/
def drawLiterals (n fuel : Nat) :
    Nat → Flags → Clause → σ → Option (Clause × Flags × σ)
  | 0, picked, clause, g => some (clause, picked, g)
  | need + 1, picked, clause, g =>
    match drawFresh n picked fuel g with
    | none => none
    | some (v, g) =>
      let (sign, g) := drawBool g
      drawLiterals n fuel need (picked.setIfInBounds v true) (clause ++ [⟨v, sign⟩]) g

def unpick (picked : Flags) (c : Clause) : Flags :=
  c.foldl (fun picked l => picked.setIfInBounds l.var false) picked

/-- One clause of width `k`, sorted by variable, with the flags it raised lowered again. -/
def drawClause (n k fuel : Nat) (picked : Flags) (g : σ) : Option (Clause × Flags × σ) :=
  (drawLiterals n fuel k picked [] g).map fun (c, picked, g) =>
    (c.mergeSort (fun a b => a.var ≤ b.var), unpick picked c, g)

def drawClauses (n k fuel : Nat) : Nat → Flags → σ → Option (List Clause)
  | 0, _, _ => some []
  | count + 1, picked, g =>
    match drawClause n k fuel picked g with
    | none => none
    | some (c, picked, g) => (drawClauses n k fuel count picked g).map (c :: ·)

/-- A k-CNF over `n` variables with `m` clauses drawn from a word source. -/
def kcnf (fuel n m k : Nat) (g : σ) : Except GenError Cnf :=
  if k = 0 then .error .widthZero
  else if n < k then .error (.widthExceeds k n)
  else match drawClauses n k fuel m (Flags.replicate (n + 1)) g with
    | some cs => .ok ⟨n, cs⟩
    | none => .error .exhausted

/-- The k-CNF of a seed: drawn from the ChaCha8 stream that the seed expands to. -/
def seeded (n m k : Nat) (seed : UInt64) : Except GenError Cnf :=
  kcnf drawBudget n m k (ChaCha.seeded seed)

end Generate

end PartialCnf
