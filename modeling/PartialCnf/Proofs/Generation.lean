import PartialCnf.Generate
import PartialCnf.Proofs.RoundTrip

/-!
What the generator of random k-CNF formulas produces. A draw from `1..n` lands in `1..n` for
every source of words, so the redrawing loop returns a variable whose flag is lowered, a
clause's literals name distinct variables, and sorting them by variable makes the variables
strictly increasing. The row of flags is the array of booleans it stands for, and lowering the
flags of the clause just drawn leaves that array all lowered, so each clause starts from the
row the first one did. The width is refused when it is zero or exceeds the variable count;
otherwise the only way not to return a formula is to spend the draw budget, which stands for a
redrawing loop that never ends. A generated formula is well formed, so it has an incidence table
and reads back from its DIMACS text.
-/

namespace PartialCnf

namespace Random

theorem high_lt (x n : Nat) (word : x < wordCount) (pos : 1 ≤ n) : x * n / wordCount < n := by
  rw [Nat.div_lt_iff_lt_mul (by decide), Nat.mul_comm n]
  exact Nat.mul_lt_mul_of_pos_right word pos

/-- When the low part of `x · n` falls in the top `n` values, the high part is at most `n - 2`,
so the carry of the correction word cannot lift the draw past `n`. -/
theorem high_add_one_lt (x n : Nat) (word : x < wordCount)
    (top : wordCount - n < x * n % wordCount) : x * n / wordCount + 1 < n := by
  have bound : x * n ≤ (wordCount - 1) * n := Nat.mul_le_mul_right n (by omega)
  generalize x * n = product at bound top ⊢
  unfold wordCount at bound top ⊢
  omega

variable {σ : Type} [WordSource σ]

/-- A draw from `1..n` lies in `1..n`, whatever words the source yields. -/
theorem drawUpTo_mem (n : Nat) (pos : 1 ≤ n) (g : σ) :
    1 ≤ (drawUpTo n g).1 ∧ (drawUpTo n g).1 ≤ n := by
  rcases drawn : (WordSource.next g : UInt32 × σ) with ⟨x, g₁⟩
  have word : x.toNat < wordCount := x.toNat_lt
  have high := high_lt x.toNat n word pos
  have room := high_add_one_lt x.toNat n word
  simp only [drawUpTo, drawn]
  generalize x.toNat * n / wordCount = hi at high room ⊢
  generalize x.toNat * n % wordCount = lo at room ⊢
  split
  · -- a second word corrects the draw; its carry is at most one, and there is room for it
    split <;> omega
  · omega

end Random

namespace Generate

open PartialCnf.Random

variable {σ : Type} [WordSource σ]

namespace Flags

/-- The flags as the array of booleans they stand for. -/
def toArray (a : Flags) : Array Bool :=
  Array.ofFn fun i : Fin a.size => a.get i

@[simp] theorem size_toArray (a : Flags) : a.toArray.size = a.size :=
  Array.size_ofFn

theorem get_eq_false_of_le (a : Flags) (i : Nat) (past : a.size ≤ i) : a.get i = false := by
  cases raised : a.get i
  · rfl
  · exact absurd (a.raised_lt i raised) (by omega)

theorem get_setIfInBounds (a : Flags) (i j : Nat) (b : Bool) (inside : i < a.size) :
    (a.setIfInBounds i b).get j = if i = j then b else a.get j := by
  by_cases same : i = j
  · subst same
    cases b <;> simp [setIfInBounds, inside, get]
  · cases b <;> simp [setIfInBounds, inside, get, same]

/-- Reading a flag is reading the array at that index, lowered past its end. -/
theorem getD_toArray (a : Flags) (i : Nat) : a.toArray.getD i false = a.get i := by
  by_cases inside : i < a.size
  · simp [toArray, inside]
  · simp [toArray, inside, get_eq_false_of_le a i (by omega)]

theorem toArray_replicate (size : Nat) :
    (replicate size).toArray = Array.replicate size false := by
  ext i
  · simp [toArray, replicate]
  · simp [toArray, replicate, get]

/-- Setting a flag is setting the array cell, and an index past the end changes neither. -/
theorem toArray_setIfInBounds (a : Flags) (i : Nat) (b : Bool) :
    (a.setIfInBounds i b).toArray = a.toArray.setIfInBounds i b := by
  by_cases inside : i < a.size
  · have size : (a.setIfInBounds i b).size = a.size := by simp [setIfInBounds, inside]
    ext j within within'
    · simp [size]
    · rw [Array.getElem_setIfInBounds (by simpa using within')]
      simp [toArray, get_setIfInBounds a i j b inside]
  · have unchanged : a.setIfInBounds i b = a := by simp [setIfInBounds, inside]
    rw [unchanged, Array.setIfInBounds_eq_of_size_le (by simpa using inside)]

end Flags

/-- Lowering the flags of a clause's variables is the loop that lowers each array cell in turn. -/
theorem toArray_unpick (picked : Flags) (c : Clause) :
    (unpick picked c).toArray =
      c.foldl (fun cells l => cells.setIfInBounds l.var false) picked.toArray := by
  induction c generalizing picked with
  | nil => rfl
  | cons l ls ih =>
      simp only [unpick, List.foldl_cons] at ih ⊢
      rw [ih, Flags.toArray_setIfInBounds]

/-- The flags while a clause is drawn: a cell for each variable of `1..n` besides cell 0,
raised exactly at the variables drawn so far. -/
structure Marked (n : Nat) (cells : Array Bool) (clause : Clause) : Prop where
  size_eq : cells.size = n + 1
  raised_iff : ∀ v, cells.getD v false = true ↔ v ∈ clause.map Literal.var

namespace Marked

variable {n : Nat} {cells : Array Bool} {clause : Clause}

theorem replicate : Marked n (Array.replicate (n + 1) false) [] :=
  ⟨Array.size_replicate, fun v => by
    simp only [Array.getD_eq_getD_getElem?, Array.getElem?_replicate]
    split <;> simp⟩

theorem push (marked : Marked n cells clause) (l : Literal) (high : l.var ≤ n) :
    Marked n (cells.setIfInBounds l.var true) (clause ++ [l]) := by
  refine ⟨by simp [marked.size_eq], fun v => ?_⟩
  have inside : l.var < cells.size := by rw [marked.size_eq]; omega
  by_cases same : l.var = v
  · subst same
    simp [inside]
  · simpa [same, Ne.symm same] using marked.raised_iff v

theorem getD_lower (cells : Array Bool) (ls : List Literal) (v : Nat) :
    (ls.foldl (fun cells l => cells.setIfInBounds l.var false) cells).getD v false = true ↔
      cells.getD v false = true ∧ v ∉ ls.map Literal.var := by
  induction ls generalizing cells with
  | nil => simp
  | cons l ls ih =>
      rw [List.foldl_cons, ih]
      by_cases same : l.var = v
      · subst same
        have lowered : (cells.setIfInBounds l.var false).getD l.var false = false := by
          rw [Array.getD_eq_getD_getElem?, Array.getElem?_setIfInBounds_self]
          split <;> rfl
        simp [lowered]
      · simp [same, Ne.symm same]

theorem size_lower (cells : Array Bool) (ls : List Literal) :
    (ls.foldl (fun cells l => cells.setIfInBounds l.var false) cells).size = cells.size := by
  induction ls generalizing cells with
  | nil => rfl
  | cons l ls ih => rw [List.foldl_cons, ih, Array.size_setIfInBounds]

/-- Lowering the cells of the clause drawn lowers every cell: the row is all lowered again, as
a fresh one would be for the next clause. -/
theorem lower_eq_replicate (marked : Marked n cells clause) :
    clause.foldl (fun cells l => cells.setIfInBounds l.var false) cells =
      Array.replicate (n + 1) false := by
  apply Array.ext
  · rw [size_lower, marked.size_eq, Array.size_replicate]
  · intro v inside _
    have lowered : (clause.foldl (fun cells l => cells.setIfInBounds l.var false) cells).getD v
        false = false := by
      rw [← Bool.not_eq_true, getD_lower, marked.raised_iff]
      exact fun ⟨drawn, notDrawn⟩ => notDrawn drawn
    rw [Array.getElem_eq_getD false, lowered, Array.getElem_replicate]

end Marked

theorem drawFresh_eq_some (n : Nat) (pos : 1 ≤ n) (picked : Flags) (fuel : Nat)
    (g : σ) (v : Nat) (g' : σ) (drawn : drawFresh n picked fuel g = some (v, g')) :
    1 ≤ v ∧ v ≤ n ∧ picked.get v = false := by
  induction fuel generalizing g with
  | zero => cases drawn
  | succ fuel ih =>
      have inRange := drawUpTo_mem n pos g
      rcases draw : drawUpTo n g with ⟨w, g₁⟩
      rw [draw] at inRange
      simp only [drawFresh, draw] at drawn
      split at drawn
      · exact ih _ drawn
      · rename_i fresh
        obtain ⟨rfl, -⟩ := Prod.mk.inj (Option.some.inj drawn)
        exact ⟨inRange.1, inRange.2, by simpa using fresh⟩

theorem distinct_append_singleton_iff (n : Nat) (c : Clause) (l : Literal) :
    Clause.Distinct n (c ++ [l]) ↔
      (1 ≤ l.var ∧ l.var ≤ n) ∧ l.var ∉ c.map Literal.var ∧ Clause.Distinct n c := by
  have perm : (c ++ [l]).Perm (l :: c) := List.perm_append_singleton l c
  rw [← Clause.distinct_cons_iff, Clause.Distinct, Clause.Distinct,
    (perm.map Literal.var).nodup_iff]
  simp only [perm.mem_iff]

/-- Drawing `need` more literals onto `clause`, whose variables are the raised flags of
`picked`: the literals keep distinct variables in `1..n`, `need` of them are added, and the
flags raised are those of the variables drawn. -/
theorem drawLiterals_eq_some (n fuel : Nat) (pos : 1 ≤ n) (need : Nat) (picked : Flags)
    (clause : Clause) (g : σ) (c : Clause) (picked' : Flags) (g' : σ)
    (marked : Marked n picked.toArray clause) (distinct : Clause.Distinct n clause)
    (drawn : drawLiterals n fuel need picked clause g = some (c, picked', g')) :
    c.length = clause.length + need ∧ Clause.Distinct n c ∧ Marked n picked'.toArray c := by
  induction need generalizing picked clause g with
  | zero =>
      simp only [drawLiterals, Option.some.injEq, Prod.mk.injEq] at drawn
      obtain ⟨rfl, rfl, -⟩ := drawn
      exact ⟨rfl, distinct, marked⟩
  | succ need ih =>
      rw [drawLiterals] at drawn
      split at drawn
      · cases drawn
      · rename_i v g₁ fresh
        obtain ⟨low, high, lowered⟩ := drawFresh_eq_some n pos picked fuel g v g₁ fresh
        have absent : v ∉ clause.map Literal.var := by
          rw [← marked.raised_iff, Flags.getD_toArray, lowered]
          exact Bool.false_ne_true
        -- the drawn variable joins the end of the clause and the raised flags
        have marked' := marked.push ⟨v, (drawBool g₁).1⟩ high
        rw [← Flags.toArray_setIfInBounds] at marked'
        obtain ⟨length, formed, marks⟩ := ih _ _ _ marked'
          ((distinct_append_singleton_iff n clause _).mpr ⟨⟨low, high⟩, absent, distinct⟩) drawn
        refine ⟨?_, formed, marks⟩
        rw [length, List.length_append, List.length_singleton]
        omega

theorem pairwise_lt_mergeSort (c : Clause) (nodup : (c.map Literal.var).Nodup) :
    ((c.mergeSort fun a b => a.var ≤ b.var).map Literal.var).Pairwise (· < ·) := by
  have sorted : (c.mergeSort fun a b => a.var ≤ b.var).Pairwise fun a b => a.var ≤ b.var := by
    have := @List.pairwise_mergeSort Literal (fun a b => decide (a.var ≤ b.var))
      (fun a b c ab bc => by simp only [decide_eq_true_eq] at *; omega)
      (fun a b => by simp only [Bool.or_eq_true, decide_eq_true_eq]; omega) c
    simpa using this
  have apart : ((c.mergeSort fun a b => a.var ≤ b.var).map Literal.var).Nodup :=
    (List.mergeSort_perm c _).map Literal.var |>.nodup_iff.mpr nodup
  rw [List.pairwise_map]
  rw [List.Nodup, List.pairwise_map] at apart
  exact (sorted.and apart).imp fun ⟨le, ne⟩ => Nat.lt_of_le_of_ne le ne

/-- A generated clause of width `k`: `k` literals on variables of `1..n`, strictly increasing. -/
def SortedClause (n k : Nat) (c : Clause) : Prop :=
  c.length = k ∧ (∀ l ∈ c, 1 ≤ l.var ∧ l.var ≤ n) ∧ (c.map Literal.var).Pairwise (· < ·)

theorem distinct_of_sortedClause (n k : Nat) (c : Clause) (sorted : SortedClause n k c) :
    Clause.Distinct n c :=
  ⟨sorted.2.1, sorted.2.2.imp Nat.ne_of_lt⟩

theorem wellFormed_of_sortedClause (n k : Nat) (c : Clause) (nonzero : k ≠ 0)
    (sorted : SortedClause n k c) : Clause.WellFormed n c := by
  refine ⟨fun empty => nonzero ?_, distinct_of_sortedClause n k c sorted⟩
  rw [← sorted.1, empty, List.length_nil]

/-- A clause drawn while every flag is lowered is sorted, and leaves every flag lowered. -/
theorem drawClause_eq_some (n k fuel : Nat) (pos : 1 ≤ n) (picked : Flags) (g : σ) (c : Clause)
    (picked' : Flags) (g' : σ) (clear : picked.toArray = Array.replicate (n + 1) false)
    (drawn : drawClause n k fuel picked g = some (c, picked', g')) :
    SortedClause n k c ∧ picked'.toArray = Array.replicate (n + 1) false := by
  obtain ⟨⟨lits, raised, g₁⟩, literals, sorted⟩ := Option.map_eq_some_iff.mp drawn
  simp only [Prod.mk.injEq] at sorted
  obtain ⟨rfl, rfl, -⟩ := sorted
  obtain ⟨length, ⟨range, nodup⟩, marked⟩ := drawLiterals_eq_some n fuel pos k picked [] g lits
    raised g₁ (clear ▸ Marked.replicate) ⟨by simp, by simp⟩ literals
  refine ⟨⟨by simpa using length, fun l member => range l (List.mem_mergeSort.mp member),
    pairwise_lt_mergeSort lits nodup⟩, ?_⟩
  rw [toArray_unpick, marked.lower_eq_replicate]

theorem drawClauses_eq_some (n k fuel : Nat) (pos : 1 ≤ n) (count : Nat) (picked : Flags) (g : σ)
    (cs : List Clause) (clear : picked.toArray = Array.replicate (n + 1) false)
    (drawn : drawClauses n k fuel count picked g = some cs) :
    cs.length = count ∧ ∀ c ∈ cs, SortedClause n k c := by
  induction count generalizing picked g cs with
  | zero =>
      cases Option.some.inj drawn
      exact ⟨rfl, by simp⟩
  | succ count ih =>
      rw [drawClauses] at drawn
      split at drawn
      · cases drawn
      · rename_i c picked₁ g₁ first
        -- the row is all lowered again, so the next clause starts as the first did
        obtain ⟨sortedFirst, clear₁⟩ :=
          drawClause_eq_some n k fuel pos picked g c picked₁ g₁ clear first
        obtain ⟨rest, later, rfl⟩ := Option.map_eq_some_iff.mp drawn
        obtain ⟨length, sorted⟩ := ih picked₁ g₁ rest clear₁ later
        refine ⟨by rw [List.length_cons, length], ?_⟩
        rintro c' (_ | ⟨_, member⟩)
        · exact sortedFirst
        · exact sorted c' member

/-- The outcomes of generation from any source and budget: the width errors exactly for a zero
width or one past the variable count, and otherwise a formula of `m` sorted clauses of width
`k`, or a spent budget. -/
theorem kcnf_cases (fuel n m k : Nat) (g : σ) :
    (kcnf fuel n m k g = .error .widthZero ↔ k = 0) ∧
    (kcnf fuel n m k g = .error (.widthExceeds k n) ↔ k ≠ 0 ∧ n < k) ∧
    (k ≠ 0 → k ≤ n → kcnf fuel n m k g = .error .exhausted ∨
      ∃ cs, kcnf fuel n m k g = .ok ⟨n, cs⟩ ∧ cs.length = m ∧ ∀ c ∈ cs, SortedClause n k c) := by
  by_cases zero : k = 0
  · simp [kcnf, zero]
  by_cases wide : n < k
  · simp [kcnf, zero, wide]
  -- a width in `1..n` is accepted, and the draws decide the rest
  cases drawn : drawClauses n k fuel m (Flags.replicate (n + 1)) g with
  | none =>
      have spent : kcnf fuel n m k g = .error .exhausted := by simp [kcnf, zero, wide, drawn]
      rw [spent]
      exact ⟨by simp [zero], by simp [wide], fun _ _ => .inl rfl⟩
  | some cs =>
      obtain ⟨length, sorted⟩ :=
        drawClauses_eq_some n k fuel (by omega) m _ g cs (Flags.toArray_replicate _) drawn
      have ok : kcnf fuel n m k g = .ok ⟨n, cs⟩ := by simp [kcnf, zero, wide, drawn]
      rw [ok]
      exact ⟨by simp [zero], by simp [wide], fun _ _ => .inr ⟨cs, rfl, length, sorted⟩⟩

/-- The seeded generator: it refuses a zero width, and otherwise a width past the variable
count; any other width gives a formula over `n` variables of `m` clauses, each of `k` literals
on strictly increasing variables of `1..n`, or the redrawing loop spends its budget. A formula
it returns has an incidence table and reads back from its DIMACS text, for the variable and
clause counts that fit their 32- and 64-bit types. -/
theorem seeded_width_errors_and_sorted_clauses (n m k : Nat) (seed : UInt64) :
    (seeded n m k seed = .error .widthZero ↔ k = 0) ∧
    (seeded n m k seed = .error (.widthExceeds k n) ↔ k ≠ 0 ∧ n < k) ∧
    (k ≠ 0 → k ≤ n → seeded n m k seed = .error .exhausted ∨ ∃ c, seeded n m k seed = .ok c) ∧
    (∀ c, seeded n m k seed = .ok c →
      c.numVars = n ∧ c.clauses.length = m ∧ (∀ cl ∈ c.clauses, SortedClause n k cl) ∧
      (∃ t, Incidence.ofCnf c = .ok t) ∧
      (n ≤ maxVar → m ≤ 18446744073709551615 → Cnf.ofDimacsText c.toDimacs = .ok c)) := by
  obtain ⟨zero, wide, outcome⟩ := kcnf_cases drawBudget n m k (ChaCha.seeded seed)
  refine ⟨zero, wide, fun nonzero narrow => ?_, fun c generated => ?_⟩
  · rcases outcome nonzero narrow with spent | ⟨cs, ok, -⟩
    · exact .inl spent
    · exact .inr ⟨_, ok⟩
  -- a formula is returned only for a width in `1..n`
  have nonzero : k ≠ 0 := fun same => by
    rw [seeded, zero.mpr same] at generated
    cases generated
  have narrow : k ≤ n := Nat.le_of_not_lt fun past => by
    rw [seeded, wide.mpr ⟨nonzero, past⟩] at generated
    cases generated
  rcases outcome nonzero narrow with spent | ⟨cs, ok, length, sorted⟩
  · rw [seeded, spent] at generated
    cases generated
  rw [seeded, ok, Except.ok.injEq] at generated
  subst generated
  have formed : Cnf.WellFormed ⟨n, cs⟩ := fun cl member =>
    wellFormed_of_sortedClause n k cl nonzero (sorted cl member)
  refine ⟨rfl, length, sorted, (Incidence.exists_ofCnf_eq_ok_iff _).mpr formed,
    fun varsFit countFits => ?_⟩
  exact Dimacs.ofDimacsText_of_accepts _ _
    (Dimacs.accepts_toDimacs _ formed varsFit (by rw [length]; exact countFits))

end Generate

end PartialCnf
