import PartialCnf.Proofs.Table
import PartialCnf.Proofs.StatusLoops

/-!
The table evaluates a formula as the clause list does. `Incidence.evaluate` walks the variables
and folds into every clause a running status; `Cnf.status` walks the clauses and, in each, the
literals. A Kleene disjunction is fixed by whether `satisfied` and `undetermined` occur in it,
so a clause's column gives its status as soon as it holds, beside `falsified` entries for the
variables the clause does not name, the statuses of the clause's literals.
-/

namespace PartialCnf

namespace Status

instance : Std.Commutative Status.or := ⟨or_comm⟩
instance : Std.Associative Status.or := ⟨or_assoc⟩
instance : Std.Commutative Status.and := ⟨and_comm⟩
instance : Std.Associative Status.and := ⟨and_assoc⟩

/-- A Kleene disjunction is satisfied when a member is, else undetermined when a member is. -/
theorem foldr_or_eq (xs : List Status) :
    xs.foldr Status.or .falsified =
      if .satisfied ∈ xs then .satisfied else if .undetermined ∈ xs then .undetermined
      else .falsified := by
  induction xs with
  | nil => rfl
  | cons x xs ih =>
      rw [List.foldr_cons, ih]
      cases x <;> by_cases sat : Status.satisfied ∈ xs <;>
        by_cases und : Status.undetermined ∈ xs <;> simp [or, sat, und]

/-- A Kleene conjunction is falsified when a member is, else undetermined when a member is. -/
theorem foldr_and_eq (xs : List Status) :
    xs.foldr Status.and .satisfied =
      if .falsified ∈ xs then .falsified else if .undetermined ∈ xs then .undetermined
      else .satisfied := by
  induction xs with
  | nil => rfl
  | cons x xs ih =>
      rw [List.foldr_cons, ih]
      cases x <;> by_cases fal : Status.falsified ∈ xs <;>
        by_cases und : Status.undetermined ∈ xs <;> simp [and, fal, und]

/-- Two disjunctions agree when the same statuses other than `falsified` occur in them. -/
theorem foldr_or_congr (xs ys : List Status)
    (same : ∀ s, s ≠ .falsified → (s ∈ xs ↔ s ∈ ys)) :
    xs.foldr Status.or .falsified = ys.foldr Status.or .falsified := by
  simp only [foldr_or_eq, same .satisfied (by decide), same .undetermined (by decide)]

end Status

namespace Polarity

@[simp] theorem contribution_absent (x : Value) : Polarity.absent.contribution x = .falsified :=
  rfl

theorem contribution_ofSign (sign : Bool) (x : Value) :
    (ofSign sign).contribution x = Status.ofValue (x.map (· == sign)) := by
  cases sign <;> rcases x with _ | _ | _ <;> rfl

end Polarity

/-- Read at its own variable, a literal's status is what its sign contributes there. -/
theorem Literal.status_eq_contribution (a : Assignment) (l : Literal) (x : Value)
    (named : 1 ≤ l.var) (read : a[l.var - 1]? = some x) :
    l.status a = (Polarity.ofSign l.sign).contribution x := by
  have nonzero : l.var ≠ 0 := by omega
  simp [Literal.status, Literal.valueIn, nonzero, read, Polarity.contribution_ofSign]

namespace Clause

theorem status_eq_foldr (a : Assignment) (c : Clause) :
    Clause.status a c = (c.map (Literal.status a)).foldr Status.or .falsified := by
  rw [status_eq_ite, Status.foldr_or_eq]
  simp only [List.mem_map]

/-- A clause with distinct variables in `1..n`, read variable by variable: apart from
`falsified`, the contributions of its polarities are the statuses of its literals. -/
theorem exists_contribution_iff (n : Nat) (c : Clause) (distinct : Distinct n c)
    (a : Assignment) (sized : a.size = n) (s : Status) (open_ : s ≠ .falsified) :
    (∃ i x, a[i]? = some x ∧ (polarity c (i + 1)).contribution x = s) ↔
      ∃ l ∈ c, l.status a = s := by
  obtain ⟨range, nodup⟩ := distinct
  constructor
  · rintro ⟨i, x, read, contributes⟩
    cases found : c.find? (·.var == i + 1) with
    | none =>
        simp [polarity, found] at contributes
        exact absurd contributes.symm open_
    | some l =>
        have member := List.mem_of_find?_eq_some found
        have named : l.var = i + 1 := by simpa using List.find?_some found
        refine ⟨l, member, ?_⟩
        rw [Literal.status_eq_contribution a l x (by omega) (by simpa [named] using read)]
        simpa [polarity, found] using contributes
  · rintro ⟨l, member, status⟩
    have inside := range l member
    obtain ⟨x, read⟩ := Option.isSome_iff_exists.mp
      (show a[l.var - 1]?.isSome by simp [sized]; omega)
    refine ⟨l.var - 1, x, read, ?_⟩
    rw [show l.var - 1 + 1 = l.var by omega, polarity_of_mem c l member nodup, ← status,
      Literal.status_eq_contribution a l x inside.1 read]

end Clause

namespace Incidence

/-- The column fold of `evaluate`: every column keeps its place, and column `j` ends as the
disjunction of the contributions in it. -/
theorem tallies_getElem? (rxs : List (Array Polarity × Value)) (ts : Array Status) (j : Nat)
    (wide : ∀ rx ∈ rxs, ts.size ≤ rx.1.size) :
    (rxs.foldl (fun ts rx => Array.zipWith (fun s p => s.or (p.contribution rx.2)) ts rx.1) ts)[j]?
      = ts[j]?.map fun s =>
          rxs.foldl (fun s rx => s.or ((rx.1[j]?.getD .absent).contribution rx.2)) s := by
  induction rxs generalizing ts with
  | nil => simp
  | cons rx rest ih =>
      have here := wide rx (by simp)
      rw [List.foldl_cons, ih]
      · cases found : ts[j]? with
        | none =>
            have outside : ts.size ≤ j := by simpa using found
            simp [Array.getElem?_zipWith, found]
        | some s =>
            have inside : j < ts.size := by
              by_contra outside
              simp [Array.getElem?_eq_none (Nat.le_of_not_lt outside)] at found
            obtain ⟨p, cell⟩ := Option.isSome_iff_exists.mp
              (show rx.1[j]?.isSome by simp; omega)
            simp [Array.getElem?_zipWith, found, cell]
      · intro rx' member
        simpa [Array.size_zipWith, here] using wide rx' (List.mem_cons_of_mem rx member)

/-- The statuses met in column `j` of a shaped table, read against an assignment with one value
per variable. -/
theorem mem_column_iff (t : Incidence) (shaped : t.Shaped) (a : Assignment)
    (sized : a.size = t.numVars) (j : Nat) (s : Status) :
    s ∈ (t.rows.zip a).toList.map (fun rx => (rx.1[j]?.getD .absent).contribution rx.2) ↔
      ∃ i x, a[i]? = some x ∧ (t.get (i + 1) j).contribution x = s := by
  simp only [List.mem_map, Array.mem_toList_iff, Array.mem_iff_getElem?]
  constructor
  · rintro ⟨rx, ⟨i, found⟩, contributes⟩
    obtain ⟨row, read⟩ := Array.getElem?_zip_eq_some.mp found
    exact ⟨i, rx.2, read, by simpa [get, row] using contributes⟩
  · rintro ⟨i, x, read, contributes⟩
    have inside : i < t.rows.size := by
      rw [shaped.1, ← sized]
      exact (Array.getElem?_eq_some_iff.mp read).1
    obtain ⟨row, found⟩ := Option.isSome_iff_exists.mp (show t.rows[i]?.isSome by simp [inside])
    exact ⟨(row, x), ⟨i, Array.getElem?_zip_eq_some.mpr ⟨found, read⟩⟩,
      by simpa [get, found] using contributes⟩

end Incidence

/-- The variable-by-variable evaluation of the table of a well-formed formula is its
clause-by-clause status, for every assignment of one value per variable. -/
theorem evaluate_build (f : Cnf) (wellFormed : f.WellFormed) (a : Assignment)
    (sized : a.size = f.numVars) : (Incidence.build f).evaluate a = Cnf.status a f := by
  obtain ⟨shaped, cells⟩ := Incidence.holds_build f wellFormed
  have wide : ∀ rx ∈ ((Incidence.build f).rows.zip a).toList,
      (Array.replicate (Incidence.build f).numClauses Status.falsified).size ≤ rx.1.size := by
    intro rx member
    obtain ⟨i, found⟩ := Array.mem_iff_getElem?.mp (Array.mem_toList_iff.mp member)
    have row := (Array.getElem?_zip_eq_some.mp found).1
    simp [shaped.2 rx.1 (Array.mem_iff_getElem?.mpr ⟨i, row⟩)]
  -- each column of the tallies is the status of its clause
  have columns : (((Incidence.build f).rows.zip a).toList.foldl
      (fun ts rx => Array.zipWith (fun s p => s.or (p.contribution rx.2)) ts rx.1)
      (Array.replicate (Incidence.build f).numClauses Status.falsified)).toList =
      f.clauses.map (Clause.status a) := by
    apply List.ext_getElem?
    intro j
    rw [Array.getElem?_toList, Incidence.tallies_getElem? _ _ j wide, List.getElem?_map]
    cases clause : f.clauses[j]? with
    | none =>
        have outside : f.clauses.length ≤ j := by simpa using clause
        simp [Cnf.numClauses, outside]
    | some c =>
        have inside : j < f.clauses.length := by
          by_contra outside
          simp [List.getElem?_eq_none (Nat.le_of_not_lt outside)] at clause
        have distinct := (wellFormed c (List.mem_of_getElem? clause)).2
        simp only [Incidence.numClauses_build, Cnf.numClauses, Array.getElem?_replicate, inside,
          if_true, Option.map_some, Option.some.injEq]
        rw [← List.foldl_map, List.foldl_eq_foldr, Clause.status_eq_foldr]
        apply Status.foldr_or_congr
        intro s open_
        rw [Incidence.mem_column_iff _ shaped a sized j s, List.mem_map,
          ← Clause.exists_contribution_iff f.numVars c distinct a sized s open_]
        simp [cells _ j (Nat.succ_pos _), clause]
  -- the final pass over the tallies is the pass over the clauses' statuses
  unfold Incidence.evaluate
  dsimp only
  rw [← Array.foldl_toList, columns, Cnf.status, Status.conjoin_eq_ite, Status.conjoin_eq_ite]
  simp only [List.mem_map, exists_exists_and_eq_and, id]

end PartialCnf
