import PartialCnf.Proofs.Backtracking

/-!
Every index the table and the assignment are read or written at lies inside its array. The
table keeps its cells in rows, one row per variable and one cell per clause in each; laid end to
end they are one variable-major buffer of `numVars * numClauses` cells, in which variable `v`,
clause `j` sits at `(v - 1) * numClauses + j`. Writing a cell of a row is writing the buffer at
that place, so building the table fills a buffer of absent cells literal by literal, each at its
own place (`cells_build`). For a formula built from a CNF, and after any run of changes, that
buffer has its full size, each literal's cell written while the table is built lies in it, the
row and the cells of each variable `1..numVars` are read from it, a variable's value is read or
written only when the variable is in `1..numVars` (so never at `0 - 1`), and evaluation finds
one value beside every row and one cell beside every clause.
-/

namespace PartialCnf

section Uniform

variable {α : Type} (L : List (List α)) (m : Nat)

theorem drop_mul_flatten (uniform : ∀ r ∈ L, r.length = m) (i : Nat) :
    L.flatten.drop (i * m) = (L.drop i).flatten := by
  induction L generalizing i with
  | nil => simp
  | cons r rs ih =>
      cases i with
      | zero => simp
      | succ i =>
          have split : (i + 1) * m = r.length + i * m := by
            rw [uniform r List.mem_cons_self, Nat.succ_mul, Nat.add_comm]
          rw [List.flatten_cons, split, List.drop_append,
            List.drop_eq_nil_of_le (Nat.le_add_right _ _), List.nil_append, Nat.add_sub_cancel_left,
            ih (fun r' member => uniform r' (List.mem_cons_of_mem r member)) i,
            List.drop_succ_cons]

theorem length_flatten_of_uniform (uniform : ∀ r ∈ L, r.length = m) :
    L.flatten.length = L.length * m := by
  rw [List.length_flatten, List.map_eq_replicate_iff.mpr uniform, List.sum_replicate_nat]

theorem flatten_modify_setIfInBounds (rows : List (Array α)) (uniform : ∀ r ∈ rows, r.size = m)
    (i j : Nat) (hi : i < rows.length) (hj : j < m) (p : α) :
    ((rows.modify i (·.setIfInBounds j p)).map Array.toList).flatten =
      (rows.map Array.toList).flatten.set (i * m + j) p := by
  induction rows generalizing i with
  | nil => simp at hi
  | cons r rs ih =>
      have width : r.toList.length = m := by simpa using uniform r List.mem_cons_self
      cases i with
      | zero =>
          rw [List.modify_zero_cons, List.map_cons, List.map_cons, List.flatten_cons,
            List.flatten_cons, Nat.zero_mul, Nat.zero_add, List.set_append_left j p (by omega),
            Array.toList_setIfInBounds]
      | succ i =>
          -- the write lies past the first row, which it leaves alone
          have shift : (i + 1) * m + j - r.toList.length = i * m + j := by
            rw [width, Nat.succ_mul]
            omega
          rw [List.modify_succ_cons, List.map_cons, List.map_cons, List.flatten_cons,
            List.flatten_cons, List.set_append_right _ p (by rw [width, Nat.succ_mul]; omega), shift,
            ih (fun r' member => uniform r' (List.mem_cons_of_mem r member)) i
              (by simpa using hi)]

end Uniform

namespace Incidence

theorem row_end_le (m : Nat) {v n : Nat} (hv : 1 ≤ v) (inside : v ≤ n) : (v - 1) * m + m ≤ n * m :=
  calc (v - 1) * m + m = v * m := by rw [← Nat.succ_mul, Nat.succ_eq_add_one, Nat.sub_add_cancel hv]
    _ ≤ n * m := Nat.mul_le_mul_right _ inside

/-- The table's cells in one variable-major buffer: the row of variable `v` fills the places
from `(v - 1) * numClauses` up to `v * numClauses`. -/
def cells (t : Incidence) : Array Polarity := t.rows.flatten

section Shaped

variable (t : Incidence) (shaped : t.Shaped)
include shaped

theorem length_toList_of_shaped : ∀ r ∈ t.rows.toList.map Array.toList, r.length = t.numClauses := by
  intro r member
  obtain ⟨row, inRows, rfl⟩ := List.mem_map.mp member
  simpa using shaped.2 row (Array.mem_toList_iff.mp inRows)

theorem size_cells : t.cells.size = t.numVars * t.numClauses := by
  rw [← Array.length_toList, cells, Array.toList_flatten,
    length_flatten_of_uniform _ _ (length_toList_of_shaped t shaped), List.length_map,
    Array.length_toList, shaped.1]

theorem drop_cells (i : Nat) :
    t.cells.toList.drop (i * t.numClauses) = ((t.rows.toList.map Array.toList).drop i).flatten := by
  rw [cells, Array.toList_flatten, drop_mul_flatten _ _ (length_toList_of_shaped t shaped)]

/-- The row of variable `v` is the slice of the buffer from `(v - 1) * numClauses`, and that
slice ends inside the buffer. -/
theorem row_eq_extract (v : Nat) (hv : 1 ≤ v) (inside : v ≤ t.numVars) :
    (v - 1) * t.numClauses + t.numClauses ≤ t.cells.size ∧
      t.rows[v - 1]? =
        some (t.cells.extract ((v - 1) * t.numClauses) ((v - 1) * t.numClauses + t.numClauses)) := by
  have below : v - 1 < t.rows.size := by rw [shaped.1]; omega
  refine ⟨by rw [size_cells t shaped]; exact row_end_le _ hv inside, ?_⟩
  rw [Array.getElem?_eq_getElem below, Option.some.injEq]
  apply Array.toList_inj.mp
  -- the slice is the `numClauses` cells after the first `v - 1` rows, which start with row `v - 1`
  rw [Array.toList_extract, List.extract_eq_take_drop, Nat.add_sub_cancel_left,
    drop_cells t shaped, List.drop_eq_getElem_cons (by simpa using below), List.flatten_cons,
    List.getElem_map, Array.getElem_toList]
  have width : t.rows[v - 1].toList.length = t.numClauses := by
    simpa using shaped.2 _ (Array.getElem_mem below)
  rw [List.take_left' width]

/-- Read at its place in the buffer, a cell is how its variable occurs in its clause. -/
theorem getElem?_cells (v j : Nat) (hv : 1 ≤ v) (inside : v ≤ t.numVars) (hj : j < t.numClauses) :
    t.cells[(v - 1) * t.numClauses + j]? = some (t.get v j) := by
  obtain ⟨fits, row⟩ := row_eq_extract t shaped v hv inside
  have read : (t.rows[v - 1]?).bind (·[j]?) = t.cells[(v - 1) * t.numClauses + j]? := by
    rw [row, Option.bind_some, Array.getElem?_extract, if_pos (by omega)]
  have found : t.cells[(v - 1) * t.numClauses + j]?.isSome := by
    rw [Array.getElem?_eq_getElem (by omega)]
    rfl
  rw [get, read]
  obtain ⟨p, hp⟩ := Option.isSome_iff_exists.mp found
  rw [hp, Option.getD_some]

theorem cells_write (v j : Nat) (hv : 1 ≤ v) (inside : v ≤ t.numVars) (hj : j < t.numClauses)
    (p : Polarity) :
    { t with rows := t.rows.modify (v - 1) (·.setIfInBounds j p) }.cells =
      t.cells.setIfInBounds ((v - 1) * t.numClauses + j) p := by
  apply Array.toList_inj.mp
  simp only [cells, Array.toList_flatten, Array.toList_modify, Array.toList_setIfInBounds]
  exact flatten_modify_setIfInBounds _ _
    (fun r member => shaped.2 r (Array.mem_toList_iff.mp member)) _ _
    (by rw [Array.length_toList, shaped.1]; omega) hj p

end Shaped

theorem cells_mark (t : Incidence) (shaped : t.Shaped) (j : Nat) (hj : j < t.numClauses)
    (c : Clause) (range : ∀ l ∈ c, 1 ≤ l.var ∧ l.var ≤ t.numVars) :
    { t with rows := mark j t.rows c }.cells =
      c.foldl (fun cells l => cells.setIfInBounds ((l.var - 1) * t.numClauses + j)
        (Polarity.ofSign l.sign)) t.cells := by
  induction c generalizing t with
  | nil => rfl
  | cons l ls ih =>
      have inside := range l List.mem_cons_self
      rw [mark_cons, List.foldl_cons, ← cells_write t shaped l.var j inside.1 inside.2 hj]
      exact ih _ (shaped_write t shaped _ _ _) hj
        (fun l' member => range l' (List.mem_cons_of_mem l member))

theorem cells_fold_mark (t : Incidence) (shaped : t.Shaped) (cjs : List (Clause × Nat))
    (fits : ∀ cj ∈ cjs, cj.2 < t.numClauses ∧ ∀ l ∈ cj.1, 1 ≤ l.var ∧ l.var ≤ t.numVars) :
    { t with
        rows := cjs.foldl (fun rows (cj : Clause × Nat) => mark cj.2 rows cj.1) t.rows }.cells =
      cjs.foldl (fun cells (cj : Clause × Nat) => cj.1.foldl (fun cells l =>
        cells.setIfInBounds ((l.var - 1) * t.numClauses + cj.2) (Polarity.ofSign l.sign)) cells)
        t.cells := by
  induction cjs generalizing t with
  | nil => rfl
  | cons cj cjs ih =>
      have first := fits cj List.mem_cons_self
      rw [List.foldl_cons, List.foldl_cons, ← cells_mark t shaped cj.2 first.1 cj.1 first.2]
      exact ih _ (shaped_mark t shaped _ _)
        (fun cj' member => fits cj' (List.mem_cons_of_mem cj member))

/-- The table of a well-formed CNF is the buffer of `numVars * numClauses` absent cells in which
each literal of each clause `j`, in order, is written at `(var - 1) * numClauses + j`. -/
theorem cells_build (c : Cnf) (wellFormed : c.WellFormed) :
    (build c).cells =
      c.clauses.zipIdx.foldl (fun cells cj => cj.1.foldl (fun cells l =>
          cells.setIfInBounds ((l.var - 1) * c.numClauses + cj.2) (Polarity.ofSign l.sign)) cells)
        (Array.replicate (c.numVars * c.numClauses) .absent) := by
  let empty : Incidence :=
    ⟨c.numVars, c.numClauses, Array.replicate c.numVars (Array.replicate c.numClauses .absent)⟩
  have shaped : empty.Shaped := ⟨by simp [empty], fun r member => by
    simp only [empty, Array.mem_replicate] at member
    rw [member.2, Array.size_replicate]⟩
  have blank : empty.cells = Array.replicate (c.numVars * c.numClauses) .absent :=
    Array.flatten_replicate_replicate
  -- every clause of the list is checked, and its place is one of `numClauses`
  have fits : ∀ cj ∈ c.clauses.zipIdx, cj.2 < empty.numClauses ∧
      ∀ l ∈ cj.1, 1 ≤ l.var ∧ l.var ≤ empty.numVars := fun cj member =>
    ⟨by simpa [empty, Cnf.numClauses] using List.snd_lt_of_mem_zipIdx member,
      (wellFormed _ (List.fst_mem_of_mem_zipIdx member)).2.1⟩
  rw [← blank]
  exact cells_fold_mark empty shaped c.clauses.zipIdx fits

/-- Building the table of a well-formed CNF writes the cell of each literal of clause `j` at
`(var - 1) * numClauses + j`, inside the buffer. -/
theorem mark_index_lt (c : Cnf) (wellFormed : c.WellFormed) (j : Nat) (hj : j < c.clauses.length)
    (l : Literal) (member : l ∈ c.clauses[j]) :
    1 ≤ l.var ∧ (l.var - 1) * c.numClauses + j < (build c).cells.size := by
  -- a checked literal names a variable in `1..numVars`, and its clause is one of `numClauses`
  have range := (wellFormed _ (List.getElem_mem hj)).2.1 l member
  have rowEnd := row_end_le c.numClauses range.1 range.2
  have column : j < c.numClauses := hj
  have sized := size_cells (build c) (holds_build c wellFormed).1
  rw [numVars_build, numClauses_build] at sized
  exact ⟨range.1, by omega⟩

end Incidence

namespace Formula

/-- The indices a formula over the CNF `c` computes, each inside the array it indexes. -/
structure IndicesInBounds (c : Cnf) (g : Formula) : Prop where
  /-- The table has the CNF's dimensions. -/
  dims : g.numVars = c.numVars ∧ g.numClauses = c.numClauses
  /-- The buffer holds one cell per variable and clause. -/
  cells_size : g.table.cells.size = c.numVars * c.numClauses
  /-- The assignment holds one value per variable. -/
  assignment_size : g.assignment.size = c.numVars
  /-- Building the table writes the cell of each literal of each clause inside the buffer. -/
  marks : ∀ (j : Nat) (hj : j < c.clauses.length), ∀ l ∈ c.clauses[j],
    1 ≤ l.var ∧ (l.var - 1) * c.numClauses + j < g.table.cells.size
  /-- The row of each variable `1..numVars` is a slice inside the buffer. -/
  rows : ∀ v, 1 ≤ v → v ≤ c.numVars →
    (v - 1) * c.numClauses + c.numClauses ≤ g.table.cells.size ∧
      g.table.rows[v - 1]? =
        some (g.table.cells.extract ((v - 1) * c.numClauses) ((v - 1) * c.numClauses + c.numClauses))
  /-- Each of its cells is read at its place in the buffer. -/
  cells : ∀ v j, 1 ≤ v → v ≤ c.numVars → j < c.numClauses →
    g.table.cells[(v - 1) * c.numClauses + j]? = some (g.table.get v j)
  /-- The value of a variable `1..numVars` is read at `v - 1`, inside the assignment; for any
  other variable nothing is read and the value is unassigned. -/
  values : ∀ v, (1 ≤ v → v ≤ c.numVars → g.assignment[v - 1]? = some (g.get v)) ∧
    (v = 0 ∨ c.numVars < v → g.get v = none)
  /-- An accepted change writes its variable's value, at an index inside the assignment, and
  nothing else. -/
  writes : ∀ e h, g.edit e = .ok h →
    1 ≤ e.var ∧ e.var - 1 < g.assignment.size ∧ ∃ x, h = g.write e.var x
  /-- Evaluation pairs every row with a value, and every clause's running status with a cell. -/
  evaluates : g.table.rows.size = g.assignment.size ∧ ∀ r ∈ g.table.rows, r.size = c.numClauses

theorem get_index (g : Formula) (v : Nat) :
    (1 ≤ v → v ≤ g.numVars → g.assignment[v - 1]? = some (g.get v)) ∧
      (v = 0 ∨ g.numVars < v → g.get v = none) := by
  refine ⟨fun hv inside => getElem?_assignment g v ⟨hv, inside⟩, fun outside => ?_⟩
  apply get_of_not_inRange
  simp only [inRange, Bool.and_eq_false_iff, decide_eq_false_iff_not]
  omega

theorem edit_index (g h : Formula) (e : Edit) (accepted : g.edit e = .ok h) :
    1 ≤ e.var ∧ e.var - 1 < g.assignment.size ∧ ∃ x, h = g.write e.var x := by
  -- every accepted change passed the range check, then made its one write
  have checked : (1 ≤ e.var ∧ e.var ≤ g.numVars) ∧ ∃ x, h = g.write e.var x := by
    cases e with
    | set v x =>
        obtain ⟨range, -, -, written⟩ := (set_eq_ok_iff g v h x).mp accepted
        exact ⟨range, x, written⟩
    | unset v =>
        obtain ⟨range, -, written⟩ := (unset_eq_ok_iff g v h).mp accepted
        exact ⟨range, none, written⟩
    | assign l =>
        obtain ⟨range, -, -, written⟩ := (set_eq_ok_iff g l.var h _).mp accepted
        exact ⟨range, _, written⟩
  obtain ⟨range, written⟩ := checked
  refine ⟨range.1, ?_, written⟩
  rw [size_assignment]
  omega

/-- Every index a formula built from `c` computes, after any run of changes, lies inside its
array: the table is the full `numVars * numClauses` buffer, each literal's cell, each row and
each cell of the variables `1..numVars` lies in it, and a variable's value is read or written
only for a variable in `1..numVars`, inside an assignment of one value per variable. -/
theorem indices_in_bounds (c : Cnf) (f : Formula) (built : ofCnf c = .ok f) (es : List Edit) :
    (f.replay es).IndicesInBounds c := by
  obtain ⟨wellFormed, table⟩ := (Incidence.ofCnf_eq_ok_iff c f.table).mp (table_of_ofCnf c f built)
  -- every formula of the run keeps the table built from `c`
  have kept : (f.replay es).table = Incidence.build c := by rw [table_replay, table]
  have shaped : (Incidence.build c).Shaped := (Incidence.holds_build c wellFormed).1
  have dims : (f.replay es).numVars = c.numVars ∧ (f.replay es).numClauses = c.numClauses := by
    simp [numVars, numClauses, kept, Cnf.numClauses]
  have sized : (f.replay es).assignment.size = c.numVars := by rw [size_assignment, dims.1]
  refine ⟨dims, ?size, sized, ?marks, ?rows, ?cells, ?values,
    fun e h accepted => edit_index _ h e accepted, ?evaluates⟩
  case size => rw [kept, Incidence.size_cells _ shaped]; rfl
  case marks =>
    intro j hj l member
    rw [kept]
    exact Incidence.mark_index_lt c wellFormed j hj l member
  case rows =>
    intro v hv inside
    rw [kept]
    exact Incidence.row_eq_extract _ shaped v hv inside
  case cells =>
    intro v j hv inside hj
    rw [kept]
    exact Incidence.getElem?_cells _ shaped v j hv inside hj
  case values =>
    intro v
    rw [← dims.1]
    exact get_index _ v
  case evaluates =>
    rw [kept, shaped.1, sized]
    exact ⟨rfl, shaped.2⟩

theorem indices_in_bounds_xor_pair :
    ∃ f, ofCnf ⟨2, [[⟨1, true⟩, ⟨2, true⟩], [⟨1, false⟩, ⟨2, false⟩]]⟩ = .ok f ∧
      ∀ es, (f.replay es).IndicesInBounds ⟨2, [[⟨1, true⟩, ⟨2, true⟩], [⟨1, false⟩, ⟨2, false⟩]]⟩ := by
  obtain ⟨f, built⟩ := exists_ofCnf_eq_ok ⟨2, [[⟨1, true⟩, ⟨2, true⟩], [⟨1, false⟩, ⟨2, false⟩]]⟩
    (by decide)
  exact ⟨f, built, indices_in_bounds _ f built⟩

end Formula

end PartialCnf
