import PartialCnf.Proofs.Editing
import PartialCnf.Proofs.Tokens

/-!
Undoing changes. A formula is fixed by its table and the values of its variables, and an
accepted change moves the value of its own variable alone. So accepted `set`s on distinct
variables, followed by accepted `unset`s of the same variables in any order, give the formula
back exactly: each variable the run names was free before it and is free after it, and every
other keeps its value throughout. This is what a search that backtracks chronologically needs.
-/

namespace PartialCnf

namespace Formula

namespace Edit

/-- The variable a change is about. -/
def var : Edit → Nat
  | .set v _ => v
  | .unset v => v
  | .assign l => l.var

/-- Whether a change clears its variable rather than giving it a value. -/
def isUnset : Edit → Bool
  | .unset _ => true
  | _ => false

end Edit

/-- A formula is fixed by its table and the values of its variables. -/
theorem eq_of_get {f g : Formula} (table : f.table = g.table) (same : ∀ v, f.get v = g.get v) :
    f = g := by
  have numVars_eq : f.numVars = g.numVars := by simp [numVars, table]
  refine ext table ?_
  rw [← values_eq_assignment, ← values_eq_assignment]
  apply Array.ext
  · simp [numVars_eq]
  · intro i _ _
    simp [values, same]

theorem write_none_write (f : Formula) (v : Nat) (x : Value) (inside : 1 ≤ v ∧ v ≤ f.numVars)
    (free : f.get v = none) : (f.write v x).write v none = f := by
  apply eq_of_get (show ((f.write v x).write v none).table = f.table from rfl)
  intro w
  by_cases same : w = v
  · subst same
    rw [get_write_self _ _ _ (by simpa using inside), free]
  · rw [get_write_of_ne _ _ _ _ inside.1 same, get_write_of_ne _ _ _ _ inside.1 same]

/-- An accepted `set` is undone by `unset`: the variable was free, and clearing it again gives
the formula back, status included. -/
theorem unset_of_set (f g : Formula) (v : Nat) (x : Value) (accepted : f.set v x = .ok g) :
    g.unset v = .ok f ∧ f.get v = none := by
  obtain ⟨inside, given, free, rfl⟩ := (set_eq_ok_iff f v g x).mp accepted
  have taken : ((f.write v x).get v).isSome := by
    rw [get_write_self f v x inside]
    exact Option.isSome_iff_ne_none.mpr given
  refine ⟨?_, free⟩
  rw [unset_of_assigned _ v (by simpa using inside) taken, write_none_write f v x inside free]

theorem edit_frame (f g : Formula) (e : Edit) (accepted : f.edit e = .ok g) :
    g.table = f.table ∧ ∀ w, w ≠ e.var → g.get w = f.get w := by
  cases e with
  | set v x =>
      obtain ⟨table, -, others, -⟩ := set_accepted f v g x accepted
      exact ⟨table, others⟩
  | unset v =>
      obtain ⟨table, -, others, -⟩ := unset_accepted f v g accepted
      exact ⟨table, others⟩
  | assign l =>
      obtain ⟨table, -, others, -⟩ := set_accepted f l.var g _ accepted
      exact ⟨table, others⟩

theorem get_of_edit_accepted (f g : Formula) (e : Edit) (giving : e.isUnset = false)
    (accepted : f.edit e = .ok g) : f.get e.var = none := by
  cases e with
  | set v x => exact ((set_eq_ok_iff f v g x).mp accepted).2.2.1
  | unset v => simp [Edit.isUnset] at giving
  | assign l => exact ((set_eq_ok_iff f l.var g _).mp accepted).2.2.1

/-- A run of accepted changes keeps the table and every variable it does not name. -/
theorem foldlM_edit_frame (f g : Formula) (es : List Edit) (run : es.foldlM edit f = .ok g) :
    g.table = f.table ∧ ∀ w, w ∉ es.map Edit.var → g.get w = f.get w := by
  induction es generalizing f with
  | nil =>
      simp only [List.foldlM_nil, pure, Except.pure, Except.ok.injEq] at run
      subst run
      exact ⟨rfl, fun _ _ => rfl⟩
  | cons e es ih =>
      rw [List.foldlM_cons, bind_eq_ok] at run
      obtain ⟨f', step, rest⟩ := run
      obtain ⟨table', others'⟩ := edit_frame f f' e step
      obtain ⟨table, others⟩ := ih f' rest
      refine ⟨table.trans table', fun w absent => ?_⟩
      simp only [List.map_cons, List.mem_cons, not_or] at absent
      rw [others w absent.2, others' w absent.1]

/-- In an accepted run of changes that give values to distinct variables, every variable the
run names was free before it. -/
theorem foldlM_set_free (f g : Formula) (es : List Edit) (giving : ∀ e ∈ es, e.isUnset = false)
    (distinct : (es.map Edit.var).Nodup) (run : es.foldlM edit f = .ok g) :
    ∀ w ∈ es.map Edit.var, f.get w = none := by
  induction es generalizing f with
  | nil => simp
  | cons e es ih =>
      rw [List.foldlM_cons, bind_eq_ok] at run
      obtain ⟨f', step, rest⟩ := run
      rw [List.map_cons, List.nodup_cons] at distinct
      intro w named
      rcases List.mem_cons.mp named with rfl | later
      · exact get_of_edit_accepted f f' e (giving e (by simp)) step
      · -- `w` is named later, so the first change left it as it was
        have other : w ≠ e.var := fun same => distinct.1 (same ▸ later)
        rw [← (edit_frame f f' e step).2 w other]
        exact ih f' (fun e' member => giving e' (List.mem_cons_of_mem e member)) distinct.2 rest w
          later

theorem foldlM_unset_eq (g : Formula) (vs : List Nat) :
    vs.foldlM unset g = (vs.map Edit.unset).foldlM edit g := by
  rw [List.foldlM_map]
  rfl

theorem foldlM_unset_free (g h : Formula) (vs : List Nat) (run : vs.foldlM unset g = .ok h) :
    ∀ w ∈ vs, h.get w = none := by
  induction vs generalizing g with
  | nil => simp
  | cons v vs ih =>
      rw [List.foldlM_cons, bind_eq_ok] at run
      obtain ⟨g', step, rest⟩ := run
      intro w named
      by_cases later : w ∈ vs
      · exact ih g' rest w later
      · -- the last time `w` is cleared is here, and the rest of the run leaves it alone
        have first : w = v := by simpa [later] using named
        rw [foldlM_unset_eq] at rest
        have kept := (foldlM_edit_frame g' h _ rest).2 w (by simpa [Edit.var] using later)
        rw [kept, first]
        exact (unset_accepted g v g' step).2.1

/-- Backtracking: after accepted `set`s and `assign`s on distinct variables, accepted `unset`s
of the same variables, in any order, give back the formula the run started from; and an
`unset` right after an accepted `set` gives back the formula the `set` was made in, with the
variable free. -/
theorem unsets_restore (f : Formula) :
    (∀ (sets : List Edit) (unsets : List Nat) (g h : Formula),
      (∀ e ∈ sets, e.isUnset = false) → (sets.map Edit.var).Nodup →
      unsets.Perm (sets.map Edit.var) → sets.foldlM edit f = .ok g →
      unsets.foldlM unset g = .ok h → h = f) ∧
    (∀ v x g, f.set v x = .ok g → g.unset v = .ok f ∧ f.get v = none) := by
  refine ⟨fun sets unsets g h giving distinct perm setRun unsetRun => ?_,
    fun v x g accepted => unset_of_set f g v x accepted⟩
  obtain ⟨tableG, keptG⟩ := foldlM_edit_frame f g sets setRun
  have freeBefore := foldlM_set_free f g sets giving distinct setRun
  have freeAfter := foldlM_unset_free g h unsets unsetRun
  rw [foldlM_unset_eq] at unsetRun
  obtain ⟨tableH, keptH⟩ := foldlM_edit_frame g h _ unsetRun
  apply eq_of_get (tableH.trans tableG)
  intro w
  by_cases named : w ∈ sets.map Edit.var
  · rw [freeAfter w (perm.mem_iff.mpr named), freeBefore w named]
  · have untouched : w ∉ unsets := fun member => named (perm.mem_iff.mp member)
    rw [keptH w (by simpa [Edit.var] using untouched), keptG w named]

end Formula

end PartialCnf
