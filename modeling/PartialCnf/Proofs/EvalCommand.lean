import Mathlib
import PartialCnf.Proofs.Extension
import PartialCnf.Proofs.RoundTrip
import PartialCnf.Cli.Program
import PartialCnf.World

/-!
What `eval` prints. On a file the reader accepts, `eval` makes its literals true one after the
other and prints, for each, the clause-by-clause status of the formula under the literals made
true so far. It goes on while the literals name distinct variables of the formula, and stops at
the first that does not: a literal that names no variable at all, one past the formula's
variables, or one whose variable already has a value. Refused changes leave the formula as it
was, so the statuses printed before the stop are those of the longest consistent prefix.
-/

namespace PartialCnf

/-- The assignment of `n` variables that makes the DIMACS literals `raws` true and leaves every
other variable free. -/
def Assignment.ofDimacs (n : Nat) (raws : List Int) : Assignment :=
  Array.ofFn fun i : Fin n =>
    (raws.find? fun r => r.natAbs == i.val + 1).map fun r => decide (0 < r)

theorem Assignment.getElem?_ofDimacs (n : Nat) (raws : List Int) (i : Nat) :
    (ofDimacs n raws)[i]? =
      if i < n then some ((raws.find? fun r => r.natAbs == i + 1).map fun r => decide (0 < r))
      else none := by
  simp [ofDimacs, Array.getElem?_ofFn]

theorem Assignment.ofDimacs_nil (n : Nat) : ofDimacs n [] = Array.replicate n none := by
  apply Array.ext_getElem?
  intro i
  simp [getElem?_ofDimacs, Array.getElem?_replicate]

namespace Formula

theorem getElem?_values (f : Formula) (i : Nat) :
    f.values[i]? = if i < f.numVars then some (f.get (i + 1)) else none := by
  simp [values, Array.getElem?_ofFn]

theorem get_of_values_eq (f : Formula) (done : List Int)
    (made : f.values = Assignment.ofDimacs f.numVars done) (v : Nat)
    (inside : 1 ≤ v ∧ v ≤ f.numVars) :
    f.get v = (done.find? fun r => r.natAbs == v).map fun r => decide (0 < r) := by
  have read := congrArg (·[v - 1]?) made
  simp only [getElem?_values, Assignment.getElem?_ofDimacs, if_pos (by omega : v - 1 < f.numVars),
    Nat.sub_add_cancel inside.1, Option.some.injEq] at read
  exact read

/-- Under the values of some DIMACS literals, a variable in range is free exactly when none of
them names it. -/
theorem get_eq_none_iff (f : Formula) (done : List Int)
    (made : f.values = Assignment.ofDimacs f.numVars done) (v : Nat)
    (inside : 1 ≤ v ∧ v ≤ f.numVars) : f.get v = none ↔ v ∉ done.map Int.natAbs := by
  rw [get_of_values_eq f done made v inside, Option.map_eq_none_iff, List.find?_eq_none]
  simp [List.mem_map]

/-- Making one more literal true, on a variable the others leave free, extends the values by
that literal. -/
theorem values_write_ofDimacs (f : Formula) (done : List Int) (r : Int)
    (made : f.values = Assignment.ofDimacs f.numVars done) (inside : 1 ≤ r.natAbs ∧ r.natAbs ≤ f.numVars)
    (fresh : r.natAbs ∉ done.map Int.natAbs) :
    (f.write r.natAbs (some (decide (0 < r)))).values =
      Assignment.ofDimacs f.numVars (done ++ [r]) := by
  apply Array.ext_getElem?
  intro i
  rw [getElem?_values, Assignment.getElem?_ofDimacs, numVars_write]
  split_ifs with within
  · rw [List.find?_append]
    by_cases here : i + 1 = r.natAbs
    · have absent : (done.find? fun r' => r'.natAbs == i + 1) = none :=
        List.find?_eq_none.mpr fun r' member same =>
          fresh (List.mem_map.mpr ⟨r', member, by simpa [here] using same⟩)
      rw [here, get_write_self f _ _ inside]
      simp [← here, absent]
    · rw [get_write_of_ne f _ _ _ inside.1 here,
        get_of_values_eq f done made (i + 1) (by omega)]
      have other : ([r].find? fun r' => r'.natAbs == i + 1) = none := by
        simp [Ne.symm here]
      rw [other, Option.or_none]
  · rfl

end Formula

namespace Cli

/-- DIMACS literals that can all be made true together over `n` variables: each names a
variable of `1..n`, and no two name the same one. -/
def Consistent (n : Nat) (raws : List Int) : Prop :=
  (∀ r ∈ raws, 1 ≤ r.natAbs ∧ r.natAbs ≤ n) ∧ (raws.map Int.natAbs).Nodup

instance (n : Nat) (raws : List Int) : Decidable (Consistent n raws) :=
  inferInstanceAs (Decidable ((∀ r ∈ raws, 1 ≤ r.natAbs ∧ r.natAbs ≤ n) ∧
    (raws.map Int.natAbs).Nodup))

theorem Consistent.of_append {n : Nat} (xs ys : List Int) (consistent : Consistent n (xs ++ ys)) :
    Consistent n xs :=
  ⟨fun r member => consistent.1 r (List.mem_append_left ys member),
    (List.nodup_append.mp (List.map_append ▸ consistent.2)).1⟩

theorem consistent_snoc (n : Nat) (done : List Int) (r : Int) :
    Consistent n (done ++ [r]) ↔
      Consistent n done ∧ (1 ≤ r.natAbs ∧ r.natAbs ≤ n) ∧ r.natAbs ∉ done.map Int.natAbs := by
  have nodup : ((done ++ [r]).map Int.natAbs).Nodup ↔
      (done.map Int.natAbs).Nodup ∧ r.natAbs ∉ done.map Int.natAbs := by
    rw [List.map_append, List.nodup_append]
    simp
  rw [Consistent, Consistent, nodup, List.forall_mem_append, List.forall_mem_singleton]
  constructor
  · rintro ⟨⟨range, inside⟩, nodup, fresh⟩
    exact ⟨⟨range, nodup⟩, inside, fresh⟩
  · rintro ⟨⟨range, nodup⟩, inside, fresh⟩
    exact ⟨⟨range, inside⟩, nodup, fresh⟩

/-- What `eval` prints for the literals `raws` made true after `done`: a line `raw -> v` for each,
with `v` the wire integer of the formula's status once the literals up to `raw` hold. -/
def evalReport (c : Cnf) (done raws : List Int) : String :=
  String.join (raws.mapIdx fun i raw => toString raw ++ " -> " ++
    toString (c.status (Assignment.ofDimacs c.numVars (done ++ raws.take (i + 1)))).toInt ++ "\n")

theorem evalReport_nil (c : Cnf) (done : List Int) : evalReport c done [] = "" := rfl

theorem evalReport_cons (c : Cnf) (done : List Int) (r : Int) (raws : List Int) :
    evalReport c done (r :: raws) =
      toString r ++ " -> " ++ toString (c.status (Assignment.ofDimacs c.numVars (done ++ [r]))).toInt ++
        "\n" ++ evalReport c (done ++ [r]) raws := by
  simp [evalReport, List.mapIdx_cons, String.join_cons, List.take_succ_cons, String.append_assoc]

/-- Why `eval` stops at the literal `raw` over `n` variables once the literals before it hold:
it names no variable, or a variable outside `1..n`, or else one already given a value. -/
def evalRefusal (n : Nat) (raw : Int) : Failure :=
  if raw = 0 ∨ maxVar < raw.natAbs then { message := "invalid literal " ++ toString raw }
  else if n < raw.natAbs then
    { message := "cannot assign literal " ++ toString raw,
      causes := [(AssignError.variableOutOfRange raw.natAbs n).message] }
  else
    { message := "cannot assign literal " ++ toString raw,
      causes := [(AssignError.alreadyAssigned raw.natAbs).message] }

section Steps

variable {m : Type → Type} [Monad m]

theorem assignAll_nil [LawfulMonad m] (f : Formula) (out : String) (records : Array Log.Record) :
    (assignAll f [] out : StateT (Array Log.Record) m _).run records =
      pure ((out, none), records.push (assignedRecord f)) := by
  simp [assignAll, LogSink.emit]

theorem assignAll_invalid (f : Formula) (raw : Int) (rest : List Int) (out : String)
    (records : Array Log.Record) (invalid : Literal.ofDimacs? raw = none) :
    (assignAll f (raw :: rest) out : StateT (Array Log.Record) m _).run records =
      pure ((out, some { message := "invalid literal " ++ toString raw }), records) := by
  simp [assignAll, invalid]

theorem assignAll_refused [LawfulMonad m] (f : Formula) (raw : Int) (rest : List Int)
    (out : String) (records : Array Log.Record) (l : Literal)
    (named : Literal.ofDimacs? raw = some l) (e : AssignError) (refused : f.assign l = .error e) :
    (assignAll f (raw :: rest) out : StateT (Array Log.Record) m _).run records =
      pure ((out, some { message := "cannot assign literal " ++ toString raw, causes := [e.message] }),
        records) := by
  have setRefused : f.set l.var (some l.sign) = .error e := refused
  simp [assignAll, named, Formula.assignM, Formula.setM, setRefused]

theorem assignAll_accepted [LawfulMonad m] (f : Formula) (raw : Int) (rest : List Int)
    (out : String) (records : Array Log.Record) (l : Literal)
    (named : Literal.ofDimacs? raw = some l) (g : Formula) (accepted : f.assign l = .ok g) :
    (assignAll f (raw :: rest) out : StateT (Array Log.Record) m _).run records =
      (assignAll g rest (out ++ toString raw ++ " -> " ++ toString g.status.toInt ++ "\n") :
        StateT (Array Log.Record) m _).run
          (records.push (Formula.setRecord l.var (some l.sign) g.status)) := by
  have setAccepted : f.set l.var (some l.sign) = .ok g := accepted
  simp [assignAll, named, Formula.assignM, Formula.setM, setAccepted, LogSink.emit]

/-- A literal that breaks consistency with the literals already made true is refused: it names
no variable, or one outside the formula, or one they have given a value. -/
theorem assignAll_inconsistent [LawfulMonad m] (c : Cnf) (f : Formula) (done : List Int) (r : Int)
    (L : List Int) (out : String) (records : Array Log.Record)
    (table : f.table = Incidence.build c) (made : f.values = Assignment.ofDimacs c.numVars done)
    (before : Consistent c.numVars done) (broken : ¬Consistent c.numVars (done ++ [r])) :
    (assignAll f (r :: L) out : StateT (Array Log.Record) m _).run records =
      pure ((out, some (evalRefusal c.numVars r)), records) := by
  have numVars_eq : f.numVars = c.numVars := by rw [Formula.numVars, table, Incidence.numVars_build]
  by_cases invalid : r = 0 ∨ maxVar < r.natAbs
  · have none : Literal.ofDimacs? r = none := by simp [Literal.ofDimacs?, invalid]
    rw [assignAll_invalid f r L out records none, evalRefusal, if_pos invalid]
  have named : Literal.ofDimacs? r = some ⟨r.natAbs, decide (0 < r)⟩ :=
    (Literal.ofDimacs?_eq_some_iff r _).mpr ⟨by omega, by omega, rfl⟩
  by_cases outside : c.numVars < r.natAbs
  · have refused := Formula.set_of_outside f r.natAbs (some (decide (0 < r))) (by omega)
    rw [assignAll_refused f r L out records _ named _ refused, evalRefusal, if_neg invalid,
      if_pos outside, numVars_eq]
  -- in range, so it is a variable that `done` has given a value
  have inside : 1 ≤ r.natAbs ∧ r.natAbs ≤ f.numVars := by omega
  have taken : f.get r.natAbs ≠ none := fun free =>
    broken ((consistent_snoc _ done r).mpr ⟨before, numVars_eq ▸ inside,
      (Formula.get_eq_none_iff f done (numVars_eq ▸ made) _ inside).mp free⟩)
  have refused := Formula.set_of_assigned f r.natAbs (some (decide (0 < r))) inside rfl
    (Option.isSome_iff_ne_none.mpr taken)
  rw [assignAll_refused f r L out records _ named _ refused, evalRefusal, if_neg invalid,
    if_neg outside]

/-- A literal consistent with the literals already made true is accepted, and the values become
those of all of them. -/
theorem assign_consistent (c : Cnf) (f : Formula) (done : List Int) (r : Int)
    (table : f.table = Incidence.build c) (made : f.values = Assignment.ofDimacs c.numVars done)
    (bounded : c.numVars ≤ maxVar) (opening : Consistent c.numVars (done ++ [r])) :
    Literal.ofDimacs? r = some ⟨r.natAbs, decide (0 < r)⟩ ∧
      f.assign ⟨r.natAbs, decide (0 < r)⟩ = .ok (f.write r.natAbs (some (decide (0 < r)))) ∧
      (f.write r.natAbs (some (decide (0 < r)))).values =
        Assignment.ofDimacs c.numVars (done ++ [r]) := by
  have numVars_eq : f.numVars = c.numVars := by rw [Formula.numVars, table, Incidence.numVars_build]
  obtain ⟨-, inside, fresh⟩ := (consistent_snoc _ done r).mp opening
  rw [← numVars_eq] at made inside ⊢
  exact ⟨(Literal.ofDimacs?_eq_some_iff r _).mpr ⟨by omega, by omega, rfl⟩,
    Formula.set_of_free f _ _ inside rfl ((Formula.get_eq_none_iff f done made _ inside).mpr fresh),
    Formula.values_write_ofDimacs f done r made inside fresh⟩

/-- The literal loop of `eval`, from a formula whose values are those of the literals `done`:
it prints the lines of the first `k` literals and stops with the refusal of the next one,
where the first `k` are the longest run that stays consistent with `done`. -/
theorem assignAll_report [LawfulMonad m] (c : Cnf) (wellFormed : c.WellFormed)
    (bounded : c.numVars ≤ maxVar) (L : List Int) :
    ∀ (done : List Int) (f : Formula) (out : String) (records : Array Log.Record) (k : Nat),
      f.table = Incidence.build c → f.values = Assignment.ofDimacs c.numVars done →
      Consistent c.numVars (done ++ L.take k) →
      (k < L.length → ¬Consistent c.numVars (done ++ L.take (k + 1))) → k ≤ L.length →
      ∃ records', (assignAll f L out : StateT (Array Log.Record) m _).run records =
        pure ((out ++ evalReport c done (L.take k), L[k]?.map (evalRefusal c.numVars)), records') := by
  induction L with
  | nil =>
      intro done f out records k _ _ _ _ within
      obtain rfl : k = 0 := by simpa using within
      exact ⟨records.push (assignedRecord f), by simp [assignAll_nil, evalReport_nil]⟩
  | cons r L ih =>
      intro done f out records k table made consistent longest within
      cases k with
      | zero =>
          -- the first literal already breaks consistency: `eval` refuses it and prints nothing
          refine ⟨records, ?_⟩
          rw [assignAll_inconsistent c f done r L out records table made
            (by simpa using consistent) (by simpa using longest (by simp))]
          simp [evalReport_nil]
      | succ k =>
          -- the first literal is consistent with `done`: it is made true and printed
          obtain ⟨named, accepted, madeNext⟩ := assign_consistent c f done r table made bounded
            (Consistent.of_append _ (L.take k) (by simpa using consistent))
          have status := Formula.status_eq_cnf_status c _ wellFormed
            (show (f.write r.natAbs (some (decide (0 < r)))).table = Incidence.build c from table)
          obtain ⟨records', run⟩ := ih (done ++ [r]) (f.write r.natAbs (some (decide (0 < r)))) _ _ k
            table madeNext (by simpa using consistent)
            (fun more => by simpa using longest (by simp; omega)) (by simpa using within)
          refine ⟨records', ?_⟩
          rw [assignAll_accepted f r L out records _ named _ accepted, run, status, madeNext]
          simp [evalReport_cons, String.append_assoc]

end Steps

theorem load_of_read (w : World) (records : Array Log.Record) (path text : String) (c : Cnf)
    (f : Formula) (file : w.workspace.read path = .ok text) (parsed : Cnf.ofDimacsText text = .ok c)
    (built : Formula.ofCnf c = .ok f) :
    ((load path : StateT (Array Log.Record) WorldM _).run records).run w =
      pure ((.ok f, (records.push (Dimacs.readRecord path c)).push f.readyRecord), w) := by
  have bytes : Cnf.ofDimacs text.toByteArray.toList = .ok c := parsed
  simp [load, Formula.openFile, Dimacs.readCnf, Formula.ofCnfM, FileSystem.readBytes, file, bytes,
    built, LogSink.emit, Except.map]

theorem perform_eval (w : World) (path text : String) (c : Cnf) (f : Formula) (L : List Int)
    (file : w.workspace.read path = .ok text) (parsed : Cnf.ofDimacsText text = .ok c)
    (built : Formula.ofCnf c = .ok f) (given : L ≠ []) :
    (((Request.eval path L).perform : StateT (Array Log.Record) WorldM _).run #[]).run w =
      ((assignAll f L "" : StateT (Array Log.Record) WorldM _).run
        #[Dimacs.readRecord path c, f.readyRecord]).run w := by
  have asked : L.isEmpty = false := by simpa using given
  simp [Request.perform, load_of_read w #[] path text c f file parsed built, asked]

/-- A command line read as a request runs it: the exit status says whether it failed, standard
output is what it printed, and standard error ends with the report of its failure. -/
theorem run_of_perform (args : List String) (logSpec : Option String) (req : Request)
    (command : (parse program args).toOption.bind Request.ofInvocation? = some req) (w w' : World)
    (out : String) (failure : Option Failure) (records : Array Log.Record)
    (performed : ((req.perform : StateT (Array Log.Record) WorldM _).run #[]).run w =
      pure (((out, failure), records), w')) :
    ∃ before, (Cli.run args logSpec : WorldM Outcome).run w =
      pure (Outcome.mk (if failure = none then 0 else 1) out
        (before ++ (failure.map Failure.render).getD ""), w') := by
  obtain ⟨inv, parsed, asked⟩ :
      ∃ inv, parse program args = .ok inv ∧ Request.ofInvocation? inv = some req := by
    cases parsed : parse program args with
    | error e => simp [parsed, Except.toOption] at command
    | ok inv => exact ⟨inv, rfl, by simpa [parsed, Except.toOption] using command⟩
  -- the warnings and the records the filter lets through stand before the failure's report
  let filter := Log.Filter.parse (logSpec.getD "info")
  refine ⟨String.join (filter.2.map fun w => "warning: " ++ w ++ ", ignoring it\n") ++
    String.join ((records.toList.filter filter.1.shows).map Log.Record.line), ?_⟩
  cases failure <;> simp [Cli.run, parsed, asked, performed, filter]

/-- `eval` on a file the reader accepts, with literals `L`: it prints a line for each literal
of the longest prefix of `L` that names distinct variables of the formula, with the status of
the formula under the literals up to that one, succeeds when that prefix is all of `L`, and
otherwise fails at the next literal, reporting why it cannot be made true. -/
theorem eval_reports_consistent_prefix (w : World) (path text : String) (c : Cnf)
    (args : List String) (logSpec : Option String) (L : List Int) (k : Nat)
    (file : w.workspace.read path = .ok text) (parsed : Cnf.ofDimacsText text = .ok c)
    (command : (parse program args).toOption.bind Request.ofInvocation? = some (.eval path L))
    (given : L ≠ []) (consistent : Consistent c.numVars (L.take k))
    (longest : k < L.length → ¬Consistent c.numVars (L.take (k + 1))) (within : k ≤ L.length) :
    ∃ o, (Cli.run args logSpec : WorldM Outcome).run' w = pure o ∧
      o.stdout = evalReport c [] (L.take k) ∧
      o.status = (if k = L.length then 0 else 1) ∧
      ∀ raw, L[k]? = some raw → ∃ before, o.stderr = before ++ (evalRefusal c.numVars raw).render := by
  obtain ⟨header, body, vars, count, -, -, -, numeral, -, -, -, wellFormed⟩ :=
    Dimacs.accepts_of_ofDimacsText text c parsed
  have bounded : c.numVars ≤ maxVar := by
    have high := numeral.2.1
    simp only [Text.IntRange.word32] at high
    unfold maxVar
    omega
  obtain ⟨f, built⟩ := Formula.exists_ofCnf_eq_ok c wellFormed
  obtain ⟨-, table⟩ := (Incidence.ofCnf_eq_ok_iff c f.table).mp (Formula.table_of_ofCnf c f built)
  have fresh : f.values = Assignment.ofDimacs c.numVars [] := by
    rw [Formula.values_eq_assignment, Formula.assignment_of_ofCnf c f built,
      Assignment.ofDimacs_nil]
  obtain ⟨records, looped⟩ := @assignAll_report WorldM _ _ c wellFormed bounded L [] f ""
    #[Dimacs.readRecord path c, f.readyRecord] k table
    fresh (by simpa using consistent) (by simpa using longest) within
  have performed := (perform_eval w path text c f L file parsed built given).trans
    (by rw [looped])
  obtain ⟨before, ran⟩ := run_of_perform args logSpec _ command w w _ _ _ performed
  have outcome := (StateT.run'_eq _ w).trans (by rw [ran, map_pure])
  refine ⟨_, outcome, String.empty_append, ?_, fun raw next => ⟨before, by simp [next]⟩⟩
  have stops : L[k]? = none ↔ k = L.length := by
    rw [List.getElem?_eq_none_iff]
    omega
  simp [stops]

/-- `eval a.cnf 1 -1` on `p cnf 2 1` with the clause `1 2`: the first literal is printed, the
second names the same variable and is refused. -/
theorem eval_stops_at_repeated_variable :
    (Workspace.ofFiles [("a.cnf", "p cnf 2 1\n1 2 0\n")]).read "a.cnf" = .ok "p cnf 2 1\n1 2 0\n" ∧
    Cnf.ofDimacsText "p cnf 2 1\n1 2 0\n" = .ok ⟨2, [[⟨1, true⟩, ⟨2, true⟩]]⟩ ∧
    (parse program ["eval", "a.cnf", "1", "-1"]).toOption.bind Request.ofInvocation? =
      some (.eval "a.cnf" [1, -1]) ∧
    [(1 : Int), -1] ≠ [] ∧ Consistent 2 ([(1 : Int), -1].take 1) ∧
    (1 < [(1 : Int), -1].length → ¬Consistent 2 ([(1 : Int), -1].take (1 + 1))) ∧
    1 ≤ [(1 : Int), -1].length ∧
    ∃ o, (Cli.run ["eval", "a.cnf", "1", "-1"] none : WorldM Outcome).run'
        { workspace := Workspace.ofFiles [("a.cnf", "p cnf 2 1\n1 2 0\n")] } = pure o ∧
      o.stdout = evalReport ⟨2, [[⟨1, true⟩, ⟨2, true⟩]]⟩ [] ([(1 : Int), -1].take 1) ∧
      o.status = (if 1 = [(1 : Int), -1].length then 0 else 1) ∧
      ∀ raw, [(1 : Int), -1][1]? = some raw → ∃ before, o.stderr = before ++ (evalRefusal 2 raw).render := by
  have file : (Workspace.ofFiles [("a.cnf", "p cnf 2 1\n1 2 0\n")]).read "a.cnf" =
      .ok "p cnf 2 1\n1 2 0\n" := by decide
  have written : (⟨2, [[⟨1, true⟩, ⟨2, true⟩]]⟩ : Cnf).toDimacs = "p cnf 2 1\n1 2 0\n" := by decide
  have parsed : Cnf.ofDimacsText "p cnf 2 1\n1 2 0\n" = .ok ⟨2, [[⟨1, true⟩, ⟨2, true⟩]]⟩ :=
    written ▸ Dimacs.ofDimacsText_of_accepts _ _
      (Dimacs.accepts_toDimacs _ (by decide) (by decide) (by decide))
  have command : (parse program ["eval", "a.cnf", "1", "-1"]).toOption.bind Request.ofInvocation? =
      some (.eval "a.cnf" [1, -1]) := by decide +kernel
  exact ⟨file, parsed, command, by decide, by decide, by decide, by decide,
    eval_reports_consistent_prefix { workspace := Workspace.ofFiles [("a.cnf", "p cnf 2 1\n1 2 0\n")] }
      "a.cnf" _ ⟨2, [[⟨1, true⟩, ⟨2, true⟩]]⟩ _ none [1, -1] 1 file parsed command (by decide)
      (by decide) (by decide) (by decide)⟩

end Cli

end PartialCnf
