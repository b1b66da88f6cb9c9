import PartialCnf.Proofs.Backtracking

/-!
Partial assignments and the total valuations that extend them. Giving more variables a value
only settles statuses: in the information order, where `undetermined` lies below `satisfied`
and `falsified`, the Kleene connectives are monotone, so a formula that is satisfied or
falsified stays so under every extension of its assignment, and along every run of a formula
that clears no variable. For a well-formed formula the three values say what they promise of the
total valuations that extend the assignment: satisfied exactly when all of them satisfy it,
falsified only when none does, and never undetermined once every variable has a value.
-/

namespace PartialCnf

/-- A total valuation: every variable is true or false. -/
abbrev Valuation := Nat → Bool

namespace Literal

/-- Whether a total valuation makes the literal true. -/
def eval (σ : Valuation) (l : Literal) : Bool := σ l.var == l.sign

end Literal

namespace Clause

/-- Whether a total valuation makes some literal of the clause true. -/
def eval (σ : Valuation) (c : Clause) : Bool := c.any (Literal.eval σ)

end Clause

namespace Cnf

/-- Whether a total valuation makes every clause true. -/
def eval (σ : Valuation) (f : Cnf) : Bool := f.clauses.all (Clause.eval σ)

end Cnf

namespace Assignment

/-- `b` extends `a`: every variable that `a` assigns has the same value in `b`. -/
def Le (a b : Assignment) : Prop :=
  ∀ (i : Nat) (x : Bool), a[i]? = some (some x) → b[i]? = some (some x)

/-- The total valuation `σ` extends `a`: variable `i + 1` has the value `a` gives it at `i`. -/
def Agrees (a : Assignment) (σ : Valuation) : Prop :=
  ∀ (i : Nat) (x : Bool), a[i]? = some (some x) → σ (i + 1) = x

/-- Every variable has a value. -/
def IsTotal (a : Assignment) : Prop :=
  ∀ x ∈ a, x.isSome

instance (a : Assignment) : Decidable a.IsTotal :=
  inferInstanceAs (Decidable (∀ x ∈ a, x.isSome))

/-- The valuation of an assignment: its values, and `false` where it assigns nothing. -/
def toValuation (a : Assignment) : Valuation :=
  fun v => (a[v - 1]?).join.getD false

/-- The valuation that keeps the values of `a` and makes false each literal of `c` whose
variable `a` leaves free. -/
def refuting (a : Assignment) (c : Clause) : Valuation :=
  fun v => (a[v - 1]?).join.getD (c.polarity v == .negative)

theorem Le.refl (a : Assignment) : a.Le a := fun _ _ read => read

theorem Le.trans {a b d : Assignment} (ab : a.Le b) (bd : b.Le d) : a.Le d :=
  fun i x read => bd i x (ab i x read)

theorem Agrees.apply {a : Assignment} {σ : Valuation} (agrees : a.Agrees σ) {v : Nat} {x : Bool}
    (named : v ≠ 0) (read : (a[v - 1]?).join = some x) : σ v = x := by
  have := agrees (v - 1) x (Option.join_eq_some_iff.mp read)
  rwa [Nat.sub_add_cancel (Nat.pos_of_ne_zero named)] at this

theorem agrees_toValuation (a : Assignment) : a.Agrees a.toValuation := by
  intro i x read
  simp [toValuation, read]

theorem agrees_refuting (a : Assignment) (c : Clause) : a.Agrees (a.refuting c) := by
  intro i x read
  simp [refuting, read]

end Assignment

namespace Status

/-- The information order: `t` is `s`, or settles an undetermined `s`. -/
def Le (s t : Status) : Prop := s = .undetermined ∨ s = t

instance (s t : Status) : Decidable (s.Le t) :=
  inferInstanceAs (Decidable (s = .undetermined ∨ s = t))

theorem Le.refl (s : Status) : s.Le s := .inr rfl

theorem Le.eq_of_settled {s t : Status} (le : s.Le t) (settled : s ≠ .undetermined) : t = s :=
  (le.resolve_left settled).symm

theorem eq_undetermined {s : Status} (notSat : s ≠ .satisfied) (notFals : s ≠ .falsified) :
    s = .undetermined := by
  cases s
  · exact absurd rfl notFals
  · rfl
  · exact absurd rfl notSat

theorem ofValue_le {x y : Value} (le : x = none ∨ x = y) : (ofValue x).Le (ofValue y) := by
  rcases le with rfl | rfl
  · exact .inl rfl
  · exact .refl _

theorem or_le_or {s s' t t' : Status} (hs : s.Le s') (ht : t.Le t') : (s.or t).Le (s'.or t') := by
  rcases hs with rfl | rfl <;> rcases ht with rfl | rfl
  · exact .inl rfl
  · cases s' <;> cases t <;> simp [Le, or]
  · cases s <;> cases t' <;> simp [Le, or]
  · exact .refl _

theorem and_le_and {s s' t t' : Status} (hs : s.Le s') (ht : t.Le t') :
    (s.and t).Le (s'.and t') := by
  rcases hs with rfl | rfl <;> rcases ht with rfl | rfl
  · exact .inl rfl
  · cases s' <;> cases t <;> simp [Le, and]
  · cases s <;> cases t' <;> simp [Le, and]
  · exact .refl _

end Status

namespace Literal

variable (a : Assignment) (l : Literal)

/-- A literal is settled exactly when its variable has a value: satisfied when that value is
the literal's sign, falsified when it is not. -/
theorem status_eq_ofValue_iff (b : Bool) :
    l.status a = Status.ofValue (some b) ↔
      l.var ≠ 0 ∧ (a[l.var - 1]?).join = some (b == l.sign) := by
  obtain ⟨v, sign⟩ := l
  by_cases zero : v = 0
  · cases b <;> simp [status, valueIn, zero, Status.ofValue]
  · cases read : (a[v - 1]?).join with
    | none => cases b <;> simp [status, valueIn, zero, read, Status.ofValue]
    | some x =>
        cases x <;> cases sign <;> cases b <;> simp [status, valueIn, zero, read, Status.ofValue]

theorem status_eq_satisfied_iff :
    l.status a = .satisfied ↔ l.var ≠ 0 ∧ (a[l.var - 1]?).join = some l.sign := by
  simpa [Status.ofValue] using status_eq_ofValue_iff a l true

theorem status_eq_falsified_iff :
    l.status a = .falsified ↔ l.var ≠ 0 ∧ (a[l.var - 1]?).join = some (!l.sign) := by
  simpa [Status.ofValue] using status_eq_ofValue_iff a l false

theorem status_ne_undetermined (named : l.var ≠ 0) (assigned : ((a[l.var - 1]?).join).isSome) :
    l.status a ≠ .undetermined := by
  obtain ⟨x, read⟩ := Option.isSome_iff_exists.mp assigned
  cases x <;> cases sign : l.sign <;> simp [status, valueIn, named, read, sign, Status.ofValue]

theorem status_of_free (free : (a[l.var - 1]?).join = none) : l.status a = .undetermined := by
  by_cases zero : l.var = 0 <;> simp [status, valueIn, zero, free, Status.ofValue]

theorem status_le {a b : Assignment} (ab : a.Le b) (l : Literal) : (l.status a).Le (l.status b) := by
  apply Status.ofValue_le
  unfold valueIn
  by_cases zero : l.var = 0
  · simp [zero]
  · cases read : a[l.var - 1]? with
    | none => simp [zero]
    | some x =>
        cases x with
        | none => simp [zero]
        | some y => simp [zero, ab _ y read]

end Literal

namespace Clause

variable (a : Assignment) (c : Clause)

theorem status_eq_satisfied_iff :
    Clause.status a c = .satisfied ↔ ∃ l ∈ c, l.status a = .satisfied := by
  rw [← List.mem_map, status_eq_foldr, Status.foldr_or_eq]
  split_ifs with sat <;> simp [sat]

theorem status_eq_falsified_iff :
    Clause.status a c = .falsified ↔ ∀ l ∈ c, l.status a = .falsified := by
  rw [status_eq_foldr, Status.foldr_or_eq]
  split_ifs with sat und
  · obtain ⟨l, member, litSat⟩ := List.mem_map.mp sat
    simp only [false_iff, not_forall]
    exact ⟨l, member, by simp [litSat]⟩
  · obtain ⟨l, member, litUnd⟩ := List.mem_map.mp und
    simp only [false_iff, not_forall]
    exact ⟨l, member, by simp [litUnd]⟩
  · -- neither `satisfied` nor `undetermined` occurs, so every literal is falsified
    simp only [List.mem_map, not_exists, not_and] at sat und
    simp only [true_iff]
    intro l member
    cases litStatus : l.status a
    · rfl
    · exact absurd litStatus (und l member)
    · exact absurd litStatus (sat l member)

theorem status_ne_undetermined (settled : ∀ l ∈ c, l.status a ≠ .undetermined) :
    Clause.status a c ≠ .undetermined := by
  rw [status_eq_foldr, Status.foldr_or_eq]
  split_ifs with sat und
  · simp
  · obtain ⟨l, member, litUnd⟩ := List.mem_map.mp und
    exact absurd litUnd (settled l member)
  · simp

theorem status_le {a b : Assignment} (ab : a.Le b) (c : Clause) :
    (Clause.status a c).Le (Clause.status b c) := by
  rw [status_eq_foldr, status_eq_foldr]
  induction c with
  | nil => exact .refl _
  | cons l c ih => exact Status.or_le_or (Literal.status_le ab l) ih

/-- In a clause of distinct variables that `a` does not satisfy, the refuting valuation makes
every literal false. -/
theorem eval_refuting (n : Nat) (distinct : c.Distinct n) (open_ : Clause.status a c ≠ .satisfied) :
    Clause.eval (a.refuting c) c = false := by
  simp only [eval, List.any_eq_false]
  intro l member
  have named : l.var ≠ 0 := by
    have := (distinct.1 l member).1
    omega
  have notSat : ¬(l.var ≠ 0 ∧ (a[l.var - 1]?).join = some l.sign) := fun sat =>
    open_ ((status_eq_satisfied_iff a c).mpr ⟨l, member, (Literal.status_eq_satisfied_iff a l).mpr sat⟩)
  simp only [Literal.eval, Assignment.refuting]
  cases read : (a[l.var - 1]?).join with
  | some x =>
      -- `a` gives the variable the value that does not make this literal true
      have other : x ≠ l.sign := fun same => notSat ⟨named, same ▸ read⟩
      simp [other]
  | none =>
      -- the variable is free, and the refuting valuation follows the literal's polarity
      rw [polarity_of_mem c l member distinct.2]
      cases l.sign <;> simp [Polarity.ofSign]

end Clause

namespace Cnf

variable (a : Assignment) (f : Cnf)

theorem status_eq_foldr :
    f.status a = (f.clauses.map (Clause.status a)).foldr Status.and .satisfied := by
  rw [status, Status.conjoin_eq_ite, Status.foldr_and_eq]
  simp only [List.mem_map]

theorem status_eq_satisfied_iff :
    f.status a = .satisfied ↔ ∀ c ∈ f.clauses, Clause.status a c = .satisfied := by
  rw [status_eq_foldr, Status.foldr_and_eq]
  split_ifs with fals und
  · obtain ⟨c, member, clauseFals⟩ := List.mem_map.mp fals
    simp only [false_iff, not_forall]
    exact ⟨c, member, by simp [clauseFals]⟩
  · obtain ⟨c, member, clauseUnd⟩ := List.mem_map.mp und
    simp only [false_iff, not_forall]
    exact ⟨c, member, by simp [clauseUnd]⟩
  · -- neither `falsified` nor `undetermined` occurs, so every clause is satisfied
    simp only [List.mem_map, not_exists, not_and] at fals und
    simp only [true_iff]
    intro c member
    cases clauseStatus : Clause.status a c
    · exact absurd clauseStatus (fals c member)
    · exact absurd clauseStatus (und c member)
    · rfl

theorem status_eq_falsified_iff :
    f.status a = .falsified ↔ ∃ c ∈ f.clauses, Clause.status a c = .falsified := by
  rw [← List.mem_map, status_eq_foldr, Status.foldr_and_eq]
  split_ifs with fals <;> simp [fals]

theorem status_ne_undetermined (settled : ∀ c ∈ f.clauses, Clause.status a c ≠ .undetermined) :
    f.status a ≠ .undetermined := by
  rw [status_eq_foldr, Status.foldr_and_eq]
  split_ifs with fals und
  · simp
  · obtain ⟨c, member, clauseUnd⟩ := List.mem_map.mp und
    exact absurd clauseUnd (settled c member)
  · simp

/-- Assigning more variables only settles a formula: the clause-by-clause status is monotone in
the information order. -/
theorem status_le {a b : Assignment} (ab : a.Le b) (f : Cnf) : (f.status a).Le (f.status b) := by
  rw [status_eq_foldr, status_eq_foldr]
  generalize f.clauses = cs
  induction cs with
  | nil => exact .refl _
  | cons c cs ih => exact Status.and_le_and (Clause.status_le ab c) ih

theorem eval_of_status_satisfied (sat : f.status a = .satisfied) (σ : Valuation)
    (agrees : a.Agrees σ) : f.eval σ = true := by
  simp only [eval, List.all_eq_true]
  intro c member
  obtain ⟨l, inClause, litSat⟩ :=
    (Clause.status_eq_satisfied_iff a c).mp ((status_eq_satisfied_iff a f).mp sat c member)
  obtain ⟨named, read⟩ := (Literal.status_eq_satisfied_iff a l).mp litSat
  simp only [Clause.eval, List.any_eq_true]
  exact ⟨l, inClause, by simp [Literal.eval, agrees.apply named read]⟩

theorem eval_of_status_falsified (fals : f.status a = .falsified) (σ : Valuation)
    (agrees : a.Agrees σ) : f.eval σ = false := by
  obtain ⟨c, member, clauseFals⟩ := (status_eq_falsified_iff a f).mp fals
  have refuted : Clause.eval σ c = false := by
    simp only [Clause.eval, List.any_eq_false]
    intro l inClause
    obtain ⟨named, read⟩ := (Literal.status_eq_falsified_iff a l).mp
      ((Clause.status_eq_falsified_iff a c).mp clauseFals l inClause)
    simp [Literal.eval, agrees.apply named read]
  simp only [eval, List.all_eq_false]
  exact ⟨c, member, by simp [refuted]⟩

/-- On clauses of distinct variables, a formula that every extending valuation satisfies is
satisfied already: an open clause would be refuted by the valuation that makes its free
literals false. -/
theorem status_satisfied_of_eval (distinct : ∀ c ∈ f.clauses, c.Distinct f.numVars)
    (every : ∀ σ, a.Agrees σ → f.eval σ = true) : f.status a = .satisfied := by
  by_contra unsat
  obtain ⟨c, member, open_⟩ : ∃ c ∈ f.clauses, Clause.status a c ≠ .satisfied := by
    simpa [status_eq_satisfied_iff] using unsat
  have refuted := Clause.eval_refuting a c f.numVars (distinct c member) open_
  have holds := every (a.refuting c) (a.agrees_refuting c)
  simp only [eval, List.all_eq_true] at holds
  simp [holds c member] at refuted

/-- Once every variable of `1..numVars` has a value, no clause in range is left undetermined. -/
theorem status_ne_undetermined_of_total
    (inRange : ∀ c ∈ f.clauses, ∀ l ∈ c, 1 ≤ l.var ∧ l.var ≤ f.numVars)
    (sized : a.size = f.numVars) (total : a.IsTotal) : f.status a ≠ .undetermined := by
  apply status_ne_undetermined
  intro c member
  apply Clause.status_ne_undetermined
  intro l inClause
  have within := inRange c member l inClause
  have slot : l.var - 1 < a.size := by omega
  apply Literal.status_ne_undetermined a l (by omega)
  simpa [Array.getElem?_eq_getElem slot] using total _ (Array.getElem_mem slot)

/-- Under a total assignment the status is the classical truth value of the formula. -/
theorem status_satisfied_iff_of_total
    (inRange : ∀ c ∈ f.clauses, ∀ l ∈ c, 1 ≤ l.var ∧ l.var ≤ f.numVars)
    (sized : a.size = f.numVars) (total : a.IsTotal) :
    f.status a = .satisfied ↔ f.eval a.toValuation = true := by
  refine ⟨fun sat => eval_of_status_satisfied a f sat _ a.agrees_toValuation, fun holds => ?_⟩
  have notFals : f.status a ≠ .falsified := fun fals => by
    simp [eval_of_status_falsified a f fals _ a.agrees_toValuation] at holds
  have notUnd := status_ne_undetermined_of_total a f inRange sized total
  cases settled : f.status a
  · exact absurd settled notFals
  · exact absurd settled notUnd
  · rfl

/-- With nothing assigned, a formula of non-empty clauses is undetermined, or satisfied when it
has no clause at all. -/
theorem status_replicate_none (nonempty : ∀ c ∈ f.clauses, c ≠ []) (n : Nat) :
    f.status (Array.replicate n none) = if f.clauses = [] then .satisfied else .undetermined := by
  have free : ∀ l : Literal, l.status (Array.replicate n none) = .undetermined := fun l =>
    Literal.status_of_free _ l (by simp only [Array.getElem?_replicate]; split <;> rfl)
  have openClause : ∀ c ∈ f.clauses, Clause.status (Array.replicate n none) c = .undetermined := by
    intro c member
    obtain ⟨l, inClause⟩ := List.exists_mem_of_ne_nil c (nonempty c member)
    apply Status.eq_undetermined
    · rw [Ne, Clause.status_eq_satisfied_iff]
      simp [free]
    · rw [Ne, Clause.status_eq_falsified_iff]
      exact fun all => absurd (all l inClause) (by simp [free])
  split_ifs with empty
  · rw [status_eq_satisfied_iff, empty]
    simp
  · obtain ⟨c, member⟩ := List.exists_mem_of_ne_nil _ empty
    apply Status.eq_undetermined
    · rw [Ne, status_eq_satisfied_iff]
      exact fun all => absurd (all c member) (by simp [openClause c member])
    · rw [Ne, status_eq_falsified_iff]
      exact fun ⟨c', member', fals⟩ => absurd fals (by rw [openClause c' member']; decide)

end Cnf

namespace Formula

theorem assignment_of_ofCnf (c : Cnf) (f : Formula) (built : ofCnf c = .ok f) :
    f.assignment = Array.replicate c.numVars none := by
  unfold ofCnf at built
  cases table : Incidence.ofCnf c with
  | error e => simp [table, Except.map] at built
  | ok t =>
      obtain ⟨-, rfl⟩ := (Incidence.ofCnf_eq_ok_iff c t).mp table
      simp only [table, Except.map, Except.ok.injEq] at built
      subst built
      rfl

theorem isTotal_values (f : Formula) (complete : f.isComplete = true) : f.values.IsTotal := by
  intro x member
  obtain ⟨i, rfl⟩ := Array.mem_ofFn.mp member
  exact (isComplete_iff f).mp complete (i + 1) (by omega) i.isLt

theorem replay_append (f : Formula) (xs ys : List Edit) :
    f.replay (xs ++ ys) = (f.replay xs).replay ys := by
  induction xs generalizing f with
  | nil => rfl
  | cons e xs ih =>
      cases accepted : f.edit e with
      | ok g => simp only [List.cons_append, replay, accepted, ih]
      | error _ => simp only [List.cons_append, replay, accepted, ih]

/-- Along the run of `es` from `f`, every `unset` is refused. -/
def UnsetsRefused (f : Formula) (es : List Edit) : Prop :=
  ∀ pre v post, es = pre ++ .unset v :: post → ∃ err, (f.replay pre).unset v = .error err

theorem UnsetsRefused.of_append (f : Formula) (es rest : List Edit)
    (refused : f.UnsetsRefused (es ++ rest)) : f.UnsetsRefused es := by
  intro pre v post split
  exact refused pre v (post ++ rest) (by rw [split, List.append_assoc, List.cons_append])

theorem UnsetsRefused.drop (f : Formula) (pre es : List Edit)
    (refused : f.UnsetsRefused (pre ++ es)) : (f.replay pre).UnsetsRefused es := by
  intro mid v post split
  rw [← replay_append]
  exact refused (pre ++ mid) v post (by rw [split, List.append_assoc])

theorem UnsetsRefused.isUnset_eq_false {f g : Formula} {e : Edit} {es : List Edit}
    (refused : f.UnsetsRefused (e :: es)) (accepted : f.edit e = .ok g) : e.isUnset = false := by
  cases e with
  | unset v =>
      obtain ⟨err, refusedHere⟩ := refused [] v es rfl
      have clash : (Except.error err : Except AssignError Formula) = .ok g :=
        refusedHere.symm.trans accepted
      cases clash
  | set _ _ => rfl
  | assign _ => rfl

theorem get_edit_of_some (f g : Formula) (e : Edit) (accepted : f.edit e = .ok g)
    (giving : e.isUnset = false) {v : Nat} {x : Bool} (assigned : f.get v = some x) :
    g.get v = some x := by
  have free := get_of_edit_accepted f g e giving accepted
  have other : v ≠ e.var := by
    rintro rfl
    rw [free] at assigned
    cases assigned
  rw [(edit_frame f g e accepted).2 v other, assigned]

theorem get_replay_of_some (f : Formula) (es : List Edit) (refused : f.UnsetsRefused es)
    {v : Nat} {x : Bool} (assigned : f.get v = some x) : (f.replay es).get v = some x := by
  induction es generalizing f with
  | nil => exact assigned
  | cons e es ih =>
      have rest := UnsetsRefused.drop f [e] es refused
      cases accepted : f.edit e with
      | ok g =>
          have next : f.replay [e] = g := by simp [replay, accepted]
          simp only [replay, accepted]
          exact ih g (next ▸ rest)
            (get_edit_of_some f g e accepted (refused.isUnset_eq_false accepted) assigned)
      | error _ =>
          have next : f.replay [e] = f := by simp [replay, accepted]
          simp only [replay, accepted]
          exact ih f (next ▸ rest) assigned

/-- A run whose `unset`s are all refused, followed by a change it accepts, keeps every value
given at its start. -/
theorem get_edit_replay_of_some (s g : Formula) (mid : List Edit) (e : Edit) (post : List Edit)
    (refused : s.UnsetsRefused (mid ++ e :: post)) (accepted : (s.replay mid).edit e = .ok g)
    {v : Nat} {x : Bool} (assigned : s.get v = some x) : g.get v = some x :=
  get_edit_of_some _ g e accepted ((UnsetsRefused.drop s mid _ refused).isUnset_eq_false accepted)
    (get_replay_of_some s mid (refused.of_append _ _ _) assigned)

theorem values_le (f g : Formula) (numVars_eq : f.numVars = g.numVars)
    (kept : ∀ v x, f.get v = some x → g.get v = some x) : Assignment.Le f.values g.values := by
  intro i x read
  simp only [values, Array.getElem?_ofFn] at read ⊢
  split at read
  · rename_i inside
    simp only [Option.some.injEq] at read
    rw [dif_pos (numVars_eq ▸ inside), kept _ _ read]
  · cases read

/-- Two formulas over the table of a well-formed CNF, the second keeping every value of the
first: once the first is settled, the second has its status. -/
theorem status_eq_of_settled (c : Cnf) (wellFormed : c.WellFormed) (s g : Formula)
    (tableS : s.table = Incidence.build c) (tableG : g.table = Incidence.build c)
    (kept : ∀ v x, s.get v = some x → g.get v = some x) (settled : s.status ≠ .undetermined) :
    g.status = s.status := by
  have numVars_eq : s.numVars = g.numVars := by simp [numVars, tableS, tableG]
  rw [status_eq_cnf_status c s wellFormed tableS] at settled ⊢
  rw [status_eq_cnf_status c g wellFormed tableG]
  exact (Cnf.status_le (values_le s g numVars_eq kept) c).eq_of_settled settled

end Formula

namespace Cnf

/-- The three values of a well-formed formula, against total valuations: satisfied exactly when
every valuation extending the assignment satisfies it, falsified only when none does, and never
undetermined once every variable has a value, in which case it is the classical value. A formula
reached by any run that is complete is so settled, and a fresh one is satisfied when it has no
clause and undetermined otherwise. -/
theorem status_over_extensions (c : Cnf) (wellFormed : c.WellFormed) :
    (∀ a : Assignment, a.size = c.numVars →
      (c.status a = .satisfied ↔ ∀ σ, a.Agrees σ → c.eval σ = true) ∧
      (c.status a = .falsified → ∀ σ, a.Agrees σ → c.eval σ = false) ∧
      (a.IsTotal → c.status a ≠ .undetermined ∧
        (c.status a = .satisfied ↔ c.eval a.toValuation = true))) ∧
    (∀ f es, Formula.ofCnf c = .ok f → (f.replay es).isComplete = true →
      (f.replay es).status ≠ .undetermined ∧
        ((f.replay es).status = .satisfied ↔ c.eval (f.replay es).values.toValuation = true)) ∧
    (∀ f, Formula.ofCnf c = .ok f →
      f.status = if c.clauses = [] then .satisfied else .undetermined) := by
  have distinct : ∀ cl ∈ c.clauses, cl.Distinct c.numVars := fun cl member =>
    (wellFormed cl member).2
  have inRange : ∀ cl ∈ c.clauses, ∀ l ∈ cl, 1 ≤ l.var ∧ l.var ≤ c.numVars :=
    fun cl member => (distinct cl member).1
  have partial_ : ∀ a : Assignment, a.size = c.numVars → a.IsTotal →
      c.status a ≠ .undetermined ∧ (c.status a = .satisfied ↔ c.eval a.toValuation = true) :=
    fun a sized total => ⟨status_ne_undetermined_of_total a c inRange sized total,
      status_satisfied_iff_of_total a c inRange sized total⟩
  refine ⟨fun a sized => ⟨⟨fun sat => eval_of_status_satisfied a c sat,
    status_satisfied_of_eval a c distinct⟩, eval_of_status_falsified a c, partial_ a sized⟩,
    fun f es built complete => ?_, fun f built => ?_⟩
  · obtain ⟨-, table⟩ := (Incidence.ofCnf_eq_ok_iff c f.table).mp (Formula.table_of_ofCnf c f built)
    have tableRun : (f.replay es).table = Incidence.build c := by rw [Formula.table_replay, table]
    have sized : (f.replay es).values.size = c.numVars := by
      rw [Formula.size_values, Formula.numVars, tableRun, Incidence.numVars_build]
    rw [Formula.status_eq_cnf_status c _ wellFormed tableRun]
    exact partial_ _ sized (Formula.isTotal_values _ complete)
  · obtain ⟨-, table⟩ := (Incidence.ofCnf_eq_ok_iff c f.table).mp (Formula.table_of_ofCnf c f built)
    rw [Formula.status_eq_cnf_status c f wellFormed table, Formula.values_eq_assignment,
      Formula.assignment_of_ofCnf c f built]
    exact status_replicate_none c (fun cl member => (wellFormed cl member).1) c.numVars

theorem status_over_extensions_xor_pair :
    Cnf.WellFormed ⟨2, [[⟨1, true⟩, ⟨2, true⟩], [⟨1, false⟩, ⟨2, false⟩]]⟩ ∧
      ((∀ a : Assignment, a.size = 2 →
        (Cnf.status a ⟨2, [[⟨1, true⟩, ⟨2, true⟩], [⟨1, false⟩, ⟨2, false⟩]]⟩ = .satisfied ↔
          ∀ σ, a.Agrees σ → Cnf.eval σ ⟨2, [[⟨1, true⟩, ⟨2, true⟩], [⟨1, false⟩, ⟨2, false⟩]]⟩ = true) ∧
        (Cnf.status a ⟨2, [[⟨1, true⟩, ⟨2, true⟩], [⟨1, false⟩, ⟨2, false⟩]]⟩ = .falsified →
          ∀ σ, a.Agrees σ → Cnf.eval σ ⟨2, [[⟨1, true⟩, ⟨2, true⟩], [⟨1, false⟩, ⟨2, false⟩]]⟩ = false) ∧
        (a.IsTotal →
          Cnf.status a ⟨2, [[⟨1, true⟩, ⟨2, true⟩], [⟨1, false⟩, ⟨2, false⟩]]⟩ ≠ .undetermined ∧
          (Cnf.status a ⟨2, [[⟨1, true⟩, ⟨2, true⟩], [⟨1, false⟩, ⟨2, false⟩]]⟩ = .satisfied ↔
            Cnf.eval a.toValuation ⟨2, [[⟨1, true⟩, ⟨2, true⟩], [⟨1, false⟩, ⟨2, false⟩]]⟩ = true))) ∧
      (∀ f es, Formula.ofCnf ⟨2, [[⟨1, true⟩, ⟨2, true⟩], [⟨1, false⟩, ⟨2, false⟩]]⟩ = .ok f →
        (f.replay es).isComplete = true →
        (f.replay es).status ≠ .undetermined ∧ ((f.replay es).status = .satisfied ↔
          Cnf.eval (f.replay es).values.toValuation
            ⟨2, [[⟨1, true⟩, ⟨2, true⟩], [⟨1, false⟩, ⟨2, false⟩]]⟩ = true)) ∧
      (∀ f, Formula.ofCnf ⟨2, [[⟨1, true⟩, ⟨2, true⟩], [⟨1, false⟩, ⟨2, false⟩]]⟩ = .ok f →
        f.status = if [[(⟨1, true⟩ : Literal), ⟨2, true⟩], [⟨1, false⟩, ⟨2, false⟩]] = []
          then .satisfied else .undetermined)) :=
  ⟨by decide, status_over_extensions ⟨2, [[⟨1, true⟩, ⟨2, true⟩], [⟨1, false⟩, ⟨2, false⟩]]⟩
    (by decide)⟩

/-- Statuses only settle: under every extension of an assignment a satisfied or falsified
formula stays so, and along a run of a formula in which every `unset` is refused, each change
accepted after the status has settled reports that same status. -/
theorem settled_status_stays (c : Cnf) :
    (∀ a b : Assignment, a.Le b →
      (c.status a = .satisfied → c.status b = .satisfied) ∧
      (c.status a = .falsified → c.status b = .falsified)) ∧
    (∀ f es, Formula.ofCnf c = .ok f → f.UnsetsRefused es →
      ∀ pre mid e post g, es = pre ++ mid ++ e :: post → (f.replay pre).status ≠ .undetermined →
        (f.replay (pre ++ mid)).edit e = .ok g → g.status = (f.replay pre).status) := by
  refine ⟨fun a b ab => ⟨fun sat => ?_, fun fals => ?_⟩,
    fun f es built refused pre mid e post g split settled accepted => ?_⟩
  · exact (status_le ab c).eq_of_settled (by rw [sat]; decide) |>.trans sat
  · exact (status_le ab c).eq_of_settled (by rw [fals]; decide) |>.trans fals
  obtain ⟨wellFormed, table⟩ :=
    (Incidence.ofCnf_eq_ok_iff c f.table).mp (Formula.table_of_ofCnf c f built)
  -- from the settled state the run goes through `mid`, then makes the accepted change `e`
  have fromSettled : (f.replay pre).UnsetsRefused (mid ++ e :: post) := by
    apply Formula.UnsetsRefused.drop f pre
    rw [← List.append_assoc, ← split]
    exact refused
  rw [Formula.replay_append] at accepted
  have tableS : (f.replay pre).table = Incidence.build c := by rw [Formula.table_replay, table]
  have tableG : g.table = Incidence.build c := by
    rw [Formula.table_edit _ g e accepted, Formula.table_replay, tableS]
  exact Formula.status_eq_of_settled c wellFormed _ g tableS tableG
    (fun _ _ => Formula.get_edit_replay_of_some _ g mid e post fromSettled accepted) settled

end Cnf

end PartialCnf
