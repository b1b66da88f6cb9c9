import PartialCnf.Dimacs.Reader
import PartialCnf.Proofs.Numerals
import PartialCnf.Proofs.Table
import Mathlib.Data.List.Forall2

/-!
The words of clause data, one at a time. A tracked reader state holds the completed clauses and
an open clause whose variables are distinct, in range, and exactly the ones in `seen`. A word is
a 64-bit numeral; `0` closes a non-empty open clause and any other value extends it with a fresh
variable in range. Over a run of words this means: the numerals, after the open clause written
out, are some well-formed clauses each closed by `0`, then the new open clause.
-/

namespace PartialCnf

theorem bind_eq_ok {ε α β : Type} (x : Except ε α) (f : α → Except ε β) (b : β) :
    x >>= f = .ok b ↔ ∃ a, x = .ok a ∧ f a = .ok b := by
  cases x <;> simp [bind, Except.bind]

namespace Literal

theorem ofDimacs?_eq_some_iff (v : Int) (l : Literal) :
    ofDimacs? v = some l ↔ v ≠ 0 ∧ v.natAbs ≤ maxVar ∧ l = ⟨v.natAbs, decide (0 < v)⟩ := by
  unfold ofDimacs?
  by_cases refused : v = 0 ∨ maxVar < v.natAbs
  · rw [if_pos refused]
    simp only [reduceCtorEq, false_iff, not_and]
    intro nonzero fits
    omega
  · rw [if_neg refused, Option.some.injEq, eq_comm]
    simp only [not_or, Nat.not_lt] at refused
    simp [refused]

theorem toDimacs_of_ofDimacs? (v : Int) (l : Literal) (read : ofDimacs? v = some l) :
    l.toDimacs = v := by
  obtain ⟨nonzero, -, rfl⟩ := (ofDimacs?_eq_some_iff v l).mp read
  have magnitude := Int.natAbs_eq v
  simp only [toDimacs, decide_eq_true_eq]
  split <;> omega

theorem ofDimacs?_toDimacs (l : Literal) (named : 1 ≤ l.var) (fits : l.var ≤ maxVar) :
    ofDimacs? l.toDimacs = some l := by
  obtain ⟨var, sign⟩ := l
  simp only at named fits
  rw [ofDimacs?_eq_some_iff]
  cases sign <;> simp [toDimacs] <;> omega

theorem toDimacs_eq_zero_iff (l : Literal) : l.toDimacs = 0 ↔ l.var = 0 := by
  unfold toDimacs
  split <;> omega

theorem toDimacs_ne_zero (l : Literal) (named : 1 ≤ l.var) : l.toDimacs ≠ 0 := by
  rw [Ne, toDimacs_eq_zero_iff]
  omega

/-- The DIMACS integers of literals: an integer names a literal exactly when it is nonzero and
its magnitude is at most `maxVar` (`2³² - 1`, on either side of zero), and that literal writes
back to it, its negation to its opposite. Every literal of a variable in `1..maxVar` is read back
from its own integer, and negating twice gives the literal back. -/
theorem dimacs_round_trip :
    (∀ v : Int, (∃ l, ofDimacs? v = some l) ↔ v ≠ 0 ∧ v.natAbs ≤ maxVar) ∧
    (∀ v l, ofDimacs? v = some l → l.toDimacs = v ∧ l.neg.toDimacs = -v) ∧
    (∀ l : Literal, 1 ≤ l.var → l.var ≤ maxVar → ofDimacs? l.toDimacs = some l) ∧
    ∀ l : Literal, l.neg.neg = l := by
  refine ⟨fun v => ?_, fun v l read => ?_, fun l named fits => ofDimacs?_toDimacs l named fits,
    neg_neg⟩
  · constructor
    · rintro ⟨l, read⟩
      obtain ⟨nonzero, fits, -⟩ := (ofDimacs?_eq_some_iff v l).mp read
      exact ⟨nonzero, fits⟩
    · rintro ⟨nonzero, fits⟩
      exact ⟨_, (ofDimacs?_eq_some_iff v _).mpr ⟨nonzero, fits, rfl⟩⟩
  · have written := toDimacs_of_ofDimacs? v l read
    exact ⟨written, by rw [toDimacs_neg, written]⟩

-- the most negative 64-bit integer and the first magnitude past 32 bits name no literal
example : ofDimacs? (-9223372036854775808) = none ∧ ofDimacs? 4294967296 = none ∧
    ofDimacs? (-4294967295) = some ⟨4294967295, false⟩ := by decide

end Literal

namespace Text

theorem words_cons_blank (b : Char) (blank : isBlank b) (cs : List Char) :
    words (b :: cs) = words cs := by
  simp [words, List.splitOnP_cons_eq_if_modifyHead, blank]

theorem words_append_blank (cs : List Char) (b : Char) (blank : isBlank b) :
    words (cs ++ [b]) = words cs := by
  simp [words, List.splitOnP_append_cons cs [] blank]

theorem words_append_cons_blank (xs ys : List Char) (b : Char) (blank : isBlank b) :
    words (xs ++ b :: ys) = words xs ++ words ys := by
  simp [words, List.splitOnP_append_cons xs ys blank, List.filter_append]

theorem words_of_solid (cs : List Char) (nonempty : cs ≠ []) (solid : ∀ c ∈ cs, isBlank c = false) :
    words cs = [cs] := by
  simp [words, List.splitOnP_eq_singleton solid, nonempty]

theorem trim_eq_self (cs : List Char) (first : ∀ c ∈ cs.head?, isBlank c = false)
    (last : ∀ c ∈ cs.getLast?, isBlank c = false) : trim cs = cs := by
  cases cs with
  | nil => rfl
  | cons c rest =>
      have front : (c :: rest).dropWhile isBlank = c :: rest :=
        List.dropWhile_cons_of_neg (by simpa using first c (by simp))
      obtain ⟨d, rest', reversed⟩ := List.exists_cons_of_ne_nil
        (show (c :: rest).reverse ≠ [] by simp)
      have back : ((c :: rest).reverse).dropWhile isBlank = (c :: rest).reverse := by
        have final : (c :: rest).getLast? = some d := by
          rw [← List.head?_reverse, reversed, List.head?_cons]
        rw [reversed, List.dropWhile_cons_of_neg (by simpa using last d (by simp [final]))]
      rw [trim, front, back, List.reverse_reverse]

/-- Trimming a line does not change its words. -/
theorem words_trim (cs : List Char) : words (trim cs) = words cs := by
  have front : ∀ cs, words (cs.dropWhile isBlank) = words cs := by
    intro cs
    induction cs with
    | nil => rfl
    | cons c cs ih =>
        by_cases blank : isBlank c
        · rw [List.dropWhile_cons_of_pos blank, ih, words_cons_blank c blank]
        · rw [List.dropWhile_cons_of_neg blank]
  -- the trailing blanks are the leading ones of the reversed line
  have back : ∀ ys : List Char, words (ys.dropWhile isBlank).reverse = words ys.reverse := by
    intro ys
    induction ys with
    | nil => rfl
    | cons c ys ih =>
        by_cases blank : isBlank c
        · rw [List.dropWhile_cons_of_pos blank, ih, List.reverse_cons,
            words_append_blank _ c blank]
        · rw [List.dropWhile_cons_of_neg blank]
  rw [trim, back, List.reverse_reverse, front]

end Text

namespace Dimacs

/-- The integers a list of clauses is written as: each clause's literals, then `0`. -/
def clauseInts (cs : List Clause) : List Int :=
  cs.flatMap fun c => c.map Literal.toDimacs ++ [0]

@[simp] theorem clauseInts_nil : clauseInts [] = [] := rfl

theorem clauseInts_cons (c : Clause) (cs : List Clause) :
    clauseInts (c :: cs) = c.map Literal.toDimacs ++ [0] ++ clauseInts cs :=
  List.flatMap_cons

/-- Every clause contributes its closing `0`, and one more for each literal of variable 0. -/
theorem count_zero_clauseInts (cs : List Clause) :
    (clauseInts cs).count 0 = cs.length + (cs.map fun c => c.countP fun l => l.var == 0).sum := by
  induction cs with
  | nil => rfl
  | cons c cs ih =>
      have literals : (c.map Literal.toDimacs).count 0 = c.countP fun l => l.var == 0 := by
        rw [List.count_eq_countP, List.countP_map]
        congr 1
        funext l
        simp [Literal.toDimacs_eq_zero_iff]
      rw [clauseInts_cons, List.count_append, List.count_append, literals, ih]
      simp only [List.count_singleton_self, List.length_cons, List.map_cons, List.sum_cons]
      omega

namespace Progress

theorem token_eq_ok_iff (numVars line : Nat) (p q : Progress) (word : List Char) :
    p.token numVars line word = .ok q ↔ ∃ v, Text.readInt? .int64 word = some v ∧
      ((v = 0 ∧ p.current ≠ #[] ∧
          q = { p with clauses := p.clauses.push p.current.toList, current := #[], seen := {} }) ∨
        ∃ l, Literal.ofDimacs? v = some l ∧ l.var ≤ numVars ∧ p.seen.contains l.var = false ∧
          q = { p with current := p.current.push l, seen := p.seen.insert l.var }) := by
  unfold token
  cases read : Text.readInt? .int64 word with
  | none => simp
  | some v =>
      simp only [Option.some.injEq, exists_eq_left']
      by_cases zero : v = 0
      · subst zero
        have never : Literal.ofDimacs? 0 = none := rfl
        simp only [if_true, never, reduceCtorEq, false_and, exists_false, or_false, true_and]
        by_cases empty : p.current.isEmpty
        · have none : p.current = #[] := by simpa using empty
          simp [none]
        · have some : p.current ≠ #[] := by simpa using empty
          rw [if_neg empty]
          constructor
          · intro same
            exact ⟨some, (Except.ok.inj same).symm⟩
          · rintro ⟨-, rfl⟩
            rfl
      · rw [if_neg zero]
        simp only [zero, false_and, false_or]
        cases named : Literal.ofDimacs? v with
        | none => simp
        | some l =>
            simp only [Option.some.injEq, exists_eq_left']
            by_cases outside : numVars < l.var
            · simp [outside]
            by_cases repeated : p.seen.contains l.var
            · simp [outside, repeated]
            · rw [if_neg outside, if_neg repeated]
              constructor
              · intro same
                exact ⟨by omega, by simpa using repeated, (Except.ok.inj same).symm⟩
              · rintro ⟨-, -, rfl⟩
                rfl

/-- The line number only goes into errors. -/
theorem token_congr (numVars n m : Nat) (p q : Progress) (word : List Char) :
    p.token numVars n word = .ok q ↔ p.token numVars m word = .ok q := by
  rw [token_eq_ok_iff, token_eq_ok_iff]

theorem header_of_token (numVars line : Nat) (p q : Progress) (word : List Char)
    (step : p.token numVars line word = .ok q) : q.header = p.header := by
  obtain ⟨v, -, ⟨-, -, rfl⟩ | ⟨l, -, -, -, rfl⟩⟩ := (token_eq_ok_iff _ _ p q word).mp step <;> rfl

theorem foldlM_token_congr (numVars n m : Nat) (ws : List (List Char)) (p q : Progress) :
    ws.foldlM (token numVars n) p = .ok q ↔ ws.foldlM (token numVars m) p = .ok q := by
  induction ws generalizing p with
  | nil => rfl
  | cons w ws ih =>
      simp only [List.foldlM_cons, bind_eq_ok, token_congr numVars n m, ih]

theorem header_of_foldlM_token (numVars line : Nat) (ws : List (List Char)) (p q : Progress)
    (run : ws.foldlM (token numVars line) p = .ok q) : q.header = p.header := by
  induction ws generalizing p with
  | nil =>
      simp only [List.foldlM_nil, pure, Except.pure, Except.ok.injEq] at run
      rw [run]
  | cons w ws ih =>
      rw [List.foldlM_cons, bind_eq_ok] at run
      obtain ⟨p', step, rest⟩ := run
      rw [ih p' rest, header_of_token _ _ p p' w step]

/-- `p` has completed the clauses `done` and holds the open clause `pending`, with distinct
variables in `1..numVars` that are exactly the ones `seen` holds. -/
def Tracks (numVars : Nat) (p : Progress) (done : List Clause) (pending : List Literal) : Prop :=
  p.clauses.toList = done ∧ p.current.toList = pending ∧ Clause.Distinct numVars pending ∧
    ∀ v, p.seen.contains v = true ↔ v ∈ pending.map Literal.var

theorem tracks_start (numVars : Nat) (h : Option Header) :
    Tracks numVars { header := h } [] [] := by
  refine ⟨rfl, rfl, ⟨by simp, by simp⟩, ?_⟩
  simp

section Tracking

variable {numVars : Nat} {p : Progress} {done : List Clause} {pending : List Literal}

theorem Tracks.size_clauses (tracks : Tracks numVars p done pending) :
    p.clauses.size = done.length := by
  rw [← tracks.1, Array.length_toList]

theorem Tracks.current_eq_empty_iff (tracks : Tracks numVars p done pending) :
    p.current = #[] ↔ pending = [] := by
  rw [← Array.toList_eq_nil_iff, tracks.2.1]

theorem Tracks.contains_eq_false_iff (tracks : Tracks numVars p done pending) (v : Nat) :
    p.seen.contains v = false ↔ v ∉ pending.map Literal.var := by
  rw [Bool.eq_false_iff, Ne, tracks.2.2.2]

/-- A set of the open clause's variables, with a new literal's variable inserted, holds the
variables of the extended clause. -/
theorem contains_insert_var {seen : Std.HashSet Nat}
    (same : ∀ v, seen.contains v = true ↔ v ∈ pending.map Literal.var) (l : Literal) (v : Nat) :
    (seen.insert l.var).contains v = true ↔ v ∈ (pending ++ [l]).map Literal.var := by
  rw [Std.HashSet.contains_insert, Bool.or_eq_true, same, beq_iff_eq, List.map_append,
    List.mem_append, List.map_singleton, List.mem_singleton]
  constructor
  · rintro (new | old)
    · exact .inr new.symm
    · exact .inl old
  · rintro (old | new)
    · exact .inr old
    · exact .inl new.symm

theorem Tracks.close (tracks : Tracks numVars p done pending) :
    Tracks numVars { p with clauses := p.clauses.push p.current.toList, current := #[], seen := {} }
      (done ++ [pending]) [] := by
  obtain ⟨clauses, current, -, -⟩ := tracks
  refine ⟨by simp [clauses, current], rfl, ⟨by simp, by simp⟩, ?_⟩
  simp

theorem Tracks.extend (tracks : Tracks numVars p done pending) (l : Literal) (named : 1 ≤ l.var)
    (inside : l.var ≤ numVars) (fresh : l.var ∉ pending.map Literal.var) :
    Tracks numVars { p with current := p.current.push l, seen := p.seen.insert l.var }
      done (pending ++ [l]) := by
  obtain ⟨clauses, current, ⟨range, nodup⟩, seen⟩ := tracks
  refine ⟨clauses, by simp [current], ⟨?_, ?_⟩, ?_⟩
  · intro l' member
    rcases List.mem_append.mp member with old | new
    · exact range l' old
    · rw [List.mem_singleton.mp new]
      exact ⟨named, inside⟩
  · rw [List.map_append, List.map_singleton, ← List.concat_eq_append]
    exact nodup.concat fresh
  · exact contains_insert_var seen l

/-- One word read from a tracked state: a numeral that closes the open clause or extends it. -/
theorem Tracks.token (tracks : Tracks numVars p done pending) (line : Nat) (word : List Char)
    (q : Progress) (step : p.token numVars line word = .ok q) :
    ∃ v, Text.IsNumeral .int64 word v ∧
      ((v = 0 ∧ pending ≠ [] ∧ Tracks numVars q (done ++ [pending]) []) ∨
        ∃ l, l.toDimacs = v ∧ Tracks numVars q done (pending ++ [l])) := by
  obtain ⟨v, read, closing | extending⟩ := (token_eq_ok_iff _ _ p q word).mp step
  · obtain ⟨rfl, open_, rfl⟩ := closing
    refine ⟨0, (Text.readInt?_eq_some_iff _ (by decide) (by decide) _ _).mp read, .inl ⟨rfl, ?_,
      tracks.close⟩⟩
    rw [Ne, ← tracks.current_eq_empty_iff]
    exact open_
  · obtain ⟨l, named, inside, unseen, rfl⟩ := extending
    obtain ⟨nonzero, -, rfl⟩ := (Literal.ofDimacs?_eq_some_iff v l).mp named
    have fresh : v.natAbs ∉ pending.map Literal.var := (tracks.contains_eq_false_iff _).mp unseen
    refine ⟨v, (Text.readInt?_eq_some_iff _ (by decide) (by decide) _ _).mp read,
      .inr ⟨_, Literal.toDimacs_of_ofDimacs? v _ named, tracks.extend _ ?_ inside fresh⟩⟩
    show 1 ≤ v.natAbs
    omega

end Tracking

/-- A run of words from a tracked state: the numerals read, after the open clause written out,
are well-formed clauses each closed by `0`, then the open clause of the final state. -/
theorem Tracks.foldlM_token (numVars line : Nat) (ws : List (List Char)) (p q : Progress)
    (done : List Clause) (pending : List Literal) (tracks : Tracks numVars p done pending)
    (run : ws.foldlM (Progress.token numVars line) p = .ok q) :
    ∃ xs gs rest, List.Forall₂ (Text.IsNumeral .int64) ws xs ∧
      pending.map Literal.toDimacs ++ xs = clauseInts gs ++ rest.map Literal.toDimacs ∧
      (∀ g ∈ gs, g.WellFormed numVars) ∧ Tracks numVars q (done ++ gs) rest := by
  induction ws generalizing p done pending with
  | nil =>
      simp only [List.foldlM_nil, pure, Except.pure, Except.ok.injEq] at run
      subst run
      exact ⟨[], [], pending, .nil, by simp, by simp, by simpa using tracks⟩
  | cons w ws ih =>
      rw [List.foldlM_cons, bind_eq_ok] at run
      obtain ⟨p', step, rest⟩ := run
      obtain ⟨v, numeral, ⟨rfl, open_, tracks'⟩ | ⟨l, rfl, tracks'⟩⟩ :=
        tracks.token line w p' step
      · -- `0` closes the open clause, which becomes the first of the completed ones
        obtain ⟨xs, gs, last, numerals, written, formed, final⟩ := ih p' _ [] tracks' rest
        refine ⟨0 :: xs, pending :: gs, last, .cons numeral numerals, ?_, ?_, ?_⟩
        · rw [List.map_nil, List.nil_append] at written
          rw [clauseInts_cons, List.append_assoc, List.append_assoc, ← written]
          simp
        · rintro g (_ | ⟨_, later⟩)
          · exact ⟨open_, tracks.2.2.1⟩
          · exact formed g later
        · simpa using final
      · obtain ⟨xs, gs, last, numerals, written, formed, final⟩ := ih p' _ _ tracks' rest
        refine ⟨l.toDimacs :: xs, gs, last, .cons numeral numerals, ?_, formed, final⟩
        rw [← written]
        simp

/-- Reading the literals of an open clause, one word each, extends it by them. -/
theorem Tracks.foldlM_token_literals (numVars line : Nat) (fits : numVars ≤ maxVar)
    (rest : List Literal) (ws : List (List Char)) (p : Progress) (done : List Clause)
    (pending : List Literal) (tracks : Tracks numVars p done pending)
    (numerals : List.Forall₂ (Text.IsNumeral .int64) ws (rest.map Literal.toDimacs))
    (distinct : Clause.Distinct numVars (pending ++ rest)) :
    ∃ q, ws.foldlM (Progress.token numVars line) p = .ok q ∧
      Tracks numVars q done (pending ++ rest) := by
  induction rest generalizing ws p pending with
  | nil =>
      cases numerals
      exact ⟨p, rfl, by simpa using tracks⟩
  | cons l rest ih =>
      obtain _ | ⟨numeral, numerals⟩ := numerals
      rename_i w ws
      have inside := distinct.1 l (by simp)
      -- the variables of `pending ++ l :: rest` are distinct, so `l`'s is not yet open
      have fresh : l.var ∉ pending.map Literal.var := by
        intro old
        have nodup := distinct.2
        rw [List.map_append, List.nodup_append] at nodup
        exact nodup.2.2 _ old _ (by simp) rfl
      have tracks' := tracks.extend l inside.1 inside.2 fresh
      have step : p.token numVars line w =
          .ok { p with current := p.current.push l, seen := p.seen.insert l.var } := by
        rw [token_eq_ok_iff]
        refine ⟨l.toDimacs, (Text.readInt?_eq_some_iff _ (by decide) (by decide) _ _).mpr numeral,
          .inr ⟨l, Literal.ofDimacs?_toDimacs l inside.1 (Nat.le_trans inside.2 fits), inside.2,
            (tracks.contains_eq_false_iff _).mpr fresh, rfl⟩⟩
      obtain ⟨q, run, final⟩ := ih ws _ _ tracks' numerals
        (by rw [List.append_assoc, List.singleton_append]; exact distinct)
      refine ⟨q, ?_, by simpa using final⟩
      rw [List.foldlM_cons, step]
      exact run

/-- Reading well-formed clauses written out, each closed by `0`, completes them. -/
theorem Tracks.foldlM_token_clauses (numVars line : Nat) (fits : numVars ≤ maxVar)
    (gs : List Clause) (ws : List (List Char)) (p : Progress) (done : List Clause)
    (tracks : Tracks numVars p done [])
    (numerals : List.Forall₂ (Text.IsNumeral .int64) ws (clauseInts gs))
    (formed : ∀ g ∈ gs, g.WellFormed numVars) :
    ∃ q, ws.foldlM (Progress.token numVars line) p = .ok q ∧ Tracks numVars q (done ++ gs) [] := by
  induction gs generalizing ws p done with
  | nil =>
      cases numerals
      exact ⟨p, rfl, by simpa using tracks⟩
  | cons g gs ih =>
      rw [clauseInts_cons, List.append_assoc] at numerals
      -- the words split into the clause's literals, its `0`, and the later clauses
      have front := List.forall₂_take_append ws _ _ numerals
      have back := List.forall₂_drop_append ws _ _ numerals
      obtain ⟨nonempty, distinct⟩ := formed g (by simp)
      obtain ⟨p₁, run₁, tracks₁⟩ := tracks.foldlM_token_literals numVars line fits g _ p done []
        front (by simpa using distinct)
      obtain ⟨w, ws', split, zero, later⟩ : ∃ w ws',
          List.drop (g.map Literal.toDimacs).length ws = w :: ws' ∧ Text.IsNumeral .int64 w 0 ∧
            List.Forall₂ (Text.IsNumeral .int64) ws' (clauseInts gs) := by
        generalize List.drop (g.map Literal.toDimacs).length ws = tail at back
        cases back with
        | cons zero later => exact ⟨_, _, rfl, zero, later⟩
      have step : p₁.token numVars line w = .ok
          { p₁ with clauses := p₁.clauses.push p₁.current.toList, current := #[], seen := {} } := by
        rw [token_eq_ok_iff]
        refine ⟨0, (Text.readInt?_eq_some_iff _ (by decide) (by decide) _ _).mpr zero,
          .inl ⟨rfl, ?_, rfl⟩⟩
        intro empty
        apply nonempty
        simpa using tracks₁.current_eq_empty_iff.mp empty
      obtain ⟨q, run₂, final⟩ := ih _ _ _ (by simpa using tracks₁.close) later
        (fun g' member => formed g' (List.mem_cons_of_mem g member))
      refine ⟨q, ?_, by simpa using final⟩
      rw [← List.take_append_drop (g.map Literal.toDimacs).length ws, List.foldlM_append,
        bind_eq_ok]
      refine ⟨p₁, run₁, ?_⟩
      rw [split, List.foldlM_cons, step]
      exact run₂

end Progress

end Dimacs

end PartialCnf
