import PartialCnf.Proofs.Lines
import PartialCnf.Proofs.Tokens

/-!
What the strict reader accepts, stated on the text. Comment lines and blank lines are skipped
wherever they stand, and line numbers only go into errors, so an accepted text is read as its
significant lines alone: a header first, then clause data whose words, taken together, are the
clauses written out.
-/

namespace PartialCnf

namespace Dimacs

/-- A line the reader does not skip: it does not start with `c` and is not blank. -/
def significant (l : List Char) : Bool :=
  l.head? != some 'c' && !(Text.trim l).isEmpty

/-- The grammar of an accepted text and the formula it holds: the first significant line,
trimmed, is `p cnf <vars> <clauses>` with an unsigned 32-bit and an unsigned 64-bit count; no
later significant line starts with `p`; the words of the later lines are 64-bit numerals whose
values are the clauses written out, each closed by `0`; and the clauses are well formed. -/
def Accepts (s : String) (c : Cnf) : Prop :=
  ∃ header body vars count, (textLines s.toList).filter significant = header :: body ∧
    (Text.trim header).head? = some 'p' ∧
    Text.words (Text.trim header) = [['p'], ['c', 'n', 'f'], vars, count] ∧
    Text.IsNumeral .word32 vars c.numVars ∧ Text.IsNumeral .word64 count c.clauses.length ∧
    (∀ l ∈ body, (Text.trim l).head? ≠ some 'p') ∧
    List.Forall₂ (Text.IsNumeral .int64) (body.flatMap Text.words) (clauseInts c.clauses) ∧
    c.WellFormed

theorem not_comment_of_significant (l : List Char) (kept : significant l) :
    ∀ tail, l = 'c' :: tail → False := by
  rintro tail rfl
  simp [significant] at kept

theorem trim_ne_nil_of_significant (l : List Char) (kept : significant l) : Text.trim l ≠ [] := by
  simp only [significant, Bool.and_eq_true, bne_iff_ne, Bool.not_eq_true',
    List.isEmpty_eq_false_iff] at kept
  exact kept.2

theorem readHeader_eq_some_iff (cs : List Char) (h : Header) :
    readHeader cs = some h ↔ ∃ vars count v c, Text.words cs = [['p'], ['c', 'n', 'f'], vars, count] ∧
      Text.readInt? .word32 vars = some v ∧ Text.readInt? .word64 count = some c ∧
      h = ⟨v.toNat, c.toNat⟩ := by
  rw [readHeader]
  split
  · rename_i vars count split
    simp only [bind, Option.bind, pure]
    constructor
    · intro read
      cases readVars : Text.readInt? .word32 vars with
      | none => simp [readVars] at read
      | some v =>
          cases readCount : Text.readInt? .word64 count with
          | none => simp [readVars, readCount] at read
          | some c =>
              simp only [readVars, readCount, Option.some.injEq] at read
              exact ⟨vars, count, v, c, split, readVars, readCount, read.symm⟩
    · rintro ⟨vars', count', v, c, same, readVars, readCount, rfl⟩
      rw [split] at same
      simp only [List.cons.injEq, and_true, true_and] at same
      obtain ⟨rfl, rfl⟩ := same
      simp [readVars, readCount]
  · rename_i other
    simp only [reduceCtorEq, false_iff, not_exists, not_and]
    intro vars count _ _ same
    exact absurd same (other vars count)

namespace Progress

theorem takeLine_of_insignificant (n : Nat) (p : Progress) (l : List Char)
    (skipped : significant l = false) : p.takeLine n l = .ok p := by
  by_cases comment : l.head? = some 'c'
  · obtain ⟨tail, rfl⟩ : ∃ tail, l = 'c' :: tail := by
      cases l with
      | nil => simp at comment
      | cons c tail =>
          simp only [List.head?_cons, Option.some.injEq] at comment
          exact ⟨tail, by rw [comment]⟩
    rfl
  · have blank : Text.trim l = [] := by
      simpa [significant, comment] using skipped
    rw [takeLine.eq_2 _ _ _ (by rintro tail rfl; simp at comment), blank]

theorem takeLine_of_header_line (n : Nat) (p : Progress) (l : List Char) (kept : significant l)
    (header : (Text.trim l).head? = some 'p') :
    p.takeLine n l = if p.header.isSome then .error (.duplicateHeader n) else
      match readHeader (Text.trim l) with
      | some h => .ok { p with header := some h }
      | none => .error (.invalidHeader n) := by
  obtain ⟨tail, trimmed⟩ : ∃ tail, Text.trim l = 'p' :: tail := by
    cases shape : Text.trim l with
    | nil => simp [shape] at header
    | cons c tail =>
        rw [shape, List.head?_cons, Option.some.injEq] at header
        exact ⟨tail, by rw [header]⟩
  have step := takeLine.eq_2 n p l (not_comment_of_significant l kept)
  rw [trimmed] at step ⊢
  -- the two sides match on the header with different auxiliary matchers, equal by unfolding
  exact step

theorem takeLine_of_data_line (n : Nat) (p : Progress) (l : List Char) (kept : significant l)
    (data : (Text.trim l).head? ≠ some 'p') :
    p.takeLine n l = match p.header with
      | none => .error (.dataBeforeHeader n)
      | some h => (Text.words l).foldlM (token h.numVars n) p := by
  obtain ⟨c, tail, trimmed, other⟩ : ∃ c tail, Text.trim l = c :: tail ∧ c ≠ 'p' := by
    cases shape : Text.trim l with
    | nil => exact absurd shape (trim_ne_nil_of_significant l kept)
    | cons c tail =>
        rw [shape, List.head?_cons, Ne, Option.some.injEq] at data
        exact ⟨c, tail, rfl, data⟩
  rw [takeLine.eq_2 _ _ _ (not_comment_of_significant l kept), ← Text.words_trim l, trimmed]
  split
  · contradiction
  · rename_i tail' same
    exact absurd (List.cons.inj same).1 other
  · rfl

/-- The line number of a line only goes into errors. -/
theorem takeLine_congr (n m : Nat) (p q : Progress) (l : List Char) :
    p.takeLine n l = .ok q ↔ p.takeLine m l = .ok q := by
  cases kept : significant l
  · rw [takeLine_of_insignificant n p l kept, takeLine_of_insignificant m p l kept]
  by_cases header : (Text.trim l).head? = some 'p'
  · rw [takeLine_of_header_line n p l kept header, takeLine_of_header_line m p l kept header]
    cases p.header.isSome
    · cases readHeader (Text.trim l) <;> simp
    · simp
  · rw [takeLine_of_data_line n p l kept header, takeLine_of_data_line m p l kept header]
    cases p.header
    · simp
    · exact foldlM_token_congr _ n m _ p q

end Progress

theorem takeLines_utf8Bytes_cons (n : Nat) (p q : Progress) (l : List Char)
    (rest : List (List UInt8)) :
    takeLines n p (utf8Bytes l :: rest) = .ok q ↔
      ∃ p', p.takeLine n l = .ok p' ∧ takeLines (n + 1) p' rest = .ok q := by
  rw [takeLines.eq_2, decodeLine_utf8Bytes]
  cases step : p.takeLine n l <;> simp [step]

theorem takeLines_utf8Bytes_cons_of_ok (n : Nat) (p q : Progress) (l : List Char)
    (rest : List (List UInt8)) (step : p.takeLine n l = .ok q) :
    takeLines n p (utf8Bytes l :: rest) = takeLines (n + 1) q rest := by
  rw [takeLines.eq_2, decodeLine_utf8Bytes]
  simp [step]

theorem takeLines_utf8Bytes_cons_of_error (n : Nat) (p : Progress) (l : List Char)
    (rest : List (List UInt8)) (e : FormatError) (step : p.takeLine n l = .error e) :
    takeLines n p (utf8Bytes l :: rest) = .error e := by
  rw [takeLines.eq_2, decodeLine_utf8Bytes]
  simp [step]

/-- The reader's result depends on the significant lines alone. -/
theorem takeLines_filter (ls : List (List Char)) (n m : Nat) (p q : Progress) :
    takeLines n p (ls.map utf8Bytes) = .ok q ↔
      takeLines m p ((ls.filter significant).map utf8Bytes) = .ok q := by
  induction ls generalizing n m p with
  | nil => rfl
  | cons l ls ih =>
      rw [List.map_cons, takeLines_utf8Bytes_cons]
      cases kept : significant l
      · rw [List.filter_cons_of_neg (by simp [kept]), ← ih (n + 1)]
        constructor
        · rintro ⟨p', step, run⟩
          rw [Progress.takeLine_of_insignificant n p l kept, Except.ok.injEq] at step
          rwa [← step] at run
        · intro run
          exact ⟨p, Progress.takeLine_of_insignificant n p l kept, run⟩
      · rw [List.filter_cons_of_pos kept, List.map_cons, takeLines_utf8Bytes_cons]
        simp only [Progress.takeLine_congr n m, ih (n + 1) (m + 1)]

/-- After the header, significant lines are read as the clause data of all their words. -/
theorem takeLines_after_header (ls : List (List Char)) (kept : ∀ l ∈ ls, significant l)
    (n : Nat) (p q : Progress) (h : Header) (header : p.header = some h) :
    takeLines n p (ls.map utf8Bytes) = .ok q ↔ (∀ l ∈ ls, (Text.trim l).head? ≠ some 'p') ∧
      (ls.flatMap Text.words).foldlM (Progress.token h.numVars 0) p = .ok q := by
  induction ls generalizing n p with
  | nil => simp [takeLines, pure, Except.pure]
  | cons l ls ih =>
      have keptHere := kept l (by simp)
      have keptLater := fun l' member => kept l' (List.mem_cons_of_mem l member)
      rw [List.map_cons, takeLines_utf8Bytes_cons, List.flatMap_cons, List.foldlM_append,
        bind_eq_ok]
      by_cases second : (Text.trim l).head? = some 'p'
      · -- a second header line is refused
        rw [Progress.takeLine_of_header_line n p l keptHere second, header]
        simp [second]
      · rw [Progress.takeLine_of_data_line n p l keptHere second, header]
        rw [List.forall_mem_cons]
        constructor
        · rintro ⟨p', step, run⟩
          have same := Progress.header_of_foldlM_token _ _ _ p p' step
          rw [header] at same
          obtain ⟨fresh, run'⟩ := (ih keptLater (n + 1) p' same).mp run
          exact ⟨⟨second, fresh⟩, p', (Progress.foldlM_token_congr _ n 0 _ p p').mp step, run'⟩
        · rintro ⟨⟨-, fresh⟩, p', step, run⟩
          have same := Progress.header_of_foldlM_token _ _ _ p p' step
          rw [header] at same
          exact ⟨p', (Progress.foldlM_token_congr _ n 0 _ p p').mpr step,
            (ih keptLater (n + 1) p' same).mpr ⟨fresh, run⟩⟩

theorem finish_eq_ok_iff (p : Progress) (c : Cnf) :
    p.finish = .ok c ↔ ∃ h, p.header = some h ∧ p.current = #[] ∧
      p.clauses.size = h.numClauses ∧ c = ⟨h.numVars, p.clauses.toList⟩ := by
  rw [Progress.finish.eq_def]
  cases p.header with
  | none => simp
  | some h =>
      by_cases empty : p.current.isEmpty
      · have none : p.current = #[] := by simpa using empty
        by_cases counted : p.clauses.size = h.numClauses
        · simp [none, counted, eq_comm]
        · simp [empty, counted]
      · have some : p.current ≠ #[] := by simpa using empty
        simp [empty, some]

theorem filter_dropFinalEmpty (ls : List (List Char)) :
    (dropFinalEmpty ls).filter significant = ls.filter significant := by
  induction ls with
  | nil => rfl
  | cons l ls ih =>
      cases ls with
      | nil =>
          rw [dropFinalEmpty_singleton]
          cases l <;> rfl
      | cons l' ls' =>
          rw [dropFinalEmpty_cons _ _ (by simp), List.filter_cons, List.filter_cons, ih]

theorem numeral_word32_of_read (vars : List Char) (v : Int)
    (read : Text.readInt? .word32 vars = some v) : Text.IsNumeral .word32 vars (v.toNat : Nat) := by
  have numeral := (Text.readInt?_eq_some_iff _ (by decide) (by decide) vars v).mp read
  have nonneg : 0 ≤ v := numeral.1
  rwa [Int.toNat_of_nonneg nonneg]

/-- Soundness: an accepted text follows the grammar, and names the formula read. -/
theorem accepts_of_ofDimacsText (s : String) (c : Cnf) (read : Cnf.ofDimacsText s = .ok c) :
    Accepts s c := by
  obtain ⟨q, run, finished⟩ := (bind_eq_ok _ _ _).mp read
  rw [lines_toUTF8, takeLines_filter _ 1 1, filter_dropFinalEmpty] at run
  have kept : ∀ l ∈ (textLines s.toList).filter significant, significant l :=
    fun l member => (List.mem_filter.mp member).2
  obtain ⟨hl, body, split⟩ : ∃ hl body, (textLines s.toList).filter significant = hl :: body := by
    cases split : (textLines s.toList).filter significant with
    | nil =>
        -- without a significant line there is no header
        rw [split] at run
        simp only [List.map_nil, takeLines, Except.ok.injEq] at run
        subst run
        simp [finish_eq_ok_iff] at finished
    | cons hl body => exact ⟨hl, body, rfl⟩
  rw [split] at kept
  have keptHeader := kept hl (by simp)
  have keptBody := fun l member => kept l (List.mem_cons_of_mem hl member)
  rw [split, List.map_cons, takeLines_utf8Bytes_cons] at run
  obtain ⟨p₁, first, rest⟩ := run
  -- the first significant line is a header line, and a valid one
  by_cases isHeader : (Text.trim hl).head? = some 'p'
  swap
  · rw [Progress.takeLine_of_data_line 1 {} hl keptHeader isHeader] at first
    cases first
  rw [Progress.takeLine_of_header_line 1 {} hl keptHeader isHeader] at first
  cases readH : readHeader (Text.trim hl) with
  | none =>
      rw [readH] at first
      cases first
  | some h =>
      rw [readH] at first
      obtain rfl : ({ header := some h } : Progress) = p₁ := Except.ok.inj first
      obtain ⟨noHeader, tokens⟩ := (takeLines_after_header body keptBody 2 _ q h rfl).mp rest
      obtain ⟨xs, gs, last, numerals, written, formed, tracks⟩ :=
        Progress.Tracks.foldlM_token h.numVars 0 _ _ q [] [] (Progress.tracks_start _ _) tokens
      obtain ⟨h', header, empty, counted, rfl⟩ := (finish_eq_ok_iff q _).mp finished
      have same : h' = h := by
        rw [Progress.header_of_foldlM_token _ _ _ _ q tokens] at header
        exact (Option.some.inj header).symm
      subst same
      have closed : last = [] := tracks.current_eq_empty_iff.mp empty
      subst closed
      obtain ⟨vars, count, v, k, words, readV, readC, rfl⟩ := (readHeader_eq_some_iff _ _).mp readH
      have clauses : q.clauses.toList = gs := by simpa using tracks.1
      refine ⟨hl, body, vars, count, split, isHeader, words, numeral_word32_of_read vars v readV,
        ?_, noHeader, ?_, fun g member => formed g (by simpa [clauses] using member)⟩
      · have numeral := (Text.readInt?_eq_some_iff _ (by decide) (by decide) count k).mp readC
        have length : (q.clauses.toList.length : Int) = k := by
          rw [Array.length_toList, counted]
          exact Int.toNat_of_nonneg numeral.1
        show Text.IsNumeral .word64 count (q.clauses.toList.length : Int)
        rw [length]
        exact numeral
      · have values : xs = clauseInts gs := by simpa using written
        show List.Forall₂ _ (body.flatMap Text.words) (clauseInts q.clauses.toList)
        rw [clauses, ← values]
        exact numerals

/-- Completeness: a text that follows the grammar is read as the formula it names. -/
theorem ofDimacsText_of_accepts (s : String) (c : Cnf) (accepts : Accepts s c) :
    Cnf.ofDimacsText s = .ok c := by
  obtain ⟨hl, body, vars, count, split, isHeader, words, varsNumeral, countNumeral, noHeader,
    numerals, formed⟩ := accepts
  have readV := (Text.readInt?_eq_some_iff _ (by decide) (by decide) vars _).mpr varsNumeral
  have readC := (Text.readInt?_eq_some_iff _ (by decide) (by decide) count _).mpr countNumeral
  have readH : readHeader (Text.trim hl) = some ⟨c.numVars, c.clauses.length⟩ :=
    (readHeader_eq_some_iff _ _).mpr ⟨vars, count, _, _, words, readV, readC, by simp⟩
  have kept : ∀ l ∈ hl :: body, significant l := by
    rw [← split]
    exact fun l member => (List.mem_filter.mp member).2
  have fits : c.numVars ≤ maxVar := by
    have := varsNumeral.2.1
    simp only [Text.IntRange.word32] at this
    unfold maxVar
    omega
  obtain ⟨q, tokens, tracks⟩ := Progress.Tracks.foldlM_token_clauses c.numVars 0 fits c.clauses
    (body.flatMap Text.words) { header := some ⟨c.numVars, c.clauses.length⟩ } []
    (Progress.tracks_start _ _) numerals formed
  -- the header line sets the header; the later significant lines are one run of words
  have run : takeLines 1 {} (lines s.toUTF8.toList) = .ok q := by
    rw [lines_toUTF8, takeLines_filter _ 1 1, filter_dropFinalEmpty, split, List.map_cons,
      takeLines_utf8Bytes_cons]
    refine ⟨{ header := some ⟨c.numVars, c.clauses.length⟩ }, ?_, ?_⟩
    · rw [Progress.takeLine_of_header_line 1 {} hl (kept hl (by simp)) isHeader, readH]
      rfl
    · exact (takeLines_after_header body (fun l member => kept l (List.mem_cons_of_mem hl member))
        2 _ q _ rfl).mpr ⟨noHeader, tokens⟩
  show (takeLines 1 {} (lines s.toUTF8.toList)).bind Progress.finish = .ok c
  rw [run]
  refine (finish_eq_ok_iff q c).mpr ⟨_, Progress.header_of_foldlM_token _ _ _ _ q tokens, ?_, ?_, ?_⟩
  · exact tracks.current_eq_empty_iff.mpr rfl
  · rw [tracks.size_clauses, List.nil_append]
  · rw [tracks.1, List.nil_append]

end Dimacs

namespace Cnf

/-- The reader accepts a text exactly when it follows the DIMACS grammar, and then returns the
formula the grammar names. -/
theorem ofDimacsText_eq_ok_iff (s : String) (c : Cnf) :
    ofDimacsText s = .ok c ↔ Dimacs.Accepts s c :=
  ⟨Dimacs.accepts_of_ofDimacsText s c, Dimacs.ofDimacsText_of_accepts s c⟩

end Cnf

end PartialCnf
