import PartialCnf.Dimacs.Writer
import PartialCnf.Proofs.Reader

/-!
Writing a formula and reading it back. The written text is a header line and one line per
clause, each literal's integer followed by a blank and the clause closed by `0`; its words are
the printed numerals, which read back to the integers written. A well-formed formula therefore
follows the reader's grammar and comes back unchanged. A formula that is not well formed is
refused by the table builder at its first faulty clause; when no literal names variable 0 the
reader meets the same fault in the same clause's line, since both check a clause's literals in
order against the same range and the same set of earlier variables. A literal of variable 0 is
written as `0`, which the reader takes for the end of a clause, so the text then holds more
clause ends than the header declares.
-/

namespace PartialCnf

namespace Dimacs

/-- The characters of the header line, without its line feed. -/
def headerChars (numVars numClauses : Nat) : List Char :=
  ['p', ' ', 'c', 'n', 'f', ' '] ++ (toString numVars).toList ++ ' ' :: (toString numClauses).toList

/-- The characters of a clause line, without its line feed. -/
def clauseChars (c : Clause) : List Char :=
  c.flatMap (fun l => (toString l.toDimacs).toList ++ [' ']) ++ ['0']

theorem toList_headerLine (numVars numClauses : Nat) :
    (headerLine numVars numClauses).toList = headerChars numVars numClauses ++ ['\n'] := by
  simp [headerLine, headerChars]

theorem toList_clauseLine (c : Clause) : (clauseLine c).toList = clauseChars c ++ ['\n'] := by
  have fold : ∀ init : String, (c.foldl (fun s l => s ++ toString l.toDimacs ++ " ") init).toList =
      init.toList ++ c.flatMap (fun l => (toString l.toDimacs).toList ++ [' ']) := by
    induction c with
    | nil => simp
    | cons l c ih =>
        intro init
        rw [List.foldl_cons, ih]
        simp
  rw [clauseLine, String.toList_append, fold]
  simp [clauseChars]

theorem toList_toDimacs (f : Cnf) :
    f.toDimacs.toList = headerChars f.numVars f.numClauses ++
      '\n' :: f.clauses.flatMap (fun c => clauseChars c ++ ['\n']) := by
  have fold : ∀ (init : String) (cs : List Clause),
      (cs.foldl (fun s c => s ++ clauseLine c) init).toList =
        init.toList ++ cs.flatMap (fun c => clauseChars c ++ ['\n']) := by
    intro init cs
    induction cs generalizing init with
    | nil => simp
    | cons c cs ih =>
        rw [List.foldl_cons, ih, String.toList_append, toList_clauseLine]
        simp
  rw [Cnf.toDimacs, fold, toList_headerLine]
  simp

/-- A printed integer is a minus sign and digits. -/
theorem mem_toString_int (v : Int) (ch : Char) (member : ch ∈ (toString v).toList) :
    ch = '-' ∨ ch.isDigit := by
  rw [Int.toString_eq_repr, Int.repr_eq_if] at member
  split at member
  · rw [Nat.toList_repr] at member
    exact .inr (Nat.isDigit_of_mem_toDigits (by decide) (by decide) member)
  · rw [String.toList_append, Nat.toList_repr] at member
    rcases List.mem_append.mp member with sign | digit
    · exact .inl (by simpa using sign)
    · exact .inr (Nat.isDigit_of_mem_toDigits (by decide) (by decide) digit)

theorem isBlank_of_isDigit (ch : Char) (digit : ch.isDigit) : Text.isBlank ch = false := by
  have range := Text.toNat_of_isDigit ch digit
  simp [Text.isBlank, Text.blankRanges]
  omega

theorem isBlank_of_mem_toString_int (v : Int) (ch : Char) (member : ch ∈ (toString v).toList) :
    Text.isBlank ch = false := by
  rcases mem_toString_int v ch member with rfl | digit
  · decide
  · exact isBlank_of_isDigit ch digit

theorem isBlank_of_mem_toString_nat (n : Nat) (ch : Char) (member : ch ∈ (toString n).toList) :
    Text.isBlank ch = false := by
  have printed : (toString n).toList = (toString (n : Int)).toList := by
    simp [Int.toString_eq_repr, Int.repr_eq_if]
  exact isBlank_of_mem_toString_int n ch (printed ▸ member)

theorem toString_int_ne_nil (v : Int) : (toString v).toList ≠ [] := by
  rw [Int.toString_eq_repr, Int.repr_eq_if]
  split
  · rw [Nat.toList_repr]
    exact Nat.toDigits_ne_nil
  · simp

theorem toString_nat_ne_nil (n : Nat) : (toString n).toList ≠ [] := by
  rw [Nat.toString_eq_repr, Nat.toList_repr]
  exact Nat.toDigits_ne_nil

-- Outside the blanks between words, the written text holds no blank.
theorem solid_of_mem_headerChars (numVars numClauses : Nat) (ch : Char)
    (member : ch ∈ headerChars numVars numClauses) : ch = ' ' ∨ Text.isBlank ch = false := by
  simp only [headerChars, List.cons_append, List.nil_append, List.mem_cons, List.mem_append] at member
  rcases member with rfl | rfl | rfl | rfl | rfl | rfl | digit | rfl | digit
  all_goals first
    | exact .inl rfl
    | exact .inr (by decide)
    | exact .inr (isBlank_of_mem_toString_nat _ ch digit)

theorem solid_of_mem_clauseChars (c : Clause) (ch : Char) (member : ch ∈ clauseChars c) :
    ch = ' ' ∨ Text.isBlank ch = false := by
  simp only [clauseChars, List.mem_append, List.mem_flatMap, List.mem_singleton] at member
  rcases member with ⟨l, -, printed | rfl⟩ | rfl
  · exact .inr (isBlank_of_mem_toString_int _ ch printed)
  · exact .inl rfl
  · exact .inr (by decide)

theorem not_mem_of_solid (cs : List Char) (solid : ∀ ch ∈ cs, ch = ' ' ∨ Text.isBlank ch = false)
    (ch : Char) (blank : Text.isBlank ch) (other : ch ≠ ' ') : ch ∉ cs := by
  intro member
  rcases solid ch member with same | solid
  · exact other same
  · simp [solid] at blank

/-- The lines of a written formula: the header, one line per clause, and the empty piece after
the last line feed. -/
theorem textLines_toDimacs (f : Cnf) :
    textLines f.toDimacs.toList =
      headerChars f.numVars f.numClauses :: f.clauses.map clauseChars ++ [[]] := by
  have noLf : ∀ c, '\n' ∉ clauseChars c := fun c =>
    not_mem_of_solid _ (solid_of_mem_clauseChars c) '\n' (by decide) (by decide)
  have body : ∀ cs : List Clause, (cs.flatMap fun c => clauseChars c ++ ['\n']).splitOn '\n' =
      cs.map clauseChars ++ [[]] := by
    intro cs
    induction cs with
    | nil => rfl
    | cons c cs ih =>
        rw [List.flatMap_cons, List.append_assoc, List.singleton_append,
          List.splitOn_append_cons_self_of_not_mem (noLf c), ih]
        rfl
  -- no carriage return is written, so splitting drops nothing and every line feed ends a line
  have noCr : '\r' ∉ f.toDimacs.toList := by
    rw [toList_toDimacs]
    simp only [List.mem_append, List.mem_cons, List.mem_flatMap, not_or, not_exists, not_and]
    refine ⟨not_mem_of_solid _ (solid_of_mem_headerChars _ _) '\r' (by decide) (by decide),
      by decide, fun c _ => ⟨not_mem_of_solid _ (solid_of_mem_clauseChars c) '\r' (by decide)
        (by decide), by decide⟩⟩
  rw [textLines, dropBefore_of_not_mem _ _ _ noCr, toList_toDimacs,
    List.splitOn_append_cons_self_of_not_mem
      (not_mem_of_solid _ (solid_of_mem_headerChars _ _) '\n' (by decide) (by decide)), body]
  rfl

theorem lines_toDimacs (f : Cnf) :
    lines f.toDimacs.toUTF8.toList =
      (headerChars f.numVars f.numClauses :: f.clauses.map clauseChars).map utf8Bytes := by
  rw [lines_toUTF8, textLines_toDimacs, List.cons_append, ← List.cons_append,
    dropFinalEmpty_append_nil]

theorem trim_headerChars (numVars numClauses : Nat) :
    Text.trim (headerChars numVars numClauses) = headerChars numVars numClauses := by
  have final : (headerChars numVars numClauses).getLast? = (toString numClauses).toList.getLast? := by
    obtain ⟨d, ds, shape⟩ := List.exists_cons_of_ne_nil (toString_nat_ne_nil numClauses)
    rw [headerChars, List.getLast?_append_of_ne_nil _ (by simp), shape, List.getLast?_cons_cons]
  apply Text.trim_eq_self
  · simp only [headerChars, List.cons_append, List.head?_cons, Option.mem_def, Option.some.injEq]
    rintro ch rfl
    decide
  · intro ch last
    rw [final] at last
    exact isBlank_of_mem_toString_nat _ ch (List.mem_of_getLast? last)

theorem clauseChars_cons (l : Literal) (c : Clause) :
    clauseChars (l :: c) = (toString l.toDimacs).toList ++ ' ' :: clauseChars c := by
  simp [clauseChars]

/-- A clause line starts with a printed integer: its first literal's, or the closing `0`. -/
theorem head?_clauseChars (c : Clause) (ch : Char) (first : (clauseChars c).head? = some ch) :
    ch = '-' ∨ ch.isDigit := by
  cases c with
  | nil =>
      simp only [clauseChars, List.flatMap_nil, List.nil_append, List.head?_cons,
        Option.some.injEq] at first
      rw [← first]
      exact .inr (by decide)
  | cons l c =>
      obtain ⟨d, ds, shape⟩ := List.exists_cons_of_ne_nil (toString_int_ne_nil l.toDimacs)
      rw [clauseChars_cons, shape, List.cons_append, List.head?_cons, Option.some.injEq] at first
      exact mem_toString_int l.toDimacs ch (by rw [shape, ← first]; simp)

theorem trim_clauseChars (c : Clause) : Text.trim (clauseChars c) = clauseChars c := by
  apply Text.trim_eq_self
  · intro ch first
    rcases head?_clauseChars c ch first with rfl | digit
    · decide
    · exact isBlank_of_isDigit ch digit
  · intro ch last
    simp only [clauseChars, List.getLast?_append, List.getLast?_singleton, Option.some_or,
      Option.mem_def, Option.some.injEq] at last
    rw [← last]
    decide

theorem significant_headerChars (numVars numClauses : Nat) :
    significant (headerChars numVars numClauses) := by
  unfold significant
  rw [trim_headerChars]
  simp [headerChars]

theorem significant_clauseChars (c : Clause) : significant (clauseChars c) := by
  have first : (clauseChars c).head? ≠ some 'c' := by
    intro comment
    rcases head?_clauseChars c 'c' comment with sign | digit
    · exact absurd sign (by decide)
    · exact absurd digit (by decide)
  unfold significant
  rw [trim_clauseChars]
  simp only [Bool.and_eq_true, bne_iff_ne, Ne, first, not_false_eq_true, true_and,
    Bool.not_eq_true', List.isEmpty_eq_false_iff]
  simp [clauseChars]

theorem clauseChars_not_header (c : Clause) : (Text.trim (clauseChars c)).head? ≠ some 'p' := by
  rw [trim_clauseChars]
  intro header
  rcases head?_clauseChars c 'p' header with sign | digit
  · exact absurd sign (by decide)
  · exact absurd digit (by decide)

theorem words_headerChars (numVars numClauses : Nat) :
    Text.words (headerChars numVars numClauses) =
      [['p'], ['c', 'n', 'f'], (toString numVars).toList, (toString numClauses).toList] := by
  show Text.words (['p'] ++ ' ' :: (['c', 'n', 'f'] ++ ' ' ::
    ((toString numVars).toList ++ ' ' :: (toString numClauses).toList))) = _
  rw [Text.words_append_cons_blank _ _ _ (by decide), Text.words_append_cons_blank _ _ _ (by decide),
    Text.words_append_cons_blank _ _ _ (by decide),
    Text.words_of_solid ['p'] (by simp) (by simp [Text.isBlank, Text.blankRanges]),
    Text.words_of_solid ['c', 'n', 'f'] (by simp) (by simp [Text.isBlank, Text.blankRanges]),
    Text.words_of_solid _ (toString_nat_ne_nil numVars) (isBlank_of_mem_toString_nat numVars),
    Text.words_of_solid _ (toString_nat_ne_nil numClauses) (isBlank_of_mem_toString_nat numClauses)]
  rfl

theorem words_clauseChars (c : Clause) :
    Text.words (clauseChars c) = c.map (fun l => (toString l.toDimacs).toList) ++ [['0']] := by
  induction c with
  | nil => rfl
  | cons l c ih =>
      rw [clauseChars_cons, Text.words_append_cons_blank _ _ _ (by decide), ih,
        Text.words_of_solid _ (toString_int_ne_nil l.toDimacs)
          (isBlank_of_mem_toString_int l.toDimacs)]
      rfl

-- The header's counts are printed in the ranges the reader reads them in.
theorem isNumeral_numVars (n : Nat) (fits : n ≤ maxVar) :
    Text.IsNumeral .word32 (toString n).toList n := by
  unfold maxVar at fits
  apply Text.isNumeral_toString_nat
  · simp [Text.IntRange.word32]
  · simp only [Text.IntRange.word32]
    omega

theorem isNumeral_numClauses (n : Nat) (fits : n ≤ 18446744073709551615) :
    Text.IsNumeral .word64 (toString n).toList n := by
  apply Text.isNumeral_toString_nat
  · simp [Text.IntRange.word64]
  · simp only [Text.IntRange.word64]
    omega

theorem readHeader_headerChars (numVars numClauses : Nat) (varsFit : numVars ≤ maxVar)
    (countFits : numClauses ≤ 18446744073709551615) :
    readHeader (headerChars numVars numClauses) = some ⟨numVars, numClauses⟩ := by
  rw [readHeader_eq_some_iff]
  refine ⟨_, _, numVars, numClauses, words_headerChars numVars numClauses, ?_, ?_, by simp⟩
  · exact (Text.readInt?_eq_some_iff _ (by decide) (by decide) _ _).mpr
      (isNumeral_numVars numVars varsFit)
  · exact (Text.readInt?_eq_some_iff _ (by decide) (by decide) _ _).mpr
      (isNumeral_numClauses numClauses countFits)

/-- The printed integer of a literal of a 32-bit variable is a 64-bit numeral of it. -/
theorem isNumeral_literal (l : Literal) (fits : l.var ≤ maxVar) :
    Text.IsNumeral .int64 (toString l.toDimacs).toList l.toDimacs := by
  have magnitude : l.toDimacs.natAbs = l.var := by
    unfold Literal.toDimacs
    split <;> simp
  unfold maxVar at fits
  apply Text.isNumeral_toString_int
  · simp only [Text.IntRange.int64]
    omega
  · simp only [Text.IntRange.int64]
    omega
  · intro _
    decide

theorem isNumeral_zero : Text.IsNumeral .int64 ['0'] 0 :=
  (Text.readInt?_eq_some_iff _ (by decide) (by decide) _ _).mp (by decide)

/-- The words of the clause lines are numerals of the clauses written out. -/
theorem numerals_clauseChars (cs : List Clause) (fits : ∀ c ∈ cs, ∀ l ∈ c, l.var ≤ maxVar) :
    List.Forall₂ (Text.IsNumeral .int64) ((cs.map clauseChars).flatMap Text.words)
      (clauseInts cs) := by
  induction cs with
  | nil => exact .nil
  | cons c cs ih =>
      rw [List.map_cons, List.flatMap_cons, clauseInts_cons, words_clauseChars]
      refine List.rel_append (List.rel_append ?_ (.cons isNumeral_zero .nil))
        (ih fun c' member => fits c' (List.mem_cons_of_mem c member))
      rw [List.forall₂_map_left_iff, List.forall₂_map_right_iff, List.forall₂_same]
      exact fun l member => isNumeral_literal l (fits c (by simp) l member)

theorem filter_textLines_toDimacs (f : Cnf) :
    (textLines f.toDimacs.toList).filter significant =
      headerChars f.numVars f.numClauses :: f.clauses.map clauseChars := by
  rw [textLines_toDimacs, List.filter_append, List.filter_cons_of_pos (significant_headerChars _ _),
    List.filter_eq_self.mpr, show List.filter significant [[]] = [] from rfl, List.append_nil]
  intro l member
  obtain ⟨c, -, rfl⟩ := List.mem_map.mp member
  exact significant_clauseChars c

/-- A well-formed formula written out follows the reader's grammar and names itself. -/
theorem accepts_toDimacs (f : Cnf) (wellFormed : f.WellFormed) (varsFit : f.numVars ≤ maxVar)
    (countFits : f.clauses.length ≤ 18446744073709551615) : Accepts f.toDimacs f := by
  have fits : ∀ c ∈ f.clauses, ∀ l ∈ c, l.var ≤ maxVar := fun c member l inside =>
    Nat.le_trans ((wellFormed c member).2.1 l inside).2 varsFit
  unfold Accepts
  refine ⟨_, _, (toString f.numVars).toList, (toString f.numClauses).toList,
    filter_textLines_toDimacs f, ?_, ?_, isNumeral_numVars _ varsFit,
    isNumeral_numClauses _ countFits, ?_, numerals_clauseChars f.clauses fits, wellFormed⟩
  · rw [trim_headerChars]
    rfl
  · rw [trim_headerChars, words_headerChars]
  · intro l member
    obtain ⟨c, -, rfl⟩ := List.mem_map.mp member
    exact clauseChars_not_header c

namespace Progress

theorem token_literal (numVars line : Nat) (p : Progress) (l : Literal) (named : 1 ≤ l.var)
    (fits : l.var ≤ maxVar) :
    p.token numVars line (toString l.toDimacs).toList =
      if numVars < l.var then .error (.literalOutOfRange (p.clauses.size + 1) l.toDimacs numVars)
      else if p.seen.contains l.var then .error (.duplicateVariable (p.clauses.size + 1) l.var)
      else .ok { p with current := p.current.push l, seen := p.seen.insert l.var } := by
  have read := (Text.readInt?_eq_some_iff _ (by decide) (by decide) _ _).mpr (isNumeral_literal l fits)
  rw [token, read]
  simp only [if_neg (Literal.toDimacs_ne_zero l named), Literal.ofDimacs?_toDimacs l named fits]

theorem token_zero (numVars line : Nat) (p : Progress) :
    p.token numVars line ['0'] =
      if p.current.isEmpty then .error (.emptyClause (p.clauses.size + 1))
      else .ok { p with clauses := p.clauses.push p.current.toList, current := #[], seen := {} } := by
  rw [token, show Text.readInt? .int64 ['0'] = some 0 by decide]
  rfl

/-- The reader meets the first fault of an open clause's remaining literals, as the table
builder's check of them does, when its `seen` holds the same variables as the check's. -/
theorem foldlM_token_literals_error (numVars line : Nat) (rest : Clause) (more : List (List Char))
    (p : Progress) (done : List Clause) (pending : List Literal)
    (tracks : Tracks numVars p done pending) (seen : Std.HashSet Nat)
    (same : ∀ v, seen.contains v = true ↔ v ∈ pending.map Literal.var)
    (named : ∀ l ∈ rest, l.var ≠ 0) (fits : ∀ l ∈ rest, l.var ≤ maxVar) (e : FormatError)
    (fault : Clause.checkLiterals numVars (done.length + 1) seen rest = .error e) :
    (rest.map (fun l => (toString l.toDimacs).toList) ++ more).foldlM (token numVars line) p =
      .error e := by
  induction rest generalizing p pending seen with
  | nil => cases fault
  | cons l rest ih =>
      have one : 1 ≤ l.var := Nat.one_le_iff_ne_zero.mpr (named l (by simp))
      rw [List.map_cons, List.cons_append, List.foldlM_cons,
        token_literal numVars line p l one (fits l (by simp)), tracks.size_clauses]
      rw [Clause.checkLiterals] at fault
      by_cases outside : numVars < l.var
      · rw [if_pos (.inr outside)] at fault
        rw [if_pos outside, ← Except.error.inj fault]
        rfl
      by_cases repeated : seen.contains l.var
      · have seenHere : p.seen.contains l.var = true := by
          rw [tracks.2.2.2, ← same]
          exact repeated
        rw [if_neg (by omega), if_pos repeated] at fault
        rw [if_neg outside, if_pos seenHere, ← Except.error.inj fault]
        rfl
      · -- a fresh variable in range extends both open clauses alike
        have fresh : l.var ∉ pending.map Literal.var := by
          rw [← same]
          simpa using repeated
        rw [if_neg (by omega), if_neg repeated] at fault
        rw [if_neg outside, (tracks.contains_eq_false_iff _).mpr fresh]
        exact ih _ _ (tracks.extend l one (by omega) fresh) _ (contains_insert_var same l)
          (fun l' member => named l' (List.mem_cons_of_mem l member))
          (fun l' member => fits l' (List.mem_cons_of_mem l member)) fault

/-- On a clause's line the reader meets the clause's first fault, the one the table builder
reports. -/
theorem foldlM_token_clause_error (numVars line : Nat) (c : Clause) (p : Progress)
    (done : List Clause) (tracks : Tracks numVars p done []) (named : ∀ l ∈ c, l.var ≠ 0)
    (fits : ∀ l ∈ c, l.var ≤ maxVar) (e : FormatError)
    (fault : Clause.check numVars (done.length + 1) c = .error e) :
    (Text.words (clauseChars c)).foldlM (token numVars line) p = .error e := by
  rw [words_clauseChars]
  cases c with
  | nil =>
      have empty : p.current.isEmpty := Array.isEmpty_iff.mpr (tracks.current_eq_empty_iff.mpr rfl)
      rw [Clause.check, if_pos (show ([] : Clause).isEmpty = true from rfl)] at fault
      rw [List.map_nil, List.nil_append, List.foldlM_cons, token_zero, if_pos empty,
        tracks.size_clauses,
        ← Except.error.inj fault]
      rfl
  | cons l c =>
      rw [Clause.check, if_neg (by simp)] at fault
      exact foldlM_token_literals_error numVars line (l :: c) _ p done [] tracks {} (by simp)
        named fits e fault

theorem foldlM_token_clause_ok (numVars line : Nat) (fits : numVars ≤ maxVar) (c : Clause)
    (formed : c.WellFormed numVars) (p : Progress) (done : List Clause)
    (tracks : Tracks numVars p done []) :
    ∃ q, (Text.words (clauseChars c)).foldlM (token numVars line) p = .ok q ∧
      Tracks numVars q (done ++ [c]) [] := by
  have numerals := numerals_clauseChars [c]
    (fun c' member l inside => by
      rw [List.mem_singleton.mp member] at inside
      exact Nat.le_trans (formed.2.1 l inside).2 fits)
  rw [List.map_singleton, List.flatMap_singleton] at numerals
  exact tracks.foldlM_token_clauses numVars line fits [c] _ p done numerals (by simpa using formed)

end Progress

/-- Reading the clause lines of a text whose first faulty clause is `c`, after well-formed ones,
ends in that clause's error. -/
theorem takeLines_clauseChars_error (h : Header) (fits : h.numVars ≤ maxVar) (c : Clause)
    (post : List Clause) (named : ∀ l ∈ c, l.var ≠ 0) (litsFit : ∀ l ∈ c, l.var ≤ maxVar)
    (e : FormatError) (pre : List Clause) (formed : ∀ g ∈ pre, g.WellFormed h.numVars) (n : Nat)
    (p : Progress) (done : List Clause) (header : p.header = some h)
    (tracks : Progress.Tracks h.numVars p done [])
    (fault : Clause.check h.numVars (done.length + pre.length + 1) c = .error e) :
    takeLines n p (((pre ++ c :: post).map clauseChars).map utf8Bytes) = .error e := by
  -- each well-formed clause before the faulty one is read whole and joins `done`
  induction pre generalizing n p done with
  | nil =>
      rw [List.nil_append, List.map_cons, List.map_cons]
      apply takeLines_utf8Bytes_cons_of_error
      rw [Progress.takeLine_of_data_line n p _ (significant_clauseChars c) (clauseChars_not_header c),
        header]
      exact Progress.foldlM_token_clause_error h.numVars n c p done tracks named litsFit e fault
  | cons g pre ih =>
      obtain ⟨q, step, tracks'⟩ := Progress.foldlM_token_clause_ok h.numVars n fits g
        (formed g (by simp)) p done tracks
      have header' : q.header = some h := by
        rw [Progress.header_of_foldlM_token _ _ _ p q step, header]
      rw [List.cons_append, List.map_cons, List.map_cons,
        takeLines_utf8Bytes_cons_of_ok n p q _ _ (by
          rw [Progress.takeLine_of_data_line n p _ (significant_clauseChars g)
            (clauseChars_not_header g), header]
          exact step)]
      exact ih (fun g' member => formed g' (List.mem_cons_of_mem g member)) (n + 1) q _ header'
        tracks' (by rw [← fault, List.length_append, List.length_singleton, List.length_cons]; congr 1; omega)

theorem takeLine_headerChars (numVars numClauses : Nat) (varsFit : numVars ≤ maxVar)
    (countFits : numClauses ≤ 18446744073709551615) :
    ({} : Progress).takeLine 1 (headerChars numVars numClauses) =
      .ok { header := some ⟨numVars, numClauses⟩ } := by
  rw [Progress.takeLine_of_header_line 1 {} _ (significant_headerChars _ _)
    (by rw [trim_headerChars]; rfl), trim_headerChars,
    readHeader_headerChars numVars numClauses varsFit countFits]
  rfl

/-- When no literal names variable 0, the reader refuses the written text of a formula with
the table builder's error. -/
theorem ofDimacsText_toDimacs_of_error (f : Cnf) (varsFit : f.numVars ≤ maxVar)
    (litsFit : ∀ c ∈ f.clauses, ∀ l ∈ c, l.var ≤ maxVar)
    (countFits : f.clauses.length ≤ 18446744073709551615)
    (named : ∀ c ∈ f.clauses, ∀ l ∈ c, l.var ≠ 0) (e : FormatError)
    (failed : Incidence.ofCnf f = .error e) : Cnf.ofDimacsText f.toDimacs = .error e := by
  obtain ⟨pre, c, post, split, formed, fault⟩ := Incidence.ofCnf_eq_error f e failed
  have member : c ∈ f.clauses := by simp [split]
  have run : takeLines 1 {} (lines f.toDimacs.toUTF8.toList) = .error e := by
    rw [lines_toDimacs, List.map_cons,
      takeLines_utf8Bytes_cons_of_ok 1 {} _ _ _
        (takeLine_headerChars f.numVars f.numClauses varsFit countFits), split]
    exact takeLines_clauseChars_error ⟨f.numVars, f.numClauses⟩ varsFit c post (named c member)
      (litsFit c member) e pre formed 2 _ [] rfl (Progress.tracks_start _ _) (by simpa using fault)
  show (takeLines 1 {} (lines f.toDimacs.toUTF8.toList)).bind Progress.finish = .error e
  rw [run]
  rfl

/-- A written formula that reads back names no variable 0: each such literal is written as a
`0`, and the text would close more clauses than its header declares. -/
theorem named_of_ofDimacsText_toDimacs (f : Cnf)
    (litsFit : ∀ c ∈ f.clauses, ∀ l ∈ c, l.var ≤ maxVar)
    (countFits : f.clauses.length ≤ 18446744073709551615) (f' : Cnf)
    (read : Cnf.ofDimacsText f.toDimacs = .ok f') : ∀ c ∈ f.clauses, ∀ l ∈ c, l.var ≠ 0 := by
  obtain ⟨header, body, vars, count, split, -, words, -, countNumeral, -, numerals, formed⟩ :=
    accepts_of_ofDimacsText _ _ read
  rw [filter_textLines_toDimacs] at split
  obtain ⟨rfl, rfl⟩ := List.cons.inj split
  rw [trim_headerChars, words_headerChars] at words
  simp only [List.cons.injEq, and_true, true_and] at words
  obtain ⟨-, rfl⟩ := words
  -- the declared count is read back, and the clause ends read are the ones written
  have sameCount : (f'.clauses.length : Int) = f.clauses.length :=
    Text.isNumeral_unique _ (by decide) (by decide) _ _ _ countNumeral
      (isNumeral_numClauses _ countFits)
  have sameInts : clauseInts f'.clauses = clauseInts f.clauses :=
    Text.forall₂_isNumeral_unique _ (by decide) (by decide) _ _ _ numerals
      (numerals_clauseChars f.clauses litsFit)
  have none : (f'.clauses.map fun c => c.countP fun l => l.var == 0).sum = 0 := by
    rw [List.sum_eq_zero_iff_forall_eq_nat]
    intro k member
    obtain ⟨c, inside, rfl⟩ := List.mem_map.mp member
    rw [List.countP_eq_zero]
    intro l present zero
    have := ((formed c inside).2.1 l present).1
    simp at zero
    omega
  have counted := count_zero_clauseInts f.clauses
  rw [← sameInts, count_zero_clauseInts, none] at counted
  intro c member l present zero
  have positive : 0 < c.countP fun l => l.var == 0 :=
    List.countP_pos_iff.mpr ⟨l, present, by simp [zero]⟩
  have some : 0 < (f.clauses.map fun c => c.countP fun l => l.var == 0).sum :=
    List.sum_pos_iff_exists_pos_nat.mpr ⟨_, List.mem_map_of_mem member, positive⟩
  omega

end Dimacs

namespace Cnf

/-- Writing a formula and reading it back. The text is read exactly when the table can be built,
that is, when the formula is well formed, and then it reads back as the formula itself; when no
literal names variable 0, a formula the table builder refuses is refused by the reader with the
same error. The bounds are those of the integer types variables and clause counts have. -/
theorem ofDimacsText_toDimacs (c : Cnf) (varsFit : c.numVars ≤ maxVar)
    (litsFit : ∀ cl ∈ c.clauses, ∀ l ∈ cl, l.var ≤ maxVar)
    (countFits : c.clauses.length ≤ 18446744073709551615) :
    ((∃ c', ofDimacsText c.toDimacs = .ok c') ↔ ∃ t, Incidence.ofCnf c = .ok t) ∧
      ((∃ t, Incidence.ofCnf c = .ok t) ↔ c.WellFormed) ∧
      (c.WellFormed → ofDimacsText c.toDimacs = .ok c) ∧
      ((∀ cl ∈ c.clauses, ∀ l ∈ cl, l.var ≠ 0) →
        ∀ e, Incidence.ofCnf c = .error e → ofDimacsText c.toDimacs = .error e) := by
  have built : (∃ t, Incidence.ofCnf c = .ok t) ↔ c.WellFormed :=
    ⟨fun ⟨t, ok⟩ => ((Incidence.ofCnf_eq_ok_iff c t).mp ok).1,
      fun formed => ⟨_, (Incidence.ofCnf_eq_ok_iff c _).mpr ⟨formed, rfl⟩⟩⟩
  have readBack : c.WellFormed → ofDimacsText c.toDimacs = .ok c := fun formed =>
    Dimacs.ofDimacsText_of_accepts _ _ (Dimacs.accepts_toDimacs c formed varsFit countFits)
  have refused := Dimacs.ofDimacsText_toDimacs_of_error c varsFit litsFit countFits
  refine ⟨⟨?_, fun ok => ⟨c, readBack (built.mp ok)⟩⟩, built, readBack, refused⟩
  rintro ⟨c', read⟩
  -- a text that reads back names no variable 0, so a refusal of the table would be the reader's
  have named := Dimacs.named_of_ofDimacsText_toDimacs c litsFit countFits c' read
  cases table : Incidence.ofCnf c with
  | ok t => exact ⟨t, rfl⟩
  | error e =>
      rw [refused named e table] at read
      cases read

theorem ofDimacsText_toDimacs_two_clauses :
    (⟨2, [[⟨1, true⟩, ⟨2, false⟩], [⟨2, true⟩]]⟩ : Cnf).numVars ≤ maxVar ∧
      (∀ cl ∈ (⟨2, [[⟨1, true⟩, ⟨2, false⟩], [⟨2, true⟩]]⟩ : Cnf).clauses, ∀ l ∈ cl,
        l.var ≤ maxVar) ∧
      (⟨2, [[⟨1, true⟩, ⟨2, false⟩], [⟨2, true⟩]]⟩ : Cnf).clauses.length ≤ 18446744073709551615 ∧
      ((∃ c', ofDimacsText (⟨2, [[⟨1, true⟩, ⟨2, false⟩], [⟨2, true⟩]]⟩ : Cnf).toDimacs = .ok c') ↔
        ∃ t, Incidence.ofCnf ⟨2, [[⟨1, true⟩, ⟨2, false⟩], [⟨2, true⟩]]⟩ = .ok t) ∧
      ((∃ t, Incidence.ofCnf ⟨2, [[⟨1, true⟩, ⟨2, false⟩], [⟨2, true⟩]]⟩ = .ok t) ↔
        (⟨2, [[⟨1, true⟩, ⟨2, false⟩], [⟨2, true⟩]]⟩ : Cnf).WellFormed) ∧
      ((⟨2, [[⟨1, true⟩, ⟨2, false⟩], [⟨2, true⟩]]⟩ : Cnf).WellFormed →
        ofDimacsText (⟨2, [[⟨1, true⟩, ⟨2, false⟩], [⟨2, true⟩]]⟩ : Cnf).toDimacs =
          .ok ⟨2, [[⟨1, true⟩, ⟨2, false⟩], [⟨2, true⟩]]⟩) ∧
      ((∀ cl ∈ (⟨2, [[⟨1, true⟩, ⟨2, false⟩], [⟨2, true⟩]]⟩ : Cnf).clauses, ∀ l ∈ cl, l.var ≠ 0) →
        ∀ e, Incidence.ofCnf ⟨2, [[⟨1, true⟩, ⟨2, false⟩], [⟨2, true⟩]]⟩ = .error e →
          ofDimacsText (⟨2, [[⟨1, true⟩, ⟨2, false⟩], [⟨2, true⟩]]⟩ : Cnf).toDimacs = .error e) :=
  ⟨by decide, by decide, by decide,
    ofDimacsText_toDimacs ⟨2, [[⟨1, true⟩, ⟨2, false⟩], [⟨2, true⟩]]⟩ (by decide) (by decide)
      (by decide)⟩

end Cnf

end PartialCnf
