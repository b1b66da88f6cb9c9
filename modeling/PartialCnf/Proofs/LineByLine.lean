import PartialCnf.Proofs.Reader

/-!
The reader decides line by line. What it knows after some lines depends on those lines only, so
an error raised while taking a line, a fault of the line's text or bytes that are not UTF-8,
stands whatever follows; only the three checks at the end (a header was seen, no clause is left
open, the declared count of clauses) look past the last line. Each line is decoded when it is
reached, so a line that is not UTF-8 is reported exactly when no earlier line raised an error.
-/

namespace PartialCnf

namespace Dimacs

namespace FormatError

/-- The errors of the checks made once every line is taken. -/
def raisedAtEnd : FormatError → Bool
  | .missingHeader | .unterminatedClause | .clauseCountMismatch _ _ => true
  | _ => false

/-- The errors the text of one line raises. -/
def raisedOnLine : FormatError → Bool
  | .invalidHeader _ | .duplicateHeader _ | .dataBeforeHeader _ | .invalidToken _ _
  | .literalOutOfRange _ _ _ | .duplicateVariable _ _ | .emptyClause _ => true
  | _ => false

theorem raisedAtEnd_of_raisedOnLine {e : FormatError} (onLine : e.raisedOnLine) :
    e.raisedAtEnd = false := by
  cases e <;> simp_all [raisedOnLine, raisedAtEnd]

theorem ne_io_of_raisedOnLine {e : FormatError} (onLine : e.raisedOnLine) (x : IoError) :
    e ≠ .io x := by
  rintro rfl
  simp [raisedOnLine] at onLine

end FormatError

namespace Progress

theorem token_error_raisedOnLine (numVars line : Nat) (p : Progress) (word : List Char)
    (e : FormatError) (failed : p.token numVars line word = .error e) : e.raisedOnLine := by
  unfold token at failed
  split at failed
  · cases failed
    rfl
  · split at failed
    · -- `0` closes the open clause
      split at failed
      · cases failed
        rfl
      · cases failed
    · -- any other value is a literal
      split at failed
      · split at failed
        · cases failed
          rfl
        · split at failed
          · cases failed
            rfl
          · cases failed
      · cases failed
        rfl

theorem foldlM_token_error_raisedOnLine (numVars line : Nat) (ws : List (List Char))
    (p : Progress) (e : FormatError) (failed : ws.foldlM (token numVars line) p = .error e) :
    e.raisedOnLine := by
  induction ws generalizing p with
  | nil => cases failed
  | cons w ws ih =>
      rw [List.foldlM_cons] at failed
      cases step : p.token numVars line w with
      | error e' =>
          rw [step] at failed
          cases failed
          exact token_error_raisedOnLine numVars line p w _ step
      | ok q =>
          rw [step] at failed
          exact ih q failed

theorem takeLine_error_raisedOnLine (n : Nat) (p : Progress) (l : List Char) (e : FormatError)
    (failed : p.takeLine n l = .error e) : e.raisedOnLine := by
  cases kept : significant l
  · rw [takeLine_of_insignificant n p l kept] at failed
    cases failed
  by_cases header : (Text.trim l).head? = some 'p'
  · rw [takeLine_of_header_line n p l kept header] at failed
    split at failed
    · cases failed
      rfl
    · split at failed
      · cases failed
      · cases failed
        rfl
  · rw [takeLine_of_data_line n p l kept header] at failed
    split at failed
    · cases failed
      rfl
    · exact foldlM_token_error_raisedOnLine _ _ _ p e failed

theorem finish_error_raisedAtEnd (p : Progress) (e : FormatError) (failed : p.finish = .error e) :
    e.raisedAtEnd := by
  unfold finish at failed
  split at failed
  · cases failed
    rfl
  · split at failed
    · cases failed
      rfl
    · split at failed
      · cases failed
        rfl
      · cases failed

end Progress

section Loop

variable (n : Nat) (p : Progress) (x : List UInt8) (rest : List (List UInt8))

theorem takeLines_cons_of_undecodable (undecodable : decodeLine x = none) :
    takeLines n p (x :: rest) = .error (.io .invalidUtf8) := by
  rw [takeLines.eq_2, undecodable]

/-- A line that decodes is taken, and the loop goes on from the state it leaves. -/
theorem takeLines_cons_eq_bind (cs : List Char) (decoded : decodeLine x = some cs) :
    takeLines n p (x :: rest) = (p.takeLine n cs).bind fun q => takeLines (n + 1) q rest := by
  rw [takeLines.eq_2, decoded]
  dsimp only
  cases p.takeLine n cs <;> rfl

end Loop

/-- The line loop over two runs of lines is the loop over the first, then over the second from
the state and line number the first ends at. -/
theorem takeLines_append (n : Nat) (p : Progress) (xs ys : List (List UInt8)) :
    takeLines n p (xs ++ ys) = (takeLines n p xs).bind fun q => takeLines (n + xs.length) q ys := by
  induction xs generalizing n p with
  | nil => rfl
  | cons x xs ih =>
      rw [List.cons_append]
      cases decoded : decodeLine x with
      | none =>
          rw [takeLines_cons_of_undecodable n p x _ decoded,
            takeLines_cons_of_undecodable n p x _ decoded]
          rfl
      | some cs =>
          rw [takeLines_cons_eq_bind n p x _ cs decoded, takeLines_cons_eq_bind n p x _ cs decoded]
          cases p.takeLine n cs with
          | error e => rfl
          | ok q =>
              show takeLines (n + 1) q (xs ++ ys) = (takeLines (n + 1) q xs).bind _
              rw [ih, List.length_cons, Nat.add_assoc, Nat.add_comm 1]

theorem takeLines_error_raisedOnLine (xs : List (List UInt8))
    (decoded : ∀ x ∈ xs, (decodeLine x).isSome) (n : Nat) (p : Progress) (e : FormatError)
    (failed : takeLines n p xs = .error e) : e.raisedOnLine := by
  induction xs generalizing n p with
  | nil => cases failed
  | cons x xs ih =>
      obtain ⟨cs, text⟩ := Option.isSome_iff_exists.mp (decoded x (by simp))
      rw [takeLines_cons_eq_bind n p x xs cs text] at failed
      cases step : p.takeLine n cs with
      | error e' =>
          rw [step] at failed
          cases failed
          exact Progress.takeLine_error_raisedOnLine n p cs _ step
      | ok q =>
          rw [step] at failed
          exact ih (fun x' member => decoded x' (List.mem_cons_of_mem x member)) (n + 1) q failed

theorem splitLines_eq_reverse_append (bs line : List UInt8) (done : List (List UInt8)) :
    splitLines bs line done = done.reverse ++ splitLines bs line [] := by
  induction bs generalizing line done with
  | nil =>
      cases line with
      | nil => simp [splitLines]
      | cons b line => simp [splitLines]
  | cons b bs ih =>
      by_cases feed : b = 10
      · simp only [splitLines, if_pos feed]
        rw [ih, ih [] [_]]
        simp
      · simp only [splitLines, if_neg feed]
        exact ih (b :: line) done

theorem splitLines_append_lf (b t line : List UInt8) (done : List (List UInt8)) :
    splitLines (b ++ 10 :: t) line done = splitLines (b ++ [10]) line done ++ splitLines t [] [] := by
  induction b generalizing line done with
  | nil =>
      simp only [List.nil_append, splitLines]
      rw [splitLines_eq_reverse_append t]
      simp
  | cons x b ih =>
      by_cases feed : x = 10
      · simp only [List.cons_append, splitLines, if_pos feed]
        exact ih [] _
      · simp only [List.cons_append, splitLines, if_neg feed]
        exact ih (x :: line) done

/-- A run of bytes made of whole lines splits on its own. -/
theorem lines_append (b t : List UInt8) (whole : b = [] ∨ b.getLast? = some 10) :
    lines (b ++ t) = lines b ++ lines t := by
  rcases whole with rfl | last
  · rfl
  obtain ⟨front, rfl⟩ := List.getLast?_eq_some_iff.mp last
  rw [lines, lines, lines, List.append_assoc, List.singleton_append, splitLines_append_lf]

theorem ofDimacs_eq_bind (bytes : List UInt8) :
    Cnf.ofDimacs bytes = (takeLines 1 {} (lines bytes)).bind Progress.finish :=
  rfl

theorem takeLines_of_ofDimacs_error (bytes : List UInt8) (e : FormatError)
    (failed : Cnf.ofDimacs bytes = .error e) (early : e.raisedAtEnd = false) :
    takeLines 1 {} (lines bytes) = .error e := by
  rw [ofDimacs_eq_bind] at failed
  cases run : takeLines 1 {} (lines bytes) with
  | error e' =>
      rw [run] at failed
      simp only [Except.bind] at failed
      rw [Except.error.inj failed]
  | ok q =>
      rw [run] at failed
      have := Progress.finish_error_raisedAtEnd q e failed
      rw [early] at this
      cases this

end Dimacs

namespace Cnf

open Dimacs

/-- Reading is decided line by line. For bytes `b` made of whole lines and any bytes `t` after
them, an error `b` raises that is not one of the end checks is also the result for `b ++ t`.
And when every line of `b` is UTF-8 and the first line of `t` is not, the result for `b ++ t`
is the UTF-8 fault exactly when `b` raises no error before its end checks. -/
theorem ofDimacs_line_errors_stand (b t : List UInt8) (whole : b = [] ∨ b.getLast? = some 10) :
    (∀ e, ofDimacs b = .error e → e.raisedAtEnd = false → ofDimacs (b ++ t) = .error e) ∧
    ((∀ l ∈ lines b, (decodeLine l).isSome) → ∀ bad, (lines t).head? = some bad →
      decodeLine bad = none →
      (ofDimacs (b ++ t) = .error (.io .invalidUtf8) ↔
        ∀ e, ofDimacs b = .error e → e.raisedAtEnd = true)) := by
  have split : takeLines 1 {} (lines (b ++ t)) = (takeLines 1 {} (lines b)).bind
      fun q => takeLines (1 + (lines b).length) q (lines t) := by
    rw [lines_append b t whole, takeLines_append]
  refine ⟨fun e failed early => ?_, fun decoded bad first undecodable => ?_⟩
  · rw [ofDimacs_eq_bind, split, takeLines_of_ofDimacs_error b e failed early]
    rfl
  obtain ⟨rest, lines_t⟩ : ∃ rest, lines t = bad :: rest := by
    cases shape : lines t with
    | nil => simp [shape] at first
    | cons l rest =>
        rw [shape, List.head?_cons, Option.some.injEq] at first
        exact ⟨rest, by rw [first]⟩
  rw [ofDimacs_eq_bind (b ++ t), split, ofDimacs_eq_bind b]
  cases run : takeLines 1 {} (lines b) with
  | ok q =>
      -- the lines of `b` are taken, and the next line is the undecodable one
      rw [Except.bind, Except.bind, lines_t, takeLines_cons_of_undecodable _ _ _ _ undecodable]
      exact ⟨fun _ e finished => Progress.finish_error_raisedAtEnd q e finished, fun _ => rfl⟩
  | error e =>
      have onLine := takeLines_error_raisedOnLine (lines b) decoded 1 {} e run
      rw [Except.bind]
      constructor
      · intro same
        exact absurd (Except.error.inj same) (FormatError.ne_io_of_raisedOnLine onLine _)
      · intro ends
        have := ends e rfl
        rw [FormatError.raisedAtEnd_of_raisedOnLine onLine] at this
        cases this

theorem ofDimacs_line_errors_stand_after_blank_line :
    (([10] : List UInt8) = [] ∨ ([10] : List UInt8).getLast? = some 10) ∧
    ((∀ e, ofDimacs [10] = .error e → e.raisedAtEnd = false →
        ofDimacs ([10] ++ [255, 10]) = .error e) ∧
      ((∀ l ∈ lines [10], (decodeLine l).isSome) → ∀ bad, (lines [255, 10]).head? = some bad →
        decodeLine bad = none →
        (ofDimacs ([10] ++ [255, 10]) = .error (.io .invalidUtf8) ↔
          ∀ e, ofDimacs [10] = .error e → e.raisedAtEnd = true))) :=
  ⟨.inr rfl, ofDimacs_line_errors_stand [10] [255, 10] (.inr rfl)⟩

end Cnf

end PartialCnf
