import PartialCnf.Proofs.LineByLine

/-!
Line endings. Writing every line feed of a text as a carriage return and a line feed does not
change what the reader returns, accepted formula or error alike. The reader splits at line
feeds and drops the carriage return right before each, so the two texts have the same lines,
except that a line of the original that ended in a carriage return keeps it in the rewritten
text. A line is read through its first character and its trimmed form only, and a trailing
carriage return, a blank, changes neither.
-/

namespace PartialCnf

namespace Text

/-- The text with every line feed written as a carriage return and a line feed. -/
def crlf (cs : List Char) : List Char :=
  cs.flatMap fun c => if c = '\n' then ['\r', '\n'] else [c]

@[simp] theorem crlf_nil : crlf [] = [] := rfl

theorem crlf_cons (c : Char) (cs : List Char) :
    crlf (c :: cs) = (if c = '\n' then ['\r', '\n'] else [c]) ++ crlf cs :=
  List.flatMap_cons

theorem head?_crlf_ne_lf (cs : List Char) : (crlf cs).head? ≠ some '\n' := by
  cases cs with
  | nil => simp
  | cons c cs =>
      rw [crlf_cons]
      by_cases feed : c = '\n' <;> simp [feed]

theorem trim_append_blank (cs : List Char) (b : Char) (blank : isBlank b) :
    trim (cs ++ [b]) = trim cs := by
  unfold trim
  rw [List.dropWhile_append]
  split
  · -- the line is blanks only, and stays so with `b`
    rename_i allBlank
    rw [List.isEmpty_iff.mp allBlank, List.dropWhile_cons_of_pos blank]
    rfl
  · rw [List.reverse_append, List.reverse_singleton, List.singleton_append,
      List.dropWhile_cons_of_pos blank]

end Text

/-- The carriage returns the rewriting adds are exactly those right before a line feed. -/
theorem dropBefore_crlf (cs : List Char) : dropBefore '\r' '\n' (Text.crlf cs) = cs := by
  induction cs with
  | nil => rfl
  | cons c cs ih =>
      rw [Text.crlf_cons]
      by_cases feed : c = '\n'
      · subst feed
        rw [if_pos rfl, List.cons_append, List.cons_append, List.nil_append, dropBefore,
          if_pos ⟨rfl, rfl⟩, ih]
      · rw [if_neg feed, List.singleton_append,
          dropBefore_cons_of_not _ _ c _ fun both => Text.head?_crlf_ne_lf cs both.2, ih]

/-- A line of the rewritten text is the line of the original, or it with a carriage return
that stood before the original's line feed. -/
def SameLine (l l' : List Char) : Prop :=
  l' = l ∨ l' = l ++ ['\r']

theorem SameLine.cons {l l' : List Char} (same : SameLine l l') (c : Char) :
    SameLine (c :: l) (c :: l') := by
  rcases same with rfl | rfl
  · exact Or.inl rfl
  · exact Or.inr rfl

theorem forall₂_sameLine_modifyHead (c : Char) {ls ls' : List (List Char)}
    (same : List.Forall₂ SameLine ls ls') :
    List.Forall₂ SameLine (ls.modifyHead (c :: ·)) (ls'.modifyHead (c :: ·)) := by
  cases same with
  | nil => exact .nil
  | cons head tail => exact .cons (head.cons c) tail

/-- Splitting after dropping the carriage returns before line feeds gives the same lines as
splitting at once, but for those carriage returns. -/
theorem forall₂_sameLine_splitOn (cs : List Char) :
    List.Forall₂ SameLine ((dropBefore '\r' '\n' cs).splitOn '\n') (cs.splitOn '\n') := by
  fun_induction dropBefore '\r' '\n' cs with
  | case1 => exact .cons (Or.inl rfl) .nil
  | case2 x => exact List.forall₂_same.mpr fun l _ => Or.inl rfl
  | case3 x y rest both ih =>
      obtain ⟨rfl, rfl⟩ := both
      rw [List.splitOn_cons_eq_if_modifyHead, if_pos (by simp), List.splitOn_cons_eq_if_modifyHead,
        if_neg (by decide), List.splitOn_cons_eq_if_modifyHead, if_pos (by simp)]
      exact .cons (Or.inr rfl) ih
  | case4 x y rest apart ih =>
      rw [List.splitOn_cons_eq_if_modifyHead, List.splitOn_cons_eq_if_modifyHead]
      by_cases feed : x = '\n'
      · rw [if_pos (by simp [feed]), if_pos (by simp [feed])]
        exact .cons (Or.inl rfl) ih
      · rw [if_neg (by simp [feed]), if_neg (by simp [feed])]
        exact forall₂_sameLine_modifyHead x ih

namespace Dimacs

namespace Progress

/-- A trailing carriage return does not change how a line is read. -/
theorem takeLine_append_cr (n : Nat) (p : Progress) (l : List Char) :
    p.takeLine n (l ++ ['\r']) = p.takeLine n l := by
  have trimmed := Text.trim_append_blank l '\r' (by decide)
  cases l with
  | nil =>
      -- a lone carriage return is a blank line
      rw [takeLine.eq_2 _ _ _ (by simp), takeLine.eq_2 _ _ _ (by simp), trimmed]
  | cons c rest =>
      by_cases comment : c = 'c'
      · subst comment
        rfl
      · rw [List.cons_append, takeLine.eq_2 _ _ _ (by simp [comment]),
          takeLine.eq_2 _ _ _ (by simp [comment]), ← List.cons_append, trimmed]

theorem takeLine_of_sameLine (n : Nat) (p : Progress) {l l' : List Char} (same : SameLine l l') :
    p.takeLine n l' = p.takeLine n l := by
  rcases same with rfl | rfl
  · rfl
  · exact takeLine_append_cr n p l

end Progress

theorem takeLines_of_forall₂ {ls ls' : List (List Char)} (same : List.Forall₂ SameLine ls ls')
    (n : Nat) (p : Progress) : takeLines n p (ls'.map utf8Bytes) = takeLines n p (ls.map utf8Bytes) := by
  induction same generalizing n p with
  | nil => rfl
  | @cons l l' ls ls' head tail ih =>
      rw [List.map_cons, List.map_cons, takeLines_cons_eq_bind n p _ _ l' (decodeLine_utf8Bytes l'),
        takeLines_cons_eq_bind n p _ _ l (decodeLine_utf8Bytes l),
        Progress.takeLine_of_sameLine n p head]
      congr 1
      funext q
      exact ih (n + 1) q

/-- A last empty line is skipped, so dropping it changes nothing. -/
theorem takeLines_dropFinalEmpty (ls : List (List Char)) (n : Nat) (p : Progress) :
    takeLines n p ((dropFinalEmpty ls).map utf8Bytes) = takeLines n p (ls.map utf8Bytes) := by
  induction ls generalizing n p with
  | nil => rfl
  | cons l ls ih =>
      cases ls with
      | nil =>
          rw [dropFinalEmpty_singleton]
          cases l with
          | nil => rfl
          | cons c cs => rfl
      | cons l' ls' =>
          rw [dropFinalEmpty_cons _ _ (by simp), List.map_cons, List.map_cons,
            takeLines_cons_eq_bind n p _ _ l (decodeLine_utf8Bytes l),
            takeLines_cons_eq_bind n p _ _ l (decodeLine_utf8Bytes l)]
          congr 1
          funext q
          exact ih (n + 1) q

theorem ofDimacsText_eq_takeLines (s : String) :
    Cnf.ofDimacsText s =
      (takeLines 1 {} ((textLines s.toList).map utf8Bytes)).bind Progress.finish := by
  show (takeLines 1 {} (lines s.toUTF8.toList)).bind Progress.finish = _
  rw [lines_toUTF8, takeLines_dropFinalEmpty]

end Dimacs

namespace Cnf

/-- Writing each line feed of a text as a carriage return and a line feed leaves the reader's
result as it is: the same formula, or the same error with the same line numbers, tokens and
counts. -/
theorem ofDimacsText_crlf (s : String) :
    ofDimacsText (String.ofList (Text.crlf s.toList)) = ofDimacsText s := by
  rw [Dimacs.ofDimacsText_eq_takeLines, Dimacs.ofDimacsText_eq_takeLines, String.toList_ofList,
    textLines, dropBefore_crlf,
    Dimacs.takeLines_of_forall₂ (forall₂_sameLine_splitOn s.toList) 1 {}]
  rfl

end Cnf

end PartialCnf
