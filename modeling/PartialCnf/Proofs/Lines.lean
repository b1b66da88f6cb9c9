import PartialCnf.Dimacs.Lines

/-!
The lines the reader takes from the UTF-8 bytes of a text are the text split at line feeds,
a carriage return right before a line feed dropped with it, and each decodes back to its
characters. The byte splitter keeps the current line reversed and drops a trailing empty piece;
it is related to `List.splitOn` with its accumulator generalized. Line feeds and carriage
returns are single ASCII bytes and never occur inside the encoding of another character, so the
split commutes with the encoding.
-/

namespace PartialCnf

section Pieces

variable {α : Type}

/-- A list of pieces without its last piece when that one is empty. -/
def dropFinalEmpty : List (List α) → List (List α)
  | [] => []
  | [[]] => []
  | p :: ps => p :: dropFinalEmpty ps

theorem dropFinalEmpty_cons (p : List α) (ps : List (List α)) (more : ps ≠ []) :
    dropFinalEmpty (p :: ps) = p :: dropFinalEmpty ps := by
  cases ps with
  | nil => exact absurd rfl more
  | cons q qs => cases p <;> rfl

theorem dropFinalEmpty_singleton (p : List α) :
    dropFinalEmpty [p] = if p.isEmpty then [] else [p] := by
  cases p <;> rfl

theorem dropFinalEmpty_append_nil (ps : List (List α)) : dropFinalEmpty (ps ++ [[]]) = ps := by
  induction ps with
  | nil => rfl
  | cons p ps ih => rw [List.cons_append, dropFinalEmpty_cons _ _ (by simp), ih]

theorem dropFinalEmpty_map {β : Type} (f : List α → List β) (empty : ∀ p, f p = [] ↔ p = [])
    (ps : List (List α)) : dropFinalEmpty (ps.map f) = (dropFinalEmpty ps).map f := by
  induction ps with
  | nil => rfl
  | cons p ps ih =>
      cases ps with
      | nil =>
          have same : (f p).isEmpty = p.isEmpty := by
            rw [Bool.eq_iff_iff, List.isEmpty_iff, List.isEmpty_iff]
            exact empty p
          rw [List.map_singleton, dropFinalEmpty_singleton, dropFinalEmpty_singleton, same]
          cases p.isEmpty <;> rfl
      | cons q qs =>
          rw [List.map_cons, dropFinalEmpty_cons _ _ (by simp), dropFinalEmpty_cons _ _ (by simp),
            ih, List.map_cons]

end Pieces

section Marks

variable {α : Type} [DecidableEq α]

/-- Drops every `cr` that stands right before an `lf`. -/
def dropBefore (cr lf : α) : List α → List α
  | [] => []
  | [x] => [x]
  | x :: y :: rest =>
    if x = cr ∧ y = lf then y :: dropBefore cr lf rest else x :: dropBefore cr lf (y :: rest)

theorem dropBefore_cons_of_not (cr lf x : α) (ys : List α) (apart : ¬(x = cr ∧ ys.head? = some lf)) :
    dropBefore cr lf (x :: ys) = x :: dropBefore cr lf ys := by
  cases ys with
  | nil => rfl
  | cons y rest =>
      rw [dropBefore, if_neg (by simpa using apart)]

theorem dropBefore_append (cr lf : α) (xs ys : List α) (noLf : lf ∉ xs)
    (apart : xs.getLast? = some cr → ys.head? ≠ some lf) :
    dropBefore cr lf (xs ++ ys) = xs ++ dropBefore cr lf ys := by
  induction xs with
  | nil => rfl
  | cons x xs ih =>
      have rest : lf ∉ xs := fun member => noLf (List.mem_cons_of_mem x member)
      have later : xs.getLast? = some cr → ys.head? ≠ some lf := by
        intro last
        cases xs with
        | nil => simp at last
        | cons x' xs' => exact apart (by rw [List.getLast?_cons_cons]; exact last)
      -- the mark `x` is dropped only when the next element, inside `xs` or first of `ys`, is `lf`
      have first : ¬(x = cr ∧ (xs ++ ys).head? = some lf) := by
        rintro ⟨same, next⟩
        cases xs with
        | nil => exact apart (by simp [same]) next
        | cons x' xs' =>
            simp only [List.cons_append, List.head?_cons, Option.some.injEq] at next
            exact rest (next ▸ List.mem_cons_self)
      rw [List.cons_append, dropBefore_cons_of_not cr lf x _ first, ih rest later, List.cons_append]

theorem dropBefore_of_not_mem (cr lf : α) (xs : List α) (noCr : cr ∉ xs) :
    dropBefore cr lf xs = xs := by
  induction xs with
  | nil => rfl
  | cons x xs ih =>
      have rest : cr ∉ xs := fun member => noCr (List.mem_cons_of_mem x member)
      have first : x ≠ cr := fun same => noCr (same ▸ List.mem_cons_self)
      rw [dropBefore_cons_of_not cr lf x xs (fun both => first both.1), ih rest]

/-- Splitting after a run free of the separator extends the first piece by that run. -/
theorem splitOn_append_of_not_mem (sep : α) (xs ys : List α) (free : sep ∉ xs) :
    (xs ++ ys).splitOn sep = (ys.splitOn sep).modifyHead (xs ++ ·) := by
  induction xs with
  | nil =>
      rw [List.nil_append]
      cases ys.splitOn sep <;> rfl
  | cons x xs ih =>
      have rest : sep ∉ xs := fun member => free (List.mem_cons_of_mem x member)
      have first : (x == sep) = false := by
        rw [beq_eq_false_iff_ne]
        rintro rfl
        exact free List.mem_cons_self
      rw [List.cons_append, List.splitOn_cons_eq_if_modifyHead, first, if_neg (by simp), ih rest,
        List.modifyHead_modifyHead]
      rfl

end Marks

/-- The lines of a text: split at line feeds, a carriage return right before a line feed
dropped with it. -/
def textLines (cs : List Char) : List (List Char) :=
  (dropBefore '\r' '\n' cs).splitOn '\n'

section Encoding

/-- The UTF-8 bytes of a list of characters. -/
def utf8Bytes (cs : List Char) : List UInt8 :=
  cs.flatMap String.utf8EncodeChar

@[simp] theorem utf8Bytes_nil : utf8Bytes [] = [] := rfl

theorem utf8Bytes_cons (c : Char) (cs : List Char) :
    utf8Bytes (c :: cs) = String.utf8EncodeChar c ++ utf8Bytes cs :=
  List.flatMap_cons

theorem utf8Bytes_eq_nil_iff (cs : List Char) : utf8Bytes cs = [] ↔ cs = [] := by
  cases cs with
  | nil => simp
  | cons c cs => simp [utf8Bytes_cons]

theorem toNat_or_high (x k : UInt8) (high : 128 ≤ k.toNat) : 128 ≤ (x ||| k).toNat :=
  Nat.le_trans high (UInt8.le_iff_toNat_le.mp UInt8.right_le_or)

/-- An ASCII byte occurs in the encoding of a character only as the encoding of that very
character: every byte of a longer encoding has its high bit set. -/
theorem mem_utf8EncodeChar_of_ascii (b : UInt8) (ascii : b.toNat < 128) (c : Char) :
    b ∈ String.utf8EncodeChar c ↔ c.toNat = b.toNat := by
  have wide : c.utf8Size ≠ 1 → 128 ≤ c.toNat := by
    intro size
    have := mt Char.utf8Size_eq_one_iff.mpr size
    rw [UInt32.le_iff_toNat_le] at this
    exact Nat.lt_of_not_le this
  have apart : ∀ x k : UInt8, 128 ≤ k.toNat → b ≠ x ||| k := by
    rintro x k high rfl
    have := toNat_or_high x k high
    omega
  rcases Char.utf8Size_eq c with one | two | three | four
  · have small : c.val ≤ 127 := Char.utf8Size_eq_one_iff.mp one
    rw [UInt32.le_iff_toNat_le, show (127 : UInt32).toNat = 127 from rfl] at small
    rw [String.utf8EncodeChar_eq_singleton one, List.mem_singleton, ← UInt8.toNat_inj,
      UInt32.toNat_toUInt8]
    change _ ↔ c.val.toNat = _
    omega
  · rw [String.utf8EncodeChar_eq_cons_cons two]
    simp only [List.mem_cons, List.not_mem_nil, or_false]
    have := wide (by omega)
    constructor
    · rintro (same | same) <;> exact absurd same (apart _ _ (by decide))
    · omega
  · rw [String.utf8EncodeChar_eq_cons_cons_cons three]
    simp only [List.mem_cons, List.not_mem_nil, or_false]
    have := wide (by omega)
    constructor
    · rintro (same | same | same) <;> exact absurd same (apart _ _ (by decide))
    · omega
  · rw [String.utf8EncodeChar_eq_cons_cons_cons_cons four]
    simp only [List.mem_cons, List.not_mem_nil, or_false]
    have := wide (by omega)
    constructor
    · rintro (same | same | same | same) <;> exact absurd same (apart _ _ (by decide))
    · omega

theorem utf8EncodeChar_lf : String.utf8EncodeChar '\n' = [10] := rfl

theorem lf_mem_utf8EncodeChar (c : Char) : (10 : UInt8) ∈ String.utf8EncodeChar c ↔ c = '\n' := by
  rw [mem_utf8EncodeChar_of_ascii 10 (by decide), ← Char.toNat_inj]
  rfl

theorem cr_mem_utf8EncodeChar (c : Char) : (13 : UInt8) ∈ String.utf8EncodeChar c ↔ c = '\r' := by
  rw [mem_utf8EncodeChar_of_ascii 13 (by decide), ← Char.toNat_inj]
  rfl

theorem head?_utf8Bytes (cs : List Char) :
    (utf8Bytes cs).head? = some 10 ↔ cs.head? = some '\n' := by
  cases cs with
  | nil => simp
  | cons c cs =>
      obtain ⟨b, bs, first⟩ := List.exists_cons_of_ne_nil (@String.utf8EncodeChar_ne_nil c)
      rw [utf8Bytes_cons, first, List.cons_append, List.head?_cons, List.head?_cons,
        Option.some.injEq, Option.some.injEq, ← lf_mem_utf8EncodeChar, first]
      constructor
      · rintro rfl
        exact List.mem_cons_self
      · intro member
        rw [← first] at member
        -- the line feed is a one-byte encoding, so it is the first byte
        have isLf := (lf_mem_utf8EncodeChar c).mp member
        rw [isLf, utf8EncodeChar_lf] at first
        exact (List.cons.inj first).1.symm

theorem getLast?_utf8EncodeChar (c : Char) (last : (String.utf8EncodeChar c).getLast? = some 13) :
    c = '\r' :=
  (cr_mem_utf8EncodeChar c).mp (List.mem_of_getLast? last)

/-- Dropping carriage returns before line feeds commutes with the encoding. -/
theorem dropBefore_utf8Bytes (cs : List Char) :
    dropBefore 13 10 (utf8Bytes cs) = utf8Bytes (dropBefore '\r' '\n' cs) := by
  have step : ∀ c ys, ¬(c = '\r' ∧ ys.head? = some '\n') →
      dropBefore 13 10 (String.utf8EncodeChar c ++ utf8Bytes ys) =
        String.utf8EncodeChar c ++ dropBefore 13 10 (utf8Bytes ys) := by
    intro c ys apart
    by_cases feed : c = '\n'
    · subst feed
      exact dropBefore_cons_of_not 13 10 10 _ (by simp)
    · refine dropBefore_append 13 10 _ _ (by rwa [lf_mem_utf8EncodeChar]) ?_
      intro last
      rw [Ne, head?_utf8Bytes]
      exact fun next => apart ⟨getLast?_utf8EncodeChar c last, next⟩
  fun_induction dropBefore '\r' '\n' cs with
  | case1 => rfl
  | case2 x =>
      have := step x [] (by simp)
      simpa [utf8Bytes_cons, dropBefore] using this
  | case3 x y rest both ih =>
      obtain ⟨rfl, rfl⟩ := both
      rw [utf8Bytes_cons, utf8Bytes_cons, utf8Bytes_cons, ← ih]
      rfl
  | case4 x y rest apart ih =>
      rw [utf8Bytes_cons, step x (y :: rest) (by simpa using apart), ih, utf8Bytes_cons]

/-- Splitting at line feeds commutes with the encoding. -/
theorem splitOn_utf8Bytes (cs : List Char) :
    (utf8Bytes cs).splitOn 10 = (cs.splitOn '\n').map utf8Bytes := by
  induction cs with
  | nil => rfl
  | cons c cs ih =>
      by_cases feed : c = '\n'
      · subst feed
        rw [utf8Bytes_cons, utf8EncodeChar_lf, List.singleton_append,
          List.splitOn_cons_eq_if_modifyHead, List.splitOn_cons_eq_if_modifyHead, ih]
        simp
      · rw [utf8Bytes_cons, splitOn_append_of_not_mem _ _ _ (by rwa [lf_mem_utf8EncodeChar]), ih,
          List.splitOn_cons_eq_if_modifyHead, if_neg (by simpa using feed)]
        cases cs.splitOn '\n' with
        | nil => rfl
        | cons piece pieces => simp [utf8Bytes_cons]

theorem ByteArray.toList_eq_data (bs : ByteArray) : bs.toList = bs.data.toList := by
  have loop : ∀ i r, ByteArray.toList.loop bs i r = r.reverse ++ bs.data.toList.drop i := by
    intro i r
    fun_induction ByteArray.toList.loop bs i r with
    | case1 i r inside ih =>
        have within : i < bs.data.toList.length := by simpa using inside
        rw [ih, List.drop_eq_getElem_cons within]
        simp [ByteArray.get!, inside]
    | case2 i r outside =>
        rw [List.drop_eq_nil_of_le (by simpa using Nat.le_of_not_lt outside)]
        simp
  simp [ByteArray.toList, loop]

theorem toUTF8_toList (s : String) : s.toUTF8.toList = utf8Bytes s.toList := by
  rw [ByteArray.toList_eq_data, String.toUTF8_eq_toByteArray, ← String.utf8Encode_toList]
  exact List.toList_data_toByteArray

/-- Every encoded line decodes back to its characters. -/
theorem Dimacs.decodeLine_utf8Bytes (cs : List Char) : Dimacs.decodeLine (utf8Bytes cs) = some cs := by
  have bytes : ByteArray.mk (utf8Bytes cs).toArray = cs.utf8Encode := by
    apply ByteArray.ext
    rw [← Array.toList_inj]
    exact List.toList_data_toByteArray.symm
  have text : String.ofByteArray cs.utf8Encode ByteArray.isValidUTF8_utf8Encode = String.ofList cs := by
    rw [← String.toByteArray_inj, String.toByteArray_ofList]
  simp only [Dimacs.decodeLine, String.fromUTF8?, bytes, dif_pos ByteArray.isValidUTF8_utf8Encode,
    String.fromUTF8, text, Option.map_some, String.toList_ofList]

end Encoding

namespace Dimacs

theorem splitLines_eq (bs line : List UInt8) (done : List (List UInt8)) (noLf : 10 ∉ line) :
    splitLines bs line done =
      done.reverse ++ dropFinalEmpty ((dropBefore 13 10 (line.reverse ++ bs)).splitOn 10) := by
  induction bs generalizing line done with
  | nil =>
      have free : (10 : UInt8) ∉ line.reverse := by simpa using noLf
      have kept := dropBefore_append 13 10 _ [] free (by simp)
      rw [show dropBefore (13 : UInt8) 10 [] = [] from rfl, List.append_nil] at kept
      rw [splitLines, List.append_nil, kept, List.splitOn_eq_singleton free,
        dropFinalEmpty_singleton]
      cases line <;> simp
  | cons b bs ih =>
      by_cases feed : b = 10
      · subst feed
        -- the line feed closes the current line, without a carriage return just before it
        obtain ⟨kept, free, closed, split⟩ : ∃ kept : List UInt8, (10 : UInt8) ∉ kept ∧
            splitLines (10 :: bs) line done = splitLines bs [] (kept :: done) ∧
            dropBefore 13 10 (line.reverse ++ 10 :: bs) = kept ++ 10 :: dropBefore 13 10 bs := by
          cases line with
          | nil => exact ⟨[], by simp, by simp [splitLines], by simp [dropBefore_cons_of_not]⟩
          | cons x rest =>
              by_cases cr : x = 13
              · subst cr
                refine ⟨rest.reverse, by simp_all, by simp [splitLines], ?_⟩
                rw [List.reverse_cons, List.append_assoc, List.singleton_append,
                  dropBefore_append 13 10 _ _ (by simp_all) (by simp), dropBefore,
                  if_pos ⟨rfl, rfl⟩]
              · refine ⟨(x :: rest).reverse, by simp_all, by simp [splitLines, cr], ?_⟩
                rw [dropBefore_append 13 10 _ _ (by simp_all) (by simp [cr]),
                  dropBefore_cons_of_not 13 10 10 bs (by simp)]
        rw [closed, ih [] _ (by simp), List.reverse_nil, List.nil_append, split,
          List.splitOn_append_cons_self_of_not_mem free, dropFinalEmpty_cons _ _ (by simp)]
        simp
      · have step : splitLines (b :: bs) line done = splitLines bs (b :: line) done := by
          simp [splitLines, feed]
        rw [step, ih (b :: line) done (by simp [Ne.symm feed, noLf])]
        simp

/-- The lines the reader takes from a text are its lines as bytes, without a last empty one. -/
theorem lines_toUTF8 (s : String) :
    lines s.toUTF8.toList = (dropFinalEmpty (textLines s.toList)).map utf8Bytes := by
  rw [lines, splitLines_eq _ [] [] (by simp), toUTF8_toList, List.reverse_nil, List.nil_append,
    List.reverse_nil, List.nil_append, dropBefore_utf8Bytes, splitOn_utf8Bytes, textLines,
    dropFinalEmpty_map _ utf8Bytes_eq_nil_iff]

end Dimacs

end PartialCnf
