import PartialCnf.Text.Numeral
import Mathlib.Tactic.Linarith

/-!
Decimal numerals as the reader takes them: an optional `+`, or a `-` where the range holds
negative numbers, then one or more ASCII digits whose value, negated after a `-`, lies in the
range. The reader checks the range after every digit; for a range around zero that is the same
as checking the value once, since the partial values only move away from zero. The printed
form of a number is such a numeral.
-/

namespace PartialCnf

namespace Text

/-- `cs` is a numeral of range `r` naming `v`. -/
def IsNumeral (r : IntRange) (cs : List Char) (v : Int) : Prop :=
  r.lo ≤ v ∧ v ≤ r.hi ∧ ∃ ds, ds ≠ [] ∧ (∀ d ∈ ds, d.isDigit) ∧
    ((cs = ds ∨ cs = '+' :: ds) ∧ v = Nat.ofDigitChars 10 ds 0 ∨
      r.signed ∧ cs = '-' :: ds ∧ v = -(Nat.ofDigitChars 10 ds 0 : Int))

theorem toNat_of_isDigit (d : Char) (digit : d.isDigit) : 48 ≤ d.toNat ∧ d.toNat ≤ 57 := by
  simp only [Char.isDigit, Bool.and_eq_true, decide_eq_true_eq] at digit
  exact ⟨digit.1, digit.2⟩

theorem le_ofDigitChars (ds : List Char) (init : Nat) : init ≤ Nat.ofDigitChars 10 ds init := by
  rw [Nat.ofDigitChars_eq_ofDigitChars_zero]
  exact Nat.le_add_right_of_le (Nat.le_mul_of_pos_left _ (Nat.pow_pos (by decide)))

/-- Reading digits upwards from `acc`: only a value past the top of the range is refused. -/
theorem readDigits_up (r : IntRange) (low : r.lo ≤ 0) (ds : List Char) (acc : Nat)
    (below : (acc : Int) ≤ r.hi) (v : Int) :
    readDigits r false ds acc = .ok v ↔
      (∀ d ∈ ds, d.isDigit) ∧ v = Nat.ofDigitChars 10 ds acc ∧ v ≤ r.hi := by
  induction ds generalizing acc with
  | nil =>
      rw [readDigits, Except.ok.injEq, Nat.ofDigitChars_nil]
      constructor
      · rintro rfl
        exact ⟨by simp, rfl, below⟩
      · rintro ⟨-, rfl, -⟩
        rfl
  | cons d ds ih =>
      by_cases digit : d.isDigit
      · have bounds := toNat_of_isDigit d digit
        have zero : '0'.toNat = 48 := rfl
        have next : (acc : Int) * 10 + ((d.toNat : Int) - ('0'.toNat : Int)) =
            ((10 * acc + (d.toNat - '0'.toNat) : Nat) : Int) := by
          rw [zero]
          omega
        have grows := le_ofDigitChars ds (10 * acc + (d.toNat - '0'.toNat))
        rw [readDigits]
        simp only [digit, if_true, Bool.false_eq_true, if_false, next, List.mem_cons,
          forall_eq_or_imp, true_and, Nat.ofDigitChars_cons]
        by_cases past : r.hi < ((10 * acc + (d.toNat - '0'.toNat) : Nat) : Int)
        · rw [if_pos past]
          simp only [reduceCtorEq, false_iff, not_and]
          intro _ same
          omega
        · have under : ¬((10 * acc + (d.toNat - '0'.toNat) : Nat) : Int) < r.lo := by omega
          rw [if_neg past, if_neg under]
          exact ih _ (by omega)
      · rw [readDigits, if_neg digit]
        simp [digit]

/-- Reading digits downwards from `-acc`: only a value past the bottom of the range is refused. -/
theorem readDigits_down (r : IntRange) (high : 0 ≤ r.hi) (ds : List Char) (acc : Nat)
    (above : r.lo ≤ -(acc : Int)) (v : Int) :
    readDigits r true ds (-(acc : Int)) = .ok v ↔
      (∀ d ∈ ds, d.isDigit) ∧ v = -(Nat.ofDigitChars 10 ds acc : Int) ∧ r.lo ≤ v := by
  induction ds generalizing acc with
  | nil =>
      rw [readDigits, Except.ok.injEq, Nat.ofDigitChars_nil]
      constructor
      · rintro rfl
        exact ⟨by simp, rfl, above⟩
      · rintro ⟨-, rfl, -⟩
        rfl
  | cons d ds ih =>
      by_cases digit : d.isDigit
      · have bounds := toNat_of_isDigit d digit
        have zero : '0'.toNat = 48 := rfl
        have next : -(acc : Int) * 10 - ((d.toNat : Int) - ('0'.toNat : Int)) =
            -((10 * acc + (d.toNat - '0'.toNat) : Nat) : Int) := by
          rw [zero]
          omega
        have grows := le_ofDigitChars ds (10 * acc + (d.toNat - '0'.toNat))
        rw [readDigits]
        simp only [digit, if_true, next, List.mem_cons, forall_eq_or_imp, true_and,
          Nat.ofDigitChars_cons]
        have notOver : ¬r.hi < -((10 * acc + (d.toNat - '0'.toNat) : Nat) : Int) := by omega
        rw [if_neg notOver]
        by_cases under : -((10 * acc + (d.toNat - '0'.toNat) : Nat) : Int) < r.lo
        · rw [if_pos under]
          simp only [reduceCtorEq, false_iff, not_and]
          intro _ same
          omega
        · rw [if_neg under]
          exact ih _ (by omega)
      · rw [readDigits, if_neg digit]
        simp [digit]

theorem isNumeral_plus (r : IntRange) (ds : List Char) (v : Int) :
    IsNumeral r ('+' :: ds) v ↔
      r.lo ≤ v ∧ v ≤ r.hi ∧ ds ≠ [] ∧ (∀ d ∈ ds, d.isDigit) ∧ v = Nat.ofDigitChars 10 ds 0 := by
  constructor
  · rintro ⟨lo, hi, ds', nonempty, digits, ⟨same | same, rfl⟩ | ⟨-, same, -⟩⟩
    · exact absurd (digits '+' (by simp [← same])) (by decide)
    · obtain rfl := (List.cons.inj same).2
      exact ⟨lo, hi, nonempty, digits, rfl⟩
    · exact absurd (List.cons.inj same).1 (by decide)
  · rintro ⟨lo, hi, nonempty, digits, rfl⟩
    exact ⟨lo, hi, ds, nonempty, digits, .inl ⟨.inr rfl, rfl⟩⟩

theorem isNumeral_minus (r : IntRange) (ds : List Char) (v : Int) :
    IsNumeral r ('-' :: ds) v ↔ r.lo ≤ v ∧ v ≤ r.hi ∧ ds ≠ [] ∧ (∀ d ∈ ds, d.isDigit) ∧
      r.signed ∧ v = -(Nat.ofDigitChars 10 ds 0 : Int) := by
  constructor
  · rintro ⟨lo, hi, ds', nonempty, digits, ⟨same | same, -⟩ | ⟨signed, same, rfl⟩⟩
    · exact absurd (digits '-' (by simp [← same])) (by decide)
    · exact absurd (List.cons.inj same).1 (by decide)
    · obtain rfl := (List.cons.inj same).2
      exact ⟨lo, hi, nonempty, digits, signed, rfl⟩
  · rintro ⟨lo, hi, nonempty, digits, signed, rfl⟩
    exact ⟨lo, hi, ds, nonempty, digits, .inr ⟨signed, rfl, rfl⟩⟩

theorem isNumeral_unsigned (r : IntRange) (c : Char) (rest : List Char) (plus : c ≠ '+')
    (minus : c ≠ '-') (v : Int) :
    IsNumeral r (c :: rest) v ↔ r.lo ≤ v ∧ v ≤ r.hi ∧ (∀ d ∈ c :: rest, d.isDigit) ∧
      v = Nat.ofDigitChars 10 (c :: rest) 0 := by
  constructor
  · rintro ⟨lo, hi, ds, -, digits, ⟨same | same, rfl⟩ | ⟨-, same, -⟩⟩
    · subst same
      exact ⟨lo, hi, digits, rfl⟩
    · exact absurd (List.cons.inj same).1 plus
    · exact absurd (List.cons.inj same).1 minus
  · rintro ⟨lo, hi, digits, rfl⟩
    exact ⟨lo, hi, c :: rest, List.cons_ne_nil _ _, digits, .inl ⟨.inl rfl, rfl⟩⟩

/-- For a range around zero the reader accepts exactly the numerals of the range. -/
theorem readInt_eq_ok_iff (r : IntRange) (low : r.lo ≤ 0) (high : 0 ≤ r.hi) (cs : List Char)
    (v : Int) : readInt r cs = .ok v ↔ IsNumeral r cs v := by
  have up : ∀ ds, readDigits r false ds 0 = .ok v ↔
      (∀ d ∈ ds, d.isDigit) ∧ v = Nat.ofDigitChars 10 ds 0 ∧ v ≤ r.hi := fun ds => by
    simpa using readDigits_up r low ds 0 (by simpa using high) v
  have down : ∀ ds, readDigits r true ds 0 = .ok v ↔
      (∀ d ∈ ds, d.isDigit) ∧ v = -(Nat.ofDigitChars 10 ds 0 : Int) ∧ r.lo ≤ v := fun ds => by
    simpa using readDigits_down r high ds 0 (by simpa using low) v
  rcases cs with _ | ⟨c, rest⟩
  · simp [readInt, IsNumeral]
  -- the first character picks the reading: `+` and `-` need a digit after them, and only a
  -- `-` reads downwards, where the bottom of the range is the one that can be passed
  by_cases plus : c = '+'
  · subst plus
    rw [isNumeral_plus]
    rcases rest with _ | ⟨d, rest⟩
    · simp [readInt]
    · show readDigits r false (d :: rest) 0 = .ok v ↔ _
      rw [up]
      constructor
      · rintro ⟨digits, rfl, hi⟩
        exact ⟨by omega, hi, List.cons_ne_nil _ _, digits, rfl⟩
      · rintro ⟨-, hi, -, digits, rfl⟩
        exact ⟨digits, rfl, hi⟩
  by_cases minus : c = '-'
  · subst minus
    rw [isNumeral_minus]
    rcases rest with _ | ⟨d, rest⟩
    · simp [readInt]
    · show (if r.signed then readDigits r true (d :: rest) 0 else .error .invalidDigit) = .ok v ↔ _
      by_cases signed : r.signed
      · rw [if_pos signed, down]
        constructor
        · rintro ⟨digits, rfl, lo⟩
          exact ⟨lo, by omega, List.cons_ne_nil _ _, digits, signed, rfl⟩
        · rintro ⟨lo, -, -, digits, -, rfl⟩
          exact ⟨digits, rfl, lo⟩
      · simp [signed]
  · have plain : readInt r (c :: rest) = readDigits r false (c :: rest) 0 := by
      rw [readInt] <;> simp_all
    rw [plain, up, isNumeral_unsigned r c rest plus minus]
    constructor
    · rintro ⟨digits, rfl, hi⟩
      exact ⟨by omega, hi, digits, rfl⟩
    · rintro ⟨-, hi, digits, rfl⟩
      exact ⟨digits, rfl, hi⟩

theorem readInt?_eq_some_iff (r : IntRange) (low : r.lo ≤ 0) (high : 0 ≤ r.hi) (cs : List Char)
    (v : Int) : readInt? r cs = some v ↔ IsNumeral r cs v := by
  rw [← readInt_eq_ok_iff r low high]
  cases read : readInt r cs <;> simp [readInt?, Except.toOption, read]

theorem isNumeral_unique (r : IntRange) (low : r.lo ≤ 0) (high : 0 ≤ r.hi) (cs : List Char)
    (v w : Int) (named : IsNumeral r cs v) (also : IsNumeral r cs w) : v = w := by
  rw [← readInt?_eq_some_iff r low high] at named also
  rw [named] at also
  exact Option.some.inj also

theorem forall₂_isNumeral_unique (r : IntRange) (low : r.lo ≤ 0) (high : 0 ≤ r.hi)
    (ws : List (List Char)) (xs ys : List Int) (named : List.Forall₂ (IsNumeral r) ws xs)
    (also : List.Forall₂ (IsNumeral r) ws ys) : xs = ys := by
  induction named generalizing ys with
  | nil =>
      cases also
      rfl
  | cons numeral _ ih =>
      cases also with
      | cons numeral' rest' =>
          rw [isNumeral_unique r low high _ _ _ numeral numeral', ih _ rest']

/-- The decimal text of a natural number is a numeral of every range that holds it. -/
theorem isNumeral_toString_nat (r : IntRange) (n : Nat) (lo : r.lo ≤ n) (hi : n ≤ r.hi) :
    IsNumeral r (toString n).toList n :=
  ⟨lo, hi, Nat.toDigits 10 n, Nat.toDigits_ne_nil,
    fun _ member => Nat.isDigit_of_mem_toDigits (by decide) (by decide) member,
    .inl ⟨.inl (by rw [Nat.toString_eq_repr, Nat.toList_repr]),
      by rw [Nat.ofDigitChars_ten_toDigits]⟩⟩

/-- The decimal text of an integer is a numeral of every range that holds it, provided the range
takes a minus sign when the integer is negative. -/
theorem isNumeral_toString_int (r : IntRange) (v : Int) (lo : r.lo ≤ v) (hi : v ≤ r.hi)
    (sign : v < 0 → r.signed) : IsNumeral r (toString v).toList v := by
  rw [Int.toString_eq_repr, Int.repr_eq_if]
  by_cases nonneg : 0 ≤ v
  · rw [if_pos nonneg]
    have same : ((v.toNat : Nat) : Int) = v := Int.toNat_of_nonneg nonneg
    have numeral := isNumeral_toString_nat r v.toNat (by omega) (by omega)
    rw [same] at numeral
    exact numeral
  · have text : ("-" ++ (-v).toNat.repr).toList = '-' :: Nat.toDigits 10 (-v).toNat := by
      simp [Nat.toList_repr]
    rw [if_neg nonneg, text]
    refine (isNumeral_minus r _ v).mpr ⟨lo, hi, Nat.toDigits_ne_nil,
      fun _ member => Nat.isDigit_of_mem_toDigits (by decide) (by decide) member,
      sign (by omega), ?_⟩
    rw [Nat.ofDigitChars_ten_toDigits]
    omega

end Text

end PartialCnf
