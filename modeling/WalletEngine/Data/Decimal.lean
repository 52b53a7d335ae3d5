import Mathlib.Data.List.Basic
import Mathlib.Data.Nat.Digits.Lemmas
import Mathlib.Order.Basic

/-! # Decimal numerals

Texts of decimal digits with the number they denote. A numeral without leading zeros is
determined by its number, and ordering such numerals by length and then digit by digit is
ordering their numbers. -/

namespace WalletEngine

/-- The number denoted by decimal digits. -/
def decimalValue (digits : List Char) : Nat :=
  Nat.ofDigitChars 10 digits 0

/-- The digits without leading zeros; zero keeps one digit. -/
def trimZeros (digits : List Char) : List Char :=
  match digits.dropWhile (· == '0') with
  | [] => ['0']
  | rest => rest

/-- A numeral without leading zeros. -/
structure IsNumeral (digits : List Char) : Prop where
  digit : ∀ c ∈ digits, c.isDigit
  nonempty : digits ≠ []
  leading : digits.head? = some '0' → digits = ['0']

/-- Shorter digit strings come first, those of one length in lexicographic order. -/
def numeralLt (first second : List Char) : Prop :=
  first.length < second.length ∨ first.length = second.length ∧ first < second

instance (first second : List Char) : Decidable (numeralLt first second) :=
  inferInstanceAs (Decidable (_ ∨ _))

section Values

theorem decimalValue_cons (digit : Char) (digits : List Char) :
    decimalValue (digit :: digits) =
      10 ^ digits.length * (digit.toNat - 48) + decimalValue digits := by
  have zero : 10 * 0 + (digit.toNat - '0'.toNat) = digit.toNat - 48 := Nat.zero_add _
  rw [decimalValue, Nat.ofDigitChars_cons, Nat.ofDigitChars_eq_ofDigitChars_zero, zero,
    decimalValue]

theorem decimalValue_toString (value : Nat) :
    decimalValue (toString value).toList = value := by
  rw [Nat.toString_eq_ofList_toDigits, String.toList_ofList]
  exact Nat.ofDigitChars_ten_toDigits

theorem Char.isDigit_bounds {digit : Char} (isDigit : digit.isDigit) :
    48 ≤ digit.toNat ∧ digit.toNat ≤ 57 := by
  simpa [Char.isDigit, UInt32.le_iff_toNat_le] using isDigit

theorem decimalValue_lt {digits : List Char} (digit : ∀ c ∈ digits, c.isDigit) :
    decimalValue digits < 10 ^ digits.length := by
  induction digits with
  | nil => exact Nat.one_pos
  | cons first rest ih =>
    have small := ih fun c member => digit c (List.mem_cons_of_mem _ member)
    have bounds := Char.isDigit_bounds (digit first List.mem_cons_self)
    have scaled : 10 ^ rest.length * (first.toNat - 48) ≤ 10 ^ rest.length * 9 :=
      Nat.mul_le_mul_left _ (by omega)
    rw [decimalValue_cons, List.length_cons, Nat.pow_succ]
    omega

theorem decimalValue_dropWhile_zero (digits : List Char) :
    decimalValue (digits.dropWhile (· == '0')) = decimalValue digits := by
  induction digits with
  | nil => rfl
  | cons first rest ih =>
    by_cases zero : first = '0'
    · subst zero
      rw [List.dropWhile_cons_of_pos (by rfl), ih, decimalValue_cons]
      simp
    · rw [List.dropWhile_cons_of_neg (by simpa using zero)]

theorem decimalValue_trimZeros (digits : List Char) :
    decimalValue (trimZeros digits) = decimalValue digits := by
  rw [← decimalValue_dropWhile_zero digits]
  unfold trimZeros
  split
  · next trimmed => rw [trimmed]; rfl
  · rfl

end Values

section Order

variable {first second : List Char}

theorem IsNumeral.pow_le (numeral : IsNumeral first) (several : first ≠ ['0']) :
    10 ^ (first.length - 1) ≤ decimalValue first := by
  cases first with
  | nil => exact absurd rfl numeral.nonempty
  | cons digit rest =>
    have bounds := Char.isDigit_bounds (numeral.digit digit List.mem_cons_self)
    have nonzero : digit.toNat ≠ 48 := by
      intro zero
      have same : digit = '0' := Char.toNat_inj.mp zero
      exact several (numeral.leading (congrArg some same))
    rw [decimalValue_cons, List.length_cons, Nat.add_sub_cancel]
    exact (Nat.le_mul_of_pos_right _ (by omega)).trans (Nat.le_add_right _ _)

theorem IsNumeral.value_lt_of_length (numeral : IsNumeral first) (longer : IsNumeral second)
    (shorter : first.length < second.length) : decimalValue first < decimalValue second := by
  have present := List.length_pos_of_ne_nil numeral.nonempty
  have several : second ≠ ['0'] := by
    rintro rfl
    rw [List.length_singleton] at shorter
    omega
  calc decimalValue first < 10 ^ first.length := decimalValue_lt numeral.digit
    _ ≤ 10 ^ (second.length - 1) := Nat.pow_le_pow_right (by omega) (by omega)
    _ ≤ decimalValue second := longer.pow_le several

/-- Among digit strings of one length the lexicographic order is the numeric one. -/
theorem lt_iff_decimalValue_lt (firstDigits : ∀ c ∈ first, c.isDigit)
    (secondDigits : ∀ c ∈ second, c.isDigit) (length : first.length = second.length) :
    first < second ↔ decimalValue first < decimalValue second := by
  induction first generalizing second with
  | nil =>
    obtain rfl := List.length_eq_zero_iff.mp length.symm
    simp
  | cons digit rest ih =>
    cases second with
    | nil => simp at length
    | cons other others =>
      have length : rest.length = others.length := by simpa using length
      have restDigits := fun c member => firstDigits c (List.mem_cons_of_mem digit member)
      have othersDigits := fun c member => secondDigits c (List.mem_cons_of_mem other member)
      have small := decimalValue_lt restDigits
      have bound := decimalValue_lt othersDigits
      have digitRange := Char.isDigit_bounds (firstDigits digit List.mem_cons_self)
      have otherRange := Char.isDigit_bounds (secondDigits other List.mem_cons_self)
      rw [List.cons_lt_cons_iff, ih restDigits othersDigits length, decimalValue_cons,
        decimalValue_cons, ← length]
      rw [← length] at bound
      have order : digit < other ↔ digit.toNat < other.toNat := UInt32.lt_iff_toNat_lt
      have equal : digit = other ↔ digit.toNat = other.toNat := Char.toNat_inj.symm
      rw [order, equal]
      -- The leading digits decide unless they are equal.
      rcases Nat.lt_trichotomy digit.toNat other.toNat with less | same | greater
      · have scaled := Nat.mul_le_mul_left (10 ^ rest.length)
          (show digit.toNat - 48 + 1 ≤ other.toNat - 48 by omega)
        rw [Nat.mul_add, Nat.mul_one] at scaled
        omega
      · rw [same]
        omega
      · have scaled := Nat.mul_le_mul_left (10 ^ rest.length)
          (show other.toNat - 48 + 1 ≤ digit.toNat - 48 by omega)
        rw [Nat.mul_add, Nat.mul_one] at scaled
        omega

/-- Ordering numerals by length and then digit by digit is ordering their numbers. -/
theorem numeralLt_iff (numeral : IsNumeral first) (other : IsNumeral second) :
    numeralLt first second ↔ decimalValue first < decimalValue second := by
  unfold numeralLt
  rcases Nat.lt_trichotomy first.length second.length with shorter | same | longer
  · have less := numeral.value_lt_of_length other shorter
    exact iff_of_true (Or.inl shorter) less
  · rw [lt_iff_decimalValue_lt numeral.digit other.digit same]
    omega
  · have less := other.value_lt_of_length numeral longer
    omega

/-- A numeral is determined by its number. -/
theorem IsNumeral.eq_of_value (numeral : IsNumeral first) (other : IsNumeral second)
    (same : decimalValue first = decimalValue second) : first = second := by
  have notLess := (numeralLt_iff numeral other).not.mpr (by omega)
  have notGreater := (numeralLt_iff other numeral).not.mpr (by omega)
  simp only [numeralLt, not_or, not_and] at notLess notGreater
  have length : first.length = second.length := by omega
  have between := List.not_lt.mp (notLess.2 length)
  exact List.le_antisymm (List.not_lt.mp (notGreater.2 length.symm)) between

theorem isNumeral_trimZeros (digit : ∀ c ∈ first, c.isDigit) : IsNumeral (trimZeros first) := by
  have kept : ∀ c ∈ first.dropWhile (· == '0'), c.isDigit :=
    fun c member => digit c ((List.dropWhile_sublist _).subset member)
  have leading := List.head?_dropWhile_not (· == '0') first
  unfold trimZeros
  split
  · exact ⟨by simp, by simp, fun _ => rfl⟩
  · next nonempty =>
      refine ⟨kept, nonempty, fun zero => ?_⟩
      rw [zero] at leading
      cases leading

end Order

end WalletEngine
