import Letterpress.Number.Digits
import Mathlib.Data.List.Basic

/-!
This file shows that written numbers begin with no zero, and that reading their digits gives them
back.
-/

namespace Letterpress

theorem firstDigitNotZero {value : Nat} (positive : 0 < value) :
    (decimalDigits value).head? ≠ some '0' := by
  induction value using Nat.strongRecOn with
  | ind value inductionHypothesis =>
      unfold decimalDigits at inductionHypothesis ⊢
      by_cases isSmall : value < 10
      · have notZero : ∀ digit < 10, 0 < digit → [Nat.digitChar digit].head? ≠ some '0' := by
          decide
        rw [Nat.toDigits_of_lt_base isSmall]
        exact notZero value isSmall positive
      · rw [Nat.toDigits_of_base_le (by decide) (by omega),
          List.head?_append_of_ne_nil _ Nat.toDigits_ne_nil]
        exact inductionHypothesis (value / 10) (by omega) (by omega)

theorem digitsAreDigits (value : Nat) : ∀ digit ∈ decimalDigits value, digit.isDigit = true :=
  fun _ isInside => Nat.isDigit_of_mem_toDigits (by decide) (by decide) isInside

theorem readDigits (value : Nat) : readDecimal (decimalDigits value) = value :=
  Nat.ofDigitChars_ten_toDigits

/-- A number that is read has no more digits than were read. -/
theorem digitsOfRead {digits : List Char} (notEmpty : digits ≠ [])
    (areDigits : ∀ digit ∈ digits, digit.isDigit = true) :
    (decimalDigits (readDecimal digits)).length ≤ digits.length := by
  have bounded : Nat.ofDigitChars 10 digits 0 < Nat.pow 10 digits.length := by
    clear notEmpty
    induction digits with
    | nil => decide
    | cons digit rest inductionHypothesis =>
        obtain ⟨isDigit, restDigits⟩ := List.forall_mem_cons.1 areDigits
        have upper : digit.toNat ≤ 57 := of_decide_eq_true (Bool.and_eq_true_iff.1 isDigit).2
        have restBounded := inductionHypothesis restDigits
        have isSmall : digit.toNat - '0'.toNat ≤ 9 := Nat.sub_le_of_le_add upper
        have leading := Nat.mul_le_mul_left (Nat.pow 10 rest.length) isSmall
        rw [Nat.ofDigitChars_cons, Nat.ofDigitChars_eq_ofDigitChars_zero, Nat.mul_zero, Nat.zero_add,
          List.length_cons]
        change Nat.pow 10 rest.length * _ + _ < Nat.pow 10 rest.length * 10
        omega
  exact (Nat.length_toDigits_le_iff (by decide) (List.length_pos_iff.2 notEmpty)).2 bounded

/-- Zeros in front do not change a number. -/
theorem readPadded (width value : Nat) :
    readDecimal (padZeros width (decimalDigits value)) = value := by
  change Nat.ofDigitChars 10 (List.replicate _ '0' ++ decimalDigits value) 0 = value
  rw [Nat.ofDigitChars_append, Nat.ofDigitChars_replicate_zero, Nat.mul_zero]
  exact readDigits value

theorem paddedDigits (width value : Nat) :
    ∀ digit ∈ padZeros width (decimalDigits value), digit.isDigit = true := by
  intro digit isInside
  rcases List.mem_append.1 isInside with isZero | isDigit
  · rw [List.eq_of_mem_replicate isZero]
    rfl
  · exact digitsAreDigits value digit isDigit

theorem paddedLength (width : Nat) (digits : List Char) :
    (padZeros width digits).length = max width digits.length := by
  rw [padZeros, List.length_append, List.length_replicate]
  omega

/-- Nothing is put in front of digits that fill the width. -/
theorem paddedLong {width : Nat} {digits : List Char} (isLong : width ≤ digits.length) :
    padZeros width digits = digits := by
  rw [padZeros, Nat.sub_eq_zero_of_le isLong]
  rfl

/-- Without places the digits stand alone. -/
theorem positionalWhole (value : Nat) :
    positional (decimalDigits value) 0 = decimalDigits value := by
  unfold positional
  rw [if_pos (Int.le_refl 0)]
  split
  case isFalse => exact List.append_nil _
  case isTrue allZero =>
    obtain isZero | positive := Nat.eq_zero_or_pos value
    · rw [isZero]
      rfl
    · have notEmpty : decimalDigits value ≠ [] := Nat.toDigits_ne_nil
      obtain ⟨first, rest, isDigits⟩ := List.exists_cons_of_ne_nil notEmpty
      have notZero := firstDigitNotZero positive
      rw [isDigits] at allZero notZero
      have isZero : first = '0' := of_decide_eq_true
        (List.all_eq_true.1 allZero first List.mem_cons_self)
      exact absurd (congrArg some isZero) notZero

end Letterpress
