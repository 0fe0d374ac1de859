import Letterpress.Proofs.Number.Fixed

/-!
This file tells which integers are beyond the finite numbers when they are rounded.
-/

namespace Letterpress

/-! ### Halves -/

/-- A half goes to the even neighbour, so a quotient is rounded to an even number or beyond from a
half below that number on. -/
theorem evenAtMostRounded {numerator denominator whole : Nat} (isPositive : 0 < denominator)
    (isEven : whole % 2 = 0) : whole ≤ roundHalfEven numerator denominator ↔
      2 * (whole * denominator) ≤ 2 * numerator + denominator := by
  have parts := Nat.div_add_mod' numerator denominator
  have isRemainder := Nat.mod_lt numerator isPositive
  simp only [roundHalfEven]
  generalize numerator / denominator = quotient at parts ⊢
  generalize numerator % denominator = remainder at parts isRemainder ⊢
  have isScaled : (quotient + 1) * denominator = quotient * denominator + denominator :=
    Nat.succ_mul ..
  obtain isBelow | rfl | isAbove := Nat.lt_trichotomy whole (quotient + 1)
  · have := Nat.mul_le_mul_right denominator (Nat.le_of_lt_succ isBelow)
    split_ifs <;> omega
  · split_ifs <;> omega
  · have := Nat.mul_le_mul_right denominator (Nat.succ_le_of_lt isAbove)
    rw [Nat.succ_mul] at this
    split_ifs <;> omega

theorem roundHalfEvenScaled (numerator denominator : Nat) {scale : Nat} (isPositive : 0 < scale) :
    roundHalfEven (numerator * scale) (denominator * scale) =
      roundHalfEven numerator denominator := by
  have isLess : 2 * (numerator % denominator * scale) < denominator * scale ↔
      2 * (numerator % denominator) < denominator := by
    rw [← Nat.mul_assoc, Nat.mul_lt_mul_right isPositive]
  have isSame : 2 * (numerator % denominator * scale) = denominator * scale ↔
      2 * (numerator % denominator) = denominator := by
    rw [← Nat.mul_assoc, Nat.mul_left_inj isPositive.ne']
  simp only [roundHalfEven, Nat.mul_div_mul_right _ _ isPositive, Nat.mul_mod_mul_right, isLess,
    isSame]

theorem roundedAtMost (numerator denominator : Nat) :
    roundHalfEven numerator denominator ≤ numerator / denominator + 1 := by
  simp only [roundHalfEven]
  split_ifs <;> omega

/-! ### Large integers -/

theorem twoPowerAdd (first second : Nat) :
    twoPower (first + second) = twoPower first * twoPower second :=
  Nat.pow_add ..

theorem twoPowerSucc (exponent : Nat) : twoPower (exponent + 1) = 2 * twoPower exponent :=
  Nat.pow_succ'

theorem bitsAtLeast {value exponent : Nat} (atLeast : twoPower exponent ≤ value) :
    exponent ≤ value.log2 :=
  (Nat.le_log2 ((twoPowerPos exponent).trans_le atLeast).ne').2 atLeast

namespace Binary64

/-- A rounded significand moves to the next shift if it has become a power of two. -/
theorem normalizedIsInfiniteIff (negative : Bool) (significand shift : Nat) :
    (normalize negative significand shift).isInfinite = true ↔
      2045 < shift + if significand = twoPower 53 then 1 else 0 := by
  have isInfinite (shift : Nat) (other : Nat) :
      (if 2045 < shift then infinite negative else finite negative other shift).isInfinite = true ↔
        2045 < shift := by
    split_ifs with isLarge
    · exact iff_of_true rfl isLarge
    · exact iff_of_false nofun isLarge
  unfold normalize
  split_ifs
  · exact isInfinite (shift + 1) _
  · exact isInfinite shift _

/-- Between the last two powers of two the significand decides. -/
theorem significandOverflowsIff {value : Nat} (isBelow : value < twoPower 1024) :
    roundHalfEven (value * one) (twoPower 2045) = twoPower 53 ↔
      twoPower 1024 ≤ value + twoPower 970 := by
  have isLimit : twoPower 1024 = twoPower 53 * twoPower 971 := twoPowerAdd 53 971
  have isHalf : twoPower 971 = 2 * twoPower 970 := twoPowerSucc 970
  have isQuotient : value / twoPower 971 < twoPower 53 :=
    Nat.div_lt_of_lt_mul (by rwa [Nat.mul_comm, ← isLimit])
  have atMost := roundedAtMost value (twoPower 971)
  have isReached : twoPower 53 ≤ roundHalfEven value (twoPower 971) ↔ _ :=
    evenAtMostRounded (twoPowerPos 971) (by decide)
  rw [one, twoPowerAdd 971 1074, roundHalfEvenScaled _ _ (twoPowerPos 1074)]
  omega

/-- The finite numbers end half a unit below a power of two. -/
theorem roundedIsInfiniteIff (negative : Bool) (value : Nat) :
    (roundUnits negative (value * one) 1).isInfinite = true ↔
      twoPower 1024 ≤ value + twoPower 970 := by
  have isDouble : twoPower 1024 = 2 * twoPower 1023 := twoPowerSucc 1023
  have isSmall : twoPower 970 ≤ twoPower 1023 := twoPowerMono (by decide)
  have isScaled (exponent : Nat) : twoPower (exponent + 1074) = twoPower exponent * one :=
    twoPowerAdd exponent 1074
  rw [roundUnits, normalizedIsInfiniteIff, Nat.div_one, Nat.one_mul]
  obtain isBelow | atLeast := Nat.lt_or_ge value (twoPower 1023)
  · have isShort : value * one < twoPower 2097 := scaledBelow isBelow
    have bits : (value * one).log2 ≤ 2096 := bitsBelow isShort
    refine iff_of_false ?_ (by omega)
    rw [shiftFor]
    split_ifs <;> omega
  obtain isBelow | isLarge := Nat.lt_or_ge value (twoPower 1024)
  · have fromBelow : twoPower 2097 ≤ value * one := by
      rw [isScaled 1023]
      exact Nat.mul_le_mul_right one atLeast
    have bits : (value * one).log2 = 2097 :=
      Nat.le_antisymm (bitsBelow (scaledBelow isBelow)) (bitsAtLeast fromBelow)
    rw [← significandOverflowsIff isBelow, shiftFor, bits]
    split_ifs with overflows
    · exact iff_of_true (by decide) overflows
    · exact iff_of_false (by decide) overflows
  · have fromBelow : twoPower 2098 ≤ value * one := by
      rw [isScaled 1024]
      exact Nat.mul_le_mul_right one isLarge
    have bits : 2098 ≤ (value * one).log2 := bitsAtLeast fromBelow
    refine iff_of_true ?_ (by omega)
    rw [shiftFor]
    omega

/-- An integer has no real counterpart exactly if it is beyond the finite numbers. -/
theorem ofIntIsNoneIff (value : Int) :
    ofInt? value = none ↔ twoPower 1024 ≤ value.natAbs + twoPower 970 := by
  rw [← roundedIsInfiniteIff (decide (value < 0)), ofIntIsRounded]
  beta_reduce
  generalize roundUnits (decide (value < 0)) (value.natAbs * one) 1 = rounded
  cases rounded with
  | infinite negative => exact iff_of_true rfl rfl
  | _ => exact iff_of_false nofun nofun

end Binary64

end Letterpress
