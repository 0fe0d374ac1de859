import Letterpress.Proofs.Number.Digits
import Letterpress.Proofs.Number.ExactValue
import Letterpress.Script.Method
import Mathlib.Data.Rat.Floor
import Mathlib.Data.Sign.Basic
import Mathlib.Tactic.FieldSimp

/-!
This file shows that a number in fixed notation is its exact value, rounded to the nearest multiple
of the last place. A half is rounded away from zero.
-/

namespace Letterpress

/-! ### Fixed notation -/

/-- A fixed notation has a sign and the digits before and after the point. -/
structure FixedNotation where
  negative : Bool
  whole : List Char
  fraction : List Char

namespace FixedNotation

/-- The point is left out when no digits follow it. -/
def text (fixed : FixedNotation) : String :=
  String.ofList ((if fixed.negative then ['-'] else []) ++ fixed.whole ++
    if fixed.fraction.isEmpty then [] else '.' :: fixed.fraction)

/-- This is the number that the notation tells. -/
def value (fixed : FixedNotation) : Rat :=
  (if fixed.negative then -1 else 1) * readDecimal (fixed.whole ++ fixed.fraction) /
    10 ^ fixed.fraction.length

/-- A proper notation has a digit before the point, and a zero stands there only alone. -/
structure IsProper (fixed : FixedNotation) : Prop where
  notEmpty : fixed.whole ≠ []
  digits : ∀ digit ∈ fixed.whole ++ fixed.fraction, digit.isDigit = true
  noLeadingZero : fixed.whole.head? = some '0' → fixed.whole = ['0']

/-- The notation of a number of units, of which each is one in the last place. -/
def ofUnits (negative : Bool) (places units : Nat) : FixedNotation :=
  let padded := padZeros (places + 1) (decimalDigits units)
  ⟨negative, padded.take (padded.length - places), padded.drop (padded.length - places)⟩

section

variable (negative : Bool) (places units : Nat)

theorem digitsOfUnits :
    (ofUnits negative places units).whole ++ (ofUnits negative places units).fraction =
      padZeros (places + 1) (decimalDigits units) :=
  List.take_append_drop ..

theorem placesOfUnits : (ofUnits negative places units).fraction.length = places := by
  have isLength := paddedLength (places + 1) (decimalDigits units)
  simp only [ofUnits, List.length_drop]
  omega

theorem valueOfUnits : (ofUnits negative places units).value =
    (if negative then -1 else 1) * units / 10 ^ places := by
  rw [value, digitsOfUnits, readPadded, placesOfUnits]
  rfl

theorem textOfUnits : (ofUnits negative places units).text =
    String.ofList ((if negative then ['-'] else []) ++
      positional (decimalDigits units) (-(places : Int))) := by
  rw [text, List.append_assoc]
  congr 2
  cases places with
  | zero =>
      have padded : padZeros 1 (decimalDigits units) = decimalDigits units :=
        paddedLong Nat.length_toDigits_pos
      simp [ofUnits, padded, positionalWhole]
  | succ places =>
      have notEmpty : (ofUnits negative (places + 1) units).fraction.isEmpty = false := by
        rw [List.isEmpty_eq_false_iff, ← List.length_pos_iff, placesOfUnits]
        exact Nat.succ_pos _
      have isFraction : ¬ (0 : Int) ≤ -((places + 1 : Nat) : Int) := by omega
      have isPlaces : (-(-((places + 1 : Nat) : Int))).toNat = places + 1 := by omega
      rw [notEmpty, positional, if_neg isFraction, isPlaces, pointed, if_neg (Nat.succ_ne_zero _)]
      rfl

theorem unitsAreProper : (ofUnits negative places units).IsProper where
  notEmpty := by
    have isLength := paddedLength (places + 1) (decimalDigits units)
    rw [ofUnits, ← List.length_pos_iff, List.length_take]
    omega
  digits := by
    rw [digitsOfUnits]
    exact paddedDigits _ _
  noLeadingZero := by
    intro isZero
    have isLength := paddedLength (places + 1) (decimalDigits units)
    simp only [ofUnits] at isZero ⊢
    by_cases isShort : (decimalDigits units).length ≤ places + 1
    · -- One digit is left before the point.
      have isOne : (padZeros (places + 1) (decimalDigits units)).length - places = 1 := by omega
      rw [isOne] at isZero ⊢
      cases padded : padZeros (places + 1) (decimalDigits units) with
      | nil =>
          rw [padded] at isZero
          exact nomatch isZero
      | cons first rest =>
          rw [padded] at isZero
          obtain rfl := Option.some.inj isZero
          rfl
    · -- Nothing is padded, and the number begins with its first digit.
      have isUnpadded : padZeros (places + 1) (decimalDigits units) = decimalDigits units :=
        paddedLong (Nat.le_of_not_le isShort)
      have positive : 0 < units := by
        rw [Nat.pos_iff_ne_zero]
        rintro rfl
        exact isShort (Nat.succ_le_succ (Nat.zero_le _))
      rw [isUnpadded, List.head?_take, if_neg (by omega)] at isZero
      exact absurd isZero (firstDigitNotZero positive)

end

end FixedNotation

/-! ### Finite numbers -/

theorem scaledBelow {value exponent shift : Nat} (isSmall : value < twoPower exponent) :
    value * twoPower shift < twoPower (exponent + shift) :=
  calc value * twoPower shift
    _ < twoPower exponent * twoPower shift :=
      Nat.mul_lt_mul_of_pos_right isSmall (twoPowerPos shift)
    _ = twoPower (exponent + shift) := (Nat.pow_add ..).symm

theorem twoPowerMono {first second : Nat} (isAtMost : first ≤ second) :
    twoPower first ≤ twoPower second :=
  Nat.pow_le_pow_right (by decide) isAtMost

theorem bitsBelow {value exponent : Nat} (isSmall : value < twoPower (exponent + 1)) :
    value.log2 ≤ exponent := by
  by_cases isZero : value = 0
  · rw [isZero]
    exact Nat.zero_le _
  · exact Nat.le_of_lt_succ ((Nat.log2_lt isZero).2 isSmall)

namespace Binary64

/-- A quotient below the largest power of two stays finite when it is rounded. -/
theorem roundUnitsIsFinite {numerator denominator : Nat} (negative : Bool)
    (isSmall : numerator / denominator < twoPower 2097) :
    (roundUnits negative numerator denominator).isFinite = true := by
  have isShort := bitsBelow isSmall
  have isBelow (significand : Nat) :
      ¬ 2045 < (if significand = twoPower 53
        then (twoPower 52, shiftFor (numerator / denominator) + 1)
        else (significand, shiftFor (numerator / denominator))).2 := by
    simp only [shiftFor]
    split <;> omega
  rw [roundUnits, normalize, if_neg (isBelow _)]
  rfl

/-- The two sides are compared as functions, since a match on a rounded integer is opened only by
counting its units. -/
theorem ofIntIsRounded : ofInt? = fun value =>
    match roundUnits (value < 0) (value.natAbs * one) 1 with
    | infinite _ => none
    | number => some number := by
  delta ofInt?
  funext value
  generalize roundUnits (value < 0) (value.natAbs * one) 1 = rounded
  cases rounded <;> rfl

theorem smallIntegerIsFinite {value : Int} (isSmall : value.natAbs < tenPower 21) :
    ∃ number, ofInt? value = some number ∧ number.isFinite = true := by
  have isShort : value.natAbs < twoPower 70 := isSmall.trans (by decide)
  have isBelow : value.natAbs * one / 1 < twoPower 2097 := by
    rw [Nat.div_one]
    exact (scaledBelow isShort).trans_le (twoPowerMono (by decide))
  have isFinite := roundUnitsIsFinite (decide (value < 0)) isBelow
  rw [ofIntIsRounded]
  beta_reduce
  generalize roundUnits (decide (value < 0)) (value.natAbs * one) 1 = rounded at isFinite ⊢
  match rounded, isFinite with
  | .finite negative significand shift, _ => exact ⟨_, rfl, rfl⟩

end Binary64

namespace Number

/-- Integers are finite, and so is every real number but the infinities and the one that is not a
number. -/
def IsFinite : Number → Prop
  | int _ => True
  | real value => value.isFinite = true

/-- The rounding is any function here, since the real one unfolds to large powers. -/
theorem roundingGives (round : Int → Option Binary64) {value : Int} {number : Number}
    {counterpart : Binary64} (isInteger : number = int value)
    (isCounterpart : round value = some counterpart) :
    (match number with
      | int value =>
        match round value with
        | some rounded => Except.ok rounded
        | none => .error Fault.overflow
      | real value => .ok value) = .ok counterpart := by
  subst isInteger
  simp only [isCounterpart]

theorem integerIsReal {number : Number} {value : Int} {counterpart : Binary64}
    (isInteger : number = int value) (isCounterpart : Binary64.ofInt? value = some counterpart) :
    number.toReal = .ok counterpart := by
  delta toReal
  exact roundingGives Binary64.ofInt? isInteger isCounterpart

section

variable {number : Number} (isFinite : number.IsFinite)

include isFinite

theorem zeroIffValue : number.isZero = true ↔ number.toRat = 0 := by
  match number, isFinite with
  | .int value, _ => simp [isZero, toRat]
  | .real (.finite negative significand shift), _ =>
      have notScale := (twoPowerPos shift).ne'
      rw [toRat, Binary64.toRat, Rat.mkRat_eq_zero Binary64.oneIsPositive.ne']
      cases negative <;> simp [isZero, Binary64.isZero, Binary64.units, notScale]

theorem negativeIffValue (notZero : number.isZero ≠ true) :
    number.isNegative = true ↔ number.toRat < 0 := by
  match number, isFinite with
  | .int value, _ => simp [isNegative, toRat]
  | .real (.finite negative significand shift), _ =>
      have isPositive : 0 < significand * twoPower shift :=
        Nat.mul_pos (Nat.pos_of_ne_zero (by simpa [isZero, Binary64.isZero] using notZero))
          (twoPowerPos shift)
      rw [toRat, Binary64.valueIsQuotient, div_lt_iff₀ Binary64.unitIsPositive, zero_mul,
        Int.cast_lt_zero]
      cases negative with
      | false => exact iff_of_false Bool.false_ne_true (Int.natCast_nonneg _).not_gt
      | true => exact iff_of_true rfl (Int.neg_neg_of_pos (Int.natCast_pos.2 isPositive))

/-- Numbers below `10 ^ 21` have a finite real counterpart. -/
theorem smallNumberIsReal (isSmall : |number.toRat| < 10 ^ 21) :
    ∃ counterpart, number.toReal = .ok counterpart ∧ counterpart.isFinite = true := by
  cases number with
  | int value =>
      have isBelow : value.natAbs < tenPower 21 := by
        rw [toRat, ← Int.cast_abs, Int.abs_eq_natAbs] at isSmall
        exact_mod_cast isSmall
      obtain ⟨counterpart, isCounterpart, isReal⟩ := Binary64.smallIntegerIsFinite isBelow
      exact ⟨counterpart, integerIsReal rfl isCounterpart, isReal⟩
  | real value => exact ⟨value, rfl, isFinite⟩

end

/-! ### Rounding -/

theorem absIsQuotient (value : Rat) : |value| = value.num.natAbs / value.den := by
  have isPositive : (0 : Rat) < value.den := Nat.cast_pos.2 value.den_pos
  conv_lhs => rw [← Rat.num_div_den value]
  rw [abs_div, abs_of_pos isPositive, Nat.cast_natAbs, Int.cast_abs]

theorem wholeIsBelow {value : Rat} (isSmall : |value| < 10 ^ 21) :
    ¬ tenPower 21 ≤ value.num.natAbs / value.den := by
  rw [absIsQuotient, div_lt_iff₀ (Nat.cast_pos.2 value.den_pos)] at isSmall
  rw [not_le, Nat.div_lt_iff_lt_mul value.den_pos]
  exact_mod_cast isSmall

/-- A half goes up, so the rounded quotient is the whole part after a half is added. -/
theorem roundHalfUpIsFloor (numerator : Nat) {denominator : Nat} (isPositive : 0 < denominator) :
    (roundHalfUp numerator denominator : Int) = ⌊(numerator / denominator + 1 / 2 : Rat)⌋ := by
  have notZero : (denominator : Rat) ≠ 0 := Nat.cast_ne_zero.2 isPositive.ne'
  have isQuotient : (numerator / denominator + 1 / 2 : Rat) =
      ((2 * numerator + denominator : Nat) : Int) / (2 * denominator : Nat) := by
    push_cast
    field_simp
  rw [isQuotient, Rat.floor_intCast_div_natCast]
  rfl

theorem unitsAreRounded (magnitude : Rat) (places : Nat) :
    (fixedUnits magnitude places : Int) = ⌊|magnitude| * 10 ^ places + 1 / 2⌋ := by
  rw [fixedUnits, if_pos (Int.natCast_nonneg _), roundHalfUpIsFloor _ magnitude.den_pos,
    absIsQuotient, div_mul_eq_mul_div]
  norm_num [tenPower]

theorem unitsOfZero (places : Nat) : fixedUnits 0 places = 0 := by
  have isRounded := unitsAreRounded 0 places
  norm_num at isRounded
  exact isRounded

/-- The digits of a small number fit in the working precision. -/
theorem unitsFit {magnitude : Rat} {places : Nat} (isSmall : |magnitude| < 10 ^ 21)
    (fewPlaces : places ≤ 100) :
    (decimalDigits (fixedUnits magnitude places)).length ≤ fixedPrecision := by
  have isBelow : (fixedUnits magnitude places : Rat) < 10 ^ 128 :=
    calc (fixedUnits magnitude places : Rat)
      _ = (⌊|magnitude| * 10 ^ places + 1 / 2⌋ : Int) := by rw [← unitsAreRounded]; rfl
      _ ≤ |magnitude| * 10 ^ places + 1 / 2 := Int.floor_le _
      _ ≤ 10 ^ 21 * 10 ^ 100 + 1 / 2 := by gcongr; norm_num
      _ < 10 ^ 128 := by norm_num
  refine (Nat.length_toDigits_le_iff (by decide) (by decide)).2 ?_
  exact_mod_cast isBelow

/-! ### Fixed texts -/

section

variable {number : Number} {places : Nat} (isFinite : number.IsFinite)
  (isSmall : |number.toRat| < 10 ^ 21) (fewPlaces : places ≤ 100)

include isFinite isSmall fewPlaces

theorem fixedDigitsAreUnits : number.fixedDigits places = .ok
    (FixedNotation.ofUnits (number.toRat < 0) places (fixedUnits number.toRat places)).text := by
  have notShifted : ¬ largestShift < (places : Int).natAbs := by
    rw [largestShift]
    omega
  have notTens : ¬ (places : Int) < -largestExponent := by omega
  have isUseful : ¬ usefulPlaces < (places : Int) := by
    rw [usefulPlaces]
    omega
  rw [fixedDigits, if_neg notShifted, if_neg notTens, FixedNotation.textOfUnits]
  by_cases isZero : number.isZero = true
  · rw [if_pos isZero, (zeroIffValue isFinite).1 isZero, unitsOfZero]
    rfl
  · have isSign : number.isNegative = decide (number.toRat < 0) :=
      Bool.eq_iff_iff.2 ((negativeIffValue isFinite isZero).trans decide_eq_true_iff.symm)
    rw [if_neg isZero, if_neg isUseful, if_neg (unitsFit isSmall fewPlaces).not_gt, isSign]

theorem toFixedIsUnits : number.toFixed (int places) = .ok
    (FixedNotation.ofUnits (number.toRat < 0) places (fixedUnits number.toRat places)).text := by
  obtain ⟨counterpart, isCounterpart, isReal⟩ := smallNumberIsReal isFinite isSmall
  rw [← fixedDigitsAreUnits isFinite isSmall fewPlaces, toFixed, isCounterpart]
  simp only [bind, Except.bind, isReal, decide_eq_false (wholeIsBelow isSmall)]
  rw [if_neg (by decide)]
  split
  case isTrue isZero =>
    rw [of_decide_eq_true isZero]
    rfl
  case isFalse => rfl

end

end Number

theorem methodIsToFixed (heap : Heap) {number : Number} {places : Int} {text : String}
    (isText : number.toFixed (.int places) = .ok text) :
    Script.callMethod heap (.ofNumber number) "toFixed" [.int places] =
      .ok (.value (.text text)) := by
  have isMethod : Script.callMethod heap (.ofNumber number) "toFixed" [.int places] =
      Script.numberMethod number "toFixed" [.int places] := by
    cases number <;> rfl
  rw [isMethod]
  change number.toFixed (.int places) >>= _ = _
  rw [isText]
  rfl

/-- A finite number below `10 ^ 21` is written in fixed notation with as many digits after the point
as are asked for, and the text never fails. The value told is the exact one, rounded to the nearest
multiple of the last place, with a half away from zero. There is a sign exactly if the number is
below zero, also when it is rounded to zero. -/
theorem fixedTextIsRounded (heap : Heap) {number : Number} {places : Nat}
    (isFinite : number.IsFinite) (isSmall : |number.toRat| < 10 ^ 21) (fewPlaces : places ≤ 100) :
    ∃ fixed : FixedNotation,
      Script.callMethod heap (.ofNumber number) "toFixed" [.int places] =
        .ok (.value (.text fixed.text)) ∧
      fixed.IsProper ∧ fixed.fraction.length = places ∧
      (fixed.negative = true ↔ number.toRat < 0) ∧
      fixed.value =
        SignType.sign number.toRat * ⌊|number.toRat| * 10 ^ places + 1 / 2⌋ / 10 ^ places := by
  refine ⟨.ofUnits (number.toRat < 0) places (Number.fixedUnits number.toRat places), ?_,
    FixedNotation.unitsAreProper .., FixedNotation.placesOfUnits .., decide_eq_true_iff, ?_⟩
  · exact methodIsToFixed heap (Number.toFixedIsUnits isFinite isSmall fewPlaces)
  · rw [FixedNotation.valueOfUnits, ← Number.unitsAreRounded, Int.cast_natCast]
    obtain isNegative | isZero | isPositive := lt_trichotomy number.toRat 0
    · simp [isNegative]
    · simp [isZero, Number.unitsOfZero]
    · simp [isPositive, isPositive.not_gt]

theorem negativeHalfIsRoundedAway : ∃ fixed : FixedNotation,
    Script.callMethod .empty (.real (.finite true 4503599627370496 1021)) "toFixed" [.int 0] =
      .ok (.value (.text fixed.text)) ∧
    fixed.IsProper ∧ fixed.fraction.length = 0 ∧ fixed.negative = true ∧ fixed.value = -1 := by
  have isFinite : Number.IsFinite (.real (.finite true 4503599627370496 1021)) := rfl
  have isHalf : (Number.real (.finite true 4503599627370496 1021)).toRat = -1 / 2 := by
    decide +kernel
  have isSmall : |(-1 / 2 : Rat)| < 10 ^ 21 := by norm_num [abs_of_neg]
  obtain ⟨fixed, isText, isProper, isShort, isSign, isValue⟩ :=
    fixedTextIsRounded .empty isFinite (isHalf ▸ isSmall) (Nat.zero_le 100)
  rw [isHalf] at isSign isValue
  refine ⟨fixed, isText, isProper, isShort, isSign.2 (by norm_num), isValue.trans ?_⟩
  norm_num [abs_of_neg]

end Letterpress
