import Letterpress.Number.Basic
import Mathlib.Algebra.Order.Field.Basic
import Mathlib.Algebra.Order.Ring.Cast
import Mathlib.Algebra.Order.Ring.Rat
import Mathlib.Data.Rat.Cast.Defs
import Mathlib.Order.Compare
import Mathlib.Order.WithBot
import Mathlib.Tactic.Ring

/-!
This file tells the exact values of numbers. Numbers of both kinds are compared by their exact
values, and the exact value shows which numbers are integral.
-/

namespace Letterpress

theorem twoPowerPos (exponent : Nat) : 0 < twoPower exponent := Nat.two_pow_pos exponent

/-- These are the exact values, with an infinity on either side of them. -/
abbrev Extended := WithBot (WithTop Rat)

/-- The infinities stand apart from the exact value of a finite number. -/
def Extended.ofRat (value : Rat) : Extended := ((value : WithTop Rat) : WithBot (WithTop Rat))

theorem Extended.ofRatInjective : Function.Injective Extended.ofRat :=
  WithBot.coe_injective.comp WithTop.coe_injective

theorem compareExtended (first second : Rat) :
    cmp (Extended.ofRat first) (Extended.ofRat second) = cmp first second :=
  (WithBot.coe_strictMono.comp WithTop.coe_strictMono).cmp_map_eq first second

namespace Binary64

theorem oneIsPositive : 0 < one := twoPowerPos _

theorem unitIsPositive : (0 : Rat) < one := Nat.cast_pos.2 oneIsPositive

theorem valueIsQuotient (number : Binary64) : number.toRat = number.units / one :=
  Rat.mkRat_eq_div ..

theorem valueOfZero (negative : Bool) : (zero negative).toRat = 0 := by
  have noUnits : (zero negative).units = 0 := by
    cases negative with
    | true => rfl
    | false => rfl
  rw [valueIsQuotient, noUnits, Int.cast_zero, zero_div]

theorem compareUnits (first second : Binary64) :
    compare first.units second.units = cmp first.toRat second.toRat := by
  rw [valueIsQuotient, valueIsQuotient, div_eq_mul_inv, div_eq_mul_inv,
    cmp_mul_pos_right (inv_pos.2 unitIsPositive), ← cmp_eq_compare]
  exact (Int.cast_strictMono.cmp_map_eq first.units second.units).symm

/-- A quotient is compared by multiplying with both denominators. -/
theorem compareScaled (number : Binary64) (value : Rat) :
    compare (number.units * value.den) (value.num * one) = cmp number.toRat value := by
  have denominatorIsPositive : (0 : Rat) < value.den := Nat.cast_pos.2 value.den_pos
  have scaledNumber : number.toRat * (one * value.den) = (number.units * value.den : Int) := by
    rw [valueIsQuotient, ← mul_assoc, div_mul_cancel₀ _ unitIsPositive.ne']
    push_cast
    rfl
  have scaledValue : value * (one * value.den) = (value.num * one : Int) := by
    rw [mul_comm (one : Rat), ← mul_assoc, Rat.mul_den_eq_num]
    push_cast
    rfl
  calc compare (number.units * value.den) (value.num * one)
    _ = cmp (number.units * value.den : Int) (value.num * one : Int) := (cmp_eq_compare _ _).symm
    _ = cmp ((number.units * value.den : Int) : Rat) ((value.num * one : Int) : Rat) :=
      (Int.cast_strictMono.cmp_map_eq _ _).symm
    _ = cmp (number.toRat * (one * value.den)) (value * (one * value.den)) := by
      rw [scaledNumber, scaledValue]
    _ = cmp number.toRat value :=
      cmp_mul_pos_right (mul_pos unitIsPositive denominatorIsPositive) _ _

/-- This is the exact value of a number that is not missing. -/
def extended : Binary64 → Extended
  | infinite true => ⊥
  | infinite false => ⊤
  | number => Extended.ofRat number.toRat

variable {first second number : Binary64}

theorem notMissing (isFinite : number.isFinite = true) : number.isNotNumber = false := by
  cases number with
  | notNumber => exact nomatch isFinite
  | _ => rfl

theorem compareIsExact (isFirst : first.isNotNumber = false)
    (isSecond : second.isNotNumber = false) :
    first.compare? second = some (cmp first.extended second.extended) := by
  match first, second, isFirst, isSecond with
  | .infinite true, .infinite true, _, _ => rfl
  | .infinite true, .infinite false, _, _ => rfl
  | .infinite false, .infinite true, _, _ => rfl
  | .infinite false, .infinite false, _, _ => rfl
  | .infinite true, .finite .., _, _ => rfl
  | .infinite false, .finite .., _, _ => rfl
  | .finite .., .infinite true, _, _ => rfl
  | .finite .., .infinite false, _, _ => rfl
  | .finite .., .finite .., _, _ =>
      change some (compare _ _) = some (cmp (Extended.ofRat _) (Extended.ofRat _))
      rw [compareExtended, compareUnits]

theorem compareRatIsExact (isNumber : number.isNotNumber = false) (value : Rat) :
    number.compareRat? value = some (cmp number.extended (Extended.ofRat value)) := by
  match number, isNumber with
  | .infinite true, _ => rfl
  | .infinite false, _ => rfl
  | .finite .., _ =>
      change some (compare _ _) = some (cmp (Extended.ofRat _) (Extended.ofRat _))
      rw [compareExtended, compareScaled]

theorem wholeQuotientIff {units whole : Int} {scale : Nat} (isPositive : 0 < scale) :
    units % scale = 0 ∧ units.tdiv scale = whole ↔ units = whole * scale := by
  constructor
  · rintro ⟨isMultiple, rfl⟩
    exact (Int.tdiv_mul_cancel (Int.dvd_of_emod_eq_zero isMultiple)).symm
  · rintro rfl
    exact ⟨Int.mul_emod_left _ _, Int.mul_tdiv_cancel _ (Int.natCast_ne_zero.2 isPositive.ne')⟩

/-- A finite number is integral if its exact value is, and nothing is dropped from it then. -/
theorem integralIff (isFinite : number.isFinite = true) (whole : Int) :
    number.isIntegral = true ∧ number.truncate = whole ↔ number.toRat = whole := by
  have isWhole : number.toRat = whole ↔ number.units = whole * one := by
    rw [valueIsQuotient, div_eq_iff unitIsPositive.ne']
    exact_mod_cast Iff.rfl
  have isMultiple : number.isIntegral = decide (number.units % one = 0) := by
    cases number with
    | finite negative significand shift => rfl
    | _ => exact nomatch isFinite
  rw [isWhole, isMultiple, decide_eq_true_iff]
  exact wholeQuotientIff oneIsPositive

end Binary64

namespace Number

/-- This is the exact value of a number that is not missing. -/
def extended : Number → Extended
  | int value => .ofRat value
  | real value => value.extended

/-- Two numbers are ordered as their exact values are, whatever kinds they are of. -/
theorem compareIsExact {first second : Number} (isFirst : first.isNotNumber = false)
    (isSecond : second.isNotNumber = false) :
    first.compare? second = some (cmp first.extended second.extended) := by
  cases first with
  | int first =>
      cases second with
      | int second =>
          rw [compare?, extended, extended, compareExtended, ← cmp_eq_compare]
          exact congrArg some (Int.cast_strictMono.cmp_map_eq first second).symm
      | real second =>
          rw [compare?, extended, extended, Binary64.compareRatIsExact isSecond, Option.map_some,
            cmp_swap]
  | real first =>
      cases second with
      | int second => exact Binary64.compareRatIsExact isFirst second
      | real second => exact Binary64.compareIsExact isFirst isSecond

end Number

end Letterpress
