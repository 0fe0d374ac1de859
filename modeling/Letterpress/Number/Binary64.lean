import Letterpress.Number.Rounding

/-!
This file holds the binary64 numbers. Every finite one is a multiple of the smallest positive
one, so the exact result of an operation is a quotient of integers, and the operation is that
result rounded to the nearest number.
-/

namespace Letterpress

/-- A finite number is `significand * 2 ^ shift` units of `2 ^ -1074`, with a sign. -/
inductive Binary64
  | notNumber
  | infinite (negative : Bool)
  | finite (negative : Bool) (significand shift : Nat)
  deriving DecidableEq, Inhabited, Repr

namespace Binary64

/-- The number of units in one. -/
def one : Nat := twoPower 1074

/-- The significand has at most 53 bits, and exactly 53 unless the number is below the normal
range. -/
def IsCanonical : Binary64 → Prop
  | finite _ significand shift =>
      significand < twoPower 53 ∧ (shift = 0 ∨ twoPower 52 ≤ significand) ∧ shift ≤ 2045
  | _ => True

def zero (negative : Bool) : Binary64 := finite negative 0 0

/-- This is the shift that leaves a significand of 53 bits. -/
def shiftFor (units : Nat) : Nat := units.log2 - 52

/-- A significand that was rounded up to 54 bits moves to the next shift. -/
def normalize (negative : Bool) (significand shift : Nat) : Binary64 :=
  let moved := if significand = twoPower 53 then (twoPower 52, shift + 1) else (significand, shift)
  if 2045 < moved.2 then infinite negative else finite negative moved.1 moved.2

/-- This rounds a quotient, counted in units, to the nearest number. -/
def roundUnits (negative : Bool) (numerator denominator : Nat) : Binary64 :=
  let shift := shiftFor (numerator / denominator)
  normalize negative (roundHalfEven numerator (denominator * twoPower shift)) shift

/-- This rounds a rational number to the nearest number. -/
def ofRat (value : Rat) : Binary64 :=
  roundUnits (value < 0) (value.num.natAbs * one) value.den

/-- This is the signed count of units of a finite number. -/
def units : Binary64 → Int
  | finite negative significand shift =>
      if negative then -((significand * twoPower shift : Nat) : Int)
      else (significand * twoPower shift : Nat)
  | _ => 0

/-- This is the exact value of a finite number. -/
def toRat (number : Binary64) : Rat := mkRat number.units one

def isFinite : Binary64 → Bool
  | finite .. => true
  | _ => false

def isNotNumber : Binary64 → Bool
  | notNumber => true
  | _ => false

def isInfinite : Binary64 → Bool
  | infinite _ => true
  | _ => false

def isNegative : Binary64 → Bool
  | notNumber => false
  | infinite negative => negative
  | finite negative .. => negative

def isZero : Binary64 → Bool
  | finite _ significand _ => significand = 0
  | _ => false

def negate : Binary64 → Binary64
  | notNumber => notNumber
  | infinite negative => infinite (!negative)
  | finite negative significand shift => finite (!negative) significand shift

def abs : Binary64 → Binary64
  | notNumber => notNumber
  | infinite _ => infinite false
  | finite _ significand shift => finite false significand shift

/-- This rounds an integer; no finite number is near an integer that is too large. -/
def ofInt? (value : Int) : Option Binary64 :=
  match roundUnits (value < 0) (value.natAbs * one) 1 with
  | infinite _ => none
  | number => some number

/-- A sum of opposite numbers is positive zero; a sum of two negative zeros is negative. -/
def add : Binary64 → Binary64 → Binary64
  | notNumber, _ => notNumber
  | _, notNumber => notNumber
  | infinite first, infinite second => if first = second then infinite first else notNumber
  | infinite negative, _ => infinite negative
  | _, infinite negative => infinite negative
  | first, second =>
      let sum := first.units + second.units
      if sum = 0 then zero (first.isNegative && second.isNegative)
      else roundUnits (sum < 0) sum.natAbs 1

def sub (first second : Binary64) : Binary64 := first.add second.negate

/-- Two signs combine to a negative one when they differ. -/
def signOf (first second : Binary64) : Bool := first.isNegative != second.isNegative

def mul (first second : Binary64) : Binary64 :=
  match first, second with
  | notNumber, _ => notNumber
  | _, notNumber => notNumber
  | infinite _, _ => if second.isZero then notNumber else infinite (signOf first second)
  | _, infinite _ => if first.isZero then notNumber else infinite (signOf first second)
  | _, _ =>
      roundUnits (signOf first second) (first.units.natAbs * second.units.natAbs) one

/-- A quotient by zero is infinite, except of zero. -/
def div (first second : Binary64) : Binary64 :=
  match first, second with
  | notNumber, _ => notNumber
  | _, notNumber => notNumber
  | infinite _, infinite _ => notNumber
  | infinite _, _ => infinite (signOf first second)
  | _, infinite _ => zero (signOf first second)
  | _, _ =>
      if second.isZero then
        if first.isZero then notNumber else infinite (signOf first second)
      else roundUnits (signOf first second) (first.units.natAbs * one) second.units.natAbs

/-- The remainder is exact and takes the sign of the dividend. -/
def remainder (first second : Binary64) : Binary64 :=
  match first, second with
  | notNumber, _ => notNumber
  | _, notNumber => notNumber
  | infinite _, _ => notNumber
  | _, infinite _ => first
  | _, _ =>
      if second.isZero then notNumber
      else roundUnits first.isNegative (first.units.natAbs % second.units.natAbs) 1

/-- Two numbers are ordered unless one of them is not a number. -/
def compare? : Binary64 → Binary64 → Option Ordering
  | notNumber, _ => none
  | _, notNumber => none
  | infinite first, infinite second =>
      some (if first = second then .eq else if first then .lt else .gt)
  | infinite negative, _ => some (if negative then .lt else .gt)
  | _, infinite negative => some (if negative then .gt else .lt)
  | first, second => some (compare first.units second.units)

/-- This compares a number with an exact value. -/
def compareRat? (number : Binary64) (value : Rat) : Option Ordering :=
  match number with
  | notNumber => none
  | infinite negative => some (if negative then .lt else .gt)
  | _ => some (compare (number.units * value.den) (value.num * one))

/-- The number has no fractional part. -/
def isIntegral : Binary64 → Bool
  | number@(finite ..) => number.units % one = 0
  | _ => false

/-- This drops the fractional part of a finite number. -/
def truncate (number : Binary64) : Int := number.units.tdiv one

end Binary64

end Letterpress
