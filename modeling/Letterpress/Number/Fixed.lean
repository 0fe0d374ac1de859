import Letterpress.Number.Basic

/-!
This file writes numbers with a fixed number of decimal places.
-/

namespace Letterpress.Number

/-- No more digits than these are produced. -/
def fixedPrecision : Nat := 128

/-- The magnitude in units of `10 ^ -places`, with a half rounded up. -/
def fixedUnits (magnitude : Rat) (places : Int) : Nat :=
  if 0 ≤ places then roundHalfUp (magnitude.num.natAbs * tenPower places.toNat) magnitude.den
  else roundHalfUp magnitude.num.natAbs (magnitude.den * tenPower (-places).toNat)

/-- A power of ten beyond these bounds cannot be asked for. -/
def largestShift : Nat := 2000054

def largestExponent : Nat := 999999

/-- A number that is not zero has too many digits at more places than these. -/
def usefulPlaces : Nat := 2000

/-- The exact value is rounded to the places, ties away from zero. A negative count of places
rounds to tens. -/
def fixedDigits (number : Number) (places : Int) : Except Fault String :=
  if largestShift < places.natAbs then .error .invalidOperation
  else if places < -largestExponent then .error .overflow
  else if number.isZero then .ok (String.ofList (positional ['0'] (-places)))
  else if usefulPlaces < places then .error .invalidOperation
  else
    let digits := decimalDigits (fixedUnits number.toRat places)
    if fixedPrecision < digits.length then .error .invalidOperation
    else .ok (String.ofList ((if number.isNegative then ['-'] else []) ++
      positional digits (-places)))

/-- Numbers from `10 ^ 21` on, and those that are not finite, have their plain text. -/
def toFixed (number : Number) (places : Number) : Except Fault String := do
  let asReal ← number.toReal
  if !asReal.isFinite || tenPower 21 ≤ number.toRat.num.natAbs / number.toRat.den then
    number.plainText
  else
    let count ← if places.isZero then pure 0 else places.truncate
    number.fixedDigits count

end Letterpress.Number
