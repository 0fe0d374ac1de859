/-!
This file names the powers that numbers are scaled by, and rounds quotients of natural numbers to
natural numbers.
-/

namespace Letterpress

/-- A power of two shifts by bits. -/
def twoPower (exponent : Nat) : Nat := Nat.pow 2 exponent

/-- A power of ten shifts by decimal digits. -/
def tenPower (exponent : Nat) : Nat := Nat.pow 10 exponent

/-- A half goes to the even neighbour. -/
def roundHalfEven (numerator denominator : Nat) : Nat :=
  let quotient := numerator / denominator
  let twice := 2 * (numerator % denominator)
  if twice < denominator then quotient
  else if twice = denominator then quotient + quotient % 2
  else quotient + 1

/-- A half goes to the upper neighbour. -/
def roundHalfUp (numerator denominator : Nat) : Nat :=
  (2 * numerator + denominator) / (2 * denominator)

end Letterpress
