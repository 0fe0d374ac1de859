import Letterpress.Number.Binary64
import Letterpress.Number.Digits

/-!
This file writes a binary64 number with the fewest decimal digits that read back as the same
number.
-/

namespace Letterpress.Binary64

/-- The numbers that round to a finite number form an interval. Its bounds are counted in
quarters of a unit of the number's last place, and they belong to it when the significand is
even. -/
structure Interval where
  lower : Nat
  middle : Nat
  upper : Nat
  isClosed : Bool

/-- Below a power of two the neighbour is half as far away. -/
def intervalOf (significand shift : Nat) : Interval where
  lower := if significand = twoPower 52 ∧ 0 < shift then (4 * significand - 1) * twoPower shift
    else (4 * significand - 2) * twoPower shift
  middle := 4 * significand * twoPower shift
  upper := (4 * significand + 2) * twoPower shift
  isClosed := significand % 2 = 0

/-- A decimal grid has the points `point * scale / divisor` in quarters of a unit. -/
structure Grid where
  scale : Nat
  divisor : Nat

/-- The grid of the multiples of `10 ^ exponent`. -/
def gridOf (exponent : Int) : Grid :=
  if 0 ≤ exponent then ⟨4 * one * tenPower exponent.toNat, 1⟩
  else ⟨4 * one, tenPower (-exponent).toNat⟩

namespace Interval

/-- The point of the grid lies in the interval. -/
def contains (interval : Interval) (grid : Grid) (point : Nat) : Bool :=
  let scaled := point * grid.scale
  if interval.isClosed then
    interval.lower * grid.divisor ≤ scaled && scaled ≤ interval.upper * grid.divisor
  else
    interval.lower * grid.divisor < scaled && scaled < interval.upper * grid.divisor

/-- Of the two points around the middle this is one in the interval, the nearer one if both
are, and the even one of two equally near ones. -/
def nearest? (interval : Interval) (grid : Grid) : Option Nat :=
  let exact := interval.middle * grid.divisor
  let below := exact / grid.scale
  let hasBelow := interval.contains grid below && below != 0
  let hasAbove := interval.contains grid (below + 1)
  if hasBelow && hasAbove then some (roundHalfEven exact grid.scale)
  else if hasBelow then some below
  else if hasAbove then some (below + 1)
  else none

end Interval

/-- This tries coarser grids first. -/
def searchGrids (interval : Interval) (leading : Int) : Nat → Nat → Nat × Int
  | digits, 0 => ((interval.nearest? (gridOf (leading - digits))).getD 0, leading - digits)
  | digits, remaining + 1 =>
      match interval.nearest? (gridOf (leading - digits)) with
      | some point => (point, leading - digits)
      | none => searchGrids interval leading (digits + 1) remaining

/-- The exponent of the leading digit, or one more, from the number of binary digits. -/
def leadingEstimate (significand shift : Nat) : Int :=
  ((significand * twoPower shift).log2 - 1074 : Int) * 30103 / 100000 + 1

/-- The fewest decimal digits and the exponent of the last one, with no trailing zero. -/
def dropTrailingZeros (digits : Nat) (exponent : Int) : Nat → Nat × Int
  | 0 => (digits, exponent)
  | fuel + 1 =>
      if digits % 10 = 0 ∧ digits ≠ 0 then dropTrailingZeros (digits / 10) (exponent + 1) fuel
      else (digits, exponent)

/-- The shortest decimal `digits * 10 ^ exponent` that rounds to the finite number. -/
def shortest (significand shift : Nat) : Nat × Int :=
  if significand = 0 then (0, 0)
  else
    let found :=
      searchGrids (intervalOf significand shift) (leadingEstimate significand shift) 0 18
    dropTrailingZeros found.1 found.2 20

/-- A decimal with one digit before the point, and the exponent of ten. -/
structure Scientific where
  leading : Char
  fraction : List Char
  exponent : Int

def scientific (significand shift : Nat) : Scientific :=
  let found := shortest significand shift
  let digits := decimalDigits found.1
  ⟨digits.headD '0', digits.tail, found.2 + digits.tail.length⟩

/-- The signed exponent has at least the given number of digits. -/
def exponentText (width : Nat) (exponent : Int) : List Char :=
  (if exponent < 0 then '-' else '+') :: padZeros width (decimalDigits exponent.natAbs)

/-- The mantissa of scientific notation. -/
def mantissaText (number : Scientific) : List Char :=
  if number.fraction.isEmpty then [number.leading] else number.leading :: '.' :: number.fraction

/-- Positional notation with at least one digit after the point. -/
def positionalText (significand shift : Nat) : List Char :=
  let found := shortest significand shift
  let text := positional (decimalDigits found.1) found.2
  if 0 ≤ found.2 then text ++ ['.', '0'] else text

def signText (negative : Bool) : List Char := if negative then ['-'] else []

/-- The round-trip text. It is positional from `10 ^ -4` and below `10 ^ 16`, always shows a
point or an exponent, and gives the exponent at least two digits. -/
def roundTripText : Binary64 → String
  | notNumber => "nan"
  | infinite negative => String.ofList (signText negative ++ "inf".toList)
  | finite negative significand shift =>
      let number := scientific significand shift
      String.ofList (signText negative ++
        if significand ≠ 0 ∧ (number.exponent < -4 ∨ 16 ≤ number.exponent) then
          mantissaText number ++ 'e' :: exponentText 2 number.exponent
        else positionalText significand shift)

/-- The plain text of a finite number. It is positional from `10 ^ -6` and below `10 ^ 21`; an
integer is written in full and has no point. A number that is not finite has no text. -/
def plainText (number : Binary64) : String :=
  match number with
  | finite negative significand shift =>
      let parts := scientific significand shift
      if significand ≠ 0 ∧ (parts.exponent < -6 ∨ 21 ≤ parts.exponent) then
        String.ofList (signText negative ++ mantissaText parts ++
          'e' :: exponentText 1 parts.exponent)
      else if number.isIntegral then integerText number.truncate
      else
        let found := shortest significand shift
        String.ofList (signText negative ++ positional (decimalDigits found.1) found.2)
  | _ => ""

end Letterpress.Binary64
