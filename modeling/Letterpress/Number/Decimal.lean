import Letterpress.Number.Reading

/-!
This file holds decimal numbers, which keep their exponent, so that `1.5` and `1.50` are
written differently.
-/

namespace Letterpress

/-- A finite decimal is `coefficient * 10 ^ exponent`, with a sign. -/
inductive Decimal
  | finite (negative : Bool) (coefficient : Nat) (exponent : Int)
  | infinite (negative : Bool)
  | notNumber (negative signaling : Bool) (payload : String)
  deriving DecidableEq, Repr

namespace Decimal

def isFinite : Decimal → Bool
  | finite .. => true
  | _ => false

def isZero : Decimal → Bool
  | finite _ coefficient _ => coefficient = 0
  | _ => false

def isSignaling : Decimal → Bool
  | notNumber _ signaling _ => signaling
  | _ => false

/-- This is the exact value of a finite decimal. -/
def toRat : Decimal → Rat
  | finite negative coefficient exponent =>
      let magnitude : Rat :=
        if 0 ≤ exponent then (coefficient * tenPower exponent.toNat : Nat)
        else mkRat coefficient (tenPower (-exponent).toNat)
      if negative then -magnitude else magnitude
  | _ => 0

/-- This is the nearest binary64 number. -/
def toBinary64 : Decimal → Binary64
  | finite negative coefficient exponent => Binary64.ofNotation ⟨negative, coefficient, exponent⟩
  | infinite negative => .infinite negative
  | notNumber .. => .notNumber

/-- The digits with the point before the place where the exponent puts it. -/
def digitsText (digits : List Char) (exponent : Int) : List Char :=
  let leading : Int := exponent + digits.length
  if exponent ≤ 0 ∧ -6 < leading then positional digits exponent
  else
    let fraction := digits.tail
    let mantissa := if fraction.isEmpty then digits else digits.headD '0' :: '.' :: fraction
    let shift := leading - 1
    mantissa ++ 'E' :: (if shift < 0 then '-' else '+') :: decimalDigits shift.natAbs

/-- The text keeps all digits. It is positional unless the exponent is positive or the number is
below `10 ^ -6`. -/
def text : Decimal → String
  | finite negative coefficient exponent =>
      String.ofList ((if negative then ['-'] else []) ++
        digitsText (decimalDigits coefficient) exponent)
  | infinite negative => if negative then "-Infinity" else "Infinity"
  | notNumber negative signaling payload =>
      (if negative then "-" else "") ++ (if signaling then "sNaN" else "NaN") ++ payload

/-- This reads the text of a decimal. -/
def read? (text : String) : Option Decimal :=
  let characters := (Text.stripList text.toList).filter (· ≠ '_')
  let (negative, rest) := DecimalNotation.splitSign (characters.map toAsciiDigit)
  let word := lowerAscii rest
  if word = "inf".toList ∨ word = "infinity".toList then some (infinite negative)
  else if word.take 3 = "nan".toList ∧ (word.drop 3).all Char.isDigit then
    some (notNumber negative false (String.ofList ((word.drop 3).dropWhile (· = '0'))))
  else if word.take 4 = "snan".toList ∧ (word.drop 4).all Char.isDigit then
    some (notNumber negative true (String.ofList ((word.drop 4).dropWhile (· = '0'))))
  else (DecimalNotation.readUnsigned? negative rest).map fun number =>
    finite number.negative number.digits number.exponent

end Decimal

end Letterpress
