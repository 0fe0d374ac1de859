import Letterpress.Number.Binary64
import Letterpress.Number.Digits
import Letterpress.Text.Blank
import Letterpress.Text.Letter

/-!
This file reads binary64 numbers from decimal notation.
-/

namespace Letterpress

/-- Decimal notation is a signed integer `digits` times a power of ten. -/
structure DecimalNotation where
  negative : Bool
  digits : Nat
  exponent : Int

namespace Binary64

/-- This rounds a decimal to the nearest number. A decimal far outside the range of the finite
numbers needs no arithmetic. -/
def ofNotation (number : DecimalNotation) : Binary64 :=
  if number.digits = 0 then zero number.negative
  else
    let magnitude := (decimalDigits number.digits).length + number.exponent
    if 400 < magnitude then infinite number.negative
    else if magnitude < -400 then zero number.negative
    else if 0 ≤ number.exponent then
      roundUnits number.negative
        (number.digits * tenPower number.exponent.toNat * one) 1
    else
      roundUnits number.negative (number.digits * one) (tenPower (-number.exponent).toNat)

end Binary64

namespace DecimalNotation

/-- An optional sign is split off. -/
def splitSign : List Char → Bool × List Char
  | '-' :: rest => (true, rest)
  | '+' :: rest => (false, rest)
  | characters => (false, characters)

/-- The exponent part is absent or is a letter, an optional sign and digits. -/
def readExponent? : List Char → Option Int
  | [] => some 0
  | letter :: rest =>
      if letter = 'e' ∨ letter = 'E' then
        let (negative, digits) := splitSign rest
        if digits.isEmpty ∨ !digits.all Char.isDigit then none
        else some (if negative then -(readDecimal digits : Int) else readDecimal digits)
      else none

/-- This reads digits with an optional point and an optional exponent. -/
def readUnsigned? (negative : Bool) (characters : List Char) : Option DecimalNotation :=
  let whole := characters.takeWhile Char.isDigit
  let afterWhole := characters.dropWhile Char.isDigit
  let (fraction, afterFraction) := match afterWhole with
    | '.' :: rest => (rest.takeWhile Char.isDigit, rest.dropWhile Char.isDigit)
    | _ => ([], afterWhole)
  if whole.isEmpty ∧ fraction.isEmpty then none
  else (readExponent? afterFraction).map fun exponent =>
    ⟨negative, readDecimal (whole ++ fraction), exponent - fraction.length⟩

end DecimalNotation

/-- Underscores may stand between two digits; they are left out. The flag tells whether the last
character was a digit. -/
def dropUnderscores (afterDigit : Bool) : List Char → Option (List Char)
  | [] => some []
  | '_' :: rest =>
      match rest with
      | next :: _ =>
          if afterDigit && next.isDigit then dropUnderscores false rest else none
      | [] => none
  | character :: rest =>
      (dropUnderscores character.isDigit rest).map (character :: ·)

/-- The digits of every script stand for the ASCII ones. -/
def toAsciiDigit (character : Char) : Char :=
  match decide (128 ≤ character.toNat), Text.decimalValue? character with
  | true, some value => Char.ofNat ('0'.toNat + value)
  | _, _ => character

def lowerAscii (characters : List Char) : List Char := characters.map Char.toLower

namespace Binary64

/-- This reads a sign followed by a decimal, an infinity or a not-a-number. -/
def readSigned? (characters : List Char) : Option Binary64 :=
  let (negative, rest) := DecimalNotation.splitSign characters
  let word := lowerAscii rest
  if word = "inf".toList ∨ word = "infinity".toList then some (infinite negative)
  else if word = "nan".toList then some notNumber
  else (DecimalNotation.readUnsigned? negative rest).map ofNotation

/-- White space around the number is ignored. -/
def read? (text : String) : Option Binary64 := do
  let characters ← dropUnderscores false ((Text.stripList text.toList).map toAsciiDigit)
  readSigned? characters

end Binary64

end Letterpress
