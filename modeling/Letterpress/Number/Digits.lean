/-!
This file writes natural numbers in decimal digits and reads them.
-/

namespace Letterpress

/-- The decimal digits of a natural number, most significant first. -/
def decimalDigits (value : Nat) : List Char := Nat.toDigits 10 value

def decimalText (value : Nat) : String := String.ofList (decimalDigits value)

def integerText (value : Int) : String :=
  if value < 0 then "-" ++ decimalText value.natAbs else decimalText value.natAbs

/-- This reads decimal digits, most significant first. -/
def readDecimal (digits : List Char) : Nat :=
  digits.foldl (fun value digit => 10 * value + (digit.toNat - '0'.toNat)) 0

/-- This fills a text with zeros in front up to a width. -/
def padZeros (width : Nat) (digits : List Char) : List Char :=
  List.replicate (width - digits.length) '0' ++ digits

/-- Digits with a point before the last `places` of them. -/
def pointed (places : Nat) (digits : List Char) : List Char :=
  if places = 0 then digits
  else
    let padded := padZeros (places + 1) digits
    padded.take (padded.length - places) ++ '.' :: padded.drop (padded.length - places)

/-- The digits of an integer `digits * 10 ^ exponent`, or of a fraction in positional notation. -/
def positional (digits : List Char) (exponent : Int) : List Char :=
  if 0 ≤ exponent then
    if digits.all (· = '0') then ['0'] else digits ++ List.replicate exponent.toNat '0'
  else pointed (-exponent).toNat digits

end Letterpress
