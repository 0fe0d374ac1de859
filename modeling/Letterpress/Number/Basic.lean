import Letterpress.Fault
import Letterpress.Number.Shortest

/-!
This file holds the numbers of scripts: unbounded integers and binary64 numbers.
-/

namespace Letterpress

inductive Number
  | int (value : Int)
  | real (value : Binary64)
  deriving DecidableEq, Repr

namespace Number

/-- An integer beyond the finite binary64 numbers has no real counterpart. -/
def toReal : Number → Except Fault Binary64
  | int value => match Binary64.ofInt? value with
    | some number => .ok number
    | none => .error .overflow
  | real value => .ok value

def isZero : Number → Bool
  | int value => value = 0
  | real value => value.isZero

def isNotNumber : Number → Bool
  | int _ => false
  | real value => value.isNotNumber

def isNegative : Number → Bool
  | int value => value < 0
  | real value => value.isNegative

/-- This is the exact value of a finite number. -/
def toRat : Number → Rat
  | int value => value
  | real value => value.toRat

def negate : Number → Number
  | int value => int (-value)
  | real value => real value.negate

/-- Integers are combined exactly; any other pair is combined as real numbers. -/
def combine (exact : Int → Int → Int) (rounded : Binary64 → Binary64 → Binary64)
    (first second : Number) : Except Fault Number :=
  match first, second with
  | int left, int right => .ok (int (exact left right))
  | _, _ => do return real (rounded (← first.toReal) (← second.toReal))

def add : Number → Number → Except Fault Number := combine (· + ·) Binary64.add

def sub : Number → Number → Except Fault Number := combine (· - ·) Binary64.sub

def mul : Number → Number → Except Fault Number := combine (· * ·) Binary64.mul

/-- The quotient of two integers is rounded once. -/
def divInt (left right : Int) : Except Fault Number :=
  match Binary64.roundUnits ((left < 0) != (right < 0)) (left.natAbs * Binary64.one)
      right.natAbs with
  | .infinite _ => .error .overflow
  | number => .ok (real number)

/-- A quotient is always real. A division by zero gives an infinity with the sign of the
dividend, and no number when the dividend is zero. -/
def div (first second : Number) : Except Fault Number :=
  if second.isZero then
    if first.isZero || first.isNotNumber then .ok (real .notNumber)
    else do
      let dividend ← first.toReal
      return real (.infinite dividend.isNegative)
  else
    match first, second with
    | int left, int right => divInt left right
    | _, _ => do return real ((← first.toReal).div (← second.toReal))

/-- The remainder is always real and takes the sign of the dividend. -/
def remainder (first second : Number) : Except Fault Number :=
  if second.isZero then .ok (real .notNumber)
  else do
    let dividend ← first.toReal
    if dividend.isInfinite then return real .notNumber
    return real (dividend.remainder (← second.toReal))

/-- Numbers of both kinds are compared by their exact values. -/
def compare? : Number → Number → Option Ordering
  | int first, int second => some (compare first second)
  | int first, real second => (second.compareRat? first).map Ordering.swap
  | real first, int second => first.compareRat? second
  | real first, real second => first.compare? second

/-- An integer below `10 ^ 21` is written in full, and a larger one like a real number. -/
def plainText : Number → Except Fault String
  | int value => do
      let number ← (int value).toReal
      return if value.natAbs < tenPower 21 then integerText value else number.plainText
  | real value => .ok value.plainText

/-- This drops the fractional part; a number that is not finite has no integral part. -/
def truncate : Number → Except Fault Int
  | int value => .ok value
  | real .notNumber => .error .badValue
  | real (.infinite _) => .error .overflow
  | real value => .ok value.truncate

end Number

end Letterpress
