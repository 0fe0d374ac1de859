import Letterpress.Text.Letter
import Letterpress.Text.Quoted

/-!
This file shows texts in messages: between quotes, with invisible characters escaped.
-/

namespace Letterpress.Text

/-- This is a number in hexadecimal digits of a fixed width. -/
def hexText (width value : Nat) : List Char :=
  let digits := (Nat.toDigits 16 value)
  List.replicate (width - digits.length) '0' ++ digits

/-- An escape has two, four or eight hexadecimal digits. -/
def numericEscape (character : Char) : List Char :=
  let code := character.toNat
  if code < 0x100 then '\\' :: 'x' :: hexText 2 code
  else if code < 0x10000 then '\\' :: 'u' :: hexText 4 code
  else '\\' :: 'U' :: hexText 8 code

def showCharacter (quotation character : Char) : List Char :=
  if character = quotation || character = '\\' then ['\\', character]
  else if character = '\n' then ['\\', 'n']
  else if character = '\r' then ['\\', 'r']
  else if character = '\t' then ['\\', 't']
  else if isPrintable character then [character]
  else numericEscape character

/-- Single quotes are used unless the text holds one and no double quote. -/
def shown (text : String) : String :=
  let characters := text.toList
  let quotation :=
    if characters.contains '\'' && !characters.contains '"' then '"' else '\''
  String.ofList (quotation :: (characters.flatMap (showCharacter quotation) ++ [quotation]))

end Letterpress.Text
