/-!
This file writes texts between double quotes, with the special characters escaped.
-/

namespace Letterpress.Text

def hexCharacter (digit : Nat) : Char :=
  if digit < 10 then Char.ofNat ('0'.toNat + digit) else Char.ofNat ('a'.toNat + digit - 10)

/-- A control character is written with four hexadecimal digits. -/
def unicodeEscape (code : Nat) : List Char :=
  ['\\', 'u', hexCharacter (code / 4096 % 16), hexCharacter (code / 256 % 16),
    hexCharacter (code / 16 % 16), hexCharacter (code % 16)]

/-- The quote, the backslash and the control characters are escaped. -/
def quoteCharacter (character : Char) : List Char :=
  if character = '"' then ['\\', '"']
  else if character = '\\' then ['\\', '\\']
  else if character = '\n' then ['\\', 'n']
  else if character = '\r' then ['\\', 'r']
  else if character = '\t' then ['\\', 't']
  else if character = '\x08' then ['\\', 'b']
  else if character = '\x0c' then ['\\', 'f']
  else if character.toNat < 0x20 then unicodeEscape character.toNat
  else [character]

def quoteList (characters : List Char) : List Char :=
  '"' :: (characters.flatMap quoteCharacter ++ ['"'])

def quote (text : String) : String := String.ofList (quoteList text.toList)

end Letterpress.Text
