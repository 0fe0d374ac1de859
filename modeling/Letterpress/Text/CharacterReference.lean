import Letterpress.Fault
import Letterpress.Json.Reading
import Letterpress.Number.Digits
import Letterpress.Text.Table.Reference

/-!
This file decodes the character references of web pages. They are decoded once: what they stand
for is not read again.
-/

namespace Letterpress.Text.CharacterReference

/-- Codes of control characters from an old code page stand for printed ones. -/
def codePage : List Nat :=
  [0x20ac, 0x81, 0x201a, 0x192, 0x201e, 0x2026, 0x2020, 0x2021, 0x2c6, 0x2030, 0x160, 0x2039,
    0x152, 0x8d, 0x17d, 0x8f, 0x90, 0x2018, 0x2019, 0x201c, 0x201d, 0x2022, 0x2013, 0x2014,
    0x2dc, 0x2122, 0x161, 0x203a, 0x153, 0x9d, 0x17e, 0x178]

/-- Some codes stand for nothing. -/
def isVoid (code : Nat) : Bool :=
  (0x1 ≤ code && code ≤ 0x8) || code = 0xb || (0xe ≤ code && code ≤ 0x1f) || code = 0x7f ||
    (0xfdd0 ≤ code && code ≤ 0xfdef) || 0xfffe ≤ code % 0x10000

def ofCode (code : Nat) : List Char :=
  if code = 0 ∨ (0xd800 ≤ code ∧ code < 0xe000) ∨ 0x10ffff < code then ['\ufffd']
  else if 0x80 ≤ code ∧ code < 0xa0 then
    [Char.ofNat (codePage.getD (code - 0x80) code)]
  else if isVoid code then []
  else [Char.ofNat code]

/-- A semicolon after a reference belongs to it. -/
def dropSemicolon : List Char → List Char
  | ';' :: rest => rest
  | rest => rest

def isHex (character : Char) : Bool := (hexDigit? character).isSome

def isNameCharacter (character : Char) : Bool :=
  !(['\t', '\n', '\x0c', ' ', '<', '&', '#', ';'].contains character)

/-- A name has at most this many characters before its semicolon. -/
def longestName : Nat := 32

/-- The longest beginning of a name that is known, but at least two characters of it. -/
def knownBeginning? (name : List Char) : Nat → Option (List Char × List Char)
  | 0 => none
  | 1 => none
  | length + 1 =>
      match Table.namedReferences.lookup (name.take (length + 1)) with
      | some characters => some (characters, name.drop (length + 1))
      | none => knownBeginning? name length

/-- The names that markup itself uses are looked up first. -/
def named? (name : List Char) : Option (List Char) :=
  if name = "amp;".toList then some ['&']
  else if name = "lt;".toList then some ['<']
  else if name = "gt;".toList then some ['>']
  else Table.namedReferences.lookup name

/-- An unknown name stands for itself. -/
def ofName (name : List Char) : List Char :=
  match named? name with
  | some characters => characters
  | none =>
      match knownBeginning? name (name.length - 1) with
      | some (characters, rest) => characters ++ rest
      | none => '&' :: name

/-- What a reference stands for, and the number of characters that it takes after the ampersand.
A decimal code of too many digits has no value. -/
def read (characters : List Char) : Except Fault (List Char × Nat) :=
  match characters with
  | '#' :: mark :: rest =>
      if mark = 'x' ∨ mark = 'X' then
        let digits := rest.takeWhile isHex
        if digits.isEmpty then .ok (['&'], 0)
        else .ok (ofCode (readHex digits),
          characters.length - (dropSemicolon (rest.drop digits.length)).length)
      else
        let digits := (mark :: rest).takeWhile Char.isDigit
        if digits.isEmpty then .ok (['&'], 0)
        else if Json.maximalDigits < digits.length then .error .badValue
        else .ok (ofCode (readDecimal digits),
          characters.length - (dropSemicolon ((mark :: rest).drop digits.length)).length)
  | _ =>
      let name := (characters.take longestName).takeWhile isNameCharacter
      if name.isEmpty then .ok (['&'], 0)
      else
        let rest := characters.drop name.length
        let whole := if rest.head? = some ';' then name ++ [';'] else name
        .ok (ofName whole, whole.length)

/-- The first argument counts characters of a reference that are still to be passed. -/
def decodeFrom : Nat → List Char → Except Fault (List Char)
  | _, [] => .ok []
  | passed + 1, _ :: rest => decodeFrom passed rest
  | 0, character :: rest =>
      if character = '&' then do
        let (meaning, length) ← read rest
        return meaning ++ (← decodeFrom length rest)
      else do return character :: (← decodeFrom 0 rest)

def decode (characters : List Char) : Except Fault (List Char) := decodeFrom 0 characters

end Letterpress.Text.CharacterReference
