import Letterpress.Number.Digits
import Letterpress.Text.CodeRanges

/-!
This file fixes the characters of markup documents and of their names, and replaces the references
of character data by the characters that they stand for.
-/

namespace Letterpress.Markup

/-- A document holds tabs, line ends and all characters from the space on but two. -/
def isLegal (character : Char) : Bool :=
  let code := character.toNat
  code = 0x9 || code = 0xa || code = 0xd || (0x20 ≤ code && code ≤ 0xd7ff) ||
    (0xe000 ≤ code && code ≤ 0xfffd) || 0x10000 ≤ code

def isSpace (character : Char) : Bool :=
  character = ' ' || character = '\t' || character = '\n' || character = '\r'

def skipSpace (characters : List Char) : List Char := characters.dropWhile isSpace

/-- These ranges of code points may open a name. -/
def startRanges : List (Nat × Nat) :=
  [(0xc0, 0xd6), (0xd8, 0xf6), (0xf8, 0x2ff), (0x370, 0x37d), (0x37f, 0x1fff),
    (0x200c, 0x200d), (0x2070, 0x218f), (0x2c00, 0x2fef), (0x3001, 0xd7ff),
    (0xf900, 0xfdcf), (0xfdf0, 0xfffd), (0x10000, 0xeffff)]

/-- These ranges of code points may only continue a name. -/
def continueRanges : List (Nat × Nat) := [(0xb7, 0xb7), (0x300, 0x36f), (0x203f, 0x2040)]

def inRanges (ranges : List (Nat × Nat)) (character : Char) : Bool :=
  ranges.any fun range => range.1 ≤ character.toNat && character.toNat ≤ range.2

/-- The colon is left out, for it separates the two parts of a name. -/
def isNameStart (character : Char) : Bool :=
  character.isAlpha || character = '_' || inRanges startRanges character

def isNameContinue (character : Char) : Bool :=
  isNameStart character || character.isDigit || character = '-' || character = '.' ||
    inRanges continueRanges character

/-- A carriage return becomes a line feed, or vanishes before one. -/
def normalizeLine (character : Char) (next : Option Char) : List Char :=
  if character = '\r' then if next = some '\n' then [] else ['\n'] else [character]

/-- Line ends of all kinds become line feeds. -/
def normalizeLines (characters : List Char) : List Char :=
  (List.zipWith normalizeLine characters (characters.tail.map some ++ [none])).flatten

/-- These are the entities that every document knows. -/
def entity? (name : List Char) : Option Char :=
  if name = "amp".toList then some '&'
  else if name = "lt".toList then some '<'
  else if name = "gt".toList then some '>'
  else if name = "quot".toList then some '"'
  else if name = "apos".toList then some '\''
  else none

/-- A number stands for a legal character. -/
def legalCharacter? (code : Nat) : Option Char :=
  if code ≤ 0x10ffff ∧ ¬ (0xd800 ≤ code ∧ code < 0xe000) ∧ isLegal (Char.ofNat code) then
    some (Char.ofNat code)
  else none

def isHex (character : Char) : Bool := (Text.hexDigit? character).isSome

/-- This is the character of a reference, given what stands between the ampersand and the
semicolon. -/
def referenced? : List Char → Option Char
  | '#' :: 'x' :: digits =>
      if !digits.isEmpty && digits.all isHex then legalCharacter? (Text.readHex digits) else none
  | '#' :: digits =>
      if !digits.isEmpty && digits.all Char.isDigit then legalCharacter? (readDecimal digits)
      else none
  | name => entity? name

/-- Data is cut at ampersands; each piece but the first begins with a reference. -/
def decodePieces? : List (List Char) → Option (List Char)
  | [] => some []
  | piece :: rest =>
      let name := piece.takeWhile (· ≠ ';')
      match piece.drop name.length with
      | _ :: data =>
          match referenced? name, decodePieces? rest with
          | some character, some decoded => some (character :: data ++ decoded)
          | _, _ => none
      | [] => none

/-- Every ampersand has to begin a reference. -/
def decodeReferences? (data : List Char) : Option (List Char) :=
  match Text.splitWhere (· = '&') data with
  | [] => some []
  | first :: pieces => (decodePieces? pieces).map (first ++ ·)

end Letterpress.Markup
