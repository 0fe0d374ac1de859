import Letterpress.Text.Table.Word
import Letterpress.Text.Table.Identifier
import Letterpress.Text.Table.Printable

/-!
This file classifies characters as digits, letters of words and letters of identifiers.
-/

namespace Letterpress.Text

/-- The ASCII letters, digits and the underscore. -/
def isAsciiWord (character : Char) : Bool :=
  character.isAlphanum || character = '_'

/-- This is the value of a decimal digit of any script. -/
def decimalValue? (character : Char) : Option Nat :=
  if character.toNat < 128 then
    if character.isDigit then some (character.toNat - '0'.toNat) else none
  else
    (Table.decimalZeros.ranges.find? fun range =>
      range.1 ≤ character.toNat && character.toNat ≤ range.1 + 9).map
      fun range => character.toNat - range.1

def isDecimal (character : Char) : Bool :=
  (decimalValue? character).isSome

/-- A word is made of letters, numerals and underscores. -/
def isWord (character : Char) : Bool :=
  if character.toNat < 128 then isAsciiWord character
  else Table.alphanumeric.contains character

def isIdentifierStart (character : Char) : Bool :=
  if character.toNat < 128 then character.isAlpha || character = '_'
  else Table.identifierStart.contains character

def isIdentifierContinue (character : Char) : Bool :=
  if character.toNat < 128 then isAsciiWord character
  else Table.identifierContinue.contains character

def isPrintable (character : Char) : Bool :=
  if character.toNat < 128 then 0x20 ≤ character.toNat && character.toNat < 0x7f
  else Table.printable.contains character

/-- An identifier is a starting character followed by continuing ones. -/
def isIdentifier : List Char → Bool
  | [] => false
  | first :: rest => isIdentifierStart first && rest.all isIdentifierContinue

/-- The dollar sign counts as a letter of a segment. -/
def isSegmentStart (character : Char) : Bool :=
  character = '$' || isIdentifierStart character

/-- Inside a segment the dollar sign and the two joiners count as letters. -/
def isSegmentContinue (character : Char) : Bool :=
  character = '$' || character = '\u200c' || character = '\u200d' ||
    isIdentifierContinue character

/-- A segment of a path can be written bare, as an identifier of any script. -/
def isIdentifierSegment (text : String) : Bool :=
  match text.toList with
  | [] => false
  | first :: rest => isSegmentStart first && rest.all isSegmentContinue

def isAsciiIdentifierStart (character : Char) : Bool :=
  character.isAlpha || character = '_' || character = '$'

/-- An ASCII identifier may be followed by one line end. -/
def isAsciiIdentifier (text : String) : Bool :=
  match text.toList with
  | [] => false
  | first :: rest =>
      isAsciiIdentifierStart first &&
        match rest.dropWhile fun character => isAsciiWord character || character = '$' with
        | [] => true
        | ['\n'] => true
        | _ => false

end Letterpress.Text
