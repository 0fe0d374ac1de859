/-!
This file holds sets of characters that are given as ranges of code points.
-/

namespace Letterpress.Text

/-- This is the value of one hexadecimal digit. -/
def hexDigit? (character : Char) : Option Nat :=
  if '0' ≤ character ∧ character ≤ '9' then some (character.toNat - '0'.toNat)
  else if 'a' ≤ character ∧ character ≤ 'f' then some (character.toNat - 'a'.toNat + 10)
  else if 'A' ≤ character ∧ character ≤ 'F' then some (character.toNat - 'A'.toNat + 10)
  else none

/-- This reads the leading hexadecimal digits, most significant first. -/
def readHex (digits : List Char) : Nat :=
  digits.foldl (fun value digit => 16 * value + (hexDigit? digit).getD 0) 0

/-- A separator begins a new segment, and any other character is put in front of the first. -/
def addToSegments (isSeparator : Char → Bool) (character : Char) (segments : List (List Char)) :
    List (List Char) :=
  if isSeparator character then [] :: segments
  else match segments with
    | [] => [[character]]
    | first :: others => (character :: first) :: others

/-- This splits a text at every character that satisfies the test. -/
def splitWhere (isSeparator : Char → Bool) (characters : List Char) : List (List Char) :=
  characters.foldr (addToSegments isSeparator) [[]]

/-- These are the words of a table that is written with spaces and line ends. -/
def tableWords (text : String) : List (List Char) :=
  (splitWhere (fun character => character = ' ' || character = '\n') text.toList).filter
    fun word => !word.isEmpty

/-- A set of characters is a list of closed ranges of code points. -/
structure CodeRanges where
  ranges : List (Nat × Nat)

namespace CodeRanges

/-- This reads ranges such as `41-5a` and single code points such as `5f`. -/
def ofText (text : String) : CodeRanges :=
  ⟨(tableWords text).map fun word =>
    match splitWhere (· = '-') word with
    | [first, last] => (readHex first, readHex last)
    | _ => (readHex word, readHex word)⟩

def contains (set : CodeRanges) (character : Char) : Bool :=
  set.ranges.any fun range => range.1 ≤ character.toNat && character.toNat ≤ range.2

end CodeRanges

end Letterpress.Text
