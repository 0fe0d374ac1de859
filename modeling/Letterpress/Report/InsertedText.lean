import Letterpress.Value.Text

/-!
This file writes values into markup. A value becomes text only, whatever it contains.
-/

namespace Letterpress.Report

/-- Of the control characters, the tab and the two line ends are legal in markup. -/
def isControl (character : Char) : Bool :=
  character.toNat < 0x20 && character ≠ '\t' && character ≠ '\n' && character ≠ '\r'

def escapeCharacter (character : Char) : List Char :=
  match character with
  | '&' => "&amp;".toList
  | '<' => "&lt;".toList
  | '>' => "&gt;".toList
  | other => [other]

/-- A line break in a run closes the run and opens another. -/
def lineBreak : List Char := "</w:t><w:br/><w:t xml:space=\"preserve\">".toList

/-- A line feed is a line break, together with a carriage return before it. -/
def breakLines : List Char → List Char
  | '\r' :: '\n' :: rest => lineBreak ++ breakLines rest
  | '\n' :: rest => lineBreak ++ breakLines rest
  | character :: rest => character :: breakLines rest
  | [] => []

/-- This is a text as it is inserted. -/
def insertedText (isInRun : Bool) (text : List Char) : List Char :=
  let escaped := (text.flatMap escapeCharacter).filter fun character => !isControl character
  if isInRun then breakLines escaped else escaped

/-- A value is inserted as its text. -/
def insertedValue (heap : Heap) (isInRun : Bool) (value : Value) : Except Fault String := do
  return String.ofList (insertedText isInRun (← heap.text value).toList)

end Letterpress.Report
