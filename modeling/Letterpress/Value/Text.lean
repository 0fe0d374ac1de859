import Letterpress.Json.Reading
import Letterpress.Value.Basic

/-!
This file writes values as texts.
-/

namespace Letterpress.Heap

/-- These are the texts of all items, or none if one of them has none. -/
def gather (write : Value → Option String) : List Value → Option (List String)
  | [] => some []
  | value :: rest =>
      match write value with
      | none => none
      | some text => (gather write rest).map (text :: ·)

/-- These are the texts of all fields with their quoted names. -/
def gatherFields (write : Value → Option String) : List (String × Value) → Option (List String)
  | [] => some []
  | (name, value) :: rest =>
      match write value with
      | none => none
      | some text => (gatherFields write rest).map ((Text.quote name ++ ":" ++ text) :: ·)

/-- This is the JSON text of a value. A value that contains itself has none, and neither has a
function, a host object or an integer of too many digits. -/
def jsonText (heap : Heap) : Nat → Value → Option String
  | 0, _ => none
  | depth + 1, value =>
      match value with
      | .null => some "null"
      | .bool value => some (if value then "true" else "false")
      | .int value =>
          if Json.maximalDigits < (decimalDigits value.natAbs).length then none
          else some (integerText value)
      | .real value => some (Json.realText value)
      | .decimal value => if value.isSignaling then none else some (Json.realText value.toBinary64)
      | .date value => some (Text.quote value.isoText)
      | .moment value => some (Text.quote value.isoText)
      | .text value => some (Text.quote value)
      | .list reference => array depth (heap.list reference)
      | .tuple reference => array depth (heap.tuple reference)
      | .record reference =>
          (gatherFields (jsonText heap depth) (heap.record reference).entries).map fun texts =>
            "\x7b" ++ String.intercalate "," texts ++ "\x7d"
      | .function _ => none
      | .host _ => none
where
  array (depth : Nat) (items : Array Value) : Option String :=
    (gather (jsonText heap depth) items.toList).map fun texts =>
      "[" ++ String.intercalate "," texts ++ "]"

/-- This joins the texts of all items. -/
def joinTexts (write : Value → Except Fault String) : List Value → Except Fault (List String)
  | [] => .ok []
  | value :: rest => do
      let text ← write value
      return text :: (← joinTexts write rest)

/-- The text of a list is the texts of its items in a row, and that of a record is its JSON
text, or nothing if it has none. A list that contains itself has no text. -/
def textTo (heap : Heap) : Nat → Value → Except Fault String
  | 0, _ => .error .tooDeep
  | depth + 1, value =>
      match value with
      | .null => .ok ""
      | .bool value => .ok (if value then "true" else "false")
      | .int value => (Number.int value).plainText
      | .real value => .ok value.plainText
      | .decimal value => .ok (if value.isFinite then value.text else "")
      | .date value => .ok value.isoText
      | .moment value => .ok value.isoText
      | .text value => .ok value
      | .list reference => do
          return String.join (← joinTexts (textTo heap depth) (heap.list reference).toList)
      | .tuple reference => do
          return String.join (← joinTexts (textTo heap depth) (heap.tuple reference).toList)
      | .record reference =>
          .ok ((heap.jsonText (heap.depthBound + 1) (.record reference)).getD "")
      | .function _ => .ok "<function>"
      | .host object => .ok object.text

/-- This is the text that a document shows for a value. -/
def text (heap : Heap) (value : Value) : Except Fault String :=
  heap.textTo (heap.depthBound + 1) value

end Letterpress.Heap
