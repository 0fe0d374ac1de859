import Letterpress.Json.Reading
import Letterpress.Text.Shown
import Letterpress.Value.Basic

/-!
This file displays values in names and labels: words are capitalized, and texts inside of
containers stand between quotes.
-/

namespace Letterpress

namespace Value

/-- Inside of a container a text stands between quotes. -/
def displayPlain : Value → String
  | null => "None"
  | bool value => if value then "True" else "False"
  | int value => integerText value
  | real value => value.roundTripText
  | decimal value => value.text
  | date value => value.isoText
  | moment value => value.isoTextWith " " .automatic
  | text value => Text.shown value
  | host object => object.text
  | _ => "<function>"

end Value

namespace Heap

/-- A value inside of a container. One that contains itself is cut off. -/
def displayItem (heap : Heap) : Nat → Value → String
  | 0, .record _ => "\x7b...\x7d"
  | 0, _ => "[...]"
  | depth + 1, value =>
      match value with
      | .list reference =>
          "[" ++ String.intercalate ", "
            ((heap.list reference).toList.map (displayItem heap depth)) ++ "]"
      | .tuple reference =>
          match (heap.tuple reference).toList.map (displayItem heap depth) with
          | [single] => "(" ++ single ++ ",)"
          | items => "(" ++ String.intercalate ", " items ++ ")"
      | .record reference =>
          "\x7b" ++ String.intercalate ", " ((heap.record reference).entries.map fun entry =>
            Text.shown entry.1 ++ ": " ++ displayItem heap depth entry.2) ++ "\x7d"
      | plain => plain.displayPlain

/-- Outside of containers a text stands as it is. An integer of too many digits is not shown. -/
def display (heap : Heap) (value : Value) : Except Fault String :=
  match value with
  | .text text => .ok text
  | .int number =>
      if Json.maximalDigits < (decimalDigits number.natAbs).length then .error .badValue
      else .ok (integerText number)
  | other => .ok (heap.displayItem (heap.depthBound + 1) other)

end Heap

end Letterpress
