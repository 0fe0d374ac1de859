import Letterpress.Json.Basic
import Letterpress.Value.Basic

/-!
This file places JSON documents on the heap.
-/

namespace Letterpress.Heap

mutual

/-- This is the value of a document. Of two fields with one name the later one counts. -/
def addJson (heap : Heap) : Json → Value × Heap
  | .null => (.null, heap)
  | .bool value => (.bool value, heap)
  | .int value => (.int value, heap)
  | .real value => (.real value, heap)
  | .text value => (.text value, heap)
  | .array items =>
      let (values, after) := addJsonItems heap items
      after.addList values.toArray
  | .object fields =>
      let (values, after) := addJsonFields heap fields
      let (reference, filled) := after.addRecord (Table.ofList values)
      (.record reference, filled)

def addJsonItems (heap : Heap) : List Json → List Value × Heap
  | [] => ([], heap)
  | item :: rest =>
      let (value, after) := addJson heap item
      let (values, filled) := addJsonItems after rest
      (value :: values, filled)

def addJsonFields (heap : Heap) : List (String × Json) → List (String × Value) × Heap
  | [] => ([], heap)
  | (name, item) :: rest =>
      let (value, after) := addJson heap item
      let (values, filled) := addJsonFields after rest
      ((name, value) :: values, filled)

end

end Letterpress.Heap
