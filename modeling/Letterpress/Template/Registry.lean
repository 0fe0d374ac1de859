import Letterpress.Json.Reading
import Letterpress.Value.Display
import Letterpress.Value.OfJson

/-!
This file reads registries of templates, which are JSON documents written by hand.
-/

namespace Letterpress

structure Template where
  key : String
  file : String
  label : String
  category : String
  deriving DecidableEq, Repr

namespace Template

/-- The first of some values that is not empty is shown. -/
def shownOr (heap : Heap) (first second : Value) : Except Fault String :=
  heap.display (if heap.isEmpty first then second else first)

/-- An entry needs a key and a file. The key is the label as well unless there is another, and the
category is a general one. -/
def ofFields (heap : Heap) (fields : Table Value) : Except Fault (Option Template) :=
  let key := (fields.get? "key").getD .null
  let file := (fields.get? "file").getD .null
  if heap.isEmpty key || heap.isEmpty file then .ok none
  else do
    let keyText ← heap.display key
    let fileText ← heap.display file
    let label ← shownOr heap ((fields.get? "label").getD .null) key
    let category ← shownOr heap ((fields.get? "category").getD .null) (.text "general")
    return some ⟨keyText, fileText, label, category⟩

/-- Whatever is no record is left out. -/
def ofEntry (heap : Heap) : Value → Except Fault (Option Template)
  | .record reference => ofFields heap (heap.record reference)
  | _ => .ok none

def ofEntries (heap : Heap) : List Value → Except Fault (List Template)
  | [] => .ok []
  | entry :: rest => do
      let template ← ofEntry heap entry
      return template.toList ++ (← ofEntries heap rest)

/-- The entries of a registry are a list. A text or a record has entries too, but none of them is
a record. -/
def entries? (heap : Heap) : Value → Except Fault (List Value)
  | .list reference => .ok (heap.list reference).toList
  | .text _ => .ok []
  | .record _ => .ok []
  | _ => .error .wrongType

/-- A registry may lack entries, and a document of another shape has none. -/
def entriesOf (heap : Heap) : Value → Except Fault (List Value)
  | .record reference =>
      match (heap.record reference).get? "templates" with
      | some entries => entries? heap entries
      | none => .ok []
  | _ => .ok []

/-- The templates by their keys. A later entry of a key replaces the earlier one in its place. -/
def registry (templates : List Template) : Table Template :=
  Table.ofList (templates.map fun template => (template.key, template))

def ofDocument (document : Json) : Except Fault (Table Template) := do
  let (value, heap) := Heap.empty.addJson document
  return registry (← ofEntries heap (← entriesOf heap value))

end Template

end Letterpress
