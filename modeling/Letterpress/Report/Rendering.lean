import Letterpress.Markup.Document
import Letterpress.Part.Collapsing
import Letterpress.Part.Gathering
import Letterpress.Report.InsertedText
import Letterpress.Report.Item
import Letterpress.Script.Evaluation

/-!
This file renders the parts of a report. The commands of a part run in order on one root scope,
and what they insert is read again, so that a rendered part is well formed.
-/

namespace Letterpress.Report

open Script

/-- The settings of a rendering do not change while it goes on. -/
structure Settings where
  host : Host
  helpers : Helpers
  isOpen : Bool

/-- This is what the commands of a report change. -/
structure Session where
  heap : Heap
  root : Scope
  shared : Scope

/-- A rendering yields a result or a failure, and the session in both cases. -/
abbrev Rendering := ExceptT Failure (StateM Session)

namespace Rendering

/-- This is the result of a rendering and the session after it. -/
def outcome {Result : Type} (rendering : Rendering Result) (session : Session) :
    Except Failure Result × Session :=
  StateT.run (ExceptT.run rendering) session

def ofExcept {Result : Type} (result : Except Failure Result) : Rendering Result :=
  ExceptT.mk (pure result)

/-- A fault of an operation is a problem of the command. -/
def failureOf (code : String) : Script.Failure → Failure
  | .problem problem => .problem (.script problem)
  | .fault .tooDeep => .problem (.tooDeep code)
  | .fault fault => .problem (.failing code fault)

/-- A command sees the root scope with the variables of the loops around it. -/
def machineOf (session : Session) (loopValues : Table Value) : Machine :=
  { Machine.start session.heap (session.root.values.overlay loopValues) session.shared with
    bindings := session.root.bindings }

/-- These are the values after a command without the variables of the loops around it. -/
def valuesAfter (machine : Machine) (loopValues : Table Value) : Table Value :=
  machine.scope.values.filter fun name _ => !loopValues.contains name

/-- After a failure the root scope has the values from before. -/
def run (settings : Settings) (code : String) (loopValues : Table Value) : Rendering Value := do
  let session ← get
  let (result, after) := runProtected settings.host settings.helpers settings.isOpen code
    (machineOf session loopValues)
  match result with
  | .ok value =>
      set (⟨after.heap, ⟨valuesAfter after loopValues, after.bindings⟩, after.shared⟩ : Session)
      return value
  | .error failure =>
      set (⟨after.heap, ⟨session.root.values, after.bindings⟩, after.shared⟩ : Session)
      throw (failureOf code failure)

/-- In a loop the item goes by the name of the loop and its index by `$idx`. -/
def loopVariables (loopValues : Table Value) (itemName : String) (item : Value) (index : Nat) :
    Table Value :=
  (loopValues.insert ("$" ++ itemName) item).insert "$idx" (.int index)

/-- Only lists can be looped over; null stands for none. -/
def loopLength (session : Session) (itemName code : String) (items : Value) :
    Except Failure Nat :=
  match items, session.heap.items? items with
  | _, some found => .ok found.size
  | .null, none => .ok 0
  | _, none => .error (.problem (.notAList itemName code))

/-- An item is taken from the list when its turn comes. -/
def currentItem (session : Session) (items : Value) (index : Nat) : Value :=
  ((session.heap.items? items).getD #[]).getD index .null

def insertion (session : Session) (isInRun : Bool) (value : Value) :
    Except Failure (List Char) :=
  match insertedValue session.heap isInRun value with
  | .ok text => .ok text.toList
  | .error fault => .error (.fault fault)

/-- This repeats a step for a number of indices. -/
def repeated (step : Nat → Rendering (List Char)) : List Nat → Rendering (List Char)
  | [] => return []
  | index :: rest => do
      let first ← step index
      return first ++ (← repeated step rest)

mutual

/-- This is what an item of a report becomes. -/
def renderItem (settings : Settings) (loopValues : Table Value) : Item → Rendering (List Char)
  | .markup content => return content
  | .insert code isInRun => do
      let value ← run settings code loopValues
      ofExcept (insertion (← get) isInRun value)
  | .execute code => do
      let _ ← run settings code loopValues
      return []
  | .loop itemName code body => do
      let items ← run settings code loopValues
      let count ← ofExcept (loopLength (← get) itemName code items)
      repeated (fun index => do
        let item := currentItem (← get) items index
        renderItems settings (loopVariables loopValues itemName item index) body)
        (List.range count)
  | .choice code body => do
      let value ← run settings code loopValues
      if value.isTruthy then renderItems settings loopValues body else return []

def renderItems (settings : Settings) (loopValues : Table Value) :
    List Item → Rendering (List Char)
  | [] => return []
  | item :: rest => do
      let first ← renderItem settings loopValues item
      return first ++ (← renderItems settings loopValues rest)

end

end Rendering

/-- A part is prepared by gathering its commands and collapsing those that stand alone. -/
def preparePart (text : String) : Except Failure (List Char) :=
  match Markup.readDocument? text with
  | none => .error (.problem .malformedPart)
  | some root =>
      match Part.collapseCommands (Part.gatherCommands root) with
      | .ok prepared => .ok (Markup.writeDocument prepared)
      | .error fault => .error (.fault fault)

def Item.isMarkup : Item → Bool
  | .markup _ => true
  | _ => false

/-- One of a row of braces is opening and the next one closing. -/
def closesBrace : List Char → Bool
  | first :: second :: rest =>
      (first = '\x7b' && second = '\x7d') || closesBrace (second :: rest)
  | _ => false

/-- Somewhere two braces enclose a text without braces. -/
def holdsBraces (text : List Char) : Bool := closesBrace (text.filter Part.isBrace)

/-- Rendered markup has to be well formed. -/
def checkOutput (name : String) (markup : List Char) : Except Failure String :=
  let text := String.ofList markup
  if (Markup.readDocument? text).isSome then .ok text
  else .error (.problem (.malformedOutput name))

/-- The rendered text of a part, or none if it holds no commands. -/
def renderPart (settings : Settings) (name : String) (bytes : ByteArray) :
    Rendering (Option String) := do
  match String.fromUTF8? bytes with
  | none => return none
  | some text =>
      if !holdsBraces text.toList then return none
      let items ← Rendering.ofExcept ((preparePart text).bind itemsOf)
      if items.all Item.isMarkup then return none
      let markup ← Rendering.renderItems settings Table.empty items
      return some (← Rendering.ofExcept (checkOutput name markup))

end Letterpress.Report
