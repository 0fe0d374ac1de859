import Letterpress.Scope.Basic
import Letterpress.Script.Member

/-!
This file holds the machine that scripts run on and the operations through which they reach it.
-/

namespace Letterpress.Script

/-- The plain values of the scope are a record on the heap, which scripts see as `this`. An open
machine looks up the names that are missing from its scope in the shared one. -/
structure Machine where
  heap : Heap
  self : Reference
  bindings : Table Binding
  shared : Scope
  isOpen : Bool

namespace Machine

def scope (machine : Machine) : Scope := ⟨machine.heap.record machine.self, machine.bindings⟩

def setScope (machine : Machine) (scope : Scope) : Machine :=
  { machine with
    heap := machine.heap.setRecord machine.self scope.values
    bindings := scope.bindings }

def lookup? (machine : Machine) (name : String) : Option Value :=
  match machine.scope.lookup? name with
  | some value => some value
  | none => if machine.isOpen then machine.shared.lookup? name else none

/-- Before a run the helpers are installed. -/
def prepare (helpers : Helpers) (isOpen : Bool) (machine : Machine) : Machine :=
  { machine.setScope (machine.scope.ensure helpers) with isOpen := isOpen }

/-- After a run the helpers are reinstated. -/
def recover (helpers : Helpers) (machine : Machine) : Machine :=
  machine.setScope (machine.scope.reinstate helpers)

/-- A fresh machine has the values of a record and nothing bound, and it is closed. -/
def fresh (heap : Heap) (self : Reference) (shared : Scope) : Machine :=
  ⟨heap, self, Table.empty, shared, false⟩

/-- A machine starts with the given values in a new record. -/
def start (heap : Heap) (values : Table Value) (shared : Scope) : Machine :=
  let (self, filled) := heap.addRecord values
  fresh filled self shared

end Machine

/-- A script reaches its machine through these operations alone. A reading of the heap may fail,
and no operation takes a failure back. -/
class Scripting (M : Type → Type) extends Monad M where
  query : {Result : Type} → (Heap → Except Failure Result) → M Result
  self : M Reference
  lookup (name : String) : M Value
  assign (name : String) (value : Value) : M Unit
  delete (name : String) : M Bool
  newList (items : List Value) : M Value
  setMember (object key value : Value) : M Unit
  deleteMember (object key : Value) : M Bool

def Scripting.ofExcept {M : Type → Type} [Scripting M] {Result : Type}
    (result : Except Failure Result) : M Result :=
  query fun _ => result

/-- A run yields a result or a failure, and the machine in both cases. -/
abbrev Run := ExceptT Failure (StateM Machine)

namespace Run

/-- This reads the heap. -/
def query {Result : Type} (read : Heap → Except Failure Result) : Run Result := do
  ExceptT.mk (pure (read (← get).heap))

def setHeap (heap : Heap) : Run Unit := modify fun machine => { machine with heap := heap }

def lookup (name : String) : Run Value := do
  match (← get).lookup? name with
  | some value => return value
  | none => throw (.problem (.undefinedName name))

def assign (name : String) (value : Value) : Run Unit :=
  modify fun machine => machine.setScope (machine.scope.assign name value)

def delete (name : String) : Run Bool := do
  let machine ← get
  let (counts, scope) := machine.scope.delete name
  set (machine.setScope scope)
  return counts

def newList (items : List Value) : Run Value := do
  let (value, heap) := (← get).heap.addList items.toArray
  setHeap heap
  return value

def setMember (object key value : Value) : Run Unit := do
  setHeap (← query fun heap => Script.setMember heap object key value)

def deleteMember (object key : Value) : Run Bool := do
  let (counts, heap) ← query fun heap => Script.deleteMember heap object key
  setHeap heap
  return counts

instance : Scripting Run where
  query := query
  self := do return (← get).self
  lookup := lookup
  assign := assign
  delete := delete
  newList := newList
  setMember := setMember
  deleteMember := deleteMember

end Run

/-- This is the result of a run and the state after it. -/
def outcome {State Result : Type} (run : ExceptT Failure (StateM State) Result) (state : State) :
    Except Failure Result × State :=
  StateT.run (ExceptT.run run) state

theorem outcomePure {State Result : Type} (result : Result) (state : State) :
    outcome (pure result) state = (.ok result, state) := rfl

/-- After a failure nothing more is done. -/
theorem outcomeBind {State First Second : Type} (first : ExceptT Failure (StateM State) First)
    (next : First → ExceptT Failure (StateM State) Second) (state : State) :
    outcome (first >>= next) state =
      match outcome first state with
      | (.ok result, after) => outcome (next result) after
      | (.error failure, after) => (.error failure, after) := by
  unfold outcome StateT.run ExceptT.run
  simp only [bind, ExceptT.bind, ExceptT.mk, StateT.bind, ExceptT.bindCont]
  rcases first state with ⟨result, after⟩
  cases result <;> rfl

namespace Run

theorem outcomeQuery {Result : Type} (read : Heap → Except Failure Result) (machine : Machine) :
    outcome (query read) machine = (read machine.heap, machine) := rfl

theorem outcomeSelf (machine : Machine) :
    outcome (Scripting.self : Run Reference) machine = (.ok machine.self, machine) := rfl

theorem outcomeLookup (name : String) (machine : Machine) :
    outcome (lookup name) machine =
      (match machine.lookup? name with
        | some value => .ok value
        | none => .error (.problem (.undefinedName name)), machine) := by
  change outcome (match machine.lookup? name with
    | some value => pure value
    | none => throw (.problem (.undefinedName name))) machine = _
  cases machine.lookup? name <;> rfl

theorem outcomeAssign (name : String) (value : Value) (machine : Machine) :
    outcome (assign name value) machine =
      (.ok (), machine.setScope (machine.scope.assign name value)) := rfl

theorem outcomeDelete (name : String) (machine : Machine) :
    outcome (delete name) machine =
      (.ok (machine.scope.delete name).1, machine.setScope (machine.scope.delete name).2) := rfl

theorem outcomeNewList (items : List Value) (machine : Machine) :
    outcome (newList items) machine =
      (.ok (machine.heap.addList items.toArray).1,
        { machine with heap := (machine.heap.addList items.toArray).2 }) := rfl

theorem outcomeSetMember (object key value : Value) (machine : Machine) :
    outcome (setMember object key value) machine =
      match Script.setMember machine.heap object key value with
      | .ok heap => (.ok (), { machine with heap := heap })
      | .error failure => (.error failure, machine) := by
  rw [setMember, outcomeBind, outcomeQuery]
  cases Script.setMember machine.heap object key value <;> rfl

theorem outcomeDeleteMember (object key : Value) (machine : Machine) :
    outcome (deleteMember object key) machine =
      match Script.deleteMember machine.heap object key with
      | .ok (counts, heap) => (.ok counts, { machine with heap := heap })
      | .error failure => (.error failure, machine) := by
  rw [deleteMember, outcomeBind, outcomeQuery]
  cases Script.deleteMember machine.heap object key <;> rfl

end Run

end Letterpress.Script
