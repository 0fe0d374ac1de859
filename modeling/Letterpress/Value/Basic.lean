import Letterpress.Calendar
import Letterpress.Number.Basic
import Letterpress.Number.Decimal
import Letterpress.Table

/-!
This file holds the values of scripts. Lists, tuples and records live on a heap and are shared
by reference; all other values are plain.
-/

namespace Letterpress

/-- This is the place of a container on the heap. -/
abbrev Reference := Nat

/-- An application's own object shows a text and the name of its kind. -/
structure HostObject where
  identity : Nat
  kind : String
  text : String
  deriving DecidableEq, Repr

/-- A callable is the built-in helper, a function of the application, or a method of a plain
value. -/
inductive Callable
  | helper
  | host (name : String)
  | isoDate (date : CalendarDate)
  | isoMoment (moment : Moment)
  | bitLength (value : Int)
  | isIntegral (value : Binary64)
  deriving DecidableEq, Repr

inductive Value
  | null
  | bool (value : Bool)
  | int (value : Int)
  | real (value : Binary64)
  | decimal (value : Decimal)
  | date (value : CalendarDate)
  | moment (value : Moment)
  | text (value : String)
  | list (reference : Reference)
  | tuple (reference : Reference)
  | record (reference : Reference)
  | function (value : Callable)
  | host (object : HostObject)
  deriving DecidableEq, Repr

instance : Inhabited Value := ⟨.null⟩

namespace Value

def isNull : Value → Bool
  | null => true
  | _ => false

def isCallable : Value → Bool
  | function _ => true
  | _ => false

/-- This is the name of the kind of a value, as messages show it. -/
def kindName : Value → String
  | null => "NoneType"
  | bool _ => "bool"
  | int _ => "int"
  | real _ => "float"
  | decimal _ => "Decimal"
  | date _ => "date"
  | moment _ => "datetime"
  | text _ => "str"
  | list _ => "list"
  | tuple _ => "tuple"
  | record _ => "dict"
  | function .helper => "function"
  | function (.host _) => "function"
  | function _ => "builtin_function_or_method"
  | host object => object.kind

/-- Null, false, the empty text, zero and the missing number are false; containers are true. -/
def isTruthy : Value → Bool
  | null => false
  | bool value => value
  | int value => value ≠ 0
  | real value => !value.isZero && !value.isNotNumber
  | text value => value ≠ ""
  | _ => true

def ofNumber : Number → Value
  | .int value => int value
  | .real value => real value

end Value

/-- A heap holds the containers of each kind. -/
structure Heap where
  lists : Array (Array Value)
  tuples : Array (Array Value)
  records : Array (Table Value)
  deriving Inhabited

namespace Heap

def empty : Heap := ⟨#[], #[], #[]⟩

def list (heap : Heap) (reference : Reference) : Array Value :=
  heap.lists.getD reference #[]

def tuple (heap : Heap) (reference : Reference) : Array Value :=
  heap.tuples.getD reference #[]

def record (heap : Heap) (reference : Reference) : Table Value :=
  heap.records.getD reference Table.empty

def addList (heap : Heap) (items : Array Value) : Value × Heap :=
  (.list heap.lists.size, { heap with lists := heap.lists.push items })

def addTuple (heap : Heap) (items : Array Value) : Value × Heap :=
  (.tuple heap.tuples.size, { heap with tuples := heap.tuples.push items })

/-- This places a new record and gives its reference. -/
def addRecord (heap : Heap) (fields : Table Value) : Reference × Heap :=
  (heap.records.size, { heap with records := heap.records.push fields })

def setRecord (heap : Heap) (reference : Reference) (fields : Table Value) : Heap :=
  { heap with records := heap.records.setIfInBounds reference fields }

/-- This replaces one item; the length of the list stays. -/
def setItem (heap : Heap) (reference : Reference) (index : Nat) (value : Value) : Heap :=
  { heap with
    lists := heap.lists.modify reference fun items => items.setIfInBounds index value }

/-- The number of containers bounds the depth of values that do not contain themselves. -/
def depthBound (heap : Heap) : Nat :=
  heap.lists.size + heap.tuples.size + heap.records.size + 1

/-- These are the items of a list or a tuple. -/
def items? (heap : Heap) : Value → Option (Array Value)
  | .list reference => some (heap.list reference)
  | .tuple reference => some (heap.tuple reference)
  | _ => none

/-- A value is empty when it holds nothing, or is zero, false or null. -/
def isEmpty (heap : Heap) : Value → Bool
  | .null => true
  | .bool value => !value
  | .int value => value = 0
  | .real value => value.isZero
  | .decimal value => value.isZero
  | .text value => value = ""
  | .list reference => (heap.list reference).isEmpty
  | .tuple reference => (heap.tuple reference).isEmpty
  | .record reference => (heap.record reference).entries.isEmpty
  | _ => false

end Heap

end Letterpress
