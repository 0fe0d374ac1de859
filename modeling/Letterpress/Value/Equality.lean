import Letterpress.Value.Coercion

/-!
This file compares values.
-/

namespace Letterpress

namespace Value

/-- The numbers among the values, truth values included. -/
def number? : Value → Option Number
  | bool value => some (.int (if value then 1 else 0))
  | int value => some (.int value)
  | real value => some (.real value)
  | _ => none

/-- A decimal is compared by its exact value. -/
def equalsDecimal (first : Decimal) (second : Value) : Except Fault Bool :=
  match second with
  | decimal other =>
      if first.isSignaling || other.isSignaling then .error .invalidOperation
      else match first, other with
        | .finite .., .finite .. => .ok (first.toRat = other.toRat)
        | .infinite one, .infinite two => .ok (one = two)
        | _, _ => .ok false
  | _ =>
      match second.number? with
      | none => .ok false
      | some number =>
          if first.isSignaling then .error .invalidOperation
          else match first, number with
            | .finite .., .int value => .ok (first.toRat = value)
            | .finite .., .real value => .ok (value.compareRat? first.toRat = some .eq)
            | .infinite one, .real (.infinite two) => .ok (one = two)
            | _, _ => .ok false

/-- Values that hold no other values are compared by what they denote. -/
def equalsPlain (first second : Value) : Except Fault Bool :=
  match first, second with
  | decimal value, _ => equalsDecimal value second
  | _, decimal value => equalsDecimal value first
  | moment one, moment two => .ok (one.isSame two)
  | _, _ =>
      match first.number?, second.number? with
      | some one, some two => .ok (one.compare? two = some .eq)
      | _, _ => .ok (first = second)

end Value

namespace Heap

/-- Two rows are equal when they have the same length and equal items; a value is equal to
itself. -/
def allEqual (equal : Value → Value → Except Fault Bool) :
    List Value → List Value → Except Fault Bool
  | [], [] => .ok true
  | first :: firsts, second :: seconds =>
      if first = second then allEqual equal firsts seconds
      else do
        if ← equal first second then allEqual equal firsts seconds else return false
  | _, _ => .ok false

/-- Every field of the first record has an equal field in the second. -/
def fieldsEqual (equal : Value → Value → Except Fault Bool) (other : Table Value) :
    List (String × Value) → Except Fault Bool
  | [] => .ok true
  | (name, value) :: rest =>
      match other.get? name with
      | none => .ok false
      | some second =>
          if value = second then fieldsEqual equal other rest
          else do
            if ← equal second value then fieldsEqual equal other rest else return false

/-- Containers of one kind are compared item by item. -/
def equalTo (heap : Heap) : Nat → Value → Value → Except Fault Bool
  | 0, _, _ => .error .tooDeep
  | depth + 1, first, second =>
      match first, second with
      | .list one, .list two =>
          if (heap.list one).size = (heap.list two).size then
            allEqual (equalTo heap depth) (heap.list one).toList (heap.list two).toList
          else .ok false
      | .tuple one, .tuple two =>
          allEqual (equalTo heap depth) (heap.tuple one).toList (heap.tuple two).toList
      | .record one, .record two =>
          let fields := (heap.record one).entries
          if fields.length = (heap.record two).entries.length then
            fieldsEqual (equalTo heap depth) (heap.record two) fields
          else .ok false
      | _, _ => first.equalsPlain second

/-- A comparison that goes this much deeper than any value without cycles is given up. -/
def comparisonMargin : Nat := 1000

/-- A comparison of two values that contain themselves may never end. -/
def equal (heap : Heap) (first second : Value) : Except Fault Bool :=
  heap.equalTo (heap.depthBound + comparisonMargin) first second

/-- Null equals only itself, and a text equals a number when it is coerced to it. -/
def looselyEqual (heap : Heap) (first second : Value) : Except Fault Bool :=
  match first, second with
  | .null, _ => .ok second.isNull
  | _, .null => .ok false
  | .text _, _ => compareAsNumbers first second
  | _, .text _ => compareAsNumbers first second
  | _, _ => heap.equal first second
where
  /-- A text and a number are compared as numbers. -/
  compareAsNumbers (first second : Value) : Except Fault Bool :=
    match first.number?, second.number? with
    | none, none => heap.equal first second
    | _, _ => do return (← first.operand).compare? (← second.operand) = some .eq

/-- Values of different kinds differ, but the two kinds of numbers are one. -/
def strictlyEqual (heap : Heap) (first second : Value) : Except Fault Bool :=
  match first, second with
  | .null, _ => .ok second.isNull
  | _, .null => .ok false
  | .bool one, .bool two => .ok (one = two)
  | .bool _, _ => .ok false
  | _, .bool _ => .ok false
  | _, _ =>
      match first.number?, second.number? with
      | some one, some two => .ok (one.compare? two = some .eq)
      | _, _ => if first.kindName = second.kindName then heap.equal first second else .ok false

end Heap

end Letterpress
