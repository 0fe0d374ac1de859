import Letterpress.Script.Machine
import Letterpress.Script.Method
import Letterpress.Script.Parser

/-!
This file runs scripts. A run changes the machine as it goes, and the changes that were made
before a failure stay.
-/

namespace Letterpress.Script

open Scripting

variable {M : Type → Type} [Scripting M]

/-- The exact order of two numbers answers a comparison; nothing holds of a missing number. -/
def holdsOf (operator : BinaryOperator) (ordering : Option Ordering) : Bool :=
  match operator, ordering with
  | .less, some .lt => true
  | .lessOrEqual, some .lt => true
  | .lessOrEqual, some .eq => true
  | .greater, some .gt => true
  | .greaterOrEqual, some .gt => true
  | .greaterOrEqual, some .eq => true
  | _, _ => false

/-- Two texts are ordered by their code points, any other values as numbers. -/
def compareValues (operator : BinaryOperator) (left right : Value) : Except Fault Bool :=
  match left, right with
  | .text first, .text second =>
      .ok (holdsOf operator
        (some (if first = second then .eq else if first < second then .lt else .gt)))
  | _, _ => do
      let first ← left.operand
      let second ← right.operand
      return holdsOf operator (first.compare? second)

def arithmetic (operation : Number → Number → Except Fault Number) (left right : Value) :
    Except Fault Value := do
  let first ← left.operand
  let second ← right.operand
  return Value.ofNumber (← operation first second)

/-- A sum with a text is the text of both. -/
def addValues (heap : Heap) (left right : Value) : Except Fault Value :=
  match left, right with
  | .text _, _ => joined
  | _, .text _ => joined
  | _, _ => arithmetic Number.add left right
where
  joined : Except Fault Value := do
    let first ← heap.text left
    return .text (first ++ (← heap.text right))

def applyBinary (heap : Heap) (operator : BinaryOperator) (left right : Value) :
    Except Fault Value :=
  match operator with
  | .add => addValues heap left right
  | .subtract => arithmetic Number.sub left right
  | .multiply => arithmetic Number.mul left right
  | .divide => arithmetic Number.div left right
  | .remainder => arithmetic Number.remainder left right
  | .equal => do return .bool (← heap.looselyEqual left right)
  | .notEqual => do return .bool (!(← heap.looselyEqual left right))
  | .identical => do return .bool (← heap.strictlyEqual left right)
  | .notIdentical => do return .bool (!(← heap.strictlyEqual left right))
  | comparison => do return .bool (← compareValues comparison left right)

def applyUnary (operator : UnaryOperator) (value : Value) : Except Fault Value :=
  match operator with
  | .not => .ok (.bool (!value.isTruthy))
  | .minus => do return Value.ofNumber (← value.operand).negate
  | .plus => do return Value.ofNumber (← value.operand)

/-- The left operand decides whether the right one is evaluated. -/
def needsRight (operator : LogicalOperator) (left : Value) : Bool :=
  match operator with
  | .and => left.isTruthy
  | .or => !left.isTruthy
  | .coalesce => left.isNull

/-- A call goes to a callable or to a method of a value. -/
inductive Callee
  | callable (callable : Callable)
  | method (receiver : Value) (name : String)

/-- A member that is missing may be a method of the value. -/
def memberCallee? (receiver key value : Value) : Option Callee :=
  match value, key with
  | .function callable, _ => some (.callable callable)
  | .null, .text name =>
      if (methodNames receiver).contains name then some (.method receiver name) else none
  | _, _ => none

def valueCallee? : Value → Option Callee
  | .function callable => some (.callable callable)
  | _ => none

def requireCallee (source : String) : Option Callee → M Callee
  | some callee => return callee
  | none => ofExcept (.error (.problem (.notCallable source)))

def invoke (host : Host) (callee : Callee) (arguments : List Value) : M Value :=
  match callee with
  | .callable callable =>
      query fun heap => liftFault (host.apply heap callable arguments)
  | .method receiver name => do
      match ← query fun heap => liftFault (callMethod heap receiver name arguments) with
      | .value value => return value
      | .list items => newList items

mutual

/-- Operands are evaluated from left to right, an assigned value before its target, and the
arguments of a call only when it can be called. -/
def evaluate (host : Host) : Expression → M Value
  | .literal literal => return literal.value
  | .name name => lookup name
  | .this => do return .record (← self)
  | .array items => do newList (← evaluateAll host items)
  | .member object key => do
      let receiver ← evaluate host object
      let name ← evaluate host key
      query fun heap => getMember host heap receiver name
  | .call (.member object key) arguments source => do
      let receiver ← evaluate host object
      let name ← evaluate host key
      let value ← query fun heap => getMember host heap receiver name
      let callee ← requireCallee source (memberCallee? receiver name value)
      invoke host callee (← evaluateAll host arguments)
  | .call callee arguments source => do
      let value ← evaluate host callee
      let callee ← requireCallee source (valueCallee? value)
      invoke host callee (← evaluateAll host arguments)
  | .unary operator operand => do
      let value ← evaluate host operand
      ofExcept (liftFault (applyUnary operator value))
  | .binary operator left right => do
      let first ← evaluate host left
      let second ← evaluate host right
      query fun heap => liftFault (applyBinary heap operator first second)
  | .logical operator left right => do
      let first ← evaluate host left
      if needsRight operator first then evaluate host right else return first
  | .conditional test consequent alternate => do
      let value ← evaluate host test
      if value.isTruthy then evaluate host consequent else evaluate host alternate
  | .assignName name value => do
      let result ← evaluate host value
      assign name result
      return result
  | .assignMember object key value => do
      let result ← evaluate host value
      let receiver ← evaluate host object
      let name ← evaluate host key
      Scripting.setMember receiver name result
      return result
termination_by structural expression => expression

def evaluateAll (host : Host) : List Expression → M (List Value)
  | [] => return []
  | first :: rest => do
      let value ← evaluate host first
      return value :: (← evaluateAll host rest)
termination_by structural expressions => expressions

end

def execute (host : Host) : Statement → M Value
  | .expression value => evaluate host value
  | .deleteName name => do return .bool (← delete name)
  | .deleteMember object key => do
      let receiver ← evaluate host object
      let name ← evaluate host key
      return .bool (← Scripting.deleteMember receiver name)

/-- The result is that of the last statement, or null. -/
def executeAll (host : Host) (result : Value) : Program → M Value
  | [] => return result
  | first :: rest => do executeAll host (← execute host first) rest

/-- A source is read as a whole before any of it runs. -/
def runSource (host : Host) (source : String) : M Value := do
  executeAll host .null (← ofExcept (parse source))

/-- The helpers are reinstated after a failure as well. -/
def runProtected (host : Host) (helpers : Helpers) (isOpen : Bool) (source : String)
    (machine : Machine) : Except Failure Value × Machine :=
  let (result, after) := outcome (runSource host source) (machine.prepare helpers isOpen)
  (result, after.recover helpers)

end Letterpress.Script
