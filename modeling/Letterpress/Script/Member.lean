import Letterpress.Script.Host
import Letterpress.Script.Problem
import Letterpress.Value.Coercion

/-!
This file reads, writes and deletes the members of values.
-/

namespace Letterpress.Script

def liftFault {Result : Type} (result : Except Fault Result) : Except Failure Result :=
  result.mapError .fault

/-- A text key names its own field, and any other key names the field of its text. -/
def fieldName (heap : Heap) (key : Value) : Except Fault String :=
  match key with
  | .text name => .ok name
  | _ => heap.text key

/-- A key is coerced to a place below the given length. -/
def index? (key : Value) (length : Nat) : Except Fault (Option Nat) := do
  match ← key.toNumber? with
  | some number =>
      let place := number.truncate
      return if number.isIntegral ∧ 0 ≤ place ∧ place < length then some place.toNat else none
  | none => return none

/-- A member of a row is its length or an item. -/
def rowMember (length : Nat) (item : Nat → Value) (key : Value) : Except Fault Value :=
  if key = .text "length" then .ok (.int length)
  else do return ((← index? key length).map item).getD .null

/-- Names that begin with an underscore are private. -/
def isPublic (name : String) : Bool :=
  match name.toList with
  | [] => false
  | first :: _ => first ≠ '_'

/-- A missing member is null; null itself has no members. -/
def getMember (host : Host) (heap : Heap) (object key : Value) : Except Failure Value :=
  match object with
  | .null => do throw (.problem (.nullMember (← liftFault (heap.text key))))
  | .record reference => do
      let name ← liftFault (fieldName heap key)
      return ((heap.record reference).get? name).getD .null
  | .list reference =>
      let items := heap.list reference
      liftFault (rowMember items.size (fun place => items.getD place .null) key)
  | .tuple reference =>
      let items := heap.tuple reference
      liftFault (rowMember items.size (fun place => items.getD place .null) key)
  | .text content =>
      let characters := content.toList
      liftFault (rowMember characters.length
        (fun place => .text ((characters.drop place).headD ' ').toString) key)
  | _ =>
      match key with
      | .text name =>
          .ok (if isPublic name then (host.valueAttribute object name).getD .null else .null)
      | _ => .ok .null

def notSettable (heap : Heap) (object key : Value) : Except Failure Heap := do
  throw (.problem (.notSettable (← liftFault (heap.text key)) object.kindName))

/-- A record takes any field; a list takes a new item only in place of another. -/
def setMember (heap : Heap) (object key value : Value) : Except Failure Heap :=
  match object with
  | .record reference => do
      let name ← liftFault (fieldName heap key)
      return heap.setRecord reference ((heap.record reference).insert name value)
  | .list reference => do
      match ← liftFault (index? key (heap.list reference).size) with
      | some place => return heap.setItem reference place value
      | none => notSettable heap object key
  | _ => notSettable heap object key

/-- A key that may change, or that is a signaling decimal, cannot be searched for. -/
def isSearchable (heap : Heap) : Nat → Value → Bool
  | 0, _ => false
  | depth + 1, key =>
      match key with
      | .list _ => false
      | .record _ => false
      | .tuple reference => (heap.tuple reference).all (isSearchable heap depth)
      | .decimal value => !value.isSignaling
      | _ => true

/-- Only a field under its exact name is deleted. It counts unless it was null. -/
def deleteMember (heap : Heap) (object key : Value) : Except Failure (Bool × Heap) :=
  match object with
  | .record reference =>
      let fields := heap.record reference
      if fields.entries.isEmpty then .ok (false, heap)
      else if !isSearchable heap (heap.depthBound + 1) key then .error (.fault .wrongType)
      else match key with
        | .text name =>
            .ok (!((fields.get? name).getD .null).isNull,
              heap.setRecord reference (fields.erase name))
        | _ => .ok (false, heap)
  | _ => .ok (false, heap)

end Letterpress.Script
