import Letterpress.Json.Reading
import Letterpress.Stamp.Descriptor
import Letterpress.Stamp.Problem
import Letterpress.Value.OfJson

/-!
This file reads the descriptors of a whole request, which may be given as JSON text.
-/

namespace Letterpress.Descriptor

def ofFault {Result : Type} : Except Fault Result → Except StampFailure Result
  | .ok result => .ok result
  | .error fault => .error (.fault fault)

/-- Whatever is no record is left out. -/
def ofItems (heap : Heap) : List Value → Except Fault (List (Descriptor Binary64))
  | [] => .ok []
  | .record reference :: rest => do
      let descriptor ← ofFields (heap.record reference)
      return descriptor :: (← ofItems heap rest)
  | _ :: rest => ofItems heap rest

/-- A value that is no list is the only item. -/
def ofDocument (heap : Heap) (document : Value) :
    Except StampFailure (List (Descriptor Binary64)) :=
  match document with
  | .list reference => ofFault (ofItems heap (heap.list reference).toList)
  | other => ofFault (ofItems heap [other])

/-- A blank text holds no descriptors. -/
def ofText (heap : Heap) (text : String) : Except StampFailure (List (Descriptor Binary64)) :=
  if Text.isBlankText text then .ok []
  else match Json.read text with
    | .ok document =>
        let (value, filled) := heap.addJson document
        ofDocument filled value
    | .error .malformed => .error (.problem (.placement .malformed))
    | .error .tooDeep => .error (.fault .tooDeep)

/-- Null holds no descriptors, and a text is read as JSON. -/
def parse (heap : Heap) : Value → Except StampFailure (List (Descriptor Binary64))
  | .null => .ok []
  | .text text => ofText heap text
  | document => ofDocument heap document

/-- In a request a tuple counts as a list. -/
def ofRequest (heap : Heap) : Value → Except StampFailure (List (Descriptor Binary64))
  | .tuple reference => ofFault (ofItems heap (heap.tuple reference).toList)
  | request => parse heap request

end Letterpress.Descriptor
