import Letterpress.Fault
import Letterpress.Number.Digits
import Letterpress.Value.Basic

/-!
This file names what can be wrong with stamps and words it.
-/

namespace Letterpress

inductive PlacementProblem (Length : Type)
  | malformed
  | missing
  | pageOutOfRange (index : Int) (count : Nat)
  | invalidSize (width height : Length)
  | missingX
  | missingY
  | atPosition (position : Nat) (problem : PlacementProblem Length)
  deriving DecidableEq, Repr

namespace PlacementProblem

variable {Length : Type}

/-- The position of a descriptor stands before what is wrong with it. -/
def message : PlacementProblem Length → String
  | malformed => "Could not parse placement JSON"
  | missing => "Missing stamp placements"
  | pageOutOfRange _ count =>
      "Page out of range (document has " ++ decimalText count ++ " pages)"
  | invalidSize .. => "Invalid stamp size"
  | missingX => "Placement is missing an x coordinate"
  | missingY => "Placement is missing a y coordinate"
  | atPosition position problem =>
      "Placement #" ++ decimalText position ++ ": " ++ problem.message

/-- The lengths in the details are written as values. -/
def details (wording : Wording) (write : Length → Value) :
    PlacementProblem Length → List (String × Value)
  | malformed => [("reason", .text wording.malformedJson)]
  | pageOutOfRange index count => [("page_index", .int index), ("page_count", .int count)]
  | invalidSize width height => [("width", write width), ("height", write height)]
  | atPosition position problem =>
      problem.details wording write ++ [("placement", .int position)]
  | _ => []

end PlacementProblem

inductive StampProblem
  | placement (problem : PlacementProblem Binary64)
  | missingImage
  | missingPages
  | unsupportedImage
  | unreadablePages
  | noStore
  | invalidPreview (id : String)
  | unknownPreview (id : String)
  deriving DecidableEq, Repr

namespace StampProblem

def kind : StampProblem → ProblemKind
  | placement _ => .placement
  | invalidPreview _ => .preview
  | unknownPreview _ => .preview
  | _ => .stampImage

def message (wording : Wording) : StampProblem → String
  | placement problem => problem.message
  | missingImage => "Missing stamp image (PNG/JPG)"
  | missingPages => "Missing PDF to stamp"
  | unsupportedImage => "Only PNG or JPG stamp images are supported"
  | unreadablePages => "Could not read PDF: " ++ wording.unreadablePages
  | noStore => "No preview store configured"
  | invalidPreview _ => "Invalid preview id"
  | unknownPreview _ => "Preview not found"

def details (wording : Wording) : StampProblem → List (String × Value)
  | placement problem => problem.details wording .real
  | invalidPreview id => [("preview_id", .text id)]
  | unknownPreview id => [("preview_id", .text id)]
  | _ => []

end StampProblem

/-- A stamping fails with a problem of its own or with a fault of an operation. -/
inductive StampFailure
  | problem (problem : StampProblem)
  | fault (fault : Fault)
  deriving DecidableEq, Repr

end Letterpress
