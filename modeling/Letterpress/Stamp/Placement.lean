import Letterpress.Stamp.Descriptor
import Letterpress.Stamp.Problem

/-!
This file turns descriptors into rectangles on pages. Lengths are measured from the lower left
corner of a page.
-/

namespace Letterpress

/-- The rectangle of one stamp. -/
structure Placement (Length : Type) where
  page : Nat
  x : Length
  y : Length
  width : Length
  height : Length
  deriving DecidableEq, Repr

namespace Descriptor

variable {Length : Type} [Measure Length]

/-- Indices begin at zero and numbers at one. Without either it is the first page. -/
def requestedPage (descriptor : Descriptor Length) : Int :=
  match descriptor.pageIndex, descriptor.pageNumber with
  | some index, _ => Measure.truncate index
  | none, some number => Measure.truncate (number - Measure.one)
  | none, none => 0

def page (descriptor : Descriptor Length) (count : Nat) :
    Except (PlacementProblem Length) Nat :=
  let index := descriptor.requestedPage
  if 0 ≤ index ∧ index < count then .ok index.toNat else .error (.pageOutOfRange index count)

def ratio (numerator denominator : Length) : Length :=
  if Measure.isZero denominator then Measure.missing else numerator / denominator

/-- A missing side follows from the other one and the natural size. -/
def unscaledSize (descriptor : Descriptor Length) (natural : Length × Length) :
    Length × Length :=
  match descriptor.width, descriptor.height with
  | some width, some height => (width, height)
  | some width, none => (width, natural.2 * ratio width natural.1)
  | none, some height => (natural.1 * ratio height natural.2, height)
  | none, none => natural

/-- Only a positive scale counts. -/
def scaledSize (descriptor : Descriptor Length) (size : Length × Length) : Length × Length :=
  match descriptor.scale with
  | some scale =>
      if Measure.isPositive scale then (size.1 * scale, size.2 * scale) else size
  | none => size

def isSide (length : Length) : Bool := Measure.isFinite length && Measure.isPositive length

def size (descriptor : Descriptor Length) (natural : Length × Length) :
    Except (PlacementProblem Length) (Length × Length) :=
  let found := descriptor.scaledSize (descriptor.unscaledSize natural)
  if isSide found.1 && isSide found.2 then .ok found
  else .error (.invalidSize found.1 found.2)

/-- The left edge is given or follows from the center. -/
def left? (descriptor : Descriptor Length) (width : Length) : Option Length :=
  match descriptor.x, descriptor.centerX with
  | some x, _ => some x
  | none, some center => some (center - width / Measure.two)
  | none, none => none

/-- This is the lower edge of a stamp whose upper edge lies below the top of the page. -/
def belowTop (pageHeight distance height : Length) : Length := pageHeight - distance - height

/-- From the upper corner the bottom is measured downwards. -/
def lower? (descriptor : Descriptor Length) (pageHeight height : Length) : Option Length :=
  match descriptor.bottom, descriptor.top, descriptor.centerY with
  | some bottom, _, _ =>
      some (if descriptor.origin = "top-left" then belowTop pageHeight bottom height else bottom)
  | none, some top, _ => some (belowTop pageHeight top height)
  | none, none, some center => some (center - height / Measure.two)
  | none, none, none => none

def position (descriptor : Descriptor Length) (pageHeight : Length) (size : Length × Length) :
    Except (PlacementProblem Length) (Length × Length) :=
  match descriptor.left? size.1, descriptor.lower? pageHeight size.2 with
  | none, _ => .error .missingX
  | some _, none => .error .missingY
  | some x, some y => .ok (x, y)

/-- The page is resolved before the size and the size before the position. -/
def resolve (descriptor : Descriptor Length) (pageHeights : List Length)
    (natural : Length × Length) : Except (PlacementProblem Length) (Placement Length) := do
  let page ← descriptor.page pageHeights.length
  let size ← descriptor.size natural
  let (x, y) ← descriptor.position (pageHeights.getD page Measure.missing) size
  return ⟨page, x, y, size.1, size.2⟩

/-- The first descriptor that cannot be resolved spoils all. Positions begin at one. -/
def resolveFrom (pageHeights : List Length) (natural : Length × Length) (position : Nat) :
    List (Descriptor Length) → Except (PlacementProblem Length) (List (Placement Length))
  | [] => .ok []
  | descriptor :: rest =>
      match descriptor.resolve pageHeights natural with
      | .error problem => .error (.atPosition position problem)
      | .ok placement =>
          (resolveFrom pageHeights natural (position + 1) rest).map (placement :: ·)

def resolveAll (descriptors : List (Descriptor Length)) (pageHeights : List Length)
    (natural : Length × Length) : Except (PlacementProblem Length) (List (Placement Length)) :=
  resolveFrom pageHeights natural 1 descriptors

end Descriptor

end Letterpress
