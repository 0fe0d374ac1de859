import Letterpress.Number.Decimal
import Letterpress.Stamp.Placement

/-!
This file stamps an image on pages. All stamps are placed before any of them is drawn.
-/

namespace Letterpress

/-- A page knows its corners as exact decimals. -/
structure Page where
  left : Decimal
  bottom : Decimal
  right : Decimal
  top : Decimal
  deriving DecidableEq, Repr

namespace Page

def width (page : Page) : Binary64 := Binary64.ofRat (page.right.toRat - page.left.toRat)

def height (page : Page) : Binary64 := Binary64.ofRat (page.top.toRat - page.bottom.toRat)

end Page

/-- A content is a document of pages, or bytes that are none. -/
inductive Content
  | pages (pages : List Page)
  | bytes (content : ByteArray)

namespace Content

def isEmpty : Content → Bool
  | pages _ => false
  | bytes content => content.isEmpty

def pages? : Content → Option (List Page)
  | pages found => some found
  | bytes _ => none

end Content

/-- An image knows its size in points. -/
structure Image where
  content : ByteArray
  width : Nat
  height : Nat

inductive ImageFormat
  | png
  | jpg
  deriving DecidableEq, Repr

def ImageFormat.name : ImageFormat → String
  | png => "png"
  | jpg => "jpg"

/-- The first bytes tell the format. The signature of the first one has eight bytes, of which four
are compared. -/
def ImageFormat.ofBytes? (content : ByteArray) : Option ImageFormat :=
  let bytes := content.toList
  if 8 ≤ bytes.length ∧ bytes.take 4 = [0x89, 0x50, 0x4e, 0x47] then some png
  else if bytes.take 2 = [0xff, 0xd8] then some jpg
  else none

def Image.natural (image : Image) : Binary64 × Binary64 :=
  (Binary64.ofRat image.width, Binary64.ofRat image.height)

/-- A stamped page has the rectangles of its stamps, in the order of the request. -/
structure StampedPage where
  page : Page
  stamps : List (Placement Binary64)

/-- The placements of a request are gathered by their pages. A page comes where it is first
named. -/
abbrev PageStamps := List (Nat × List (Placement Binary64))

namespace PageStamps

/-- A placement comes after the others of its page. -/
def add (placement : Placement Binary64) : PageStamps → PageStamps
  | [] => [(placement.page, [placement])]
  | (page, stamps) :: rest =>
      if page = placement.page then (page, stamps ++ [placement]) :: rest
      else (page, stamps) :: add placement rest

def ofPlacements (placements : List (Placement Binary64)) : PageStamps :=
  placements.foldl (fun stamps placement => add placement stamps) []

end PageStamps

namespace StampedPage

def isStamped (stamped : StampedPage) : Bool := !stamped.stamps.isEmpty

/-- This draws the gathered placements on their pages. A page that is not named gets none. -/
def ofStamps (pages : List Page) (stamps : PageStamps) : List StampedPage :=
  pages.mapIdx fun index page => ⟨page, (stamps.lookup index).getD []⟩

/-- This draws every placement on its page. -/
def ofPlacements (pages : List Page) (placements : List (Placement Binary64)) :
    List StampedPage :=
  ofStamps pages (PageStamps.ofPlacements placements)

end StampedPage

def stampPages (pages : List Page) (image : Image) (descriptors : List (Descriptor Binary64)) :
    Except StampFailure (List StampedPage) :=
  match Descriptor.resolveAll descriptors (pages.map Page.height) image.natural with
  | .ok placements => .ok (StampedPage.ofPlacements pages placements)
  | .error problem => .error (.problem (.placement problem))

/-- Nothing is drawn unless there are descriptors, an image of a known format and pages. -/
def stamp (content : Content) (image : Image) (descriptors : List (Descriptor Binary64)) :
    Except StampFailure (List StampedPage) :=
  if descriptors.isEmpty then .error (.problem (.placement .missing))
  else if image.content.isEmpty then .error (.problem .missingImage)
  else if content.isEmpty then .error (.problem .missingPages)
  else match ImageFormat.ofBytes? image.content, content.pages? with
    | none, _ => .error (.problem .unsupportedImage)
    | some _, none => .error (.problem .unreadablePages)
    | some _, some pages => stampPages pages image descriptors

end Letterpress
