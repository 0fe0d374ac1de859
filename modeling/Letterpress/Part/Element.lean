import Letterpress.Markup.Writing

/-!
This file tells apart the elements of a text document and reads and sets the text that they
begin with.
-/

namespace Letterpress.Part

open Markup

/-- The elements of text documents have this address. -/
def wordAddress : List Char :=
  "http://schemas.openxmlformats.org/wordprocessingml/2006/main".toList

/-- Rows and cells belong to tables; a run is an element that holds text. -/
inductive Kind
  | run
  | paragraph
  | row
  | cell
  | section
  | other
  deriving DecidableEq, Repr

def Kind.ofHeading (heading : Heading) : Kind :=
  if heading.address ≠ wordAddress then .other
  else if heading.name.base = "t".toList then .run
  else if heading.name.base = "p".toList then .paragraph
  else if heading.name.base = "tr".toList then .row
  else if heading.name.base = "tc".toList then .cell
  else if heading.name.base = "sectPr".toList then .section
  else .other

/-- This is the text before the first child that is no text. -/
def leadingText : List Node → List Char
  | .text content :: rest => content ++ leadingText rest
  | _ => []

def dropLeadingText : List Node → List Node
  | .text _ :: rest => dropLeadingText rest
  | children => children

/-- An empty text is a child too. -/
def setLeadingText (content : List Char) (children : List Node) : List Node :=
  .text content :: dropLeadingText children

/-- The name of the attribute that tells how blanks are treated. -/
def spaceName : QualifiedName := ⟨"xml".toList, "space".toList⟩

/-- An attribute keeps its place, and a new one comes last. -/
def preserveSpace (heading : Heading) : Heading :=
  let preserving : Attribute := ⟨spaceName, "preserve".toList⟩
  if heading.attributes.any fun found => found.name = spaceName then
    { heading with attributes := heading.attributes.map fun found =>
        if found.name = spaceName then preserving else found }
  else { heading with attributes := heading.attributes ++ [preserving] }

mutual

/-- This is the text of all runs of an element. -/
def runText : Node → List Char
  | .element heading children =>
      (if Kind.ofHeading heading = .run then leadingText children else []) ++ runTextAll children
  | _ => []

def runTextAll : List Node → List Char
  | [] => []
  | node :: rest => runText node ++ runTextAll rest

end

mutual

/-- This tells whether an element is of a kind or holds one that is. -/
def holdsKind (kind : Kind) : Node → Bool
  | .element heading children => Kind.ofHeading heading = kind || holdsKindAll kind children
  | _ => false

def holdsKindAll (kind : Kind) : List Node → Bool
  | [] => false
  | node :: rest => holdsKind kind node || holdsKindAll kind rest

end

def isOfKind (kind : Kind) : Node → Bool
  | .element heading _ => Kind.ofHeading heading = kind
  | _ => false

end Letterpress.Part
