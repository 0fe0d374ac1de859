import Letterpress.Fault
import Letterpress.Part.Element
import Letterpress.Text.Blank
import Letterpress.Text.Keyword
import Letterpress.Text.Letter

/-!
This file replaces a row or a paragraph by its command when it holds nothing but the beginning
or the end of a block. Loops then repeat rows and paragraphs and leave no empty ones behind.
-/

namespace Letterpress.Part

open Markup

def endsWord : List Char → Bool
  | character :: _ => !Text.isWord character
  | [] => true

/-- A block keyword ends where a word ends. -/
def startsWithBlockKeyword (characters : List Char) : Bool :=
  ["FOR", "END-FOR", "IF", "END-IF"].any fun keyword =>
    ((Text.afterKeyword? keyword characters).map endsWord).getD false

/-- A structural text is one block command with nothing but blanks around it. -/
def isStructural (text : List Char) : Bool :=
  match Text.stripList text with
  | '\x7b' :: afterOpening =>
      let inside := afterOpening.takeWhile fun character =>
        character ≠ '\x7b' && character ≠ '\x7d'
      afterOpening.drop inside.length = ['\x7d'] &&
        startsWithBlockKeyword (inside.dropWhile Text.isBlank)
  | _ => false

mutual

/-- This collapses the rows inside of a node. -/
def collapseRowsInside : Node → Node
  | .element heading children => .element heading (collapseRows children)
  | node => node

def collapseRows : List Node → List Node
  | [] => []
  | node :: rest =>
      (if isOfKind .row node && isStructural (runText node) then
        .text (Text.stripList (runText node))
      else collapseRowsInside node) :: collapseRows rest

end

/-- A paragraph collapses unless it ends a section or is the last one left in a cell. -/
def collapses (isCell : Bool) (left : Nat) (node : Node) : Bool :=
  isOfKind .paragraph node && !(isCell && left = 1) && !holdsKind .section node &&
    isStructural (runText node)

mutual

/-- This collapses the paragraphs inside of a node. -/
def collapseParagraphsInside : Node → Node
  | .element heading children =>
      .element heading (collapseParagraphs (Kind.ofHeading heading = .cell)
        (children.countP (isOfKind .paragraph)) children)
  | node => node

/-- The number of paragraphs that are left counts those among the siblings that have not
collapsed. -/
def collapseParagraphs (isCell : Bool) (left : Nat) : List Node → List Node
  | [] => []
  | node :: rest =>
      if collapses isCell left node then
        .text (Text.stripList (runText node)) :: collapseParagraphs isCell (left - 1) rest
      else collapseParagraphsInside node :: collapseParagraphs isCell left rest

end

/-- The root is kept. A structural row cannot be replaced when nothing is around it. -/
def collapseCommands (root : Node) : Except Fault Node :=
  if isOfKind .row root && isStructural (runText root) then .error .missingAttribute
  else .ok (collapseParagraphsInside (collapseRowsInside root))

end Letterpress.Part
