import Letterpress.Archive.Basic
import Letterpress.Markup.Document
import Letterpress.Part.Element
import Letterpress.Text.Blank

/-!
This file makes a sample template and shows the texts of documents.
-/

namespace Letterpress.Sample

open Letterpress.Markup Letterpress.Part

/-- An element of a text document without attributes. -/
def element (base : String) (children : List Node) : Node :=
  .element ⟨⟨"w".toList, base.toList⟩, wordAddress, [], []⟩ children

/-- Tabs and line ends inside of a text are elements of their own. -/
def isBreak (character : Char) : Bool :=
  character = '\t' || character = '\n' || character = '\r'

def breakElement (character : Char) : Node :=
  element (if character = '\t' then "tab" else "br") []

def textElement (text : List Char) : List Node :=
  if text.isEmpty then [] else [element "t" [.text text]]

/-- The characters before a break are one text. -/
def runContent : List Char → List Char → List Node
  | pending, [] => textElement pending.reverse
  | pending, character :: rest =>
      if isBreak character then
        textElement pending.reverse ++ breakElement character :: runContent [] rest
      else runContent (character :: pending) rest

def run (text : String) : Node := element "r" (runContent [] text.toList)

def paragraph (texts : List String) : Node := element "p" (texts.map run)

def cell (text : String) : Node :=
  element "tc" [paragraph (if text = "" then [] else [text])]

def row (texts : List String) : Node := element "tr" (texts.map cell)

/-- The rows between the marks are repeated for each item. -/
def rows : List Node :=
  [row ["Item", "Price"], row ["[#items]", ""], row ["[name]", "[price]"], row ["[/items]", ""]]

/-- The heading of a sample is the label of its template. -/
def body (label : String) : List Node :=
  [paragraph [label], paragraph ["Customer: ", "[customer.name]"],
    paragraph ["Issue date: ", "[issueDate]"], element "tbl" rows,
    paragraph ["Notes: \x7bc(this.notes, '-')\x7d"], element "sectPr" []]

def root (label : String) : Node :=
  .element ⟨⟨"w".toList, "document".toList⟩, wordAddress, [("w".toList, wordAddress)], []⟩
    [element "body" (body label)]

def documentName : String := "word/document.xml"

/-- A label is a text of legal characters. -/
def archive (label : String) : Except Fault Archive :=
  if label.toList.all isLegal then
    .ok [⟨documentName, (String.ofList (writeDocument (root label))).toUTF8⟩]
  else .error .badValue

/-! The texts of a document are shown by its paragraphs and by its rows. -/

def children : Node → List Node
  | .element _ inner => inner
  | _ => []

def hasName (base : String) : Node → Bool
  | .element heading _ => heading.address = wordAddress && heading.name.base = base.toList
  | _ => false

def childrenNamed (base : String) (node : Node) : List Node :=
  (children node).filter (hasName base)

def contentText (node : Node) : List Char :=
  if hasName "t" node then leadingText (children node)
  else if hasName "tab" node then ['\t']
  else if hasName "br" node then ['\n']
  else []

def paragraphText (node : Node) : String :=
  String.ofList ((childrenNamed "r" node).flatMap fun inner =>
    (children inner).flatMap contentText)

/-- The paragraphs of a cell are its lines. -/
def cellText (node : Node) : String :=
  String.intercalate "\n" ((childrenNamed "p" node).map paragraphText)

structure View where
  paragraphs : List String
  rows : List (List String)
  deriving DecidableEq, Repr

def viewOf (root : Node) : View :=
  let bodies := childrenNamed "body" root
  ⟨(bodies.flatMap (childrenNamed "p")).map paragraphText,
    ((bodies.flatMap (childrenNamed "tbl")).flatMap (childrenNamed "tr")).map fun found =>
      (childrenNamed "tc" found).map cellText⟩

/-- Only an archive with a document can be shown. -/
def view? (archive : Archive) : Option View := do
  let member ← archive.find? fun member => member.name = documentName
  return viewOf (← readDocument? (← member.text?))

end Letterpress.Sample
