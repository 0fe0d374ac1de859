import Letterpress.Markup.Node

/-!
This file writes documents.
-/

namespace Letterpress.Markup

/-- Three characters are escaped everywhere, and a carriage return, which would not be read
back. -/
def escapeText (character : Char) : List Char :=
  match character with
  | '&' => "&amp;".toList
  | '<' => "&lt;".toList
  | '>' => "&gt;".toList
  | '\r' => "&#13;".toList
  | other => [other]

/-- In values the quote and the other blanks are escaped too. -/
def escapeValue (character : Char) : List Char :=
  match character with
  | '"' => "&quot;".toList
  | '\n' => "&#10;".toList
  | '\t' => "&#9;".toList
  | other => escapeText other

def writeAssigned (name value : List Char) : List Char :=
  ' ' :: (name ++ '=' :: '"' :: (value.flatMap escapeValue ++ ['"']))

def writeDeclaration (declaration : List Char × List Char) : List Char :=
  writeAssigned
    (if declaration.1.isEmpty then "xmlns".toList else "xmlns:".toList ++ declaration.1)
    declaration.2

/-- Declarations come before the other attributes. -/
def Heading.inside (heading : Heading) : List Char :=
  heading.name.characters ++ heading.declarations.flatMap writeDeclaration ++
    heading.attributes.flatMap fun found => writeAssigned found.name.characters found.value

mutual

/-- An element without children has an empty tag. -/
def Node.write : Node → List Char
  | .element heading children =>
      if children.isEmpty then '<' :: (heading.inside ++ ['/', '>'])
      else '<' :: (heading.inside ++ '>' :: (Node.writeAll children ++
        '<' :: '/' :: (heading.name.characters ++ ['>'])))
  | .text content => content.flatMap escapeText
  | .comment content => "<!--".toList ++ content ++ "-->".toList
  | .instruction target content =>
      "<?".toList ++ target ++ (if content.isEmpty then [] else ' ' :: content) ++ "?>".toList

def Node.writeAll : List Node → List Char
  | [] => []
  | node :: rest => Node.write node ++ Node.writeAll rest

end

/-- The declaration that stands before the root of a written document. -/
def documentHeader : List Char :=
  "<?xml version='1.0' encoding='UTF-8' standalone='yes'?>\n".toList

def writeDocument (root : Node) : List Char := documentHeader ++ root.write

end Letterpress.Markup
