import Letterpress.Markup.Tag

/-!
This file cuts the content of a document into events: tags, character data, comments and
instructions.
-/

namespace Letterpress.Markup

/-- Character data keeps its references; verbatim data has none. -/
inductive Event
  | opening (tag : Tag)
  | empty (tag : Tag)
  | closing (name : QualifiedName)
  | data (raw : List Char)
  | verbatim (content : List Char)
  | comment (content : List Char)
  | instruction (target content : List Char)
  deriving DecidableEq, Repr

namespace Event

/-- This splits characters before the first occurrence of a pattern, which it passes. The
characters before are kept in reverse. -/
def splitBefore? (pattern before : List Char) : List Char → Option (List Char × List Char)
  | [] => none
  | character :: rest =>
      if pattern.isPrefixOf (character :: rest) then
        some (before.reverse, (character :: rest).drop pattern.length)
      else splitBefore? pattern (character :: before) rest

/-- Two hyphens end a comment, so that the character after them has to close it. -/
def readComment? (characters : List Char) : Option (Event × List Char) :=
  match splitBefore? ['-', '-'] [] characters with
  | some (content, '>' :: rest) =>
      if content.all isLegal then some (.comment content, rest) else none
  | _ => none

def readVerbatim? (characters : List Char) : Option (Event × List Char) :=
  match splitBefore? [']', ']', '>'] [] characters with
  | some (content, rest) => if content.all isLegal then some (.verbatim content, rest) else none
  | none => none

/-- The name of the document's declaration, in letters of either case, is reserved. -/
def isReserved (target : List Char) : Bool := target.map Char.toLower = "xml".toList

/-- The target of an instruction is a name without a qualifier, and no reserved one. -/
def readInstruction? (characters : List Char) : Option (Event × List Char) :=
  match QualifiedName.readPart? characters with
  | some (target, afterTarget) =>
      match splitBefore? ['?', '>'] [] afterTarget with
      | some (content, rest) =>
          let trimmed := skipSpace content
          if !isReserved target ∧ content.all isLegal ∧
              (content.isEmpty ∨ trimmed.length < content.length) then
            some (.instruction target trimmed, rest)
          else none
      | none => none
  | none => none

/-- This reads what follows the character that opens markup. -/
def readMarkup? (characters : List Char) : Option (Event × List Char) :=
  match characters with
  | '!' :: '-' :: '-' :: rest => readComment? rest
  | '!' :: '[' :: 'C' :: 'D' :: 'A' :: 'T' :: 'A' :: '[' :: rest => readVerbatim? rest
  | '?' :: rest => readInstruction? rest
  | '/' :: rest => (readClosing? rest).map fun (name, after) => (.closing name, after)
  | _ => (Tag.read? characters).map fun ((tag, isEmpty), after) =>
      (if isEmpty then .empty tag else .opening tag, after)

/-- Character data reaches up to the next markup. -/
def isData (character : Char) : Bool := character ≠ '<'

/-- This is the first event of a content. -/
def read? : List Char → Option (Event × List Char)
  | [] => none
  | '<' :: rest => readMarkup? rest
  | character :: rest =>
      some (.data (character :: rest.takeWhile isData), rest.dropWhile isData)

/-- Every event takes a character, so the fuel is never used up. -/
def readAll? (read : List Event) : Nat → List Char → Option (List Event)
  | _, [] => some read.reverse
  | 0, _ => none
  | fuel + 1, characters =>
      match read? characters with
      | some (event, rest) => readAll? (event :: read) fuel rest
      | none => none

/-- The events of a content, in order. -/
def ofContent? (content : List Char) : Option (List Event) := readAll? [] content.length content

/-- Character data may not hold the end of verbatim data. -/
def decodeData? (raw : List Char) : Option (List Char) :=
  if (splitBefore? [']', ']', '>'] [] raw).isSome || !raw.all isLegal then none
  else decodeReferences? raw

end Event

end Letterpress.Markup
