import Letterpress.Markup.Character

/-!
This file reads the names and the tags of a document.
-/

namespace Letterpress.Markup

/-- A name may have a qualifier before a colon; an empty one stands for none. -/
structure QualifiedName where
  qualifier : List Char
  base : List Char
  deriving DecidableEq, Repr

namespace QualifiedName

def characters (name : QualifiedName) : List Char :=
  if name.qualifier.isEmpty then name.base else name.qualifier ++ ':' :: name.base

/-- One part of a name. -/
def readPart? : List Char → Option (List Char × List Char)
  | [] => none
  | first :: rest =>
      if isNameStart first then
        some (first :: rest.takeWhile isNameContinue, rest.dropWhile isNameContinue)
      else none

def read? (characters : List Char) : Option (QualifiedName × List Char) :=
  match readPart? characters with
  | none => none
  | some (first, ':' :: rest) =>
      match readPart? rest with
      | some (_, ':' :: _) => none
      | some (second, after) => some (⟨first, second⟩, after)
      | none => none
  | some (first, rest) => some (⟨[], first⟩, rest)

end QualifiedName

structure Attribute where
  name : QualifiedName
  value : List Char
  deriving DecidableEq, Repr

/-- A tag has the attributes that were written, declarations of name spaces included. -/
structure Tag where
  name : QualifiedName
  attributes : List Attribute
  deriving DecidableEq, Repr

/-- Blanks in a value become spaces, but not those that come from references. -/
def blankToSpace (character : Char) : Char := if isSpace character then ' ' else character

/-- A value may hold neither the character that opens tags nor an illegal one. -/
def decodeValue? (raw : List Char) : Option (List Char) :=
  if raw.contains '<' || !raw.all isLegal then none
  else decodeReferences? (raw.map blankToSpace)

/-- A value stands between two quotes of one kind. -/
def readQuoted? : List Char → Option (List Char × List Char)
  | quotation :: rest =>
      if quotation = '"' ∨ quotation = '\'' then
        let inside := rest.takeWhile (· ≠ quotation)
        match rest.drop inside.length with
        | _ :: after => some (inside, after)
        | [] => none
      else none
  | [] => none

/-- An equals sign may have blanks around it. -/
def readAssigned? (characters : List Char) : Option (List Char × List Char) :=
  match skipSpace characters with
  | '=' :: rest => readQuoted? (skipSpace rest)
  | _ => none

def readAttribute? (characters : List Char) : Option (Attribute × List Char) := do
  let (name, afterName) ← QualifiedName.read? characters
  let (raw, rest) ← readAssigned? afterName
  let value ← decodeValue? raw
  some (⟨name, value⟩, rest)

def startsBlank (characters : List Char) : Bool := (characters.head?.map isSpace).getD false

/-- Attributes are separated by blanks. The flag tells whether the tag is empty. Every attribute
takes a character, so the fuel is never used up. -/
def readAttributes? (read : List Attribute) :
    Nat → List Char → Option ((List Attribute × Bool) × List Char)
  | 0, _ => none
  | fuel + 1, characters =>
      match skipSpace characters with
      | '>' :: rest => some ((read.reverse, false), rest)
      | '/' :: '>' :: rest => some ((read.reverse, true), rest)
      | trimmed =>
          if startsBlank characters then
            match readAttribute? trimmed with
            | some (found, rest) => readAttributes? (found :: read) fuel rest
            | none => none
          else none

/-- The attributes of a tag end before the next tag is opened. -/
def attributesBound (characters : List Char) : Nat := (characters.takeWhile (· ≠ '<')).length + 1

/-- This reads a tag after the character that opens it. -/
def Tag.read? (characters : List Char) : Option ((Tag × Bool) × List Char) := do
  let (name, afterName) ← QualifiedName.read? characters
  let ((attributes, isEmpty), rest) ← readAttributes? [] (attributesBound afterName) afterName
  some ((⟨name, attributes⟩, isEmpty), rest)

/-- This reads a closing tag after the slash. -/
def readClosing? (characters : List Char) : Option (QualifiedName × List Char) := do
  let (name, afterName) ← QualifiedName.read? characters
  match skipSpace afterName with
  | '>' :: rest => some (name, rest)
  | _ => none

end Letterpress.Markup
