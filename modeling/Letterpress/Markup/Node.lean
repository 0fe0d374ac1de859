import Letterpress.Markup.Tag
import Letterpress.Markup.Event

/-!
This file resolves the qualifiers of names to the name spaces that they are declared for, holds
documents as trees and builds them from events.
-/

namespace Letterpress.Markup

/-- Declarations bind qualifiers to addresses, the innermost first. -/
abbrev Declarations := List (List Char × List Char)

/-- The qualifier `xml` is bound to this address, and no other is. -/
def markupAddress : List Char := "http://www.w3.org/XML/1998/namespace".toList

/-- No qualifier is bound to the address of declarations. -/
def declarationAddress : List Char := "http://www.w3.org/2000/xmlns/".toList

namespace Declarations

def standard : Declarations := [("xml".toList, markupAddress)]

/-- The qualifier that an attribute declares, where an empty one stands for names without. -/
def declared? (name : QualifiedName) : Option (List Char) :=
  if name.qualifier = "xmlns".toList then some name.base
  else if name.qualifier.isEmpty ∧ name.base = "xmlns".toList then some []
  else none

def isUnreserved (character : Char) : Bool :=
  character.isAlphanum || "-._~:/?#[]@!$&'()*+,;=".toList.contains character

/-- A percent sign is followed by two hexadecimal digits. -/
def isAddress : List Char → Bool
  | [] => true
  | '%' :: first :: second :: rest => isHex first && isHex second && isAddress rest
  | character :: rest => isUnreserved character && isAddress rest

/-- Only the unqualified names can be declared to have no address, and the two addresses of the
notation itself cannot be declared for other qualifiers. -/
def isAllowed (qualifier address : List Char) : Bool :=
  isAddress address && qualifier ≠ "xmlns".toList && address ≠ declarationAddress &&
    (qualifier.isEmpty || !address.isEmpty) &&
    (qualifier = "xml".toList ↔ address = markupAddress)

/-- The declarations among the attributes of a tag, in order. -/
def ofAttributes (attributes : List Attribute) : Declarations :=
  attributes.filterMap fun found => (declared? found.name).map fun qualifier =>
    (qualifier, found.value)

/-- Names without a qualifier may have no address. -/
def resolve? (declarations : Declarations) (qualifier : List Char) : Option (List Char) :=
  match declarations.lookup qualifier with
  | some address => some address
  | none => if qualifier.isEmpty then some [] else none

end Declarations

/-- An attribute without a qualifier has no address, whatever is declared. -/
def attributeKey? (declarations : Declarations) (name : QualifiedName) :
    Option (List Char × List Char) :=
  if name.qualifier.isEmpty then some ([], name.base)
  else (declarations.resolve? name.qualifier).map fun address => (address, name.base)

/-- An element knows the address of its name. Its attributes are split into the declarations of
name spaces and the others. What every document declares is not declared again. -/
structure Heading where
  name : QualifiedName
  address : List Char
  declarations : Declarations
  attributes : List Attribute
  deriving DecidableEq, Repr

inductive Node
  | element (heading : Heading) (children : List Node)
  | text (content : List Char)
  | comment (content : List Char)
  | instruction (target content : List Char)
  deriving Inhabited

/-- All of a list of keys are distinct. -/
def allDistinct (keys : List (List Char × List Char)) : Bool :=
  match keys with
  | [] => true
  | key :: rest => !rest.contains key && allDistinct rest

/-- The heading of a tag, given the declarations around it. The names of the attributes are
distinct, as written and as resolved, and every qualifier is declared. -/
def Heading.ofTag? (outer : Declarations) (tag : Tag) : Option (Heading × Declarations) := do
  let own := Declarations.ofAttributes tag.attributes
  let inner := own ++ outer
  let plain := tag.attributes.filter fun found => (Declarations.declared? found.name).isNone
  let address ← inner.resolve? tag.name.qualifier
  let keys ← plain.mapM fun found => attributeKey? inner found.name
  if own.all (fun entry => Declarations.isAllowed entry.1 entry.2) && allDistinct keys &&
      allDistinct (tag.attributes.map fun found => (found.name.qualifier, found.name.base)) then
    some (⟨tag.name, address, own.filter (!Declarations.standard.contains ·), plain⟩, inner)
  else none

/-- An open element waits for its closing tag. Its children are kept in reverse. -/
structure Pending where
  heading : Heading
  declarations : Declarations
  children : List Node

/-- Character data in a row is one text. -/
def addChild (child : Node) (children : List Node) : List Node :=
  match child, children with
  | .text second, .text first :: rest => .text (first ++ second) :: rest
  | _, _ => child :: children

/-- The innermost open element comes first. The root is complete when it has been closed. -/
structure Building where
  pending : List Pending
  root : Option Node

def Building.start : Building := ⟨[], none⟩

/-- A complete node becomes a child of the innermost open element, or the root. -/
def Building.add? (building : Building) (node : Node) : Option Building :=
  match building.pending with
  | innermost :: outer =>
      some { building with
        pending := { innermost with children := addChild node innermost.children } :: outer }
  | [] =>
      match node, building.root with
      | .element .., none => some ⟨[], some node⟩
      | .element .., some _ => none
      | .text content, _ => if content.all isSpace then some building else none
      | _, _ => some building

def Building.declarations (building : Building) : Declarations :=
  match building.pending with
  | innermost :: _ => innermost.declarations
  | [] => Declarations.standard

/-- Outside of the root there are no references. -/
def Building.addData? (building : Building) (raw : List Char) : Option Building :=
  if building.pending.isEmpty then building.add? (.text raw)
  else (Event.decodeData? raw).bind fun content => building.add? (.text content)

def Building.open? (building : Building) (tag : Tag) : Option Building :=
  match Heading.ofTag? building.declarations tag with
  | some (heading, inner) =>
      if building.pending.isEmpty && building.root.isSome then none
      else some { building with pending := ⟨heading, inner, []⟩ :: building.pending }
  | none => none

/-- A closing tag names the innermost open element. -/
def Building.close? (building : Building) (name : QualifiedName) : Option Building :=
  match building.pending with
  | innermost :: outer =>
      if innermost.heading.name = name then
        { building with pending := outer }.add?
          (.element innermost.heading innermost.children.reverse)
      else none
  | [] => none

def Building.step? (building : Building) (event : Event) : Option Building :=
  match event with
  | .opening tag => building.open? tag
  | .empty tag => (building.open? tag).bind fun opened => opened.close? tag.name
  | .closing name => building.close? name
  | .data raw => building.addData? raw
  | .verbatim content =>
      if building.pending.isEmpty then none else building.add? (.text content)
  | .comment content => building.add? (.comment content)
  | .instruction target content => building.add? (.instruction target content)

def Building.steps? (building : Building) : List Event → Option Building
  | [] => some building
  | event :: rest =>
      match building.step? event with
      | some next => next.steps? rest
      | none => none

/-- The events of a document build one root, and every element is closed. -/
def Node.ofEvents? (events : List Event) : Option Node :=
  match Building.start.steps? events with
  | some ⟨[], some root⟩ => some root
  | _ => none

end Letterpress.Markup
