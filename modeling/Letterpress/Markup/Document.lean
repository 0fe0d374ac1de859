import Letterpress.Markup.Node
import Letterpress.Text.CodeRanges

/-!
This file reads documents from bytes. A document may begin with a declaration, which names its
encoding.
-/

namespace Letterpress.Markup

inductive Encoding
  | utf8
  | latin1
  | ascii
  deriving DecidableEq, Repr

def Encoding.ofName? (name : List Char) : Option Encoding :=
  let lower := name.map Char.toLower
  if lower = "utf-8".toList ∨ lower = "utf8".toList then some utf8
  else if lower = "iso-8859-1".toList ∨ lower = "latin1".toList then some latin1
  else if lower = "us-ascii".toList ∨ lower = "ascii".toList then some ascii
  else none

/-- These are the bytes of a text. -/
def bytesOf (characters : List Char) : ByteArray := (String.ofList characters).toUTF8

/-- Characters that were read as UTF-8 are read again in the named encoding. -/
def Encoding.reread? (encoding : Encoding) (characters : List Char) : Option (List Char) :=
  match encoding with
  | utf8 => some characters
  | latin1 => some ((bytesOf characters).toList.map fun byte => Char.ofNat byte.toNat)
  | ascii => if characters.all fun character => character.toNat < 128 then some characters
      else none

/-- A version is a digit one, a point and digits. -/
def isVersion : List Char → Bool
  | '1' :: '.' :: digits => digits.all Char.isDigit
  | _ => false

/-- A word of the declaration with its quoted value. -/
def readItem? (word : String) (characters : List Char) : Option (List Char × List Char) :=
  if word.toList.isPrefixOf characters then readAssigned? (characters.drop word.length) else none

/-- The optional items follow blanks and come in a fixed order. -/
def readOptional? (word : String) (isValid : List Char → Bool) (characters : List Char) :
    Option (Option (List Char) × List Char) :=
  let trimmed := skipSpace characters
  if word.toList.isPrefixOf trimmed ∧ trimmed.length < characters.length then
    match readItem? word trimmed with
    | some (value, rest) => if isValid value then some (some value, rest) else none
    | none => none
  else some (none, characters)

def isEncodingName : List Char → Bool
  | first :: rest =>
      first.isAlpha && rest.all fun character =>
        character.isAlphanum || character = '.' || character = '_' || character = '-'
  | [] => false

def isYesOrNo (value : List Char) : Bool := value = "yes".toList || value = "no".toList

/-- This reads a declaration after its opening and gives the encoding and what follows. -/
def readDeclaration? (characters : List Char) : Option (Option (List Char) × List Char) := do
  let (version, afterVersion) ← readItem? "version" (skipSpace characters)
  let (encoding, afterEncoding) ← readOptional? "encoding" isEncodingName afterVersion
  let (_, afterStandalone) ← readOptional? "standalone" isYesOrNo afterEncoding
  match isVersion version, skipSpace afterStandalone with
  | true, '?' :: '>' :: rest => some (encoding, rest)
  | _, _ => none

def declarationOpening : List Char := "<?xml".toList

/-- A declaration stands at the very beginning. -/
def hasDeclaration (characters : List Char) : Bool :=
  declarationOpening.isPrefixOf characters &&
    ((characters.drop declarationOpening.length).head?.map isSpace).getD false

def encodingOf? : Option (List Char) → Option Encoding
  | some name => Encoding.ofName? name
  | none => some .utf8

/-- This splits off the declaration and reads the rest in its encoding. -/
def body? (characters : List Char) : Option (List Char) :=
  if hasDeclaration characters then do
    let (name, rest) ← readDeclaration? (characters.drop declarationOpening.length)
    (← encodingOf? name).reread? rest
  else some characters

/-- A byte order mark before a document is no part of it. -/
def dropMark : List Char → List Char
  | '\ufeff' :: rest => rest
  | characters => characters

/-- This is the root of a document, if it is well formed. -/
def readDocument? (text : String) : Option Node := do
  let body ← body? (dropMark text.toList)
  Node.ofEvents? (← Event.ofContent? (normalizeLines body))

end Letterpress.Markup
