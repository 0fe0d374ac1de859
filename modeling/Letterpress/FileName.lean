import Letterpress.Text.Case
import Letterpress.Text.Blank
import Letterpress.Value.Display

/-!
This file makes safe file names.
-/

namespace Letterpress.FileName

def isUnsafe (character : Char) : Bool :=
  ['\\', '/', ':', '*', '?', '"', '<', '>', '|'].contains character

def replaceUnsafe (character : Char) : Char := if isUnsafe character then '_' else character

def orDefault (name default : String) : String := if name = "" then default else name

/-- The default stands in for a name that is empty or becomes blank. -/
def sanitize (name default : String) : String :=
  if name = "" then default
  else orDefault (String.ofList (Text.stripList (name.toList.map replaceUnsafe))) default

def dotted (extension : String) : String :=
  if ['.'].isPrefixOf extension.toList then extension else "." ++ extension

def hasSuffix (name suffix : String) : Bool :=
  (Text.toLower suffix).toList.isSuffixOf (Text.toLower name).toList

/-- The name is safe and ends with the extension, up to letter case. -/
def ensureExtension (name extension default : String) : String :=
  let sanitized := sanitize name default
  if hasSuffix sanitized (dotted extension) then sanitized else sanitized ++ dotted extension

/-- This keeps one of several underscores in a row. -/
def collapseUnderscores : List Char → List Char
  | first :: second :: rest =>
      if first = '_' ∧ second = '_' then collapseUnderscores (second :: rest)
      else first :: collapseUnderscores (second :: rest)
  | characters => characters

/-- Printable ASCII characters other than the space are kept. -/
def asciiCharacter (character : Char) : Char :=
  if 0x20 < character.toNat ∧ character.toNat < 0x7f then character else '_'

def asciiFallback (name : String) : String :=
  String.ofList (collapseUnderscores (name.toList.map asciiCharacter))

/-- A field that is missing or empty has a default. -/
def fieldText (heap : Heap) (fields : Table Value) (name default : String) :
    Except Fault String :=
  match fields.get? name with
  | none => .ok default
  | some value => if heap.isEmpty value then .ok default else heap.display value

/-- The name is made of the number, the label and the date of a document. -/
def ofFields (heap : Heap) (fields : Table Value) (extension : String) :
    Except Fault String := do
  let number ← fieldText heap fields "projectNo" "NO"
  let label ← fieldText heap fields "docTypeLabel" "DOC"
  let date ← fieldText heap fields "issueDate" "DATE"
  return ensureExtension (number ++ "_" ++ label ++ "_" ++ date) extension "document"

/-- An empty value has no fields, and any other value that is no record has no names for them. -/
def ofValue (heap : Heap) (value : Value) (extension : String) : Except Fault String :=
  if heap.isEmpty value then ofFields heap Table.empty extension
  else match value with
    | .record reference => ofFields heap (heap.record reference) extension
    | _ => .error .missingAttribute

end Letterpress.FileName
