import Letterpress.FileName
import Letterpress.Table

/-!
This file holds archives as lists of named members. Names may repeat.
-/

namespace Letterpress

structure Member where
  name : String
  content : ByteArray

abbrev Archive := List Member

namespace Member

/-- The name of a folder ends with a slash. -/
def isFolder (member : Member) : Bool := member.name.toList.getLast? = some '/'

/-- The name of a part of markup ends with its extension, in letters of either case. -/
def isMarkupName (name : String) : Bool := FileName.hasSuffix name ".xml"

def isMarkup (member : Member) : Bool := !member.isFolder && isMarkupName member.name

/-- A content that is not UTF-8 has no text. -/
def text? (member : Member) : Option String := String.fromUTF8? member.content

def replace (texts : Table String) (member : Member) : Member :=
  match texts.get? member.name with
  | some text => { member with content := text.toUTF8 }
  | none => member

end Member

namespace Archive

/-- All members of a name get its new text. -/
def replace (archive : Archive) (texts : Table String) : Archive :=
  archive.map (Member.replace texts)

end Archive

/-- A buffer is an archive, or bytes that are none. -/
inductive Buffer
  | archive (members : Archive)
  | bytes (content : ByteArray)

namespace Buffer

/-- The record that ends an archive is all that there is of an empty one. -/
def emptyArchive : ByteArray :=
  ⟨#[0x50, 0x4b, 0x05, 0x06] ++ Array.replicate 18 0⟩

def ofBytes (content : ByteArray) : Buffer :=
  if content.data = emptyArchive.data then archive [] else bytes content

/-- An archive takes up bytes even if it has no members. -/
def isEmpty : Buffer → Bool
  | archive _ => false
  | bytes content => content.isEmpty

def archive? : Buffer → Option Archive
  | archive members => some members
  | bytes _ => none

end Buffer

end Letterpress
