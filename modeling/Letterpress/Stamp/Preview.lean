import Letterpress.Stamp.Stamping
import Letterpress.Table

/-!
This file keeps previews in files that are named by their ids, so that they can be stamped later.
-/

namespace Letterpress

/-- The folder of a store is made when the first preview is saved. Its files are known by their
names. -/
structure PreviewStore where
  hasFolder : Bool
  files : Table Content

namespace PreviewStore

def empty : PreviewStore := ⟨false, Table.empty⟩

/-- An id holds ASCII letters, digits, underscores and hyphens. -/
def isIdCharacter (character : Char) : Bool :=
  character.isAlphanum || character = '_' || character = '-'

/-- A final line feed does not count. -/
def dropFinalLineFeed (characters : List Char) : List Char :=
  if characters.getLast? = some '\n' then characters.dropLast else characters

def isId (id : String) : Bool :=
  let characters := dropFinalLineFeed id.toList
  !characters.isEmpty && characters.all isIdCharacter

def checkId (id : String) : Except StampProblem Unit :=
  if isId id then .ok () else .error (.invalidPreview id)

def fileName (id : String) : String := id ++ ".pdf"

def content? (store : PreviewStore) (id : String) : Option Content :=
  store.files.get? (fileName id)

/-- The id has to be a fresh one. -/
def save (store : PreviewStore) (id : String) (content : Content) : PreviewStore where
  hasFolder := true
  files := store.files.insert (fileName id) content

def load (store : PreviewStore) (id : String) : Except StampProblem Content := do
  checkId id
  match store.content? id with
  | some content => return content
  | none => throw (.unknownPreview id)

/-- What is no id does not exist. -/
def has (store : PreviewStore) (id : String) : Bool := isId id && (store.content? id).isSome

/-- This removes a preview and tells whether there was one. -/
def delete (store : PreviewStore) (id : String) : Except StampProblem (Bool × PreviewStore) := do
  checkId id
  return ((store.content? id).isSome, { store with files := store.files.erase (fileName id) })

/-- This is the number of files in the folder. -/
def fileCount (store : PreviewStore) : Option Nat :=
  if store.hasFolder then some store.files.entries.length else none

/-- A service without a store has no previews. -/
def stampPreview (store : Option PreviewStore) (id : String) (image : Image)
    (descriptors : Except StampFailure (List (Descriptor Binary64))) :
    Except StampFailure (List StampedPage) := do
  match store with
  | none => throw (.problem .noStore)
  | some found =>
      match found.load id with
      | .error problem => throw (.problem problem)
      | .ok content => stamp content image (← descriptors)

end PreviewStore

end Letterpress
