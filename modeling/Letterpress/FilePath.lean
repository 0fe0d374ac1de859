import Letterpress.Text.CodeRanges

/-!
This file writes file paths in their shortest form and takes them apart.
-/

namespace Letterpress.FilePath

/-- Exactly two slashes at the beginning are kept. -/
def root : List Char → List Char
  | '/' :: '/' :: '/' :: _ => ['/']
  | '/' :: '/' :: _ => ['/', '/']
  | '/' :: _ => ['/']
  | _ => []

/-- Empty segments and those of a single point are left out. -/
def segments (path : List Char) : List (List Char) :=
  (Text.splitWhere (· = '/') path).filter fun segment => !segment.isEmpty && segment ≠ ['.']

/-- The empty path is a single point. -/
def normalize (path : String) : String :=
  let characters := path.toList
  let joined := root characters ++ List.intercalate ['/'] (segments characters)
  if joined.isEmpty then "." else String.ofList joined

/-- A path that begins with a slash does not depend on the folder. -/
def join (folder path : String) : String :=
  if (root path.toList).isEmpty then normalize (folder ++ "/" ++ path) else normalize path

/-- Two points stand for the folder around. -/
def dropParents (before : List (List Char)) : List (List Char) → List (List Char)
  | [] => before.reverse
  | segment :: rest =>
      if segment = ['.', '.'] then dropParents before.tail rest
      else dropParents (segment :: before) rest

/-- This is the path that a path leads to. -/
def resolve (path : String) : String :=
  let characters := path.toList
  String.ofList (root characters ++
    List.intercalate ['/'] (dropParents [] (segments characters)))

/-- These are the folders of a path, up to its last slash. -/
def folder (path : List Char) : List Char :=
  (path.reverse.dropWhile (· ≠ '/')).reverse

/-- A file exists in a folder that holds one of the known paths. -/
def hasFolder (known : List String) (path : String) : Bool :=
  let wanted := folder path.toList
  wanted.isEmpty || known.any fun other => wanted.isPrefixOf other.toList

/-- The extension begins with the last point of the name. Points at the beginning of a name do
not count. -/
def splitExtension (path : String) : String × String :=
  let characters := path.toList
  let name := characters.drop (folder characters).length
  let leading := name.takeWhile (· = '.')
  let inner := name.drop leading.length
  if inner.contains '.' then
    let extension := (inner.reverse.takeWhile (· ≠ '.')).length + 1
    (String.ofList (characters.take (characters.length - extension)),
      String.ofList (characters.drop (characters.length - extension)))
  else (path, "")

/-- A sealed copy lies beside the file. -/
def sealed (path : String) : String :=
  (splitExtension path).1 ++ "_sealed" ++ (splitExtension path).2

end Letterpress.FilePath
