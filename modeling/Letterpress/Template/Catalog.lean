import Letterpress.FilePath
import Letterpress.Report.Problem
import Letterpress.Template.Registry
import Letterpress.Template.Sample

/-!
This file finds templates by their keys. The registry is read when it is first needed and kept
until it is asked for anew.
-/

namespace Letterpress

/-- The files of a catalog are known by their paths. -/
structure Catalog where
  registryPath : String
  folder : String
  files : Table Buffer
  loaded : Option (Table Template)

/-- An operation on a catalog yields a result or a failure, and the catalog in both cases. -/
abbrev Cataloging := ExceptT Report.Failure (StateM Catalog)

namespace Cataloging

def outcome {Result : Type} (operation : Cataloging Result) (catalog : Catalog) :
    Except Report.Failure Result × Catalog :=
  StateT.run (ExceptT.run operation) catalog

end Cataloging

namespace Catalog

def ofFault {Result : Type} (result : Except Fault Result) : Except Report.Failure Result :=
  result.mapError .fault

/-- This reads a registry; without a file there are no templates. -/
def readRegistry (path : String) (file : Option Buffer) :
    Except Report.Failure (Table Template) :=
  match file with
  | some (.bytes content) =>
      match Json.read ((String.fromUTF8? content).getD "") with
      | .ok document => ofFault (Template.ofDocument document)
      | .error .malformed => .error (.problem (.malformedRegistry path))
      | .error .tooDeep => .error (.fault .tooDeep)
  | some (.archive _) => .error (.problem (.malformedRegistry path))
  | none => .ok Table.empty

/-- A registry that cannot be read is read again the next time. -/
def templates : Cataloging (Table Template) := do
  let catalog ← get
  match catalog.loaded with
  | some found => return found
  | none =>
      let found ← ExceptT.mk (pure
        (readRegistry catalog.registryPath (catalog.files.get? catalog.registryPath)))
      set { catalog with loaded := some found }
      return found

def reload : Cataloging Unit := modify fun catalog => { catalog with loaded := none }

def putContent (path : String) (content : Buffer) : Cataloging Unit :=
  modify fun catalog => { catalog with files := catalog.files.insert path content }

def find? (key : String) : Cataloging (Option Template) := do return (← templates).get? key

/-- An empty category stands for all of them. -/
def isIn (category : String) (template : Template) : Bool :=
  category = "" || template.category = category

def list (category : String) : Cataloging (List Template) := do
  return ((← templates).entries.map Prod.snd).filter (isIn category)

def require (key : String) : Cataloging Template := do
  match ← find? key with
  | some template => return template
  | none => throw (.problem (.unknownTemplate key))

/-- This is the path of a template whose file is there. -/
def pathOf (key : String) : Cataloging String := do
  let template ← require key
  let catalog ← get
  let path := FilePath.join catalog.folder template.file
  if catalog.files.contains (FilePath.resolve path) then return path
  else throw (.problem (.missingFile key template.file path))

def contentAt (path : String) : Cataloging Buffer := do
  match (← get).files.get? (FilePath.resolve path) with
  | some content => return content
  | none => throw (.problem (.missingTemplate path))

/-- A file can only be written to a folder that is there; that of the catalog is made. -/
def canWrite (catalog : Catalog) (path : String) : Bool :=
  FilePath.hasFolder ((catalog.folder ++ "/") :: catalog.files.names) (FilePath.resolve path)

def writeSample (key : String) : Cataloging Archive := do
  let template ← require key
  let sample ← ExceptT.mk (pure (ofFault (Sample.archive template.label)))
  let catalog ← get
  let path := FilePath.join catalog.folder template.file
  if catalog.canWrite path then
    putContent (FilePath.resolve path) (.archive sample)
    return sample
  else throw (.fault .missingFile)

end Catalog

end Letterpress
