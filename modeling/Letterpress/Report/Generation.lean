import Letterpress.Archive.Normalization
import Letterpress.Report.Rendering

/-!
This file generates documents from templates. The parts of a template are rendered in order, and
either all of them or none.
-/

namespace Letterpress.Report

namespace Rendering

/-- A failure names the part where it is met, unless it names one already. -/
def withinPart {Result : Type} (name : String) (rendering : Rendering Result) :
    Rendering Result :=
  ExceptT.adapt (Failure.inPart name) rendering

/-- This is the rendered text of a part by its name. -/
def renderMember (settings : Settings) (member : Member) :
    Rendering (Option (String × String)) := do
  if member.isMarkup then
    let text ← withinPart member.name (renderPart settings member.name member.content)
    return text.map fun found => (member.name, found)
  else return none

def renderMembers (settings : Settings) : Archive → Rendering (List (String × String))
  | [] => return []
  | member :: rest => do
      let text ← renderMember settings member
      return text.toList ++ (← renderMembers settings rest)

def renderArchive (settings : Settings) (archive : Archive) : Rendering Archive := do
  return archive.replace (Table.ofList (← renderMembers settings archive))

/-- The shared scope is lent the helpers for the time of a rendering, which may fail. -/
def lending {Result : Type} (helpers : Helpers) (rendering : Rendering Result) :
    Rendering Result :=
  ExceptT.mk do
    let session ← get
    set { session with shared := session.shared.lend helpers }
    let result ← ExceptT.run rendering
    modify fun after =>
      { after with shared := after.shared.restore (session.shared.save helpers) }
    return result

end Rendering

/-- A generator renders with its settings and may lend its helpers to the shared scope. -/
structure Generator where
  settings : Settings
  lendsHelpers : Bool

namespace Generator

/-- Only an open scope reads the shared one. -/
def lends (generator : Generator) : Bool :=
  generator.lendsHelpers && generator.settings.isOpen

/-- The root scope has the given values and the helpers. -/
def rootScope (generator : Generator) (values : Table Value) : Scope :=
  (⟨values, Table.empty⟩ : Scope).reinstate generator.settings.helpers

def renderArchive (generator : Generator) (archive : Archive) : Rendering Archive :=
  let rendering := Rendering.renderArchive generator.settings archive
  if generator.lends then Rendering.lending generator.settings.helpers rendering else rendering

/-- The tokens of a template are rewritten before its parts are rendered. -/
def render (generator : Generator) (template : Buffer) : Rendering Archive :=
  if template.isEmpty then throw (.problem .emptyTemplate)
  else match template.archive? with
    | some archive => generator.renderArchive (archive.normalize .standard)
    | none => throw (.problem .brokenArchive)

/-- This generates a document from values on a heap. -/
def generate (generator : Generator) (heap : Heap) (shared : Scope) (values : Table Value)
    (template : Buffer) : Except Failure Archive × Session :=
  (generator.render template).outcome ⟨heap, generator.rootScope values, shared⟩

end Generator

end Letterpress.Report
