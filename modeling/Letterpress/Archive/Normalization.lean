import Letterpress.Archive.Basic
import Letterpress.Bracket.Rewriting

/-!
This file rewrites the bracket tokens in all parts of an archive.
-/

namespace Letterpress.Archive

open Letterpress.Bracket

/-- This is the new text of a part in which a token is replaced. -/
def rewritten? (rules : AliasRules) (member : Member) : Option String :=
  if member.isMarkup then
    match member.text? with
    | some text =>
        let result := rewrite rules text
        if result.mutated then some result.content else none
    | none => none
  else none

/-- These are the new texts by the names of the members. -/
def rewrites (rules : AliasRules) (archive : Archive) : Table String :=
  Table.ofList (archive.filterMap fun member =>
    (rewritten? rules member).map fun text => (member.name, text))

/-- An archive without replaced tokens stays as it is. -/
def normalize? (rules : AliasRules) (archive : Archive) : Option Archive :=
  let texts := archive.rewrites rules
  if texts.entries.isEmpty then none else some (archive.replace texts)

def normalize (rules : AliasRules) (archive : Archive) : Archive :=
  (archive.normalize? rules).getD archive

end Letterpress.Archive
