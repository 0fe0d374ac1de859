import Letterpress.Bracket.Alias
import Letterpress.Bracket.Path
import Letterpress.Bracket.Piece

/-!
This file rewrites bracket tokens into commands. Loop tokens open and close loops, and a value
token inside a loop is looked up in its item.
-/

namespace Letterpress.Bracket

/-- A loop that is open. -/
structure Loop where
  name : String
  itemName : String
  deriving DecidableEq, Repr

/-- The innermost loop comes first. -/
structure Progress where
  loops : List Loop
  active : List String
  deriving DecidableEq, Repr

def Progress.start : Progress := ⟨[], []⟩

def braced (command : String) : List Char := '\x7b' :: (command.toList ++ ['\x7d'])

def openLoop (rules : AliasRules) (progress : Progress) (body : String) :
    List Char × Progress :=
  let itemName := deriveAlias rules body progress.active
  (braced ("FOR " ++ itemName ++ " IN " ++ body),
    ⟨⟨body, itemName⟩ :: progress.loops, itemName :: progress.active⟩)

/-- A closing token that meets no open loop names its own body. -/
def closeLoop (progress : Progress) (body : String) : List Char × Progress :=
  match progress.loops with
  | loop :: loops =>
      (braced ("END-FOR " ++ loop.itemName),
        ⟨loops, progress.active.filter (· ≠ loop.itemName)⟩)
  | [] => (braced ("END-FOR " ++ body), progress)

def valueCommand (progress : Progress) (body : String) : List Char :=
  match progress.loops with
  | loop :: _ =>
      if needsLoopContext body then braced (accessFromAlias loop.itemName body)
      else braced (toRootExpression body)
  | [] => braced (toRootExpression body)

/-- The body of a token without blanks around it. -/
def trimmedBody (body : List Char) : String := String.ofList (Text.stripList body)

def rewriteToken (rules : AliasRules) (progress : Progress) (mark : Mark) (body : String) :
    List Char × Progress :=
  match mark with
  | .opening => openLoop rules progress body
  | .closing => closeLoop progress body
  | _ => (valueCommand progress body, progress)

/-- A token with a body is replaced. -/
def Piece.isReplaced : Piece → Bool
  | token _ body => !(Text.stripList body).isEmpty
  | _ => false

/-- A piece that is not replaced keeps its text. -/
def rewritePiece (rules : AliasRules) (progress : Progress) (piece : Piece) :
    List Char × Progress :=
  match piece with
  | .token mark body =>
      if piece.isReplaced then rewriteToken rules progress mark (trimmedBody body)
      else (piece.source, progress)
  | _ => (piece.source, progress)

def rewritePieces (rules : AliasRules) : Progress → List Piece → List (List Char)
  | _, [] => []
  | progress, piece :: rest =>
      let (text, next) := rewritePiece rules progress piece
      text :: rewritePieces rules next rest

/-- The content after a rewriting, and whether a token was replaced. -/
structure Rewritten where
  content : String
  mutated : Bool
  deriving DecidableEq, Repr

def rewrite (rules : AliasRules) (content : String) : Rewritten :=
  let cut := pieces content.toList
  ⟨String.ofList (rewritePieces rules Progress.start cut).flatten, cut.any Piece.isReplaced⟩

end Letterpress.Bracket
