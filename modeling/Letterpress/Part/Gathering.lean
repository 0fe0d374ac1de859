import Letterpress.Part.Element

/-!
This file gathers commands that are split over several runs of a paragraph. A command goes to
the run where it begins, and the text of the paragraph stays the same.
-/

namespace Letterpress.Part

open Markup

/-- A run gets a new text or keeps its own, and it may have to preserve blanks. -/
structure Share where
  text : Option (List Char)
  isPreserved : Bool
  deriving DecidableEq, Repr

def isBrace (character : Char) : Bool := character = '\x7b' || character = '\x7d'

/-- A text leaves a command open when its last brace is an opening one. -/
def leavesOpen (text : List Char) : Bool :=
  (text.filter isBrace).getLast? = some '\x7b'

/-- The text through the first closing brace, and the text after it. -/
def splitClosing? (text : List Char) : Option (List Char × List Char) :=
  let inside := text.takeWhile (· ≠ '\x7d')
  match text.drop inside.length with
  | closing :: rest => some (inside ++ [closing], rest)
  | [] => none

/-- What the remaining runs get depends on whether a command is open before them. An open command
takes over a part of their text. -/
structure Sharing where
  closed : List Share
  taken : List Char
  opened : List Share

/-- A run that leaves a command open takes over the end of the command. -/
def settle (text : List Char) (isChanged : Bool) (after : Sharing) : List Share :=
  if leavesOpen text then
    ⟨some (text ++ after.taken), text.contains '\x7b'⟩ :: after.opened
  else ⟨if isChanged then some text else none, text.contains '\x7b'⟩ :: after.closed

/-- A run inside of an open command is left with the text after the closing brace. -/
def share : List (List Char) → Sharing
  | [] => ⟨[], [], []⟩
  | text :: rest =>
      let after := share rest
      match splitClosing? text with
      | some (taken, left) => ⟨settle text false after, taken, settle left true after⟩
      | none => ⟨settle text false after, text ++ after.taken, ⟨some [], false⟩ :: after.opened⟩

mutual

/-- These are the texts of the runs that lie in no paragraph inside. -/
def ownTexts : Node → List (List Char)
  | .element heading children =>
      match Kind.ofHeading heading with
      | .paragraph => []
      | .run => leadingText children :: ownTextsAll children
      | _ => ownTextsAll children
  | _ => []

def ownTextsAll : List Node → List (List Char)
  | [] => []
  | node :: rest => ownTexts node ++ ownTextsAll rest

end

def Share.apply (share : Share) (heading : Heading) (children : List Node) : Node :=
  .element (if share.isPreserved then preserveSpace heading else heading)
    (match share.text with
    | some text => setLeadingText text children
    | none => children)

mutual

/-- This hands out the shares of the paragraph around a node, and gives those that are left. -/
def gather (shares : List Share) : Node → Node × List Share
  | .element heading children =>
      match Kind.ofHeading heading with
      | .paragraph =>
          (.element heading (gatherAll (share (ownTextsAll children)).closed children).1, shares)
      | .run =>
          match shares with
          | share :: others =>
              let (inner, left) := gatherAll others children
              (share.apply heading inner, left)
          | [] =>
              let (inner, left) := gatherAll [] children
              (.element heading inner, left)
      | _ =>
          let (inner, left) := gatherAll shares children
          (.element heading inner, left)
  | node => (node, shares)

def gatherAll (shares : List Share) : List Node → List Node × List Share
  | [] => ([], shares)
  | node :: rest =>
      let (first, afterFirst) := gather shares node
      let (others, left) := gatherAll afterFirst rest
      (first :: others, left)

end

/-- Runs outside of paragraphs are left alone. -/
def gatherCommands (root : Node) : Node := (gather [] root).1

end Letterpress.Part
