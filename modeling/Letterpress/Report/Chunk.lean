import Letterpress.Text.Blank
import Letterpress.Text.CharacterReference

/-!
This file cuts written markup into the markup itself and the commands in its texts.
-/

namespace Letterpress.Report

/-- A chunk is a tag or the text between two tags. -/
inductive Chunk
  | tag (content : List Char)
  | text (content : List Char)
  deriving DecidableEq, Repr

namespace Chunk

/-- This is the text that a chunk was cut from. -/
def source : Chunk → List Char
  | tag content => content
  | text content => content

/-- A tag that is never closed is text, unless it begins the chunk. -/
def unclosed (before after : List Char) : Chunk :=
  if before.isEmpty then .tag after else .text (before ++ after)

def textUnlessEmpty (content : List Char) : List Chunk :=
  if content.isEmpty then [] else [.text content]

/-- Every tag takes two characters, so the fuel is never used up. -/
def fromCharacters : Nat → List Char → List Chunk
  | 0, _ => []
  | fuel + 1, characters =>
      let before := characters.takeWhile (· ≠ '<')
      match characters.drop before.length with
      | [] => textUnlessEmpty before
      | opening :: after =>
          let inside := after.takeWhile (· ≠ '>')
          match after.drop inside.length with
          | [] => [unclosed before (opening :: after)]
          | closing :: rest =>
              textUnlessEmpty before ++
                .tag (opening :: (inside ++ [closing])) :: fromCharacters fuel rest

def ofMarkup (markup : List Char) : List Chunk := fromCharacters (markup.length + 1) markup

/-- The opening tag of a text run may have attributes. -/
def opensRun (content : List Char) : Bool :=
  let opening := "<w:t".toList
  if opening.isPrefixOf content && content.getLast? = some '>' then
    match content.drop opening.length with
    | ['>'] => true
    | next :: _ => Text.isBlank next
    | [] => false
  else false

end Chunk

/-- A fragment of a text is plain, or a command whose references have been replaced. Some
references cannot be replaced. -/
inductive Fragment
  | plain (content : List Char)
  | command (raw : Except Fault String)

namespace Fragment

/-- Plain contents in a row are one fragment. -/
def addPlain (content : List Char) : List Fragment → List Fragment
  | .plain following :: rest => .plain (content ++ following) :: rest
  | fragments => if content.isEmpty then fragments else .plain content :: fragments

/-- The references inside of a command are replaced once, and the blanks around it are cut. -/
def decode (inside : List Char) : Except Fault String := do
  return String.ofList (Text.stripList (← Text.CharacterReference.decode inside))

/-- A blank command is plain text. -/
def add (inside : List Char) (rest : List Fragment) : List Fragment :=
  match decode inside with
  | .ok "" => addPlain ('\x7b' :: (inside ++ ['\x7d'])) rest
  | raw => .command raw :: rest

def isInside (character : Char) : Bool := character ≠ '\x7b' && character ≠ '\x7d'

/-- Every fragment takes a character, so the fuel is never used up. -/
def fromCharacters : Nat → List Char → List Fragment
  | 0, _ => []
  | fuel + 1, characters =>
      let before := characters.takeWhile (· ≠ '\x7b')
      match characters.drop before.length with
      | [] => addPlain before []
      | opening :: after =>
          let inside := after.takeWhile isInside
          match after.drop inside.length with
          | '\x7d' :: rest => addPlain before (add inside (fromCharacters fuel rest))
          | _ => addPlain (before ++ [opening]) (fromCharacters fuel after)

def ofText (text : List Char) : List Fragment := fromCharacters (text.length + 1) text

end Fragment

/-- A lexeme is markup, or a command that may stand in a text run. -/
inductive Lexeme
  | markup (content : List Char)
  | command (raw : Except Fault String) (isInRun : Bool)

namespace Lexeme

def ofFragment (isInRun : Bool) : Fragment → Lexeme
  | .plain content => .markup content
  | .command raw => .command raw isInRun

/-- The last tag tells whether a text stands in a text run. -/
def ofChunks (isInRun : Bool) : List Chunk → List Lexeme
  | [] => []
  | .tag content :: rest => .markup content :: ofChunks (Chunk.opensRun content) rest
  | .text content :: rest =>
      (Fragment.ofText content).map (ofFragment isInRun) ++ ofChunks isInRun rest

def ofMarkup (markup : List Char) : List Lexeme := ofChunks false (Chunk.ofMarkup markup)

end Lexeme

end Letterpress.Report
