import Letterpress.Text.Blank

/-!
This file cuts a content into bracket tokens and the text between them. A command between braces
is one piece, so that brackets inside of it are left alone.
-/

namespace Letterpress.Bracket

/-- The mark after the opening bracket tells what the token does. -/
inductive Mark
  | value
  | opening
  | closing
  | both
  deriving DecidableEq, Repr

def Mark.characters : Mark → List Char
  | value => []
  | opening => ['#']
  | closing => ['/']
  | both => ['#', '/']

inductive Piece
  | plain (text : List Char)
  | command (inside : List Char)
  | token (mark : Mark) (body : List Char)
  deriving DecidableEq, Repr

/-- This is the text that a piece was cut from. -/
def Piece.source : Piece → List Char
  | plain text => text
  | command inside => '\x7b' :: (inside ++ ['\x7d'])
  | token mark body => '[' :: (mark.characters ++ body ++ [']'])

/-- A command does not span markup. -/
def isInCommand (character : Char) : Bool :=
  character ≠ '\x7b' && character ≠ '\x7d' && character ≠ '<'

/-- A bracket token spans neither markup nor lines. -/
def isInBody (character : Char) : Bool :=
  character ≠ ']' && character ≠ '\r' && character ≠ '\n' && character ≠ '<'

def splitMark : List Char → Mark × List Char
  | '#' :: '/' :: rest => (.both, rest)
  | '#' :: rest => (.opening, rest)
  | '/' :: rest => (.closing, rest)
  | rest => (.value, rest)

/-- This reads admitted characters up to the closing one. -/
def readUntil? (admits : Char → Bool) (closing : Char) (characters : List Char) :
    Option (List Char × List Char) :=
  let inside := characters.takeWhile admits
  match characters.drop inside.length with
  | next :: rest => if next = closing then some (inside, rest) else none
  | [] => none

def isPlain (character : Char) : Bool := character ≠ '\x7b' && character ≠ '['

/-- This is the first piece of a content that begins with the given character. -/
def firstPiece (character : Char) (rest : List Char) : Piece × List Char :=
  if character = '\x7b' then
    match readUntil? isInCommand '\x7d' rest with
    | some (inside, after) => (.command inside, after)
    | none => (.plain ['\x7b'], rest)
  else if character = '[' then
    let (mark, afterMark) := splitMark rest
    match readUntil? isInBody ']' afterMark with
    | some (body, after) => (.token mark body, after)
    | none => (.plain ['['], rest)
  else (.plain (character :: rest.takeWhile isPlain), rest.dropWhile isPlain)

/-- Every piece takes a character, so the fuel is never used up. -/
def piecesFrom : Nat → List Char → List Piece
  | 0, _ => []
  | _, [] => []
  | fuel + 1, character :: rest =>
      let (piece, after) := firstPiece character rest
      piece :: piecesFrom fuel after

def pieces (content : List Char) : List Piece := piecesFrom content.length content

end Letterpress.Bracket
