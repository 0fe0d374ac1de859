import Letterpress.Text.Table.Case

/-!
This file changes the case of texts. One character may become several, and the capital sigma
has a special form at the end of a word.
-/

namespace Letterpress.Text

def upperCharacter (character : Char) : List Char :=
  if character.toNat < 128 then [character.toUpper] else Table.upper.apply character

def lowerCharacter (character : Char) : List Char :=
  if character.toNat < 128 then [character.toLower] else Table.lower.apply character

def toUpper (text : String) : String :=
  String.ofList (text.toList.flatMap upperCharacter)

/-- The nearest character that is not passed over is a cased letter. -/
def nearestIsCased (characters : List Char) : Bool :=
  match characters.dropWhile Table.caseIgnorable.contains with
  | [] => false
  | character :: _ => Table.cased.contains character

/-- The capital sigma is final after a cased letter and before none. -/
def lowerSigma (before after : List Char) : Char :=
  if nearestIsCased before && !nearestIsCased after then 'ς' else 'σ'

/-- The characters already passed are kept in reverse order. -/
def lowerFrom (before : List Char) : List Char → List Char
  | [] => []
  | character :: rest =>
      (if character = 'Σ' then [lowerSigma before rest] else lowerCharacter character) ++
        lowerFrom (character :: before) rest

def toLower (text : String) : String :=
  String.ofList (lowerFrom [] text.toList)

end Letterpress.Text
