/-!
This file recognizes keywords, in which the case of a letter does not matter.
-/

namespace Letterpress.Text

/-- A letter outside of ASCII counts as the ASCII letter that it is a case form of. -/
def foldLetter (character : Char) : Char :=
  match character with
  | 'ı' => 'i'
  | 'İ' => 'i'
  | 'ſ' => 's'
  | other => other.toLower

/-- This is what follows a keyword at the beginning. -/
def afterKeyword? (keyword : String) (characters : List Char) : Option (List Char) :=
  if (characters.take keyword.length).map foldLetter = keyword.toList.map foldLetter then
    some (characters.drop keyword.length)
  else none

end Letterpress.Text
