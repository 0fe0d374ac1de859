import Letterpress.Text.CodeRanges

/-!
This file holds maps from a character to its other case.
-/

namespace Letterpress.Text

/-- A run moves every code point from `first` to `last`, in steps of `step`, by one offset. -/
structure CaseRun where
  first : Nat
  last : Nat
  step : Nat
  offset : Int

/-- A case map moves runs of characters and replaces some characters by several. -/
structure CaseMap where
  runs : List CaseRun
  expansions : List (Nat × List Char)

namespace CaseMap

def readOffset : List Char → Int
  | '-' :: digits => -(readHex digits : Int)
  | _ :: digits => readHex digits
  | [] => 0

/-- This reads runs such as `101:12f:2:-1` and expansions such as `df=53,53`. -/
def ofText (runs expansions : String) : CaseMap where
  runs := (tableWords runs).filterMap fun word =>
    match splitWhere (· = ':') word with
    | [first, last, step, offset] =>
        some ⟨readHex first, readHex last, readHex step, readOffset offset⟩
    | _ => none
  expansions := (tableWords expansions).filterMap fun word =>
    match splitWhere (· = '=') word with
    | [source, images] =>
        some (readHex source,
          (splitWhere (· = ',') images).map fun image => Char.ofNat (readHex image))
    | _ => none

/-- This is the image of a character; a character outside the map is its own image. -/
def apply (map : CaseMap) (character : Char) : List Char :=
  match map.expansions.lookup character.toNat with
  | some images => images
  | none =>
      match map.runs.find? fun run => run.first ≤ character.toNat &&
          character.toNat ≤ run.last && (character.toNat - run.first) % run.step = 0 with
      | some run => [Char.ofNat ((character.toNat : Int) + run.offset).toNat]
      | none => [character]

end CaseMap

end Letterpress.Text
