import Letterpress.Number.Shortest
import Letterpress.Text.Quoted

/-!
This file holds JSON documents and writes them without blanks.
-/

namespace Letterpress

/-- The fields of an object keep their order. -/
inductive Json
  | null
  | bool (value : Bool)
  | int (value : Int)
  | real (value : Binary64)
  | text (value : String)
  | array (items : List Json)
  | object (fields : List (String × Json))
  deriving Inhabited

namespace Json

/-- The infinities and the missing number are written as words. -/
def realText : Binary64 → String
  | .notNumber => "NaN"
  | .infinite negative => if negative then "-Infinity" else "Infinity"
  | number => number.roundTripText

mutual

/-- This is the compact text of a document. -/
def compact : Json → String
  | null => "null"
  | bool value => if value then "true" else "false"
  | int value => integerText value
  | real value => realText value
  | text value => Text.quote value
  | array items => "[" ++ String.intercalate "," (compactItems items) ++ "]"
  | object fields => "\x7b" ++ String.intercalate "," (compactFields fields) ++ "\x7d"

def compactItems : List Json → List String
  | [] => []
  | item :: rest => compact item :: compactItems rest

def compactFields : List (String × Json) → List String
  | [] => []
  | (name, value) :: rest => (Text.quote name ++ ":" ++ compact value) :: compactFields rest

end

/-- This is the value of a field of an object. -/
def field? (document : Json) (name : String) : Option Json :=
  match document with
  | object fields => fields.lookup name
  | _ => none

end Json

end Letterpress
