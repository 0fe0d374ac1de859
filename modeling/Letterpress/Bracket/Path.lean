import Letterpress.Text.Blank
import Letterpress.Text.CodeRanges
import Letterpress.Text.Letter
import Letterpress.Text.Quoted

/-!
This file writes the names of fields as expressions.
-/

namespace Letterpress.Bracket

/-- A bare field name, without a path or a computation, is looked up in the item of a loop. -/
def needsLoopContext (body : String) : Bool :=
  body ≠ "" && !body.toList.contains '.' && !body.toList.contains '-'

/-- A field of the item is a member of the alias. -/
def accessFromAlias (itemName body : String) : String :=
  "$" ++ itemName ++
    if Text.isAsciiIdentifier body then "." ++ body else "[" ++ Text.quote body ++ "]"

/-- The whole body is one field name. -/
def wholeField (body : String) : String := "this[" ++ Text.quote body ++ "]"

def segmentAccess (segment : String) : String :=
  if Text.isIdentifierSegment segment then "." ++ segment else "[" ++ Text.quote segment ++ "]"

/-- Each further segment is a member of what stands before it; a blank one spoils the path. -/
def pathFrom (expression : String) : List (List Char) → Option String
  | [] => some expression
  | segment :: rest =>
      let trimmed := String.ofList (Text.stripList segment)
      if trimmed = "" then none else pathFrom (expression ++ segmentAccess trimmed) rest

/-- A path begins with an identifier; any other body is one field name. -/
def toRootExpression (body : String) : String :=
  if body = "" then body
  else match Text.splitWhere (· = '.') body.toList with
    | head :: second :: rest =>
        if Text.isIdentifierSegment (String.ofList head) then
          (pathFrom (String.ofList head) (second :: rest)).getD (wholeField body)
        else wholeField body
    | _ => if Text.isIdentifierSegment body then body else wholeField body

end Letterpress.Bracket
