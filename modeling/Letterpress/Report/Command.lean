import Letterpress.Report.Problem
import Letterpress.Text.Blank
import Letterpress.Text.Keyword
import Letterpress.Text.Letter

/-!
This file classifies the commands of a report by their keywords.
-/

namespace Letterpress.Report

/-- The end of a loop may name its item. -/
inductive Command
  | openBlock (block : BlockName) (code : String)
  | closeLoop (itemName : String)
  | closeChoice
  | execute (code : String)
  | insert (code : String)
  deriving DecidableEq, Repr

namespace Command

/-- This is what follows a keyword and blanks. -/
def argument? (keyword : String) (raw : List Char) : Option (List Char) :=
  match Text.afterKeyword? keyword raw with
  | some rest =>
      let trimmed := rest.dropWhile Text.isBlank
      if trimmed.length < rest.length ∧ !trimmed.isEmpty then some trimmed else none
  | none => none

def splitWord (characters : List Char) : List Char × List Char :=
  let word := characters.takeWhile fun character => !Text.isBlank character
  (word, (characters.drop word.length).dropWhile Text.isBlank)

/-- The dollar sign before the name of an item is left out. -/
def itemName (word : List Char) : String :=
  match word with
  | '$' :: rest => String.ofList rest
  | name => String.ofList name

def openLoop? (raw : List Char) : Option Command := do
  let (word, rest) := splitWord (← argument? "FOR" raw)
  let code ← argument? "IN" rest
  some (.openBlock (.loop (itemName word)) (String.ofList code))

/-- The end of a loop has one word at most. -/
def closeLoop? (raw : List Char) : Option Command :=
  match Text.afterKeyword? "END-FOR" raw with
  | some [] => some (.closeLoop "")
  | _ => do
      match splitWord (← argument? "END-FOR" raw) with
      | (word, []) => some (.closeLoop (itemName word))
      | _ => none

def openChoice? (raw : List Char) : Option Command := do
  some (.openBlock .choice (String.ofList (← argument? "IF" raw)))

/-- Whatever follows the end of a choice is left out. -/
def closeChoice? (raw : List Char) : Option Command :=
  match Text.afterKeyword? "END-IF" raw with
  | some (next :: _) => if Text.isWord next then none else some .closeChoice
  | some [] => some .closeChoice
  | none => none

def execute? (raw : List Char) : Option Command := do
  some (.execute (String.ofList (← argument? "EXEC" raw)))

/-- An equals sign stands for the keyword of an insertion. -/
def insertArgument? (raw : List Char) : Option (List Char) :=
  match raw with
  | '=' :: rest =>
      let trimmed := rest.dropWhile Text.isBlank
      if trimmed.isEmpty then none else some trimmed
  | _ => argument? "INS" raw

def ofCharacters (raw : List Char) : Command :=
  (openLoop? raw).getD <|
  (closeLoop? raw).getD <|
  (openChoice? raw).getD <|
  (closeChoice? raw).getD <|
  (execute? raw).getD <|
  .insert (String.ofList ((insertArgument? raw).getD raw))

/-- This classifies a command that has no blanks around it. The first kind that fits is taken, and
a command of no other kind is inserted as a whole. -/
def ofText (raw : String) : Command := ofCharacters raw.toList

end Command

end Letterpress.Report
