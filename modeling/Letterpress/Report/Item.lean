import Letterpress.Report.Chunk
import Letterpress.Report.Command

/-!
This file nests the commands of a report into blocks.
-/

namespace Letterpress.Report

/-- An item of a report is markup, a command or a block of items. -/
inductive Item
  | markup (content : List Char)
  | insert (code : String) (isInRun : Bool)
  | execute (code : String)
  | loop (itemName code : String) (body : List Item)
  | choice (code : String) (body : List Item)
  deriving Inhabited

/-- An open block waits for its end. The items before it are kept in reverse. -/
structure OpenBlock where
  block : BlockName
  code : String
  before : List Item

def OpenBlock.close (opened : OpenBlock) (body : List Item) : Item :=
  match opened.block with
  | .loop itemName => .loop itemName opened.code body
  | .choice => .choice opened.code body

/-- The innermost open block comes first, and the items after its beginning are kept in
reverse. -/
structure Nesting where
  opened : List OpenBlock
  items : List Item

namespace Nesting

def start : Nesting := ⟨[], []⟩

def add (nesting : Nesting) (item : Item) : Nesting :=
  { nesting with items := item :: nesting.items }

/-- The innermost block is closed if it is of the right sort. -/
def close? (matches? : BlockName → Bool) (nesting : Nesting) : Option Nesting :=
  match nesting.opened with
  | innermost :: outer =>
      if matches? innermost.block then
        some ⟨outer, innermost.close nesting.items.reverse :: innermost.before⟩
      else none
  | [] => none

/-- The end of a loop without a name ends any loop. -/
def isLoop (itemName : String) : BlockName → Bool
  | .loop other => itemName = "" || itemName = other
  | .choice => false

def isChoice : BlockName → Bool
  | .choice => true
  | .loop _ => false

def closeOr (problem : Problem) (closed : Option Nesting) : Except Failure Nesting :=
  match closed with
  | some nesting => .ok nesting
  | none => .error (.problem problem)

def addCommand (nesting : Nesting) (raw : String) (isInRun : Bool) : Except Failure Nesting :=
  match Command.ofText raw with
  | .openBlock block code => .ok ⟨⟨block, code, nesting.items⟩ :: nesting.opened, []⟩
  | .closeLoop itemName =>
      closeOr (.unmatchedEnd raw "FOR") (nesting.close? (isLoop itemName))
  | .closeChoice => closeOr (.unmatchedEnd raw "IF") (nesting.close? isChoice)
  | .execute code => .ok (nesting.add (.execute code))
  | .insert code => .ok (nesting.add (.insert code isInRun))

def step (nesting : Nesting) : Lexeme → Except Failure Nesting
  | .markup content => .ok (nesting.add (.markup content))
  | .command (.ok raw) isInRun => nesting.addCommand raw isInRun
  | .command (.error fault) _ => .error (.fault fault)

def steps (nesting : Nesting) : List Lexeme → Except Failure Nesting
  | [] => .ok nesting
  | lexeme :: rest =>
      match nesting.step lexeme with
      | .ok next => next.steps rest
      | .error failure => .error failure

/-- At the end no block is open. -/
def finish (nesting : Nesting) : Except Failure (List Item) :=
  match nesting.opened with
  | [] => .ok nesting.items.reverse
  | innermost :: _ => .error (.problem (.unterminated innermost.block))

end Nesting

/-- These are the items of written markup. -/
def itemsOf (markup : List Char) : Except Failure (List Item) :=
  (Nesting.start.steps (Lexeme.ofMarkup markup)).bind Nesting.finish

end Letterpress.Report
