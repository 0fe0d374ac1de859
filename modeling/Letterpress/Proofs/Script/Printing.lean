import Letterpress.Json.Reading
import Letterpress.Number.Shortest
import Letterpress.Script.Program
import Letterpress.Script.Token
import Letterpress.Text.Quoted

/-!
This file prints programs, with parentheses only where the precedence of the operators requires
them.
-/

namespace Letterpress.Script

/-! ### Words -/

/-- A word is a token without its place. -/
structure Word where
  kind : TokenKind
  text : String
  deriving DecidableEq, Repr

def Token.word (token : Token) : Word := ⟨token.kind, token.text⟩

namespace Word

def name (text : String) : Word := ⟨.name, text⟩

def symbol (text : String) : Word := ⟨.operator, text⟩

def finish : Word := ⟨.finish, ""⟩

/-- Parentheses stand around what is too loose for its place. -/
def enclose (allowed rank : Nat) (words : List Word) : List Word :=
  if rank ≤ allowed then words else symbol "(" :: (words ++ [symbol ")"])

/-- Words are separated by single spaces. -/
def spaced (words : List Word) : List Char :=
  [' '].intercalate (words.map fun word => word.text.toList)

end Word

def Literal.word : Literal → Word
  | null => .name "null"
  | bool true => .name "true"
  | bool false => .name "false"
  | int value => ⟨.number, decimalText value⟩
  | real value => ⟨.number, value.roundTripText⟩
  | text value => ⟨.text, Text.quote value⟩

/-! ### Precedence

A rank counts the levels of precedence from the tightest one: rank 0 belongs to primary expressions
with their suffixes, rank 9 to assignments.
-/

def UnaryOperator.rank : Nat := 1

def BinaryOperator.rank : BinaryOperator → Nat
  | multiply | divide | remainder => 2
  | add | subtract => 3
  | less | lessOrEqual | greater | greaterOrEqual => 4
  | equal | notEqual | identical | notIdentical => 5

def LogicalOperator.rank : LogicalOperator → Nat
  | and => 6
  | or | coalesce => 7

namespace Expression

def conditionalRank : Nat := 8

def assignmentRank : Nat := 9

def rank : Expression → Nat
  | literal _ | name _ | this | array _ | member _ _ | call _ _ _ => 0
  | unary _ _ => UnaryOperator.rank
  | binary operator _ _ => operator.rank
  | logical operator _ _ => operator.rank
  | conditional _ _ _ => conditionalRank
  | assignName _ _ | assignMember _ _ _ => assignmentRank

mutual

/-- The words of an expression where a rank is allowed. Binary operators associate to the left, so
only their left operand may have their own rank. -/
def words (allowed : Nat) : Expression → List Word
  | literal value => [value.word]
  | name itemName => [.name itemName]
  | this => [.name "this"]
  | array items => .symbol "[" :: (itemWords items ++ [.symbol "]"])
  | member object key =>
      object.words 0 ++ .symbol "[" :: (key.words assignmentRank ++ [.symbol "]"])
  | call callee arguments _ =>
      callee.words 0 ++ .symbol "(" :: (itemWords arguments ++ [.symbol ")"])
  | unary operator operand =>
      Word.enclose allowed UnaryOperator.rank
        (.symbol operator.symbol :: operand.words UnaryOperator.rank)
  | binary operator left right =>
      Word.enclose allowed operator.rank
        (left.words operator.rank ++ .symbol operator.symbol :: right.words (operator.rank - 1))
  | logical operator left right =>
      Word.enclose allowed operator.rank
        (left.words operator.rank ++ .symbol operator.symbol :: right.words (operator.rank - 1))
  | conditional test consequent alternate =>
      Word.enclose allowed conditionalRank
        (test.words (conditionalRank - 1) ++ .symbol "?" ::
          (consequent.words assignmentRank ++ .symbol ":" :: alternate.words assignmentRank))
  | assignName itemName value =>
      Word.enclose allowed assignmentRank
        (.name itemName :: .symbol "=" :: value.words assignmentRank)
  | assignMember object key value =>
      Word.enclose allowed assignmentRank
        (object.words 0 ++ .symbol "[" :: (key.words assignmentRank ++
          .symbol "]" :: .symbol "=" :: value.words assignmentRank))

/-- Items are separated by commas. -/
def itemWords : List Expression → List Word
  | [] => []
  | [item] => item.words assignmentRank
  | item :: next :: rest => item.words assignmentRank ++ .symbol "," :: itemWords (next :: rest)

end

/-- Only the parentheses depend on the place of an expression. -/
theorem wordsEnclosed (allowed : Nat) (expression : Expression) :
    expression.words allowed =
      Word.enclose allowed expression.rank (expression.words assignmentRank) := by
  cases expression with
  | literal | name | this | array | member | call => simp [words, rank, Word.enclose]
  | unary | conditional | assignName | assignMember => rfl
  | binary operator => cases operator <;> rfl
  | logical operator => cases operator <;> rfl

theorem rankBound (expression : Expression) : expression.rank ≤ assignmentRank := by
  cases expression with
  | binary operator => cases operator <;> exact Nat.le_of_ble_eq_true rfl
  | logical operator => cases operator <;> exact Nat.le_of_ble_eq_true rfl
  | _ => exact Nat.le_of_ble_eq_true rfl

/-- Each item has a comma after it if another one follows. -/
theorem itemWordsCons (item : Expression) (rest : List Expression) :
    itemWords (item :: rest) =
      item.words assignmentRank ++ rest.flatMap fun next =>
        .symbol "," :: next.words assignmentRank := by
  induction rest generalizing item with
  | nil => simp [itemWords]
  | cons next rest inductionHypothesis =>
      rw [itemWords, inductionHypothesis]
      rfl

end Expression

open Expression in
def Statement.words : Statement → List Word
  | expression value => value.words assignmentRank
  | deleteName itemName => [.name "delete", .name itemName]
  | deleteMember object key => .name "delete" :: (member object key).words 0

/-- The words of a program end with the finishing one. -/
def programWords (program : Program) : List Word :=
  [Word.symbol ";"].intercalate (program.map Statement.words) ++ [Word.finish]

/-- The semicolon between two statements may have spaces around it. -/
def printProgram (before after : Nat) (program : Program) : String :=
  String.ofList
    ((List.replicate before ' ' ++ ';' :: List.replicate after ' ').intercalate
      (program.map fun statement => Word.spaced statement.words))

/-! ### Printable programs -/

/-- These names have a meaning of their own. -/
def reserved : List String :=
  ["true", "false", "null", "undefined", "this", "delete", "var", "let", "const"]

def isNameText (itemName : String) : Bool :=
  match itemName.toList with
  | [] => false
  | first :: rest => Token.isNameStart first && rest.all Token.isNameContinue

def isPlainName (itemName : String) : Bool :=
  isNameText itemName && !reserved.contains itemName

/-- Integers have at most as many digits as can be read. -/
def Literal.IsPrintable : Literal → Prop
  | int value => (decimalDigits value).length ≤ Json.maximalDigits
  | real _ => False
  | _ => True

inductive Expression.IsPrintable : Expression → Prop
  | literal {value : Literal} (printable : value.IsPrintable) : IsPrintable (.literal value)
  | name {itemName : String} (plain : isPlainName itemName = true) : IsPrintable (.name itemName)
  | this : IsPrintable .this
  | array {items : List Expression} (printable : ∀ item ∈ items, IsPrintable item) :
      IsPrintable (.array items)
  | member {object key : Expression} (printableObject : IsPrintable object)
      (printableKey : IsPrintable key) : IsPrintable (.member object key)
  | call {callee : Expression} {arguments : List Expression} {source : String}
      (printableCallee : IsPrintable callee)
      (printable : ∀ argument ∈ arguments, IsPrintable argument) :
      IsPrintable (.call callee arguments source)
  | unary {operator : UnaryOperator} {operand : Expression} (printable : IsPrintable operand) :
      IsPrintable (.unary operator operand)
  | binary {operator : BinaryOperator} {left right : Expression} (printableLeft : IsPrintable left)
      (printableRight : IsPrintable right) : IsPrintable (.binary operator left right)
  | logical {operator : LogicalOperator} {left right : Expression}
      (printableLeft : IsPrintable left) (printableRight : IsPrintable right) :
      IsPrintable (.logical operator left right)
  | conditional {test consequent alternate : Expression} (printableTest : IsPrintable test)
      (printableConsequent : IsPrintable consequent) (printableAlternate : IsPrintable alternate) :
      IsPrintable (.conditional test consequent alternate)
  | assignName {itemName : String} {value : Expression} (plain : isPlainName itemName = true)
      (printable : IsPrintable value) : IsPrintable (.assignName itemName value)
  | assignMember {object key value : Expression} (printableObject : IsPrintable object)
      (printableKey : IsPrintable key) (printableValue : IsPrintable value) :
      IsPrintable (.assignMember object key value)

def Statement.IsPrintable : Statement → Prop
  | expression value => value.IsPrintable
  | deleteName itemName => isPlainName itemName = true
  | deleteMember object key => object.IsPrintable ∧ key.IsPrintable

/-! ### Heights and sources -/

namespace Expression

mutual

def height : Expression → Nat
  | literal _ | name _ | this => 0
  | array items => itemsHeight items + 1
  | member object key => max object.height key.height + 1
  | call callee arguments _ => max callee.height (itemsHeight arguments) + 1
  | unary _ operand => operand.height + 1
  | binary _ left right | logical _ left right => max left.height right.height + 1
  | conditional test consequent alternate =>
      max test.height (max consequent.height alternate.height) + 1
  | assignName _ value => value.height + 1
  | assignMember object key value => max object.height (max key.height value.height) + 1

def itemsHeight : List Expression → Nat
  | [] => 0
  | item :: rest => max item.height (itemsHeight rest)

end

mutual

/-- This forgets the source texts of callees. -/
def unsourced : Expression → Expression
  | literal value => literal value
  | name itemName => name itemName
  | this => this
  | array items => array (unsourcedItems items)
  | member object key => member object.unsourced key.unsourced
  | call callee arguments _ => call callee.unsourced (unsourcedItems arguments) ""
  | unary operator operand => unary operator operand.unsourced
  | binary operator left right => binary operator left.unsourced right.unsourced
  | logical operator left right => logical operator left.unsourced right.unsourced
  | conditional test consequent alternate =>
      conditional test.unsourced consequent.unsourced alternate.unsourced
  | assignName itemName value => assignName itemName value.unsourced
  | assignMember object key value =>
      assignMember object.unsourced key.unsourced value.unsourced

def unsourcedItems : List Expression → List Expression
  | [] => []
  | item :: rest => item.unsourced :: unsourcedItems rest

end

theorem itemHeight {items : List Expression} {item : Expression} (isItem : item ∈ items) :
    item.height ≤ itemsHeight items := by
  induction items with
  | nil => exact absurd isItem List.not_mem_nil
  | cons first rest inductionHypothesis =>
      rw [itemsHeight]
      obtain rfl | isItem := List.mem_cons.1 isItem
      · exact Nat.le_max_left _ _
      · exact Nat.le_trans (inductionHypothesis isItem) (Nat.le_max_right _ _)

end Expression

def Statement.height : Statement → Nat
  | expression value => value.height
  | deleteName _ => 0
  | deleteMember object key => (Expression.member object key).height

def Statement.unsourced : Statement → Statement
  | expression value => expression value.unsourced
  | deleteName itemName => deleteName itemName
  | deleteMember object key => deleteMember object.unsourced key.unsourced

end Letterpress.Script
