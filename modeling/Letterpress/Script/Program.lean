import Letterpress.Value.Basic

/-!
This file holds the programs of scripts. The target of an assignment or a deletion is a name or a
member by construction.
-/

namespace Letterpress.Script

inductive Literal
  | null
  | bool (value : Bool)
  | int (value : Nat)
  | real (value : Binary64)
  | text (value : String)
  deriving DecidableEq, Repr

def Literal.value : Literal → Value
  | null => .null
  | bool value => .bool value
  | int value => .int value
  | real value => .real value
  | text value => .text value

inductive UnaryOperator
  | not
  | minus
  | plus
  deriving DecidableEq, Repr

inductive BinaryOperator
  | multiply
  | divide
  | remainder
  | add
  | subtract
  | less
  | lessOrEqual
  | greater
  | greaterOrEqual
  | equal
  | notEqual
  | identical
  | notIdentical
  deriving DecidableEq, Repr

inductive LogicalOperator
  | and
  | or
  | coalesce
  deriving DecidableEq, Repr

/-- A call keeps the source text of its callee for messages. -/
inductive Expression
  | literal (value : Literal)
  | name (name : String)
  | this
  | array (items : List Expression)
  | member (object key : Expression)
  | call (callee : Expression) (arguments : List Expression) (source : String)
  | unary (operator : UnaryOperator) (operand : Expression)
  | binary (operator : BinaryOperator) (left right : Expression)
  | logical (operator : LogicalOperator) (left right : Expression)
  | conditional (test consequent alternate : Expression)
  | assignName (name : String) (value : Expression)
  | assignMember (object key value : Expression)
  deriving Inhabited

inductive Statement
  | expression (value : Expression)
  | deleteName (name : String)
  | deleteMember (object key : Expression)

/-- The value of a program is that of its last statement. -/
abbrev Program := List Statement

def UnaryOperator.symbol : UnaryOperator → String
  | not => "!"
  | minus => "-"
  | plus => "+"

def BinaryOperator.symbol : BinaryOperator → String
  | multiply => "*"
  | divide => "/"
  | remainder => "%"
  | add => "+"
  | subtract => "-"
  | less => "<"
  | lessOrEqual => "<="
  | greater => ">"
  | greaterOrEqual => ">="
  | equal => "=="
  | notEqual => "!="
  | identical => "==="
  | notIdentical => "!=="

def LogicalOperator.symbol : LogicalOperator → String
  | and => "&&"
  | or => "||"
  | coalesce => "??"

end Letterpress.Script
