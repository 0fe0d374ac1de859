import Letterpress.Script.Program

/-!
This file views a program as a tree of plain nodes, in which any text may be an operator and any node
may be a target, and tells which trees have meaning at every depth.
-/

namespace Letterpress.Script

/-- A plain node. Its operator is a text, and what is assigned to or deleted is a node. -/
inductive Node
  | literal (value : Literal)
  | name (name : String)
  | this
  | array (items : List Node)
  | member (object key : Node)
  | call (callee : Node) (arguments : List Node) (source : String)
  | unary (operator : String) (operand : Node)
  | binary (operator : String) (left right : Node)
  | logical (operator : String) (left right : Node)
  | conditional (test consequent alternate : Node)
  | assign (target value : Node)
  | delete (target : Node)

namespace Expression

mutual

def node : Expression → Node
  | literal value => .literal value
  | name itemName => .name itemName
  | this => .this
  | array items => .array (nodes items)
  | member object key => .member object.node key.node
  | call callee arguments source => .call callee.node (nodes arguments) source
  | unary operator operand => .unary operator.symbol operand.node
  | binary operator left right => .binary operator.symbol left.node right.node
  | logical operator left right => .logical operator.symbol left.node right.node
  | conditional test consequent alternate =>
      .conditional test.node consequent.node alternate.node
  | assignName itemName value => .assign (.name itemName) value.node
  | assignMember object key value => .assign (.member object.node key.node) value.node

def nodes : List Expression → List Node
  | [] => []
  | item :: rest => item.node :: nodes rest

end

end Expression

def Statement.node : Statement → Node
  | expression value => value.node
  | deleteName itemName => .delete (.name itemName)
  | deleteMember object key => .delete (.member object.node key.node)

namespace Node

def parts : Node → List Node
  | literal _ | name _ | this => []
  | array items => items
  | member object key => [object, key]
  | call callee arguments _ => callee :: arguments
  | unary _ operand => [operand]
  | binary _ left right | logical _ left right => [left, right]
  | conditional test consequent alternate => [test, consequent, alternate]
  | assign target value => [target, value]
  | delete target => [target]

/-- A node lies in a tree at some depth. -/
inductive Within (node : Node) : Node → Prop
  | root : Within node node
  | part {part tree : Node} (isPart : part ∈ tree.parts) (within : Within node part) :
      Within node tree

def IsTarget : Node → Prop
  | name _ | member .. => True
  | _ => False

def unaryOperators : List String := ["!", "-", "+"]

def logicalOperators : List String := ["&&", "||", "??"]

def binaryOperators : List String :=
  ["+", "-", "*", "/", "%", "==", "!=", "===", "!==", "<", "<=", ">", ">="]

/-- The operator is known, and the target can be assigned to or deleted. -/
def HasMeaning : Node → Prop
  | unary operator _ => operator ∈ unaryOperators
  | binary operator _ _ => operator ∈ binaryOperators
  | logical operator _ _ => operator ∈ logicalOperators
  | assign target _ | delete target => target.IsTarget
  | _ => True

/-- A tree is well-formed if every node in it has meaning. -/
def IsWellFormed (tree : Node) : Prop := ∀ node : Node, node.Within tree → node.HasMeaning

theorem wellFormedOfParts {tree : Node} (hasMeaning : tree.HasMeaning)
    (partsWellFormed : ∀ part ∈ tree.parts, part.IsWellFormed) : tree.IsWellFormed := by
  intro node within
  cases within with
  | root => exact hasMeaning
  | part isPart within => exact partsWellFormed _ isPart node within

theorem wellFormedOfPair {tree first second : Node} (areParts : tree.parts = [first, second])
    (hasMeaning : tree.HasMeaning) (firstWellFormed : first.IsWellFormed)
    (secondWellFormed : second.IsWellFormed) : tree.IsWellFormed :=
  wellFormedOfParts hasMeaning (areParts ▸ List.forall_mem_cons.2
    ⟨firstWellFormed, List.forall_mem_singleton.2 secondWellFormed⟩)

theorem nameIsWellFormed (itemName : String) : (name itemName).IsWellFormed :=
  wellFormedOfParts trivial nofun

theorem memberIsWellFormed {object key : Node} (objectWellFormed : object.IsWellFormed)
    (keyWellFormed : key.IsWellFormed) : (member object key).IsWellFormed :=
  wellFormedOfPair rfl trivial objectWellFormed keyWellFormed

end Node

theorem unaryIsKnown (operator : UnaryOperator) : operator.symbol ∈ Node.unaryOperators := by
  cases operator <;> decide

theorem binaryIsKnown (operator : BinaryOperator) : operator.symbol ∈ Node.binaryOperators := by
  cases operator <;> decide

theorem logicalIsKnown (operator : LogicalOperator) : operator.symbol ∈ Node.logicalOperators := by
  cases operator <;> decide

open Node

mutual

theorem expressionIsWellFormed : (expression : Expression) → expression.node.IsWellFormed
  | .literal _ | .this => wellFormedOfParts trivial nofun
  | .name itemName => nameIsWellFormed itemName
  | .array items => wellFormedOfParts trivial (itemsAreWellFormed items)
  | .member object key =>
      memberIsWellFormed (expressionIsWellFormed object) (expressionIsWellFormed key)
  | .call callee arguments _ => wellFormedOfParts trivial
      (List.forall_mem_cons.2 ⟨expressionIsWellFormed callee, itemsAreWellFormed arguments⟩)
  | .unary operator operand => wellFormedOfParts (unaryIsKnown operator)
      (List.forall_mem_singleton.2 (expressionIsWellFormed operand))
  | .binary operator left right => wellFormedOfPair rfl (binaryIsKnown operator)
      (expressionIsWellFormed left) (expressionIsWellFormed right)
  | .logical operator left right => wellFormedOfPair rfl (logicalIsKnown operator)
      (expressionIsWellFormed left) (expressionIsWellFormed right)
  | .conditional test consequent alternate => wellFormedOfParts trivial
      (List.forall_mem_cons.2 ⟨expressionIsWellFormed test, List.forall_mem_cons.2
        ⟨expressionIsWellFormed consequent,
          List.forall_mem_singleton.2 (expressionIsWellFormed alternate)⟩⟩)
  | .assignName itemName value =>
      wellFormedOfPair rfl trivial (nameIsWellFormed itemName) (expressionIsWellFormed value)
  | .assignMember object key value => wellFormedOfPair rfl trivial
      (memberIsWellFormed (expressionIsWellFormed object) (expressionIsWellFormed key))
      (expressionIsWellFormed value)

theorem itemsAreWellFormed : (items : List Expression) →
    ∀ node ∈ Expression.nodes items, node.IsWellFormed
  | [] => nofun
  | item :: rest => List.forall_mem_cons.2 ⟨expressionIsWellFormed item, itemsAreWellFormed rest⟩

end

theorem statementIsWellFormed (statement : Statement) : statement.node.IsWellFormed := by
  cases statement with
  | expression value => exact expressionIsWellFormed value
  | deleteName itemName =>
      exact wellFormedOfParts trivial (List.forall_mem_singleton.2 (nameIsWellFormed itemName))
  | deleteMember object key =>
      exact wellFormedOfParts trivial (List.forall_mem_singleton.2
        (memberIsWellFormed (expressionIsWellFormed object) (expressionIsWellFormed key)))

end Letterpress.Script
