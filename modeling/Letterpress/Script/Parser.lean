import Letterpress.Json.Reading
import Letterpress.Script.Program
import Letterpress.Script.Token

/-!
This file reads programs. The grammar refers to itself only through the readers of nested
expressions, and every nesting uses up one level of a limited depth.
-/

namespace Letterpress.Script

/-- A token was not expected, or a literal has no value. -/
inductive Refusal
  | unexpected (expectation : Expectation) (found : Token)
  | fault (fault : Fault)

/-- A reader returns the tokens that it leaves. -/
abbrev TokenReader (Result : Type) := List Token → Except Refusal (Result × List Token)

namespace Parser

def current (tokens : List Token) : Token := tokens.headD default

def refuse {Result : Type} (expectation : Expectation) (tokens : List Token) :
    Except Refusal Result :=
  .error (.unexpected expectation (current tokens))

/-- Words and operators are symbols of the grammar. -/
def isSymbol (token : Token) (symbol : String) : Bool :=
  (token.kind = .operator || token.kind = .name) && token.text = symbol

/-- This passes a symbol if it comes next. -/
def accept? (symbol : String) : List Token → Option (List Token)
  | token :: rest => if isSymbol token symbol then some rest else none
  | [] => none

def expect (symbol : String) (tokens : List Token) : Except Refusal (List Token) :=
  match accept? symbol tokens with
  | some rest => .ok rest
  | none => refuse (.symbol symbol) tokens

/-- This passes the first of several symbols that comes next. -/
def acceptOne? {Meaning : Type} (symbols : List (String × Meaning)) (tokens : List Token) :
    Option (Meaning × List Token) :=
  symbols.findSome? fun (symbol, meaning) =>
    (accept? symbol tokens).map fun rest => (meaning, rest)

/-- These are the readers of nested expressions. -/
structure Nested where
  assignment : TokenReader Expression
  unary : TokenReader Expression

/-- An integer of too many digits has no value. -/
def numberLiteral (text : String) : Except Refusal Expression :=
  let digits := text.toList.map toAsciiDigit
  if digits.all Char.isDigit then
    if Json.maximalDigits < digits.length then .error (.fault .badValue)
    else .ok (.literal (.int (readDecimal digits)))
  else match DecimalNotation.readUnsigned? false digits with
    | some number => .ok (.literal (.real (Binary64.ofNotation number)))
    | none => .error (.fault .badValue)

/-- Some names stand for values. -/
def nameExpression (name : String) : Expression :=
  match name with
  | "true" => .literal (.bool true)
  | "false" => .literal (.bool false)
  | "null" => .literal .null
  | "undefined" => .literal .null
  | "this" => .this
  | other => .name other

/-- This reads items up to a closing symbol; the items read so far are kept in reverse. -/
def itemsFrom (nested : Nested) (closing : String) (read : List Expression) :
    Nat → TokenReader (List Expression)
  | 0, tokens => refuse (.symbol ",") tokens
  | fuel + 1, tokens => do
      let (item, afterItem) ← nested.assignment tokens
      match accept? closing afterItem with
      | some rest => return ((item :: read).reverse, rest)
      | none => itemsFrom nested closing (item :: read) fuel (← expect "," afterItem)

def items (nested : Nested) (closing : String) : TokenReader (List Expression) := fun tokens =>
  match accept? closing tokens with
  | some rest => .ok ([], rest)
  | none => itemsFrom nested closing [] tokens.length tokens

/-- A primary expression is a literal, a name, a parenthesized expression or an array. -/
def primary (nested : Nested) : TokenReader Expression := fun tokens =>
  let token := current tokens
  let rest := tokens.tail
  match token.kind with
  | .number => do return (← numberLiteral token.text, rest)
  | .text => .ok (.literal (.text (unescape token.text)), rest)
  | .name => .ok (nameExpression token.text, rest)
  | _ =>
      match accept? "(" tokens, accept? "[" tokens with
      | some inside, _ => do
          let (expression, afterExpression) ← nested.assignment inside
          return (expression, ← expect ")" afterExpression)
      | none, some inside => do
          let (elements, after) ← items nested "]" inside
          return (.array elements, after)
      | none, none => refuse .operand tokens

/-- This reads members and calls after an expression. The source text of a callee reaches from the
start of the expression to the opening parenthesis. -/
def suffixes (nested : Nested) (slice : Nat → Nat → String) (start : Nat) :
    Nat → Expression → TokenReader Expression
  | 0, expression, tokens => .ok (expression, tokens)
  | fuel + 1, expression, tokens =>
      match accept? "." tokens, accept? "[" tokens, accept? "(" tokens with
      | some afterDot, _, _ =>
          let property := current afterDot
          if property.kind = .name then
            suffixes nested slice start fuel
              (.member expression (.literal (.text property.text))) afterDot.tail
          else refuse .propertyName afterDot
      | none, some inside, _ => do
          let (key, afterKey) ← nested.assignment inside
          suffixes nested slice start fuel (.member expression key) (← expect "]" afterKey)
      | none, none, some inside => do
          let (arguments, after) ← items nested ")" inside
          suffixes nested slice start fuel
            (.call expression arguments (slice start (current tokens).position)) after
      | none, none, none => .ok (expression, tokens)

def suffixed (nested : Nested) (slice : Nat → Nat → String) : TokenReader Expression :=
  fun tokens => do
    let (expression, rest) ← primary nested tokens
    suffixes nested slice (current tokens).position rest.length expression rest

def unarySymbols : List (String × UnaryOperator) := [("!", .not), ("-", .minus), ("+", .plus)]

def unary (nested : Nested) (slice : Nat → Nat → String) : TokenReader Expression := fun tokens =>
  match acceptOne? unarySymbols tokens with
  | some (operator, rest) => do
      let (operand, after) ← nested.unary rest
      return (.unary operator operand, after)
  | none => suffixed nested slice tokens

/-- The operators of one precedence level, each with what it builds. -/
abbrev Level := List (String × (Expression → Expression → Expression))

/-- This extends an expression to the right as long as operators of the level follow. -/
def chainFrom (level : Level) (operand : TokenReader Expression) :
    Nat → Expression → TokenReader Expression
  | 0, left, tokens => .ok (left, tokens)
  | fuel + 1, left, tokens =>
      match acceptOne? level tokens with
      | none => .ok (left, tokens)
      | some (build, afterOperator) => do
          let (right, rest) ← operand afterOperator
          chainFrom level operand fuel (build left right) rest

/-- Operators of one level associate to the left. -/
def chain (level : Level) (operand : TokenReader Expression) : TokenReader Expression :=
  fun tokens => do
    let (left, rest) ← operand tokens
    chainFrom level operand rest.length left rest

def binaryLevel (operators : List BinaryOperator) : Level :=
  operators.map fun operator => (operator.symbol, Expression.binary operator)

def logicalLevel (operators : List LogicalOperator) : Level :=
  operators.map fun operator => (operator.symbol, Expression.logical operator)

/-- The precedence levels from the tightest to the loosest. -/
def levels : List Level :=
  [binaryLevel [.multiply, .divide, .remainder], binaryLevel [.add, .subtract],
    binaryLevel [.lessOrEqual, .greaterOrEqual, .less, .greater],
    binaryLevel [.identical, .notIdentical, .equal, .notEqual],
    logicalLevel [.and], logicalLevel [.or, .coalesce]]

def disjunction (nested : Nested) (slice : Nat → Nat → String) : TokenReader Expression :=
  levels.foldl (fun operand level => chain level operand) (unary nested slice)

def conditional (nested : Nested) (slice : Nat → Nat → String) : TokenReader Expression :=
  fun tokens => do
    let (test, rest) ← disjunction nested slice tokens
    match accept? "?" rest with
    | none => return (test, rest)
    | some afterMark => do
        let (consequent, afterConsequent) ← nested.assignment afterMark
        let (alternate, after) ← nested.assignment (← expect ":" afterConsequent)
        return (.conditional test consequent alternate, after)

/-- Only a name or a member can be assigned to. -/
def assignment (nested : Nested) (slice : Nat → Nat → String) : TokenReader Expression :=
  fun tokens => do
    let (target, rest) ← conditional nested slice tokens
    match accept? "=" rest with
    | none => return (target, rest)
    | some afterSign =>
        match target with
        | .name name => do
            let (value, after) ← nested.assignment afterSign
            return (.assignName name value, after)
        | .member object key => do
            let (value, after) ← nested.assignment afterSign
            return (.assignMember object key value, after)
        | _ => refuse .assignmentTarget rest

/-- These are the readers for a number of nesting levels. -/
def nestedTo (slice : Nat → Nat → String) : Nat → Nested
  | 0 => ⟨fun _ => .error (.fault .tooDeep), fun _ => .error (.fault .tooDeep)⟩
  | depth + 1 =>
      let inner := nestedTo slice depth
      ⟨assignment inner slice, unary inner slice⟩

def declarations : List (String × Unit) := [("var", ()), ("let", ()), ("const", ())]

/-- A declared name without a value is null. -/
def declaration (nested : Nested) : TokenReader Statement := fun tokens =>
  let name := current tokens
  if name.kind = .name then
    match accept? "=" tokens.tail with
    | some afterSign => do
        let (value, after) ← nested.assignment afterSign
        return (.expression (.assignName name.text value), after)
    | none => .ok (.expression (.assignName name.text (.literal .null)), tokens.tail)
  else refuse .variableName tokens

def deletion (nested : Nested) : TokenReader Statement := fun tokens => do
  let (target, rest) ← nested.unary tokens
  match target with
  | .name name => return (.deleteName name, rest)
  | .member object key => return (.deleteMember object key, rest)
  | _ => refuse .deleteTarget rest

def statement (nested : Nested) : TokenReader Statement := fun tokens =>
  match accept? "delete" tokens, acceptOne? declarations tokens with
  | some rest, _ => deletion nested rest
  | none, some (_, rest) => declaration nested rest
  | none, none => do
      let (expression, rest) ← nested.assignment tokens
      return (.expression expression, rest)

def isFinished (tokens : List Token) : Bool := (current tokens).kind = .finish

/-- Statements are separated by semicolons, which may also stand alone. -/
def statementsFrom (nested : Nested) (read : Program) :
    Nat → List Token → Except Refusal Program
  | 0, _ => .ok read.reverse
  | fuel + 1, tokens =>
      if isFinished tokens then .ok read.reverse
      else match accept? ";" tokens with
        | some rest => statementsFrom nested read fuel rest
        | none => do
            let (first, rest) ← statement nested tokens
            if isFinished rest then return (first :: read).reverse
            else statementsFrom nested (first :: read) fuel (← expect ";" rest)

end Parser

/-- This is the part of a source between two places, without blanks around it. -/
def sliceOf (source : String) (start stop : Nat) : String :=
  String.ofList (Text.stripList ((source.toList.drop start).take (stop - start)))

def Refusal.failure (source : String) : Refusal → Failure
  | unexpected expectation found =>
      .problem (.unexpectedToken source found.position expectation found.text)
  | fault value => .fault value

/-- This reads a program whose expressions nest at most to the given depth. -/
def parseTo (depth : Nat) (source : String) : Except Failure Program :=
  match tokenize source with
  | .error problem => .error (.problem problem)
  | .ok tokens =>
      let nested := Parser.nestedTo (sliceOf source) depth
      (Parser.statementsFrom nested [] tokens.length tokens).mapError (Refusal.failure source)

/-- Expressions that nest deeper than this are refused. -/
def maximalDepth : Nat := 200

def parse (source : String) : Except Failure Program := parseTo maximalDepth source

end Letterpress.Script
