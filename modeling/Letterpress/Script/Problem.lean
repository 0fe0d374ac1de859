import Letterpress.Fault
import Letterpress.Text.Shown
import Letterpress.Value.Basic

/-!
This file names what can be wrong with a script and words it.
-/

namespace Letterpress.Script

/-- This is what the grammar asked for at a token that it cannot use. -/
inductive Expectation
  | symbol (text : String)
  | variableName
  | propertyName
  | deleteTarget
  | assignmentTarget
  | operand
  deriving DecidableEq, Repr

def Expectation.message : Expectation → String
  | symbol text => "Expected '" ++ text ++ "'"
  | variableName => "Expected variable name"
  | propertyName => "Expected property name"
  | deleteTarget => "Invalid delete target"
  | assignmentTarget => "Invalid assignment target"
  | operand => "Unexpected token"

inductive Problem
  | unexpectedCharacter (source : String) (position : Nat) (character : Char)
  | unexpectedToken (source : String) (position : Nat) (expectation : Expectation)
      (found : String)
  | undefinedName (name : String)
  | nullMember (key : String)
  | notSettable (key kind : String)
  | notCallable (source : String)
  deriving DecidableEq, Repr

namespace Problem

/-- A problem of the source is found before the script runs. -/
def kind : Problem → ProblemKind
  | unexpectedCharacter .. => .command
  | unexpectedToken .. => .command
  | _ => .evaluation

def place (position : Nat) (source : String) : String :=
  " at " ++ decimalText position ++ " in: " ++ source

def message : Problem → String
  | unexpectedCharacter source position character =>
      "Unexpected character " ++ Text.shown character.toString ++ place position source
  | unexpectedToken source position expectation found =>
      expectation.message ++ " but found '" ++
        (if found = "" then "end of input" else found) ++ "'" ++ place position source
  | undefinedName name => name ++ " is not defined"
  | nullMember key => "Cannot read properties of null (reading '" ++ key ++ "')"
  | notSettable key kind => "Cannot set property '" ++ key ++ "' on " ++ kind
  | notCallable source =>
      (if source = "" then "expression" else source) ++ " is not a function"

/-- The details name the source and the place, the name or the key. -/
def details : Problem → List (String × Value)
  | unexpectedCharacter source position _ =>
      [("source", .text source), ("position", .int position)]
  | unexpectedToken source position _ _ =>
      [("source", .text source), ("position", .int position)]
  | undefinedName name => [("name", .text name)]
  | nullMember key => [("key", .text key)]
  | notSettable key _ => [("key", .text key)]
  | notCallable _ => []

end Problem

/-- A script fails with a problem of its own or with a fault of an operation. -/
inductive Failure
  | problem (problem : Problem)
  | fault (fault : Fault)
  deriving DecidableEq, Repr

end Letterpress.Script
