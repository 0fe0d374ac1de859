import Letterpress.Fault
import Letterpress.Number.Digits

/-!
This file converts a document with the first converter that is installed.
-/

namespace Letterpress

/-- A converter that exits leaves a converted document or none. -/
inductive ConverterOutcome (Document : Type)
  | missing
  | timedOut
  | exited (code : Int) (document : Option Document)
  deriving DecidableEq, Repr

/-- An attempt is a command with what comes of it. -/
structure Attempt (Document : Type) where
  command : String
  outcome : ConverterOutcome Document
  deriving DecidableEq, Repr

inductive ConversionProblem
  | timedOut (command : String)
  | missing (command : String)
  | exited (command : String) (code : Int)
  | noConverter
  deriving DecidableEq, Repr

namespace ConversionProblem

def kind (_ : ConversionProblem) : ProblemKind := .conversion

def failed (reason : String) : String := "Could not convert DOCX to PDF: " ++ reason

def message : ConversionProblem → String
  | timedOut command => "PDF conversion timed out (" ++ command ++ ")"
  | missing command => failed (command ++ " not installed")
  | exited command code => failed (command ++ " exited with code " ++ integerText code)
  | noConverter => failed "no converter configured"

end ConversionProblem

/-- A conversion has started some commands and ends with a document or a problem. -/
structure Conversion (Document : Type) where
  started : List String
  result : Except ConversionProblem Document

namespace Conversion

variable {Document : Type}

/-- A converter succeeds if it exits with zero and leaves a document. -/
def exitResult (command : String) (code : Int) (document : Option Document) :
    Except ConversionProblem Document :=
  match decide (code = 0), document with
  | true, some found => .ok found
  | _, _ => .error (.exited command code)

/-- Only a missing converter gives way to the next one. -/
def runFrom (problem : ConversionProblem) : List (Attempt Document) → Conversion Document
  | [] => ⟨[], .error problem⟩
  | ⟨command, outcome⟩ :: rest =>
      match outcome with
      | .missing =>
          let others := runFrom (.missing command) rest
          ⟨command :: others.started, others.result⟩
      | .timedOut => ⟨[command], .error (.timedOut command)⟩
      | .exited code document => ⟨[command], exitResult command code document⟩

def runAttempts (attempts : List (Attempt Document)) : Conversion Document :=
  runFrom .noConverter attempts

def run (outcome : String → ConverterOutcome Document) (commands : List String) :
    Conversion Document :=
  runAttempts (commands.map fun command => ⟨command, outcome command⟩)

/-- This is the command line of a converter. -/
def commandLine (directory document command : String) : List String :=
  [command, "--headless", "--convert-to", "pdf", "--outdir", directory, document]

end Conversion

end Letterpress
