import Letterpress.Fault
import Letterpress.Script.Problem

/-!
This file names what can be wrong with a report and words it.
-/

namespace Letterpress.Report

/-- A block is a loop over the items of a list, or a choice. -/
inductive BlockName
  | loop (itemName : String)
  | choice
  deriving DecidableEq, Repr

def BlockName.keyword : BlockName → String
  | loop _ => "FOR"
  | choice => "IF"

def BlockName.label : BlockName → String
  | loop itemName => "FOR " ++ itemName
  | choice => "IF"

inductive Problem
  | malformedPart
  | unmatchedEnd (command keyword : String)
  | unterminated (block : BlockName)
  | script (problem : Script.Problem)
  | failing (code : String) (fault : Fault)
  | tooDeep (code : String)
  | notAList (itemName code : String)
  | malformedOutput (part : String)
  | emptyTemplate
  | brokenArchive
  | missingTemplate (path : String)
  | malformedRegistry (path : String)
  | unknownTemplate (key : String)
  | missingFile (key file path : String)
  | inPart (part : String) (problem : Problem)
  deriving DecidableEq, Repr

namespace Problem

def kind : Problem → ProblemKind
  | malformedPart => .template
  | unmatchedEnd .. => .command
  | unterminated _ => .command
  | script problem => problem.kind
  | failing .. => .evaluation
  | tooDeep _ => .evaluation
  | notAList .. => .evaluation
  | malformedOutput _ => .command
  | emptyTemplate => .template
  | brokenArchive => .template
  | missingTemplate _ => .template
  | malformedRegistry _ => .template
  | unknownTemplate _ => .template
  | missingFile .. => .template
  | inPart _ problem => problem.kind

def loopCommand (itemName code : String) : String := "FOR " ++ itemName ++ " IN " ++ code

def message (wording : Wording) : Problem → String
  | malformedPart => "Template part is not well-formed XML: " ++ wording.malformedMarkup
  | unmatchedEnd command keyword => "Unexpected " ++ command ++ ": no matching " ++ keyword
  | unterminated block => "Unterminated " ++ block.label ++ " command"
  | script problem => problem.message
  | failing code fault => "Error evaluating '" ++ code ++ "': " ++ wording.fault fault
  | tooDeep code => "Expression too deeply nested: " ++ code
  | notAList itemName code => loopCommand itemName code ++ ": value is not a list"
  | malformedOutput part =>
      "Rendered part " ++ part ++ " is not well-formed XML: " ++ wording.malformedMarkup
  | emptyTemplate => "Template is empty"
  | brokenArchive => "Template is not a valid DOCX archive: " ++ wording.brokenArchive
  | missingTemplate path => "Template file not found: " ++ path
  | malformedRegistry path => "Template registry is not valid JSON: " ++ path
  | unknownTemplate key => "Unknown template: " ++ key
  | missingFile _ file _ => "Template file not found: " ++ file
  | inPart _ problem => problem.message wording

/-- The part is added unless the details name one. -/
def addPart (part : String) (details : List (String × Value)) : List (String × Value) :=
  if details.any fun detail => detail.1 = "part" then details
  else details ++ [("part", .text part)]

def details : Problem → List (String × Value)
  | unmatchedEnd command _ => [("command", .text command)]
  | unterminated block => [("command", .text block.label)]
  | script problem => problem.details
  | failing code _ => [("code", .text code)]
  | notAList itemName code => [("command", .text (loopCommand itemName code))]
  | malformedOutput part => [("part", .text part)]
  | missingTemplate path => [("path", .text path)]
  | malformedRegistry path => [("path", .text path)]
  | unknownTemplate key => [("key", .text key)]
  | missingFile key _ path => [("key", .text key), ("path", .text path)]
  | inPart part problem => addPart part problem.details
  | _ => []

end Problem

/-- A report fails with a problem of its own or with a fault of an operation. -/
inductive Failure
  | problem (problem : Problem)
  | fault (fault : Fault)
  deriving DecidableEq, Repr

/-- A problem is told together with the part where it is met. -/
def Failure.inPart (part : String) : Failure → Failure
  | .problem found => .problem (.inPart part found)
  | .fault found => .fault found

end Letterpress.Report
