/-!
This file names the failures that are not problems of a document: an operation was given
something that it has no result for. An application words them, and other reasons that lie outside
of a document, in its own way. The file also sorts the problems of documents into kinds.
-/

namespace Letterpress

inductive Fault
  | wrongType
  | badValue
  | overflow
  | tooDeep
  | invalidOperation
  | missingAttribute
  | missingFile
  | invalidInput
  deriving DecidableEq, Repr

/-- A fault is worded by its kind; the other reasons are those of unreadable contents. -/
structure Wording where
  fault : Fault → String
  malformedMarkup : String
  malformedJson : String
  brokenArchive : String
  unreadablePages : String

/-- A kind of problems keeps its code when the wording of the problems changes. -/
inductive ProblemKind
  | template
  | command
  | evaluation
  | placement
  | stampImage
  | conversion
  | preview
  deriving DecidableEq, Repr

/-- Codes from 100 are about templates, from 200 about stamps and from 300 about storage. -/
def ProblemKind.code : ProblemKind → String
  | template => "DOC-100"
  | command => "DOC-101"
  | evaluation => "DOC-102"
  | placement => "DOC-200"
  | stampImage => "DOC-201"
  | conversion => "DOC-300"
  | preview => "DOC-301"

end Letterpress
