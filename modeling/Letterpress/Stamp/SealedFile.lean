import Letterpress.FilePath
import Letterpress.Stamp.Stamping

/-!
This file writes stamped pages to a file. Nothing is written unless all stamps are drawn.
-/

namespace Letterpress

/-- A sealed file has stamped pages. -/
structure SealedFile where
  path : String
  pages : List StampedPage

namespace SealedFile

/-- Without a path of its own the file is a sealed copy beside the pages. -/
def outputPath (path output : String) : String :=
  if output = "" then FilePath.sealed path else output

/-- The folder of the file has to be there already. -/
def write (known : List String) (path output : String)
    (stamped : Except StampFailure (List StampedPage)) : Except StampFailure SealedFile :=
  stamped.bind fun pages =>
    if FilePath.hasFolder known (outputPath path output) then
      .ok ⟨outputPath path output, pages⟩
    else .error (.fault .missingFile)

/-- These are the files after a writing that may have failed. -/
def filesAfter (known : List String) (written : Except StampFailure SealedFile) : List String :=
  match written with
  | .ok file => file.path :: known
  | .error _ => known

end SealedFile

end Letterpress
