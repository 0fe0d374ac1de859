import Letterpress.Fault
import Letterpress.FilePath
import Letterpress.Number.Reading
import Letterpress.Table
import Letterpress.Text.Case

/-!
This file reads the settings of an installation from its environment.
-/

namespace Letterpress

structure Settings where
  templatesFolder : String
  registryPath : String
  previewFolder : String
  logLevel : String
  logsToFile : Bool
  logFolder : String
  isOpen : Bool
  lendsHelpers : Bool
  converters : List String
  conversionTimeout : Binary64
  deriving DecidableEq, Repr

namespace Settings

/-- A flag is set by one of four words, in letters of either case. -/
def isSet (text : String) : Bool :=
  ["1", "true", "yes", "on"].contains (Text.toLower (Text.strip text))

/-- The items of a list are separated by commas, and blank ones are left out. -/
def itemsOf (text : String) : List String :=
  ((Text.splitWhere (· = ',') text.toList).map fun item =>
    String.ofList (Text.stripList item)).filter (· ≠ "")

/-- Converters are tried in this order unless others are named. -/
def standardConverters : String := "libreoffice,soffice,lowriter"

/-- Every setting has a standard value. The time for a conversion has to be a number. -/
def read (environment : Table String) : Except Fault Settings :=
  let valueOf (name standard : String) : String :=
    (environment.get? ("DOCGEN_" ++ name)).getD standard
  match Binary64.read? (valueOf "PDF_TIMEOUT" "60") with
  | none => .error .badValue
  | some timeout => .ok {
      templatesFolder := FilePath.normalize (valueOf "TEMPLATES_DIR" "templates")
      registryPath := FilePath.normalize (valueOf "TEMPLATES_CONFIG" "templates.config.json")
      previewFolder := FilePath.normalize (valueOf "PREVIEW_DIR" "previews")
      logLevel := Text.toUpper (valueOf "LOG_LEVEL" "INFO")
      logsToFile := isSet (valueOf "LOG_TO_FILE" "false")
      logFolder := FilePath.normalize (valueOf "LOG_DIR" "logs")
      isOpen := isSet (valueOf "NO_SANDBOX" "false")
      lendsHelpers := isSet (valueOf "GLOBAL_HELPER" "true")
      converters := itemsOf (valueOf "PDF_CONVERTERS" standardConverters)
      conversionTimeout := timeout }

end Settings

end Letterpress
