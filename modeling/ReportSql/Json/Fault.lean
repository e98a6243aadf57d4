import ReportSql.Json.Value
import ReportSql.Text.Visible

/-!
# Reading faults

Why a text cannot be read as a value of some type: it is not JSON, or it is JSON of another shape.

## Main definitions

* `Found`, `Expected` — what stands in the text and what should.
* `Fault` — why reading failed.
* `Fault.message` — what is said about a fault of shape.
-/

namespace ReportSql

/-- What was found in place of something else. -/
inductive Found where
  | null
  | bool (value : Bool)
  | number (value : JsonNumber)
  | text (value : String)
  | sequence
  | map
deriving DecidableEq

/-- The words for what was found.  The strings name kinds of JSON values. -/
def Found.phrase : Found → String
  | .null => "null"
  | .bool b => "boolean `" ++ (if b then "true" else "false") ++ "`"
  | .number (.float x) => "floating point `" ++ Json.renderDouble x ++ "`"
  | .number n => "integer `" ++ Json.renderNumber n ++ "`"
  | .text s => "string " ++ Text.quoted s
  | .sequence => "sequence"
  | .map => "map"

/-- What a reader looks for. -/
inductive Expected where
  | text
  | boolean
  | natural
  | sequence
  | map
  | record (title : String)
  | unit
  | choice
  | singleEntry
deriving DecidableEq

/-- The words for what was expected. -/
def Expected.phrase : Expected → String
  | .text => "a string"
  | .boolean => "a boolean"
  | .natural => "u64"
  | .sequence => "a sequence"
  | .map => "a map"
  | .record title => "struct " ++ title
  | .unit => "unit"
  | .choice => "string or map"
  | .singleEntry => "map with a single key"

/-- Why a text cannot be read as a value of some type. -/
inductive Fault where
  /-- The text is not JSON where it had to be read. -/
  | notJson
  | missingField (name : String)
  | duplicateField (name : String)
  | unknownChoice (given : String) (known : List String)
  | wrongType (found : Found) (expected : Expected)
  | wrongValue (found : Found) (expected : Expected)
  | wrongLength (length : Nat) (title : String) (fields : Nat)
  /-- A value that is none of the alternatives of a type. -/
  | noAlternative (type : String)
  /-- A value of the right shape that a rule of its type refuses. -/
  | refused (reason : String)
deriving DecidableEq

namespace Fault

/-- A name between backquotes. -/
def ticked (name : String) : String := "`" ++ name ++ "`"

/-- What is said about a fault; nothing about a text that is not JSON. -/
def message : Fault → String
  | .notJson => ""
  | .missingField name => "missing field " ++ ticked name
  | .duplicateField name => "duplicate field " ++ ticked name
  | .unknownChoice given known =>
    "unknown variant " ++ ticked given ++ ", expected one of " ++
      ", ".intercalate (known.map ticked)
  | .wrongType found expected =>
    "invalid type: " ++ found.phrase ++ ", expected " ++ expected.phrase
  | .wrongValue found expected =>
    "invalid value: " ++ found.phrase ++ ", expected " ++ expected.phrase
  | .wrongLength length title fields =>
    "invalid length " ++ length.repr ++ ", expected struct " ++ title ++ " with " ++
      fields.repr ++ " elements"
  | .noAlternative type => "data did not match any variant of untagged enum " ++ type
  | .refused reason => reason

end Fault

end ReportSql
