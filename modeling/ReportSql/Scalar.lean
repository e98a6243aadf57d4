import ReportSql.Json.Reading

/-!
# Scalars

The values that filters compare columns with, as a request gives them.

## Main definitions

* `Scalar` — a truth value, a number or a text.
* `Scalar.spelling` — how a scalar is spelled in running text.
* `Scalar.ofJson?` — the scalar of a JSON value without parts.
* `Scalar.read` — a scalar in a document.
-/

namespace ReportSql

/-- A value that a filter compares a column with.  A whole number has 64 bits with a sign. -/
inductive Scalar where
  | bool (value : Bool)
  | int (value : Int)
  | float (value : Double)
  | text (value : String)
deriving DecidableEq, Repr

namespace Scalar

/-- The empty text. -/
def isBlank : Scalar → Bool
  | .text s => s.isEmpty
  | _ => false

/-- A scalar as it is spelled in running text. -/
def spelling : Scalar → String
  | .bool b => if b then "true" else "false"
  | .int i => Json.renderInt i
  | .float x => x.text
  | .text s => s

/-- The scalar of a JSON number.  A whole number too large for a sign becomes the nearest
floating-point number. -/
def ofNumber : JsonNumber → Scalar
  | .int i => .int i
  | .natural n => .float (Double.ofNat n)
  | .float x => .float x

/-- The scalar of a JSON value; `some none` for `null`, none for a value with parts. -/
def ofJson? : Json → Option (Option Scalar)
  | .null => some none
  | .bool b => some (some (.bool b))
  | .number n => some (some (ofNumber n))
  | .text s => some (some (.text s))
  | .array _ => none
  | .object _ => none

/-- A floating-point number in JSON, `null` when it is not finite. -/
def doubleJson (x : Double) : Json := if x.isFinite then .number (.float x) else .null

/-- The JSON value of a scalar. -/
def toJson : Scalar → Json
  | .bool b => .bool b
  | .int i => .number (.int i)
  | .float x => doubleJson x
  | .text s => .text s

/-- Reads a scalar, which may not be `null`. -/
def read : Reader Scalar := fun d => do
  let value ← readAny d
  match ofJson? value with
  | some (some s) => .ok s
  | _ => .error (.noAlternative "ScalarValue")

end Scalar

end ReportSql
