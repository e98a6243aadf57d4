import ReportSql.Calendar.Reading
import ReportSql.Scalar

/-!
# Bound values

The values bound to the placeholders of a query, and how the scalars of a request become such
values.  Text that looks like a date or a number is bound as one where a column holds them.

## Main definitions

* `BindValue` — a value bound to a placeholder.
* `coerceDate`, `coerceNumber` — a scalar compared with dates or with numbers.
* `patternText` — a scalar inside a search pattern.
-/

namespace ReportSql

open Text

/-- A value bound to a placeholder. -/
inductive BindValue where
  | bool (value : Bool)
  | int (value : Int)
  | float (value : Double)
  | text (value : String)
  | date (value : Date)
  | timestamp (value : Timestamp)
deriving DecidableEq

namespace BindValue

/-- A scalar bound as it stands. -/
def ofScalar : Scalar → BindValue
  | .bool b => .bool b
  | .int i => .int i
  | .float x => .float x
  | .text s => .text s

/-- The JSON value of a bound value. -/
def toJson : BindValue → Json
  | .bool b => .bool b
  | .int i => .number (.int i)
  | .float x => Scalar.doubleJson x
  | .text s => .text s
  | .date d => .text d.text
  | .timestamp t => .text t.text

end BindValue

/-- The date or timestamp that a trimmed text names.  A text of ten bytes is tried as a bare date
first. -/
def readTemporal? (s : String) : Option BindValue :=
  let date? := if s.utf8ByteSize = 10 then readDate? s else none
  match date?, readInstant? s, readLocal? s with
  | some d, _, _ => some (.date d)
  | none, some t, _ => some (.timestamp t)
  | none, none, some t => some (.timestamp t)
  | none, none, none => none

/-- A scalar compared with dates: text that names a date or a timestamp is bound as such, other text
without the blanks around it. -/
def coerceDate : Scalar → BindValue
  | .text s =>
    match readTemporal? (trim s) with
    | some value => value
    | none => .text (trim s)
  | value => .ofScalar value

/-- A scalar compared with numbers: text that spells a number is bound as one, other text with the
blanks around it. -/
def coerceNumber : Scalar → BindValue
  | .text s =>
    match readInteger? (trim s), readDouble? (trim s) with
    | some i, _ => .int i
    | none, some x => .float x
    | none, none => .text s
  | value => .ofScalar value

/-- A scalar inside a search pattern.  A number loses the zeros at the end of its fraction. -/
def patternText (value : Scalar) (isNumber : Bool) : String :=
  let s := value.spelling
  if isNumber && s.toList.contains '.' then
    String.ofList (stripEnd (· == '.') (stripEnd (· == '0') s.toList))
  else s

end ReportSql
