import ReportSql.Filter.Operator
import ReportSql.Filter.Tree
import ReportSql.Scalar
import ReportSql.Text.Blank
import ReportSql.Text.Segment

/-!
# Filter conditions

One comparison of a filter: a column, its declared data type, an operator and a value.  The value is
given the shape that the operator needs when the condition is built, and a value that cannot have it
is refused.

## Main definitions

* `FilterValue` — the shapes of values.
* `Condition` — a comparison.
* `ConditionError` — why a comparison is refused.
* `shapeValue` — the shape of a value for an operator.
* `Condition.build` — a comparison of given parts.
-/

namespace ReportSql

open Text

/-- The value of a condition.  A side of a range that was left blank is open; a list holds the items
of a membership test. -/
inductive FilterValue where
  | absent
  | scalar (value : Scalar)
  | range (low high : Option Scalar)
  | list (items : List Scalar)
deriving DecidableEq

/-- A comparison of a column with a value. -/
structure Condition where
  column : String
  datatype : Datatype
  operator : Operator
  value : FilterValue
deriving DecidableEq

/-- Why a comparison is refused. -/
inductive ConditionError where
  | operatorNotAllowed (operator : Operator) (datatype : Datatype)
  | notTwoBounds (column : String)
  | notSingle (column : String) (operator : Operator)
  | badListItem (column : String)
deriving DecidableEq

namespace ConditionError

/-- What is said about a refused comparison. -/
def message : ConditionError → String
  | .operatorNotAllowed operator datatype =>
    "operator '" ++ operator.name ++ "' is not allowed for datatype '" ++ datatype.name ++ "'"
  | .notTwoBounds column =>
    "value for '" ++ column ++ "' must be a list of exactly 2 items for operator 'between'"
  | .notSingle column operator =>
    "value for '" ++ column ++ "' must be a single value for operator '" ++ operator.name ++ "'"
  | .badListItem column =>
    "list value for '" ++ column ++ "' may only contain strings, numbers and booleans"

end ConditionError

/-! ## Shapes -/

/-- The characters between the items of a list that is given as one text. -/
def isListSeparator (c : Char) : Bool := c = ',' || c = '\t' || c = '\n' || c = '\r'

/-- The items of a list that is given as one text, without the blanks around them and without the
empty ones. -/
def listItems (s : String) : List Scalar :=
  let runs := (splitWhere isListSeparator s.toList).map (strip isBlank)
  (runs.filter fun run => !run.isEmpty).map fun run => .text (String.ofList run)

/-- One bound of a range; `null` and the empty text leave it open. -/
def rangeBound (column : String) (item : Json) : Except ConditionError (Option Scalar) :=
  match Scalar.ofJson? item with
  | some bound => .ok (bound.filter fun s => !s.isBlank)
  | none => .error (.notTwoBounds column)

/-- The items of a list that is given as an array; every `null` is left out. -/
def arrayItems (column : String) : List Json → Except ConditionError (List Scalar)
  | [] => .ok []
  | item :: items =>
    match Scalar.ofJson? item with
    | some (some s) => (arrayItems column items).map (s :: ·)
    | some none => arrayItems column items
    | none => .error (.badListItem column)

/-- The range of a value: an array of two bounds. -/
def shapeRange (column : String) : Json → Except ConditionError FilterValue
  | .array [low, high] => do
    let low ← rangeBound column low
    let high ← rangeBound column high
    return .range low high
  | _ => .error (.notTwoBounds column)

/-- The list of a value: an array of items, a text of several items, or one item. -/
def shapeList (column : String) : Json → Except ConditionError FilterValue
  | .array items => (arrayItems column items).map .list
  | .text s => .ok (.list (listItems s))
  | value =>
    match Scalar.ofJson? value with
    | some (some s) => .ok (.list [s])
    | _ => .error (.badListItem column)

/-- The single scalar of a value. -/
def shapeScalar (column : String) (operator : Operator) (value : Json) :
    Except ConditionError FilterValue :=
  match Scalar.ofJson? value with
  | some (some s) => .ok (.scalar s)
  | some none => .ok .absent
  | none => .error (.notSingle column operator)

/-- A value that is left out: none, `null`, or the empty text. -/
def isLeftOut : Option Json → Bool
  | none | some .null => true
  | some (.text s) => s.isEmpty
  | _ => false

/-- The shape of a value for an operator that compares with one. -/
def shapeValue (column : String) (operator : Operator) (value : Option Json) :
    Except ConditionError FilterValue :=
  if isLeftOut value then .ok .absent
  else
    match value with
    | none => .ok .absent
    | some value =>
      match operator with
      | .between => shapeRange column value
      | .among | .notAmong => shapeList column value
      | _ => shapeScalar column operator value

namespace Condition

/-- A comparison of given parts, with the shape of value that its operator needs.  An operator
without a value ignores the one given. -/
def build (column : String) (datatype : Datatype) (operator : Operator) (value : Option Json) :
    Except ConditionError Condition :=
  if datatype.allows operator then
    if operator.isUnary then .ok ⟨column, datatype, operator, .absent⟩
    else (shapeValue column operator value).map fun v => ⟨column, datatype, operator, v⟩
  else .error (.operatorNotAllowed operator datatype)

end Condition

end ReportSql
