/-!
# Operators

The data types that a filter declares and the operators that it compares with.

## Main definitions

* `Datatype`, `Operator` — data types and operators, with the names they have in requests.
* `Datatype.allows` — which operators suit a data type.
-/

namespace ReportSql

/-- The data type that a filter declares for its column. -/
inductive Datatype where
  | number
  | text
  | date
  | timestamp
deriving DecidableEq, Repr

namespace Datatype

/-- The name of a data type in requests. -/
def name : Datatype → String
  | .number => "number"
  | .text => "string"
  | .date => "date"
  | .timestamp => "timestamp"

/-- All data types. -/
def all : List Datatype := [.number, .text, .date, .timestamp]

/-- The data types under their names. -/
def choices : List (String × Datatype) := all.map fun d => (d.name, d)

end Datatype

/-- How a filter compares its column with its value. -/
inductive Operator where
  | equal
  | notEqual
  | contains
  | lacks
  | startsWith
  | endsWith
  | greater
  | atLeast
  | less
  | atMost
  | between
  | among
  | notAmong
  | isNull
  | isNotNull
  | isEmpty
  | isNotEmpty
deriving DecidableEq, Repr

namespace Operator

/-- The name of an operator in requests. -/
def name : Operator → String
  | .equal => "eq"
  | .notEqual => "neq"
  | .contains => "contains"
  | .lacks => "not_contains"
  | .startsWith => "starts_with"
  | .endsWith => "ends_with"
  | .greater => "gt"
  | .atLeast => "gte"
  | .less => "lt"
  | .atMost => "lte"
  | .between => "between"
  | .among => "in"
  | .notAmong => "not_in"
  | .isNull => "is_null"
  | .isNotNull => "is_not_null"
  | .isEmpty => "is_empty"
  | .isNotEmpty => "is_not_empty"

/-- All operators. -/
def all : List Operator :=
  [.equal, .notEqual, .contains, .lacks, .startsWith, .endsWith, .greater, .atLeast, .less, .atMost,
    .between, .among, .notAmong, .isNull, .isNotNull, .isEmpty, .isNotEmpty]

/-- The operators under their names. -/
def choices : List (String × Operator) := all.map fun o => (o.name, o)

/-- An operator that compares with no value. -/
def isUnary : Operator → Bool
  | .isNull | .isNotNull | .isEmpty | .isNotEmpty => true
  | _ => false

/-- An operator that searches for a text within the column. -/
def isSearch : Operator → Bool
  | .contains | .lacks | .startsWith | .endsWith => true
  | _ => false

end Operator

namespace Datatype

/-- Which operators suit a data type: searches suit text alone, and comparisons of order all but
text. -/
def allows (d : Datatype) : Operator → Bool
  | .equal | .notEqual | .among | .notAmong | .isNull | .isNotNull | .isEmpty | .isNotEmpty => true
  | .contains | .lacks | .startsWith | .endsWith => d = .text
  | .greater | .atLeast | .less | .atMost | .between => d ≠ .text

end Datatype

theorem Datatype.lookup_choices (d : Datatype) : Datatype.choices.lookup d.name = some d := by
  cases d <;> decide

theorem Operator.lookup_choices (o : Operator) : Operator.choices.lookup o.name = some o := by
  cases o <;> decide

end ReportSql
