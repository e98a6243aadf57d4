import ReportSql.Plan.Pushdown
import ReportSql.Text.Search

/-!
# Predicates of conditions

How one condition becomes a predicate over an expression.  The kind of values that a column holds
decides how the value is bound and which form the comparison takes: text is compared in upper case,
moments are compared by their days.

## Main definitions

* `ValueKind` — the kinds of values.
* `Request.metadata?`, `Request.valueKind` — what a request says of a column, and the kind of values
  that a condition compares.
* `conditionPredicate` — the predicate of a condition.
-/

namespace ReportSql

open Text

/-! ## Kinds of values -/

/-- The kind of values that a column holds. -/
inductive ValueKind where
  | text
  | number
  | date
  | timestamp
deriving DecidableEq, Repr

namespace ValueKind

/-- Dates and timestamps. -/
def isTemporal : ValueKind → Bool
  | .date | .timestamp => true
  | _ => false

/-- The words by which the name of a type is known to be that of numbers. -/
def numberWords : List String := ["numeric", "number", "float", "integer", "int", "decimal"]

/-- The kind of a type, by words in its lower-case name. -/
def ofTypeName? (name : String) : Option ValueKind :=
  if holds name "stamp" || holds name "time" then some .timestamp
  else if holds name "date" then some .date
  else if numberWords.any (holds name) then some .number
  else none

/-- A scalar bound as a value of a kind. -/
def coerce : ValueKind → Scalar → BindValue
  | .text, s => .ofScalar s
  | .number, s => coerceNumber s
  | .date, s | .timestamp, s => coerceDate s

end ValueKind

namespace ColumnMetadata

/-- The kind of values that a column is known to hold. -/
def kind? (m : ColumnMetadata) : Option ValueKind := m.typeName.bind ValueKind.ofTypeName?

end ColumnMetadata

namespace Request

variable (r : Request)

/-- What a request says of a column: under its own name, else under the first name that differs in
case alone, else under the first whose last segment is the column's. -/
def metadata? (column : String) : Option ColumnMetadata := do
  let metadata ← r.columnMetadata?
  let byCase := metadata.find? fun key _ => upper key == upper column
  let bySegment :=
    metadata.find? fun key _ => lastSegment (upper key) == lastSegment (upper column)
  ((metadata.get? column).or byCase).or bySegment

/-- The kind of values that a condition compares: the declared one, except that a declared text may
be refined by what is said of its column. -/
def valueKind (c : Condition) : ValueKind :=
  match c.datatype with
  | .number => .number
  | .date => .date
  | .timestamp => .timestamp
  | .text => ((r.metadata? c.column).bind ColumnMetadata.kind?).getD .text

end Request

/-! ## Predicates -/

/-- The stem of the placeholders of conditions. -/
def conditionStem : String := "p"

/-- A hole for a scalar compared with values of a kind. -/
def kindHole (kind : ValueKind) (s : Scalar) : Hole := ⟨conditionStem, kind.coerce s⟩

/-- A hole for a text. -/
def textHole (s : String) : Hole := ⟨conditionStem, .text s⟩

/-- An expression as it is compared with values of a kind: moments by their days. -/
def comparedExpr (options : Options) (kind : ValueKind) (e : Expr) : Expr :=
  if kind.isTemporal then .day options.dayFunction e else e

/-- An expression as it is searched for a text. -/
def searchedExpr (options : Options) (kind : ValueKind) (e : Expr) : Expr :=
  match kind with
  | .text => .castText options.textType e
  | .number => .numberText e
  | .date | .timestamp => .momentText e

/-- The pattern of a search: the needle with a run of any characters where more may stand. -/
def searchPattern (operator : Operator) (needle : String) : String :=
  match operator with
  | .startsWith => needle ++ "%"
  | .endsWith => "%" ++ needle
  | _ => "%" ++ needle ++ "%"

/-- The search that an operator makes for a scalar. -/
def searchPredicate (options : Options) (e : Expr) (kind : ValueKind) (operator : Operator)
    (s : Scalar) : Predicate Hole :=
  let needle := upper (patternText s (kind == .number))
  .like (operator == .lacks) (searchedExpr options kind e)
    (textHole (searchPattern operator needle))

/-- The predicate of an operator without a value; none for the others. -/
def unaryPredicate? (e : Expr) (kind : ValueKind) : Operator → Option (Predicate Hole)
  | .isNull => some (.isNull e)
  | .isNotNull => some (.isNotNull e)
  | .isEmpty => some (if kind = .text then .isBlank e else .isNull e)
  | .isNotEmpty => some (if kind = .text then .isNotBlank e else .isNotNull e)
  | _ => none

/-- An item of a list of texts: text in upper case, and other scalars as they stand. -/
def textItemHole : Scalar → Hole
  | .text s => textHole (upper s)
  | s => ⟨conditionStem, .ofScalar s⟩

/-- The membership test of a list, which is cut to the greatest number of items. -/
def listPredicate (options : Options) (e : Expr) (kind : ValueKind) (negated : Bool)
    (items : List Scalar) : Predicate Hole :=
  let items := items.take options.maxListItems
  match kind with
  | .text => .among negated (.upper (.castText options.textType e)) (items.map textItemHole)
  | kind => .among negated e (items.map (kindHole kind))

/-- What is reported about a list that is empty or too long. -/
def listEvents (options : Options) (column : String) (items : List Scalar) : List Event :=
  if items.isEmpty then [.listEmpty column]
  else if options.maxListItems < items.length then
    [.listTruncated column items.length options.maxListItems]
  else []

/-- The predicate of a range; an open side is not compared, and a range open on both is true of
every row. -/
def rangePredicate (options : Options) (e : Expr) (kind : ValueKind) :
    Option Scalar → Option Scalar → Predicate Hole
  | some low, some high =>
    .between (comparedExpr options kind e) (kindHole kind low) (kindHole kind high)
  | some low, none => .compare (comparedExpr options kind e) .atLeast (kindHole kind low)
  | none, some high => .compare (comparedExpr options kind e) .atMost (kindHole kind high)
  | none, none => .always

/-- The predicate of an operator that compares with one scalar; none for the others. -/
def scalarPredicate? (options : Options) (e : Expr) (kind : ValueKind) (operator : Operator)
    (s : Scalar) : Option (Predicate Hole) :=
  if operator.isSearch then some (searchPredicate options e kind operator s)
  else
    (Comparison.ofOperator? operator).map fun c =>
      if kind = .text ∧ (c = .equal ∨ c = .notEqual) then
        .compareUpper (.castText options.textType e) c (textHole (upper s.spelling))
      else .compare (comparedExpr options kind e) c (kindHole kind s)

/-- The predicate of a condition over an expression.  A missing value makes a predicate that is true
of every row. -/
def conditionPredicate (options : Options) (e : Expr) (kind : ValueKind) (c : Condition) :
    Traced (Predicate Hole) :=
  match unaryPredicate? e kind c.operator with
  | some p => pure p
  | none =>
    match c.value with
    | .absent => do
      Traced.report (.valueMissing c.column c.operator)
      return .always
    | .scalar s =>
      match scalarPredicate? options e kind c.operator s with
      | some p => pure p
      | none => .fail (.unsupportedOperator c)
    | .list items =>
      if c.operator = .among ∨ c.operator = .notAmong then do
        let negated := c.operator == .notAmong
        Traced.reportAll (listEvents options c.column items)
        if items.isEmpty then return if negated then .always else .never
        else return listPredicate options e kind negated items
      else .fail (.unfitValue c)
    | .range low high =>
      if c.operator = .between then pure (rangePredicate options e kind low high)
      else .fail (.unfitValue c)

end ReportSql
