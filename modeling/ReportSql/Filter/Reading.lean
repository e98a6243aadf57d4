import ReportSql.Filter.Condition

/-!
# Filters in JSON

How filter trees are read from requests and written.  A member of a group is read as a value first
and told apart by its keys: one with a column is a condition, any other a group.

## Main definitions

* `Condition.read`, `readGroup` — a condition and a group at the root of a document.
* `readMember` — a member of a group.
* `Condition.toJson`, `filterToJson` — conditions and groups as they are written.
-/

namespace ReportSql

/-- A filter tree: conditions joined by AND and OR. -/
abbrev Filter := FilterGroup Condition

/-! ## Reading -/

/-- The parts of a condition before its value is given a shape. -/
structure ConditionParts where
  column : String := ""
  datatype : Datatype := .text
  operator : Operator := .equal
  value : Option Json := none

namespace ConditionParts

/-- The fields of a condition. -/
def fields (origin : Origin) : List (RecordField ConditionParts) :=
  [.of "column" [] true readText fun column p => { p with column },
    .of "datatype" [] false (readChoice origin Datatype.choices) fun datatype p =>
      { p with datatype },
    .of "operator" [] true (readChoice origin Operator.choices) fun operator p =>
      { p with operator },
    .of "value" [] false (readOptional readAny) fun value p => { p with value }]

/-- The condition of its parts. -/
def build (p : ConditionParts) : Except Fault Condition :=
  match Condition.build p.column p.datatype p.operator p.value with
  | .ok c => .ok c
  | .error e => .error (.refused e.message)

end ConditionParts

/-- Reads a condition. -/
def Condition.read (origin : Origin) : Reader Condition := fun d => do
  let parts ← readRecord "RawFilterCondition" (ConditionParts.fields origin) {} d
  parts.build

mutual

/-- Reads a member of a group. -/
def readMember : Json → Except Fault (Tree Condition)
  | .object entries =>
    if Json.hasKey entries "column" then
      (Condition.read .value (Json.object entries).document).map .leaf
    else if Json.hasKey entries "logic" || Json.hasKey entries "conditions" then
      (readMemberGroup entries {}).map FilterGroup.toTree
    else .error (.refused "filter entry is neither a condition nor a logical group")
  | _ => .error (.refused "filter entries must be objects")

/-- Reads the entries of a member that is a group. -/
def readMemberGroup : List (String × Json) → Filter → Except Fault Filter
  | [], g => .ok g
  | (key, .array items) :: rest, g =>
    if key = "conditions" then do
      let children ← readMembers items
      readMemberGroup rest { g with children }
    else if key = "logic" then .error ((Json.array items).document.mistyped .choice)
    else readMemberGroup rest g
  | (key, value) :: rest, g =>
    if key = "conditions" then .error (value.document.mistyped .sequence)
    else if key = "logic" then do
      let logic ← readChoice .value Logic.choices value.document
      readMemberGroup rest { g with logic }
    else readMemberGroup rest g

/-- Reads the members of a group. -/
def readMembers : List Json → Except Fault (List (Tree Condition))
  | [] => .ok []
  | item :: items => do
    let t ← readMember item
    return t :: (← readMembers items)

end

/-- The fields of a group at the root of a document. -/
def groupFields : List (RecordField Filter) :=
  [.of "logic" [] false (readChoice .text Logic.choices) fun logic g => { g with logic },
    .of "conditions" [] false (readList fun d => readAny d >>= readMember) fun children g =>
      { g with children }]

/-- Reads a group at the root of a document. -/
def readGroup : Reader Filter := readRecord "LogicalGroup" groupFields {}

/-! ## Writing -/

/-- The JSON value of the value of a condition. -/
def FilterValue.toJson : FilterValue → Json
  | .absent => .null
  | .scalar s => s.toJson
  | .range low high => .array [.ofOption Scalar.toJson low, .ofOption Scalar.toJson high]
  | .list items => .ofList Scalar.toJson items

/-- The JSON value of a condition. -/
def Condition.toJson (c : Condition) : Json :=
  .object
    [("column", .text c.column),
      ("datatype", .text c.datatype.name),
      ("operator", .text c.operator.name),
      ("value", c.value.toJson)]

mutual

/-- The JSON value of a tree of conditions. -/
def treeToJson : Tree Condition → Json
  | .leaf c => c.toJson
  | .group logic children =>
    .object [("logic", .text logic.keyword), ("conditions", .array (treesToJson children))]

/-- The JSON values of the members of a group. -/
def treesToJson : List (Tree Condition) → List Json
  | [] => []
  | t :: ts => treeToJson t :: treesToJson ts

end

/-- The JSON value of a group. -/
def filterToJson (g : Filter) : Json := treeToJson g.toTree

end ReportSql
