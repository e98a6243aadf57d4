import ReportSql.Request.Basic

/-!
# Requests in JSON

How requests are read and written.

## Main definitions

* `Request.read` — a request in a document.
* `Request.toJson` — a request as it is written.
-/

namespace ReportSql

/-! ## Reading -/

/-- Reads two columns of a join. -/
def JoinPair.read : Reader JoinPair :=
  readRecord "JoinOn"
    [.of "left_column" [] true readText fun left (p : JoinPair) => { p with left },
      .of "right_column" [] true readText fun right p => { p with right }]
    ⟨"", ""⟩

/-- Reads a join. -/
def Join.read : Reader Join :=
  readRecord "JoinSpec"
    [.of "left_dataset" [] true readText fun leftDataset (j : Join) => { j with leftDataset },
      .of "right_dataset" [] true readText fun rightDataset j => { j with rightDataset },
      .of "join_type" [] false (readChoice .text JoinKind.choices) fun kind j => { j with kind },
      .of "on" [] true (readList JoinPair.read) fun pairs j => { j with pairs }]
    ⟨"", "", .inner, []⟩

/-- Reads an aggregation. -/
def Aggregation.read : Reader Aggregation :=
  readRecord "AggregationSpec"
    [.of "column" ["source_column"] true readText fun column (a : Aggregation) =>
        { a with column },
      .of "function" [] true (readChoice .text AggregateFunction.choices) fun function a =>
        { a with function },
      .of "output_name" ["output_alias"] false (readOptional readText) fun outputName a =>
        { a with outputName }]
    ⟨"", .sum, none⟩

/-- Reads a sort. -/
def SortKey.read : Reader SortKey :=
  readRecord "SortSpec"
    [.of "column" [] true readText fun column (s : SortKey) => { s with column },
      .of "direction" [] false (readChoice .text SortDirection.choices) fun direction s =>
        { s with direction }]
    ⟨"", .ascending⟩

/-- Reads what is known of a column's type. -/
def ColumnMetadata.read : Reader ColumnMetadata :=
  readRecord "ColumnMetadata"
    [.of "data_type" [] false (readOptional readText) fun dataType (m : ColumnMetadata) =>
        { m with dataType },
      .of "base_type" [] false (readOptional readText) fun baseType m => { m with baseType }]
    {}

namespace Request

/-- The fields of a request. -/
def fields : List (RecordField Request) :=
  [.of "dataset" [] true readText fun dataset r => { r with dataset },
    .of "columns" [] false (readOptional (readList readText)) fun columns? r =>
      { r with columns? },
    .of "joins" [] false (readOptional (readList Join.read)) fun joins? r => { r with joins? },
    .of "filters" [] false (readOptional readGroup) fun filters? r => { r with filters? },
    .of "group_by" [] false (readOptional (readList readText)) fun groupBy? r =>
      { r with groupBy? },
    .of "aggregations" [] false (readOptional (readList Aggregation.read)) fun aggregations? r =>
      { r with aggregations? },
    .of "sorting" [] false (readOptional (readList SortKey.read)) fun sorting? r =>
      { r with sorting? },
    .of "column_metadata" [] false (readOptional (readDict ColumnMetadata.read))
      fun columnMetadata? r => { r with columnMetadata? },
    .of "partition_filters" [] false (readOptional (readDict (readList Scalar.read)))
      fun partitionFilters? r => { r with partitionFilters? },
    .of "partition_load_type" [] false (readOptional readText) fun partitionLoadType? r =>
      { r with partitionLoadType? },
    .of "limit" [] false readNatural fun limit r => { r with limit },
    .of "offset" [] false readNatural fun offset r => { r with offset },
    .of "use_high_perf_hints" [] false readFlag fun useHints r => { r with useHints }]

/-- A request for a dataset and nothing else. -/
def ofDataset (dataset : String) : Request := { dataset }

/-- Reads a request. -/
def read : Reader Request := readRecord "QueryRequest" fields (ofDataset "")

end Request

/-! ## Writing -/

/-- The JSON number of a natural number below `2 ^ 64`. -/
def naturalJson (n : Nat) : Json := .number (.ofWhole false n)

/-- The JSON value of two columns of a join. -/
def JoinPair.toJson (p : JoinPair) : Json :=
  .object [("left_column", .text p.left), ("right_column", .text p.right)]

/-- The JSON value of a join. -/
def Join.toJson (j : Join) : Json :=
  .object
    [("left_dataset", .text j.leftDataset),
      ("right_dataset", .text j.rightDataset),
      ("join_type", .text j.kind.name),
      ("on", .ofList JoinPair.toJson j.pairs)]

/-- The JSON value of an aggregation. -/
def Aggregation.toJson (a : Aggregation) : Json :=
  .object
    [("column", .text a.column),
      ("function", .text a.function.name),
      ("output_name", .ofOption .text a.outputName)]

/-- The JSON value of a sort. -/
def SortKey.toJson (s : SortKey) : Json :=
  .object [("column", .text s.column), ("direction", .text s.direction.keyword)]

/-- The JSON value of what is known of a column's type. -/
def ColumnMetadata.toJson (m : ColumnMetadata) : Json :=
  .object
    [("data_type", .ofOption .text m.dataType), ("base_type", .ofOption .text m.baseType)]

/-- The JSON value of a request. -/
def Request.toJson (r : Request) : Json :=
  .object
    [("dataset", .text r.dataset),
      ("columns", .ofOption (.ofList .text) r.columns?),
      ("joins", .ofOption (.ofList Join.toJson) r.joins?),
      ("filters", .ofOption filterToJson r.filters?),
      ("group_by", .ofOption (.ofList .text) r.groupBy?),
      ("aggregations", .ofOption (.ofList Aggregation.toJson) r.aggregations?),
      ("sorting", .ofOption (.ofList SortKey.toJson) r.sorting?),
      ("column_metadata", .ofOption (.ofDict ColumnMetadata.toJson) r.columnMetadata?),
      ("partition_filters", .ofOption (.ofDict (.ofList Scalar.toJson)) r.partitionFilters?),
      ("partition_load_type", .ofOption .text r.partitionLoadType?),
      ("limit", naturalJson r.limit),
      ("offset", naturalJson r.offset),
      ("use_high_perf_hints", .bool r.useHints)]

end ReportSql
