import ReportSql.Catalog.Basic
import ReportSql.Json.Reading

/-!
# Catalogs in JSON

How catalogs and their entries are read.

## Main definitions

* `TableSpec.read` — the names of a table in a document.
* `Catalog.ofText` — the catalog of a text.
-/

namespace ReportSql

/-- Reads the names of a column. -/
def ColumnSpec.read : Reader ColumnSpec :=
  readRecord "ColumnSpec"
    [.of "physical_name" [] false (readOptional readText) fun physicalName (c : ColumnSpec) =>
        { c with physicalName },
      .of "display_name" [] false (readOptional readText) fun displayName c =>
        { c with displayName }]
    {}

/-- Reads the names of a table. -/
def TableSpec.read : Reader TableSpec :=
  readRecord "TableSpec"
    [.of "physical_name" [] false (readOptional readText) fun physicalName (t : TableSpec) =>
        { t with physicalName },
      .of "display_name" [] false (readOptional readText) fun displayName t =>
        { t with displayName },
      .of "columns" [] false (readOptional (readDict ColumnSpec.read)) fun columns t =>
        { t with columns }]
    {}

/-- Reads where a dataset keeps its load identifiers. -/
def PartitionSpec.read : Reader PartitionSpec :=
  readRecord "PartitionSpec"
    [.of "load_id_column" ["column"] true readText fun loadIdColumn (p : PartitionSpec) =>
        { p with loadIdColumn },
      .of "load_type_column" [] false (readOptional readText) fun loadTypeColumn p =>
        { p with loadTypeColumn },
      .of "supported_types" [] false (readOptional (readList readText)) fun supportedTypes p =>
        { p with supportedTypes }]
    { loadIdColumn := "" }

namespace Catalog

/-- Reads partitions and tables under the names they have in a text. -/
def readParts : Reader (Dict PartitionSpec × Dict TableSpec) :=
  readRecord "CatalogFile"
    [.of "partitions" [] false (readDict PartitionSpec.read) fun partitions parts =>
        (partitions, parts.2),
      .of "tables" [] false (readDict TableSpec.read) fun tables parts => (parts.1, tables)]
    (.empty, .empty)

/-- The catalog of a text. -/
def ofText (s : String) : Except Fault Catalog :=
  (readParts.runText s).map fun (partitions, tables) => ofParts partitions tables

end Catalog

end ReportSql
