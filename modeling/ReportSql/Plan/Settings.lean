import ReportSql.Catalog.Basic

/-!
# Settings

What a compilation depends on besides the request.

## Main definitions

* `Options` — the dialect and the limits of query text.
* `Settings` — options, and what is known of datasets.
-/

namespace ReportSql

/-- The dialect and the limits of query text. -/
structure Options where
  /-- The greatest length of an output name. -/
  maxNameLength : Nat := 50
  /-- The greatest number of items of a list filter. -/
  maxListItems : Nat := 999
  /-- The output name of an aggregation whose own name holds no usable character. -/
  fallbackName : String := "unnamed_metric"
  textType : String := "VARCHAR2(4000)"
  dayFunction : String := "TRUNC"
  performanceHint : String := "/*+ INMEMORY */"
deriving DecidableEq

/-- Options, and what is known of datasets: their partitions, and the names of their tables and
columns in query text. -/
structure Settings where
  options : Options := {}
  partition? : String → Option PartitionSpec
  physicalTable : String → String
  physicalColumn : String → String → String

namespace Settings

/-- Settings with partitions from one catalog and names from another. -/
def ofCatalogs (options : Options) (partitions names : Catalog) : Settings where
  options
  partition? := partitions.partition?
  physicalTable := names.physicalTable
  physicalColumn := names.physicalColumn

/-- Settings with all that is known of datasets from one catalog. -/
def ofCatalog (c : Catalog) : Settings := ofCatalogs {} c c

end Settings

end ReportSql
