import ReportSql.Dict
import ReportSql.Text.Case
import ReportSql.Text.Segment

/-!
# Catalogs

What is known of datasets: where their load identifiers are kept, and which tables and columns their
names stand for.  Names are looked up in any case; a name with a schema also finds an entry under
the name alone, or under the name with another schema.

## Main definitions

* `PartitionSpec`, `TableSpec`, `ColumnSpec` — what is known of a dataset, a table, a column.
* `Catalog` — partitions and tables under upper-cased names.
* `Catalog.partition?`, `Catalog.table?`, `Catalog.column?` — the entries found for a name.
* `Catalog.physicalTable`, `Catalog.physicalColumn` — the names used in query text.
-/

namespace ReportSql

open Text

/-- Where a dataset keeps the identifier of the load that a row came with, and the type of that
load. -/
structure PartitionSpec where
  loadIdColumn : String
  loadTypeColumn : Option String := none
  supportedTypes : Option (List String) := none
deriving DecidableEq

namespace PartitionSpec

/-- Whether a dataset has loads of a type; without a list of types it has all. -/
def supports (p : PartitionSpec) (loadType : String) : Bool :=
  match p.supportedTypes with
  | none => true
  | some types => types.any (sameFolded · loadType)

end PartitionSpec

/-- The names of a column. -/
structure ColumnSpec where
  physicalName : Option String := none
  displayName : Option String := none
deriving DecidableEq

/-- The names of a table, and its columns where they are listed. -/
structure TableSpec where
  physicalName : Option String := none
  displayName : Option String := none
  columns : Option (Dict ColumnSpec) := none
deriving DecidableEq

/-- A table with its columns under upper-cased names. -/
def TableSpec.normalized (t : TableSpec) : TableSpec :=
  { t with columns := t.columns.map fun columns => columns.mapKeys upper }

/-- Partitions and tables under upper-cased names. -/
structure Catalog where
  partitions : Dict PartitionSpec
  tables : Dict TableSpec
deriving DecidableEq

namespace Catalog

/-- The catalog without entries. -/
def empty : Catalog := ⟨.empty, .empty⟩

/-- The catalog of entries under names in any case.  Of several names that differ in case alone the
last in order has its entry kept. -/
def ofParts (partitions : Dict PartitionSpec) (tables : Dict TableSpec) : Catalog where
  partitions := partitions.mapKeys upper
  tables := (tables.map TableSpec.normalized).mapKeys upper

variable (c : Catalog)

/-- A catalog with the partition of a dataset put in. -/
def withPartition (dataset : String) (spec : PartitionSpec) : Catalog :=
  { c with partitions := c.partitions.insert (upper dataset) spec }

/-- A catalog with the table of a dataset put in. -/
def withTable (dataset : String) (table : TableSpec) : Catalog :=
  ofParts c.partitions (c.tables.insert dataset table)

/-- A catalog without entries. -/
def isEmpty : Bool := c.partitions.isEmpty && c.tables.isEmpty

/-- The first entry that ends with the segments of a name less its schema. -/
def findUnqualified? {α : Type} (d : Dict α) (key : String) : Option α := do
  let tail ← withoutSchema key
  d.find? fun candidate _ => endsWithSegments candidate tail

/-- The partition of a dataset. -/
def partition? (dataset : String) : Option PartitionSpec :=
  let key := upper dataset
  (c.partitions.get? key).or (findUnqualified? c.partitions key)

/-- Whether a dataset has a partition. -/
def isPartitioned (dataset : String) : Bool := (c.partition? dataset).isSome

/-- The table of a dataset, which may also be named by its physical name. -/
def table? (dataset : String) : Option TableSpec :=
  let key := upper dataset
  let byPhysicalName := c.tables.find? fun _ table => table.physicalName.map upper = some key
  ((c.tables.get? key).or byPhysicalName).or (findUnqualified? c.tables key)

/-- A listed column of a dataset. -/
def column? (dataset column : String) : Option ColumnSpec := do
  let table ← c.table? dataset
  let columns ← table.columns
  columns.get? (upper column)

/-- The name of a dataset's table in query text. -/
def physicalTable (dataset : String) : String :=
  ((c.table? dataset).bind TableSpec.physicalName).getD dataset

/-- The name of a dataset's column in query text. -/
def physicalColumn (dataset column : String) : String :=
  ((c.column? dataset column).bind ColumnSpec.physicalName).getD column

/-- The name of a dataset that is shown to users. -/
def tableDisplayName (dataset : String) : String :=
  ((c.table? dataset).bind TableSpec.displayName).getD (lastSegment dataset)

/-- The name of a column that is shown to users. -/
def columnDisplayName (dataset column : String) : String :=
  ((c.column? dataset column).bind ColumnSpec.displayName).getD column

/-- The shown names of all tables that have one, in order of the tables. -/
def tableDisplayNames : List (String × String) :=
  c.tables.entries.filterMap fun e => e.2.displayName.map fun name => (e.1, name)

/-- The columns that a dataset is limited to, if it is. -/
def visibleColumns? (dataset : String) : Option (List String) :=
  ((c.table? dataset).bind TableSpec.columns).map Dict.keys

end Catalog

end ReportSql
