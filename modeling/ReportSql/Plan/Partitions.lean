import ReportSql.Plan.Predicates

/-!
# Load restrictions

The rows of a partitioned dataset come in loads, and a request may restrict a dataset to some of
them.  The restriction applies wherever the dataset occurs.

## Main definitions

* `Request.partitionValues` — the load identifiers that a request allows for a dataset.
* `loadPredicates` — the predicates that restrict a dataset to its loads.
-/

namespace ReportSql

open Text

namespace Request

variable (r : Request)

/-- The load identifiers that a request allows for a dataset; empty when it does not restrict it.
The dataset's own name counts before one that differs in the case of ASCII letters. -/
def partitionValues (dataset : String) : List Scalar :=
  match r.partitionFilters? with
  | none => []
  | some filters =>
    ((filters.get? dataset).or (filters.find? fun key _ => sameFolded key dataset)).getD []

/-- The load type that a request is restricted to, without blanks around it. -/
def loadType? : Option String := (r.partitionLoadType?.map trim).filter fun t => !t.isEmpty

/-- The kind of a dataset's load identifiers. -/
def loadIdKind (dataset column : String) : ValueKind :=
  let metadata := (r.metadata? (dataset ++ "." ++ column)).or (r.metadata? column)
  (metadata.bind ColumnMetadata.kind?).getD .text

end Request

/-- The predicate that restricts a column to some load identifiers. -/
def loadIdPredicate (column : String) : List Hole → Predicate Hole
  | [hole] => .compare (.column (.bare column)) .equal hole
  | holes => .among false (.column (.bare column)) holes

/-- The predicate that restricts a dataset to a load type, if it has one and its loads have types.
A type that the dataset does not have is reported and left aside. -/
def loadTypePredicate (s : Settings) (r : Request) (dataset : String) (spec : PartitionSpec) :
    Traced (List (Predicate Hole)) :=
  match r.loadType?, spec.loadTypeColumn with
  | some loadType, some column =>
    if spec.supports loadType then
      pure
        [.compare (.upper (.column (.bare (s.physicalColumn dataset column)))) .equal
          ⟨"lt_" ++ nameToken dataset, .text (upper loadType)⟩]
    else do
      Traced.report (.loadTypeUnsupported dataset loadType)
      return []
  | _, _ => pure []

/-- The predicates that restrict a dataset to its loads.  A restriction of a dataset without a
partition is reported and left aside. -/
def loadPredicates (s : Settings) (r : Request) (dataset : String) :
    Traced (List (Predicate Hole)) :=
  match r.partitionValues dataset with
  | [] => pure []
  | values =>
    match s.partition? dataset with
    | none => do
      Traced.report (.partitionUnknown dataset)
      return []
    | some spec => do
      let kind := r.loadIdKind dataset spec.loadIdColumn
      let holes := values.map fun v => (⟨"part_" ++ nameToken dataset, kind.coerce v⟩ : Hole)
      let byType ← loadTypePredicate s r dataset spec
      return loadIdPredicate (s.physicalColumn dataset spec.loadIdColumn) holes :: byType

end ReportSql
