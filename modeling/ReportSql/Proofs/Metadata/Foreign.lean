import ReportSql.Proofs.Metadata.Lookup
import ReportSql.Proofs.Query.Joined

/-!
# What is known of other datasets' columns

A request may join datasets that have columns of one name, and say of each what values it holds.
What it says under the name of another dataset has no part in how a column is compared, as long as
it says anything under the column's own name in some case.  Else the first name with the same last
segment counts, whatever dataset it belongs to.

## Main definitions

* `Request.isForeign` — a name that belongs to another dataset of the request.
* `Request.TypesAlike` — two requests that compare a column of a dataset alike.

## Main statements

* `Request.typesAlike_withoutForeign_iff` — when nothing depends on what is said of other datasets.
* `not_typesAlike_departmentCodes` — a column that is compared as another dataset's is.
-/

namespace ReportSql

open Text

namespace Request

variable {settings : Settings} {r r' : Request} {dataset column : String}

/-- Whether a name is qualified by a dataset of the request whose last segment is not that of a
dataset, in any case. -/
def isForeign (r : Request) (dataset name : String) : Bool :=
  (qualifierAndColumn name).any fun (qualifier, _) => r.datasets.any fun other =>
    upper other == upper qualifier && upper (lastSegment other) != upper (lastSegment dataset)

/-- A request without what it says of the columns of other datasets. -/
def withoutForeign (r : Request) (dataset : String) : Request :=
  r.withoutMetadata (r.isForeign dataset)

/-- Two requests that type a column of a dataset alike: they find one entry for it, they compare the
same values in conditions on it, and in the restriction to loads if it is the load column. -/
structure TypesAlike (settings : Settings) (r r' : Request) (dataset column : String) : Prop where
  entry : r'.entryFor? column = r.entryFor? column
  condition : ∀ (s : Scope) (place : Place) (promoted : Bool) (c : Condition),
    s.request = r → c.column = column →
      r'.valueKind c = r.valueKind c ∧
        ({ s with request := r' } : Scope).routeCondition settings place promoted c =
          s.routeCondition settings place promoted c
  loads : ∀ spec, settings.partition? dataset = some spec →
    column = dataset ++ "." ++ spec.loadIdColumn →
      r'.loadIdKind dataset spec.loadIdColumn = r.loadIdKind dataset spec.loadIdColumn ∧
        loadPredicates settings r' dataset = loadPredicates settings r dataset

/-! ## Kinds of values -/

/-- A condition compares values of the kind that the entry of its column tells. -/
theorem valueKind_eq_of_entry {c : Condition}
    (h : r'.entryFor? c.column = r.entryFor? c.column) :
    r'.valueKind c = r.valueKind c := by
  simp only [valueKind, metadata?_eq_entryFor?, h]

theorem loadIdKind_eq_of_entry
    (h : r'.entryFor? (dataset ++ "." ++ column) =
      r.entryFor? (dataset ++ "." ++ column)) :
    r'.loadIdKind dataset column = r.loadIdKind dataset column := by
  simp only [loadIdKind_eq, metadata?_eq_entryFor?, h]

/-- The predicate of a condition looks at the request for the kind of its values alone. -/
theorem routeCondition_eq_of_valueKind {s : Scope} {c : Condition}
    (h : r'.valueKind c = s.request.valueKind c) (place : Place) (promoted : Bool) :
    ({ s with request := r' } : Scope).routeCondition settings place promoted c =
      s.routeCondition settings place promoted c := by
  have htarget : ({ s with request := r' } : Scope).target settings place c.column =
      s.target settings place c.column := rfl
  simp only [Scope.routeCondition, htarget, h]

/-- What a request says of columns has a part in the predicates of loads through their kind. -/
theorem loadPredicates_withoutMetadata {p : String → Bool}
    (h : ∀ spec, settings.partition? dataset = some spec →
      (r.withoutMetadata p).loadIdKind dataset spec.loadIdColumn =
        r.loadIdKind dataset spec.loadIdColumn) :
    loadPredicates settings (r.withoutMetadata p) dataset = loadPredicates settings r dataset := by
  have hvalues : (r.withoutMetadata p).partitionValues dataset = r.partitionValues dataset := rfl
  unfold loadPredicates
  rw [hvalues]
  cases hlist : r.partitionValues dataset with
  | nil => rfl
  | cons v vs =>
    cases hspec : settings.partition? dataset with
    | none => rfl
    | some spec =>
      dsimp only
      rw [h spec hspec]
      rfl

/-- A name that is that of a dataset's column, in any case, does not belong to another dataset. -/
theorem isForeign_eq_false {name : String} (hcolumn : '.' ∉ column.toList)
    (hname : upper name = upper (dataset ++ "." ++ column)) : r.isForeign dataset name = false := by
  have hparts := qualifierAndColumn_upper name
  rw [hname, qualifierAndColumn_upper, qualifierAndColumn_append dataset hcolumn] at hparts
  obtain ⟨⟨qualifier, tail⟩, hsplit, htail⟩ := Option.map_eq_some_iff.1 hparts.symm
  have hqualifier : upper qualifier = upper dataset := (Prod.mk.inj htail).1
  have hsame : ∀ other ∈ r.datasets, upper other = upper qualifier →
      upper (lastSegment other) = upper (lastSegment dataset) := by
    intro other _ hother
    rw [← lastSegment_upper, hother, hqualifier, lastSegment_upper]
  rw [isForeign, hsplit]
  simpa [List.any_eq_false] using hsame

/-! ## Leaving out what is said of other datasets -/

/-- Requests without some names type a column alike where its entry has none of them. -/
theorem typesAlike_withoutMetadata_iff {p : String → Bool} :
    r.TypesAlike settings (r.withoutMetadata p) dataset column ↔
      ∀ e, r.entryFor? column = some e → p e.1 = false := by
  constructor
  · exact fun h => entryFor?_withoutMetadata_iff.1 h.entry
  · intro h
    have hentry := entryFor?_withoutMetadata_iff.2 h
    refine ⟨hentry, ?_, ?_⟩
    · rintro s place promoted c rfl rfl
      have hkind := valueKind_eq_of_entry hentry
      exact ⟨hkind, routeCondition_eq_of_valueKind hkind place promoted⟩
    · rintro spec hspec rfl
      have hkind := loadIdKind_eq_of_entry hentry
      refine ⟨hkind, loadPredicates_withoutMetadata fun spec' hspec' => ?_⟩
      cases hspec.symm.trans hspec'
      exact hkind

/-- **When nothing depends on what is said of other datasets.**  Without it a column is typed as
before if and only if the entry found for it, if there is one, is not under the name of another
dataset.  So it is if some entry has the name of the column and its dataset, in any case. -/
theorem typesAlike_withoutForeign_iff (settings : Settings) (r : Request)
    (dataset column : String) :
    (r.TypesAlike settings (r.withoutForeign dataset) dataset column ↔
      ∀ e, r.entryFor? column = some e → r.isForeign dataset e.1 = false) ∧
    ∀ name, '.' ∉ name.toList → column = dataset ++ "." ++ name →
      (∃ e ∈ r.metadataEntries, upper e.1 = upper column) →
        r.TypesAlike settings (r.withoutForeign dataset) dataset column := by
  refine ⟨typesAlike_withoutMetadata_iff, ?_⟩
  rintro name hname rfl ⟨e, he, hcase⟩
  refine typesAlike_withoutMetadata_iff.2 fun e' he' => ?_
  exact isForeign_eq_false hname (upper_of_entryFor? he hcase he')

end Request

/-! ## Codes of departments -/

/-- Employees and their departments.  Employees of one code are asked for, and it is said what some
columns hold. -/
def departmentCodes (metadata : List (String × ColumnMetadata)) : Request where
  dataset := "EMP"
  columns? := some ["ID"]
  joins? := some [⟨"EMP", "DEPT", .inner, [⟨"DEPT_ID", "ID"⟩]⟩]
  filters? := some { children := [.leaf ⟨"EMP.CODE", .text, .equal, .scalar (.text "5")⟩] }
  columnMetadata? := some (.ofList metadata)

/-- What is said of the code of employees counts before what is said of that of departments. -/
theorem typesAlike_employeeCodes :
    (departmentCodes [("DEPT.CODE", { dataType := some "NUMBER" }),
        ("emp.code", { baseType := some "date" })]).valueKind
      ⟨"EMP.CODE", .text, .equal, .scalar (.text "5")⟩ = .date ∧
    (departmentCodes [("DEPT.CODE", { dataType := some "NUMBER" }),
        ("emp.code", { baseType := some "date" })]).TypesAlike (.ofCatalog .empty)
      ((departmentCodes [("DEPT.CODE", { dataType := some "NUMBER" }),
        ("emp.code", { baseType := some "date" })]).withoutForeign "EMP") "EMP" "EMP.CODE" := by
  refine ⟨by decide +kernel, ?_⟩
  exact (Request.typesAlike_withoutForeign_iff (.ofCatalog .empty) _ "EMP" "EMP.CODE").2 "CODE"
    (by decide) rfl
    ⟨("emp.code", { baseType := some "date" }), by decide +kernel, by decide +kernel⟩

/-- **A column that is compared as another dataset's is.**  If only the code of departments is said
to be a number, so is the code of employees, which would be a text otherwise. -/
theorem not_typesAlike_departmentCodes :
    (compile (.ofCatalog .empty)
        (departmentCodes [("DEPT.CODE", { dataType := some "NUMBER" })])).outcome.toOption =
      some ⟨"SELECT \"EMP\".\"ID\" AS \"EMP.ID\"\nFROM (SELECT * FROM \"EMP\" WHERE " ++
        "(\"CODE\" = :p_1)) \"EMP\"\n" ++
        "INNER JOIN \"DEPT\" \"DEPT\" ON \"EMP\".\"DEPT_ID\" = \"DEPT\".\"ID\"\n" ++
        "OFFSET 0 ROWS FETCH NEXT 100 ROWS ONLY", .ofList [("p_1", .int 5)]⟩ ∧
    (compile (.ofCatalog .empty) ((departmentCodes
        [("DEPT.CODE", { dataType := some "NUMBER" })]).withoutForeign "EMP")).outcome.toOption =
      some ⟨"SELECT \"EMP\".\"ID\" AS \"EMP.ID\"\nFROM (SELECT * FROM \"EMP\" WHERE " ++
        "(UPPER(CAST(\"CODE\" AS VARCHAR2(4000))) = UPPER(:p_1))) \"EMP\"\n" ++
        "INNER JOIN \"DEPT\" \"DEPT\" ON \"EMP\".\"DEPT_ID\" = \"DEPT\".\"ID\"\n" ++
        "OFFSET 0 ROWS FETCH NEXT 100 ROWS ONLY", .ofList [("p_1", .text "5")]⟩ ∧
    ¬(departmentCodes [("DEPT.CODE", { dataType := some "NUMBER" })]).TypesAlike
      (.ofCatalog .empty) ((departmentCodes
        [("DEPT.CODE", { dataType := some "NUMBER" })]).withoutForeign "EMP") "EMP" "EMP.CODE" := by
  refine ⟨by decide +kernel, by decide +kernel, fun halike => ?_⟩
  have hforeign := Request.typesAlike_withoutMetadata_iff.1 halike
    ("DEPT.CODE", { dataType := some "NUMBER" }) (by decide +kernel)
  exact absurd hforeign (by decide +kernel)

end ReportSql
