import ReportSql.Plan.Partitions
import ReportSql.Proofs.Query.Conditions

/-!
# Predicates of loads

The predicates that restrict a dataset to its loads: one over the column of load identifiers with a
hole for every identifier that the request allows, and one over the column of load types if a type
is asked for that the dataset has.

## Main definitions

* `loadHoles` — the holes for the load identifiers of a dataset.
* `loadTypeConjunct` — the predicate over load types, as a list of at most one.
* `IsLoadColumn` — the columns that these predicates are over.

## Main statements

* `loadPredicates_of_spec` — the predicates of a dataset with a partition and allowed identifiers.
* `drawnFrom_of_loadPredicates` — they are over load columns.
-/

namespace ReportSql

open Text

variable {settings : Settings} {r : Request} {dataset : String} {spec : PartitionSpec}

/-- The holes for the load identifiers that a request allows for a dataset. -/
def loadHoles (r : Request) (dataset : String) (spec : PartitionSpec) : List Hole :=
  (r.partitionValues dataset).map fun v =>
    ⟨"part_" ++ nameToken dataset, (r.loadIdKind dataset spec.loadIdColumn).coerce v⟩

/-- The predicate that restricts a dataset to the load type of a request, if one is given, the
loads of the dataset have types, and this is one of them. -/
def loadTypeConjunct (settings : Settings) (r : Request) (dataset : String)
    (spec : PartitionSpec) : List (Predicate Hole) :=
  match r.loadType?, spec.loadTypeColumn with
  | some loadType, some column =>
    if spec.supports loadType then
      [.compare (.upper (.column (.bare (settings.physicalColumn dataset column)))) .equal
        ⟨"lt_" ++ nameToken dataset, .text (upper loadType)⟩]
    else []
  | _, _ => []

theorem outcome_loadTypePredicate :
    (loadTypePredicate settings r dataset spec).outcome =
      .ok (loadTypeConjunct settings r dataset spec) := by
  unfold loadTypePredicate loadTypeConjunct
  cases r.loadType? with
  | none => rfl
  | some loadType =>
    cases spec.loadTypeColumn with
    | none => rfl
    | some column =>
      dsimp only
      split <;> rfl

theorem mem_loadTypeConjunct {p : Predicate Hole} :
    p ∈ loadTypeConjunct settings r dataset spec ↔
      ∃ loadType column, r.loadType? = some loadType ∧ spec.loadTypeColumn = some column ∧
        spec.supports loadType = true ∧
        p = .compare (.upper (.column (.bare (settings.physicalColumn dataset column)))) .equal
          ⟨"lt_" ++ nameToken dataset, .text (upper loadType)⟩ := by
  unfold loadTypeConjunct
  cases r.loadType? with
  | none => simp
  | some loadType =>
    cases spec.loadTypeColumn with
    | none => simp
    | some column => by_cases h : spec.supports loadType = true <;> simp [h]

/-- **The predicates of a dataset with a partition and allowed load identifiers.** -/
theorem loadPredicates_of_spec (hvalues : r.partitionValues dataset ≠ [])
    (hspec : settings.partition? dataset = some spec) :
    (loadPredicates settings r dataset).outcome =
      .ok (loadIdPredicate (settings.physicalColumn dataset spec.loadIdColumn)
        (loadHoles r dataset spec) :: loadTypeConjunct settings r dataset spec) := by
  unfold loadPredicates loadHoles
  cases hlist : r.partitionValues dataset with
  | nil => exact absurd hlist hvalues
  | cons v vs =>
    rw [hspec]
    dsimp only
    rw [Traced.outcome_bind_of_ok outcome_loadTypePredicate]
    rfl

/-- Without allowed load identifiers or without a partition a dataset is not restricted. -/
theorem loadPredicates_eq_nil
    (h : r.partitionValues dataset = [] ∨ settings.partition? dataset = none) :
    (loadPredicates settings r dataset).outcome = .ok [] := by
  unfold loadPredicates
  cases hlist : r.partitionValues dataset with
  | nil => rfl
  | cons v vs =>
    have hnone : settings.partition? dataset = none := by simpa [hlist] using h
    rw [hnone]
    rfl

/-! ## Columns and stems -/

/-- A column of load identifiers or of load types of a dataset, within its source. -/
def IsLoadColumn (settings : Settings) (dataset : String) (ref : ColumnRef) : Prop :=
  ∃ spec column, settings.partition? dataset = some spec ∧
    (column = spec.loadIdColumn ∨ spec.loadTypeColumn = some column) ∧
    ref = .bare (settings.physicalColumn dataset column)

theorem isName_append_nameToken (stem name : String) (h : isName stem.toList = true) :
    isName (stem ++ nameToken name).toList = true := by
  have hchars : ∀ c ∈ (nameToken name).toList, isNameChar c = true := by
    intro c hc
    rw [nameToken, String.toList_ofList] at hc
    exact isNameChar_of_mem_nameChars hc
  cases hstem : stem.toList with
  | nil =>
    rw [hstem] at h
    cases h
  | cons c cs =>
    rw [hstem, isName, Bool.and_eq_true] at h
    rw [String.toList_append, hstem, List.cons_append, isName, List.all_append, h.1, h.2,
      List.all_eq_true.2 hchars]
    rfl

theorem drawnFrom_loadIdPredicate {options : Options} {names : ColumnRef → Prop} {column : String}
    (hcolumn : names (.bare column)) {holes : List Hole}
    (hholes : ∀ h ∈ holes, isName h.stem.toList = true) :
    (loadIdPredicate column holes).DrawnFrom options names := by
  have hexpr : (Expr.column (.bare column)).DrawnFrom options names := .ofColumn hcolumn
  unfold loadIdPredicate
  split
  · exact ⟨by simpa [Predicate.exprs] using hexpr, by simpa [Predicate.values] using hholes⟩
  · exact ⟨by simpa [Predicate.exprs] using hexpr, by simpa [Predicate.values] using hholes⟩

/-- **The predicates of loads are over load columns.** -/
theorem drawnFrom_of_loadPredicates {load : List (Predicate Hole)}
    (h : (loadPredicates settings r dataset).outcome = .ok load) :
    ∀ p ∈ load, p.DrawnFrom settings.options (IsLoadColumn settings dataset) := by
  by_cases hvalues : r.partitionValues dataset = []
  · rw [loadPredicates_eq_nil (.inl hvalues)] at h
    cases h
    simp
  · cases hspec : settings.partition? dataset with
    | none =>
      rw [loadPredicates_eq_nil (.inr hspec)] at h
      cases h
      simp
    | some spec =>
      rw [loadPredicates_of_spec hvalues hspec] at h
      cases h
      intro p hp
      rcases List.mem_cons.1 hp with rfl | hp
      · refine drawnFrom_loadIdPredicate ⟨spec, _, hspec, .inl rfl, rfl⟩ fun h hh => ?_
        obtain ⟨v, -, rfl⟩ := List.mem_map.1 hh
        exact isName_append_nameToken "part_" dataset rfl
      · obtain ⟨loadType, column, -, hcolumn, -, rfl⟩ := mem_loadTypeConjunct.1 hp
        have href : IsLoadColumn settings dataset
            (.bare (settings.physicalColumn dataset column)) :=
          ⟨spec, column, hspec, .inr hcolumn, rfl⟩
        have hexpr : Expr.DrawnFrom settings.options (IsLoadColumn settings dataset)
            (.upper (.column (.bare (settings.physicalColumn dataset column)))) :=
          .upper (.ofColumn href)
        have hstem := isName_append_nameToken "lt_" dataset rfl
        exact ⟨by simpa [Predicate.exprs] using hexpr, by simpa [Predicate.values] using hstem⟩

end ReportSql
