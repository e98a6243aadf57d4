import ReportSql.Compile
import ReportSql.Proofs.Join.Plan
import ReportSql.Proofs.Routing.Built

/-!
# Checks on requests

Whether a request can be compiled is a matter of a few checks on it, one after another: it is valid,
and its joins, aggregations and selected columns name datasets that are part of the query.  A step
of compilation that makes some of these checks fails with the error of the first that fails.

## Main definitions

* `Check`, `firstFailure` — checks and the first error of several.
* `Request.introduced` — the datasets that are part of a query once some joins were made.
* `Request.checks` — the checks on a request, in order.
* `Guarded` — a step that makes some checks.

## Main statements

* `Guarded.bind` — a sequence of steps makes the checks of both.
* `guarded_checked`, `guarded_addJoins`, `guarded_addAll` — the steps of planning make the checks
  on validity, joins and aggregations.
-/

namespace ReportSql

open Text

/-! ## Checks -/

/-- A check, and the error with which a request is refused that does not pass it. -/
structure Check where
  passes : Bool
  error : CompileError

/-- The error of the first check that is not passed. -/
def firstFailure (checks : List Check) : Option CompileError :=
  (checks.find? fun check => !check.passes).map Check.error

theorem firstFailure_append (checks rest : List Check) :
    firstFailure (checks ++ rest) = (firstFailure checks).or (firstFailure rest) := by
  rw [firstFailure, List.find?_append]
  cases h : checks.find? fun check => !check.passes <;> simp [firstFailure, h]

theorem firstFailure_cons (check : Check) (rest : List Check) :
    firstFailure (check :: rest) =
      if check.passes then firstFailure rest else some check.error := by
  rw [firstFailure, List.find?_cons]
  cases check.passes <;> rfl

theorem firstFailure_map {α : Type} (f : α → Check) (as : List α) :
    firstFailure (as.map f) = (as.find? fun a => !(f a).passes).map fun a => (f a).error := by
  rw [firstFailure, List.find?_map, Option.map_map]
  rfl

theorem firstFailure_eq_none_iff {checks : List Check} :
    firstFailure checks = none ↔ ∀ check ∈ checks, check.passes = true := by
  simp [firstFailure]

/-- The first error is that of one of the checks. -/
theorem exists_of_firstFailure {checks : List Check} {e : CompileError}
    (h : firstFailure checks = some e) : ∃ check ∈ checks, check.error = e := by
  obtain ⟨check, hcheck, rfl⟩ := Option.map_eq_some_iff.1 h
  exact ⟨check, List.mem_of_find?_eq_some hcheck, rfl⟩

/-! ## The checks on a request -/

/-- A plan with a further dataset in it, on whatever it is joined. -/
def SourcePlan.introduce (p : SourcePlan) (dataset : String) : SourcePlan :=
  { p with
    occurrences := p.occurrences ++ [⟨dataset, occurrenceName p.usedNames dataset, false⟩] }

namespace Request

variable (r : Request)

/-- The datasets that are part of a query once some of its joins were made. -/
def introduced (joins : List Join) : SourcePlan :=
  joins.foldl (fun p j => p.introduce j.rightDataset) (.ofBase r.dataset)

/-- The references to the columns that are selected: those grouped by, if there are groups. -/
def selection : List String := if r.isGrouped then r.groupBy else r.columns

/-- The checks on the validity of a request for rows. -/
def validityChecks : List Check :=
  ⟨!(trim r.dataset).isEmpty, .invalid .emptyDataset⟩ ::
    ⟨1 ≤ r.limit && r.limit ≤ 100000, .invalid (.invalidLimit r.limit)⟩ ::
    (r.joins.map fun j =>
      ⟨!j.pairs.isEmpty, .invalid (.emptyJoin j.leftDataset j.rightDataset)⟩) ++
    [⟨!r.columns.isEmpty || !r.aggregations.isEmpty, .invalid .nothingSelected⟩]

/-- The checks that each of some joins refers to a dataset that is part of the query before it. -/
def joinChecks : SourcePlan → List Join → List Check
  | _, [] => []
  | p, j :: js =>
    ⟨(p.resolveQualifier j.leftDataset).isSome, .unresolvedJoin j⟩ ::
      joinChecks (p.introduce j.rightDataset) js

/-- The check that a reference names a dataset of the query. -/
def columnCheck (column : String) : Check :=
  ⟨((r.introduced r.joins).resolveColumn column).isSome, .unresolvedColumn column⟩

@[simp] theorem passes_columnCheck (column : String) :
    (r.columnCheck column).passes = ((r.introduced r.joins).resolveColumn column).isSome := by
  rw [columnCheck]

/-- The checks on a request for rows, in order. -/
def checks : List Check :=
  r.validityChecks ++ joinChecks (.ofBase r.dataset) r.joins ++
    (r.aggregations.map fun a => r.columnCheck a.column) ++ r.selection.map r.columnCheck

end Request

/-! ## Steps that make checks -/

/-- The error that a step fails with. -/
def failure? {α : Type} : Except CompileError α → Option CompileError
  | .ok _ => none
  | .error e => some e

/-- A step that fails with the error of the first check that is not passed, and succeeds if all are
passed. -/
def Guarded {α : Type} (outcome : Except CompileError α) (checks : List Check) : Prop :=
  failure? outcome = firstFailure checks

namespace Guarded

variable {α β : Type} {checks rest : List Check}

theorem ok (a : α) : Guarded (.ok a) [] := rfl

theorem of_exists {x : Except CompileError α} (h : ∃ a, x = .ok a) : Guarded x [] := by
  obtain ⟨a, rfl⟩ := h
  exact ok a

/-- **A sequence of steps makes the checks of both.** -/
theorem bind {x : Except CompileError α} {f : α → Except CompileError β} (hx : Guarded x checks)
    (hf : ∀ a, x = .ok a → Guarded (f a) rest) : Guarded (x.bind f) (checks ++ rest) := by
  unfold Guarded at hx ⊢
  rw [firstFailure_append, ← hx]
  cases x with
  | error e => rfl
  | ok a => exact hf a rfl

/-- A step on the result of another makes no check. -/
theorem map {x : Except CompileError α} (h : Guarded x checks) (f : α → β) :
    Guarded (x.bind fun a => .ok (f a)) checks := by
  unfold Guarded at h ⊢
  rw [← h]
  cases x <;> rfl

theorem bindTraced {x : Traced α} {f : α → Traced β} (hx : Guarded x.outcome checks)
    (hf : ∀ a, x.outcome = .ok a → Guarded (f a).outcome rest) :
    Guarded (x >>= f).outcome (checks ++ rest) := by
  rw [Traced.outcome_bind]
  exact hx.bind hf

/-- A step that succeeds before others makes no check. -/
theorem bindTraced_of_exists {x : Traced α} {f : α → Traced β} (hx : ∃ a, x.outcome = .ok a)
    (hf : ∀ a, x.outcome = .ok a → Guarded (f a).outcome rest) :
    Guarded (x >>= f).outcome rest := by
  have h : Guarded (x >>= f).outcome ([] ++ rest) := (of_exists hx).bindTraced hf
  rwa [List.nil_append] at h

theorem exists_ok_iff {x : Except CompileError α} (h : Guarded x checks) :
    (∃ a, x = .ok a) ↔ ∀ check ∈ checks, check.passes = true := by
  rw [← firstFailure_eq_none_iff, ← h]
  cases x <;> simp [failure?]

theorem eq_error_iff {x : Except CompileError α} (h : Guarded x checks) {e : CompileError} :
    x = .error e ↔ firstFailure checks = some e := by
  rw [← h]
  cases x <;> simp [failure?]

end Guarded

/-! ## Validity -/

/-- **The validation of a request makes the checks on its validity.** -/
theorem guarded_checked (r : Request) : Guarded (checked r true).outcome r.validityChecks := by
  have hlimit : (1 ≤ r.limit && r.limit ≤ 100000) =
      !decide (r.limit = 0 ∨ maxLimit < r.limit) := by
    have hmax : maxLimit = 100000 := rfl
    rw [← Bool.decide_and, ← decide_not, decide_eq_decide]
    omega
  unfold Guarded Request.validityChecks checked Request.validate
  rw [List.cons_append, List.cons_append, firstFailure_cons, firstFailure_cons,
    firstFailure_append, firstFailure_map, hlimit]
  by_cases hdataset : (trim r.dataset).isEmpty = true
  · rw [if_pos hdataset, hdataset]
    rfl
  · rw [if_neg hdataset, Bool.eq_false_iff.2 hdataset]
    by_cases hlimit : r.limit = 0 ∨ maxLimit < r.limit
    · rw [if_pos hlimit, decide_eq_true hlimit]
      rfl
    · rw [if_neg hlimit, decide_eq_false hlimit]
      simp only [Bool.not_not, Bool.not_false, if_true]
      cases r.joins.find? fun j => j.pairs.isEmpty with
      | some j => rfl
      | none =>
        cases r.columns.isEmpty <;> cases r.aggregations.isEmpty <;> rfl

/-! ## Planning -/

namespace SourcePlan

variable {p q : SourcePlan}

/-- Two plans of the same datasets under the same names. -/
def SameNames (p q : SourcePlan) : Prop :=
  p.occurrences.map (fun o => (o.dataset, o.name)) = q.occurrences.map fun o => (o.dataset, o.name)

namespace SameNames

theorem usedNames_eq (h : p.SameNames q) : p.usedNames = q.usedNames := by
  have hnames := congrArg (List.map fun x : String × String => upper x.2) h
  simpa [usedNames, Function.comp_def] using hnames

/-- A name refers to the same occurrence in both. -/
theorem resolveQualifier_eq (h : p.SameNames q) (qualifier : String) :
    p.resolveQualifier qualifier = q.resolveQualifier qualifier := by
  have hfind : ∀ f : String × String → Bool,
      p.occurrences.findIdx? (fun o => f (o.dataset, o.name)) =
        q.occurrences.findIdx? fun o => f (o.dataset, o.name) := by
    intro f
    have hmap := congrArg (List.findIdx? f) h
    rwa [List.findIdx?_map, List.findIdx?_map] at hmap
  unfold resolveQualifier
  have hname := hfind fun x => sameFolded x.2 (trim qualifier)
  have hdataset := hfind fun x => sameFolded x.1 (trim qualifier)
  have hsegment := hfind fun x => sameFolded (lastSegment x.1) (lastSegment (trim qualifier))
  dsimp only at hname hdataset hsegment ⊢
  rw [hname, hdataset, hsegment]

theorem resolveColumn_eq (h : p.SameNames q) (column : String) :
    p.resolveColumn column = q.resolveColumn column := by
  simp only [resolveColumn, h.resolveQualifier_eq]

/-- Joins bring in the same datasets under the same names, on whatever they hang. -/
theorem withJoin (h : p.SameNames q) (spec : Join) (left : Nat) :
    (p.withJoin spec left).SameNames (q.introduce spec.rightDataset) := by
  unfold SameNames SourcePlan.withJoin introduce at *
  simp only [List.map_append, List.map_map, Function.comp_def, List.map_cons, List.map_nil, h,
    usedNames_eq h]

end SameNames

theorem addJoin_of_resolveQualifier {spec : Join} {left : Nat}
    (h : p.resolveQualifier spec.leftDataset = some left) :
    p.addJoin spec = .ok (p.withJoin spec left) := by
  rw [addJoin, h]
  rfl

/-- **Planning the joins makes the checks on them**, and the datasets that they bring in have the
names that they have on whatever they hang. -/
theorem guarded_addJoins (h : p.SameNames q) (specs : List Join) :
    Guarded (p.addJoins specs) (Request.joinChecks q specs) ∧
      ∀ p', p.addJoins specs = .ok p' →
        p'.SameNames (specs.foldl (fun q j => q.introduce j.rightDataset) q) := by
  induction specs generalizing p q with
  | nil =>
    refine ⟨.ok p, fun p' hp' => ?_⟩
    cases hp'
    exact h
  | cons spec specs ih =>
    unfold Guarded Request.joinChecks
    rw [firstFailure_cons, ← h.resolveQualifier_eq]
    cases hleft : p.resolveQualifier spec.leftDataset with
    | none =>
      have hfail : p.addJoins (spec :: specs) = .error (.unresolvedJoin spec) := by
        simp only [addJoins, addJoin, hleft]
      rw [hfail]
      exact ⟨rfl, by simp⟩
    | some left =>
      have hnext : p.addJoins (spec :: specs) = (p.withJoin spec left).addJoins specs := by
        rw [addJoins, addJoin_of_resolveQualifier hleft]
      rw [hnext]
      exact ih (h.withJoin spec left)

/-- **Planning the sources of a request makes the checks on its joins.** -/
theorem guarded_ofRequest (r : Request) :
    Guarded (ofRequest r) (Request.joinChecks (.ofBase r.dataset) r.joins) ∧
      ∀ p, ofRequest r = .ok p → p.SameNames (r.introduced r.joins) :=
  guarded_addJoins rfl r.joins

/-- A plan of a request has a column for every reference to one of its datasets. -/
theorem isSome_columnRef? {r : Request} (h : ofRequest r = .ok p) (settings : Settings)
    (column : String) :
    (p.columnRef? settings column).isSome =
      ((r.introduced r.joins).resolveColumn column).isSome := by
  rw [← ((guarded_ofRequest r).2 p h).resolveColumn_eq]
  cases hcolumn : p.resolveColumn column with
  | none => simp [columnRef?, hcolumn]
  | some found =>
    obtain ⟨index, name⟩ := found
    have hlt : index < p.occurrences.length := by
      unfold resolveColumn at hcolumn
      split at hcolumn
      · obtain ⟨i, hi, heq⟩ := Option.map_eq_some_iff.1 hcolumn
        cases heq
        exact resolveQualifier_lt hi
      · cases hcolumn
        rw [(numbered_of_ofRequest h).length_occurrences]
        exact Nat.succ_pos _
    simp [columnRef?, hcolumn, List.getElem?_eq_getElem hlt]

/-- Finding the column of a reference makes the check on the reference. -/
theorem guarded_selectedColumn {r : Request} (h : ofRequest r = .ok p) (settings : Settings)
    (column : String) : Guarded (p.selectedColumn settings column) [r.columnCheck column] := by
  unfold Guarded selectedColumn Request.columnCheck
  rw [firstFailure_cons, ← isSome_columnRef? h settings]
  cases p.columnRef? settings column <;> rfl

end SourcePlan

/-- **Planning the aggregations of a request makes the checks on their columns.** -/
theorem AggregateIndex.guarded_addAll {p : SourcePlan} {r : Request}
    (h : SourcePlan.ofRequest r = .ok p) (settings : Settings) (index : AggregateIndex)
    (aggregations : List Aggregation) :
    Guarded (addAll settings p index aggregations)
      (aggregations.map fun a => r.columnCheck a.column) := by
  induction aggregations generalizing index with
  | nil => exact .ok index
  | cons a rest ih =>
    have hbind : addAll settings p index (a :: rest) =
        (p.selectedColumn settings a.column).bind fun column =>
          addAll settings p (index.add settings.options a column) rest := by
      conv_lhs => unfold addAll
      cases p.selectedColumn settings a.column <;> rfl
    rw [hbind]
    exact (SourcePlan.guarded_selectedColumn h settings a.column).bind fun column _ => ih _

/-- **Planning a request makes the checks on its joins and aggregations.** -/
theorem Scope.guarded_ofRequest (settings : Settings) (r : Request) :
    Guarded (Scope.ofRequest settings r)
      (Request.joinChecks (.ofBase r.dataset) r.joins ++
        r.aggregations.map fun a => r.columnCheck a.column) := by
  refine (SourcePlan.guarded_ofRequest r).1.bind fun p hp => ?_
  exact (AggregateIndex.guarded_addAll hp settings {} r.aggregations).map fun aggregates =>
    (⟨r, p, aggregates⟩ : Scope)

end ReportSql
