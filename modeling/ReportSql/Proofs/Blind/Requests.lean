import ReportSql.Plan.Partitions
import ReportSql.Proofs.Blind.Drafts

/-!
# Requests that differ in values

Two requests that differ in the scalars of filters, in the load identifiers and in the load type
alone have predicates that differ in the values of their holes alone.

## Main definitions

* `FilterValue.Alike`, `Condition.Alike` — conditions whose values have one shape.
* `Request.Alike` — requests that differ in values alone.

## Main statements

* `Condition.Alike.conditionPredicate` — the predicates of conditions.
* `Request.Alike.loadPredicates` — the predicates that restrict a dataset to its loads.
-/

namespace ReportSql

open Text

/-! ## Conditions -/

/-- Two values of one shape: a range is open on the same sides, and a list has as many items. -/
inductive FilterValue.Alike : FilterValue → FilterValue → Prop
  | absent : Alike .absent .absent
  | scalar (s s' : Scalar) : Alike (.scalar s) (.scalar s')
  | range {low low' high high' : Option Scalar} (hlow : low.isSome = low'.isSome)
      (hhigh : high.isSome = high'.isSome) : Alike (.range low high) (.range low' high')
  | list {items items' : List Scalar} (h : items.length = items'.length) :
      Alike (.list items) (.list items')

/-- Two conditions that differ in the scalars of their values alone. -/
structure Condition.Alike (c c' : Condition) : Prop where
  column : c.column = c'.column
  datatype : c.datatype = c'.datatype
  operator : c.operator = c'.operator
  value : c.value.Alike c'.value

section Predicates

variable {options : Options} {e : Expr} {kind : ValueKind}

theorem kindHole_alike (s s' : Scalar) : (kindHole kind s).Alike (kindHole kind s') := rfl

theorem textHole_alike (s s' : String) : (textHole s).Alike (textHole s') := rfl

theorem textItemHole_alike (s s' : Scalar) : (textItemHole s).Alike (textItemHole s') := by
  cases s <;> cases s' <;> rfl

/-- An operator that compares with a scalar makes the same comparison with every one. -/
theorem scalarPredicate?_alike (operator : Operator) (s s' : Scalar) :
    Option.Rel (Predicate.Matches Hole.Alike) (scalarPredicate? options e kind operator s)
      (scalarPredicate? options e kind operator s') := by
  unfold scalarPredicate?
  split
  · exact .some (.like _ _ (textHole_alike _ _))
  · cases Comparison.ofOperator? operator with
    | none => exact .none
    | some c =>
      rw [Option.map_some, Option.map_some]
      split
      · exact .some (.compareUpper _ _ (textHole_alike _ _))
      · exact .some (.compare _ _ (kindHole_alike s s'))

/-- Ranges that are open on the same sides make the same comparison. -/
theorem rangePredicate_alike {low low' high high' : Option Scalar}
    (hlow : low.isSome = low'.isSome) (hhigh : high.isSome = high'.isSome) :
    (rangePredicate options e kind low high).Matches Hole.Alike
      (rangePredicate options e kind low' high') := by
  cases rel_of_isSome_eq hlow with
  | none =>
    cases rel_of_isSome_eq hhigh with
    | none => exact .always
    | some _ => exact .compare _ _ (kindHole_alike _ _)
  | some _ =>
    cases rel_of_isSome_eq hhigh with
    | none => exact .compare _ _ (kindHole_alike _ _)
    | some _ => exact .between _ (kindHole_alike _ _) (kindHole_alike _ _)

/-- Lists of one length make the same membership test. -/
theorem listPredicate_alike (negated : Bool) {items items' : List Scalar}
    (h : items.length = items'.length) :
    (listPredicate options e kind negated items).Matches Hole.Alike
      (listPredicate options e kind negated items') := by
  have htake : (items.take options.maxListItems).length =
      (items'.take options.maxListItems).length := by
    rw [List.length_take, List.length_take, h]
  have hholes : List.Forall₂ Hole.Alike ((items.take options.maxListItems).map (kindHole kind))
      ((items'.take options.maxListItems).map (kindHole kind)) :=
    forall₂_map_of_length_eq kindHole_alike htake
  cases kind with
  | text => exact .among _ _ (forall₂_map_of_length_eq textItemHole_alike htake)
  | number | date | timestamp => exact .among _ _ hholes

theorem listEvents_alike (column : String) {items items' : List Scalar}
    (h : items.length = items'.length) :
    listEvents options column items = listEvents options column items' := by
  unfold listEvents
  rw [isEmpty_eq_of_length_eq h, h]

/-- **Conditions that differ in values alone have predicates that do**, over every expression. -/
theorem Condition.Alike.conditionPredicate {c c' : Condition} (h : c.Alike c') :
    Traced.Alike (Predicate.Matches Hole.Alike) (conditionPredicate options e kind c)
      (conditionPredicate options e kind c') := by
  obtain ⟨column, datatype, operator, value⟩ := c
  obtain ⟨_, _, _, value'⟩ := c'
  obtain ⟨rfl, rfl, rfl, hvalue⟩ := h
  unfold ReportSql.conditionPredicate
  dsimp only at hvalue ⊢
  cases hunary : unaryPredicate? e kind operator with
  | some p => exact .pure (.refl Hole.Alike.refl p)
  | none =>
    cases hvalue with
    | absent => exact .report_bind _ (.pure .always)
    | scalar s s' =>
      have hscalar : Option.Rel (Predicate.Matches Hole.Alike)
          (scalarPredicate? options e kind operator s)
          (scalarPredicate? options e kind operator s') := scalarPredicate?_alike operator s s'
      dsimp only
      generalize scalarPredicate? options e kind operator s = x at hscalar ⊢
      generalize scalarPredicate? options e kind operator s' = y at hscalar ⊢
      cases hscalar with
      | some hmatch => exact .pure hmatch
      | none => exact .fail _ _
    | range hlow hhigh =>
      dsimp only
      split
      · exact .pure (rangePredicate_alike hlow hhigh)
      · exact .fail _ _
    | @list items items' h =>
      dsimp only
      split
      · refine .reportAll_bind (listEvents_alike column h) ?_
        rw [isEmpty_eq_of_length_eq h]
        split
        · exact .pure (.refl Hole.Alike.refl _)
        · exact .pure (listPredicate_alike _ h)
      · exact .fail _ _

end Predicates

/-! ## Dictionaries -/

/-- Two dictionaries of lists with the same keys and as many items under each. -/
def Dict.Alike {α β : Type} (d : Dict (List α)) (d' : Dict (List β)) : Prop :=
  List.Forall₂ (fun e e' => e.1 = e'.1 ∧ e.2.length = e'.2.length) d.entries d'.entries

namespace Dict.Alike

variable {α β : Type} {d : Dict (List α)} {d' : Dict (List β)}

theorem get? (h : d.Alike d') (key : String) :
    Option.Rel (fun as bs => as.length = bs.length) (d.get? key) (d'.get? key) :=
  rel_lookup_of_forall₂ key h

theorem find? (h : d.Alike d') (p : String → Bool) :
    Option.Rel (fun as bs => as.length = bs.length) (d.find? fun k _ => p k)
      (d'.find? fun k _ => p k) := by
  have hkeys : ∀ (e : String × List α) (e' : String × List β),
      e.1 = e'.1 ∧ e.2.length = e'.2.length → p e.1 = p e'.1 := fun _ _ he => congrArg p he.1
  exact rel_map (fun _ _ he => he.2) (rel_find?_of_forall₂ hkeys h)

end Dict.Alike

/-! ## Requests -/

/-- Two load types that every dataset supports, or that are one type if a dataset does not. -/
def Settings.LoadTypesAlike (s : Settings) (t t' : String) : Prop :=
  ∀ dataset spec, s.partition? dataset = some spec →
    spec.supports t = spec.supports t' ∧ (spec.supports t = false → t = t')

/-- Two requests that differ in the scalars of filters, in the load identifiers and in the load type
alone. -/
structure Request.Alike (s : Settings) (r r' : Request) : Prop where
  rest : r' = { r with
    filters? := r'.filters?
    partitionFilters? := r'.partitionFilters?
    partitionLoadType? := r'.partitionLoadType? }
  filters : Option.Rel (FilterGroup.Matches Condition.Alike) r.filters? r'.filters?
  partitionFilters : Option.Rel Dict.Alike r.partitionFilters? r'.partitionFilters?
  loadType : Option.Rel s.LoadTypesAlike r.loadType? r'.loadType?

namespace Request.Alike

variable {s : Settings} {r r' : Request}

/-- What does not depend on values is the same for both requests. -/
theorem congr {β : Type} (h : r.Alike s r') (f : Request → β)
    (hf : ∀ filters? partitionFilters? partitionLoadType?,
      f { r with filters?, partitionFilters?, partitionLoadType? } = f r) : f r' = f r := by
  rw [h.rest]
  exact hf _ _ _

theorem valueKind (h : r.Alike s r') {c c' : Condition} (hc : c.Alike c') :
    r'.valueKind c' = r.valueKind c := by
  have hkind : r'.valueKind c' = r.valueKind c' := h.congr (·.valueKind c') fun _ _ _ => rfl
  rw [hkind]
  unfold Request.valueKind
  rw [hc.datatype, hc.column]

theorem loadIdKind (h : r.Alike s r') (dataset column : String) :
    r'.loadIdKind dataset column = r.loadIdKind dataset column :=
  h.congr (·.loadIdKind dataset column) fun _ _ _ => rfl

/-! ## Loads -/

/-- As many load identifiers are allowed for a dataset. -/
theorem length_partitionValues (h : r.Alike s r') (dataset : String) :
    (r.partitionValues dataset).length = (r'.partitionValues dataset).length := by
  have hfilters := h.partitionFilters
  unfold Request.partitionValues
  generalize r.partitionFilters? = x at hfilters ⊢
  generalize r'.partitionFilters? = y at hfilters ⊢
  cases hfilters with
  | none => rfl
  | @some d d' hd =>
    have hvalues := rel_or (hd.get? dataset) (hd.find? fun key => sameFolded key dataset)
    exact rel_getD hvalues rfl

theorem loadIdPredicate_alike (column : String) {holes holes' : List Hole}
    (h : List.Forall₂ Hole.Alike holes holes') :
    (loadIdPredicate column holes).Matches Hole.Alike (loadIdPredicate column holes') := by
  cases h with
  | nil => exact .among _ _ .nil
  | cons hfirst hrest =>
    cases hrest with
    | nil => exact .compare _ _ hfirst
    | cons hsecond hrest => exact .among _ _ (.cons hfirst (.cons hsecond hrest))

/-- A load type that a dataset does not have is reported, so it has to be the same. -/
theorem loadTypePredicate (h : r.Alike s r') {dataset : String} {spec : PartitionSpec}
    (hspec : s.partition? dataset = some spec) :
    Traced.Alike (List.Forall₂ (Predicate.Matches Hole.Alike))
      (loadTypePredicate s r dataset spec) (loadTypePredicate s r' dataset spec) := by
  have htypes := h.loadType
  unfold ReportSql.loadTypePredicate
  generalize r.loadType? = x at htypes ⊢
  generalize r'.loadType? = y at htypes ⊢
  cases htypes with
  | none => exact .pure .nil
  | @some t t' ht =>
    obtain ⟨hsupports, hsame⟩ := ht dataset spec hspec
    cases spec.loadTypeColumn with
    | none => exact .pure .nil
    | some column =>
      dsimp only
      rw [← hsupports]
      split
      · exact .pure (.cons (.compare _ _ rfl) .nil)
      · next hunsupported =>
        -- the report names the type, which is why it has to be the same
        rw [hsame (Bool.eq_false_iff.2 hunsupported)]
        exact .report_bind _ (.pure .nil)

/-- **The predicates that restrict a dataset to its loads differ in values alone.** -/
theorem loadPredicates (h : r.Alike s r') (dataset : String) :
    Traced.Alike (List.Forall₂ (Predicate.Matches Hole.Alike)) (loadPredicates s r dataset)
      (loadPredicates s r' dataset) := by
  have hlength := h.length_partitionValues dataset
  unfold ReportSql.loadPredicates
  simp only [h.loadIdKind]
  generalize r.partitionValues dataset = values at hlength ⊢
  generalize r'.partitionValues dataset = values' at hlength ⊢
  match values, values', hlength with
  | [], [], _ => exact .pure .nil
  | v :: vs, v' :: vs', hlength =>
    cases hspec : s.partition? dataset with
    | none => exact .report_bind _ (.pure .nil)
    | some spec =>
      refine (h.loadTypePredicate hspec).bind fun byType byType' hbyType => .pure ?_
      refine .cons (loadIdPredicate_alike _ ?_) hbyType
      refine forall₂_map_of_length_eq ?_ hlength
      exact fun _ _ => rfl

end Request.Alike

end ReportSql
