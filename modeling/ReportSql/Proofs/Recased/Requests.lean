import ReportSql.Proofs.Recased.Drafts

/-!
# Requests up to the letter case of references

A request refers to columns and datasets in filters, sorts, joins and aggregations.  Two requests
that differ in the case of the ASCII letters of these references alone have the same sources, and
outputs that differ in the case of their names and columns alone.

## Main definitions

* `Request.folded` — a request with the ASCII letters of its references in lower case.
* `Request.Recased` — requests that differ in the case of references alone.
* `Request.HasDistinctMetadata` — what is said of columns is said under keys that differ in upper
  case.
* `SourcePlan.folded`, `AggregateIndex.folded` — the plans of requests, with references folded.

## Main statements

* `conditionPredicate_recased` — the predicates of conditions.
* `Request.HasDistinctMetadata.valueKind_folded` — the kinds of values that conditions compare.
* `SourcePlan.ofRequest_recased`, `AggregateIndex.ofRequest_recased` — the plans of requests.
-/

namespace ReportSql

open Text

/-! ## Requests -/

/-- The filter of the images of the leaves. -/
def FilterGroup.map {α β : Type} (f : α → β) (g : FilterGroup α) : FilterGroup β :=
  ⟨g.logic, Tree.mapAll f g.children⟩

/-- A condition with the letters of its column folded. -/
def Condition.folded (c : Condition) : Condition := { c with column := Text.folded c.column }

/-- A sort with the letters of its column folded. -/
def SortKey.folded (key : SortKey) : SortKey := { key with column := Text.folded key.column }

/-- Two columns with their letters folded. -/
def JoinPair.folded (pair : JoinPair) : JoinPair :=
  ⟨Text.folded pair.left, Text.folded pair.right⟩

/-- A join with the letters of the dataset that it refers to and of its columns folded. -/
def Join.folded (j : Join) : Join :=
  { j with leftDataset := Text.folded j.leftDataset, pairs := j.pairs.map JoinPair.folded }

/-- An aggregation with the letters of its column and of its output folded. -/
def Aggregation.folded (a : Aggregation) : Aggregation :=
  { a with column := Text.folded a.column, outputName := a.outputName.map Text.folded }

namespace Request

/-- A request with the ASCII letters in lower case in the columns of filters, sorts and
aggregations, in the datasets and columns that joins refer to, and in the names of outputs. -/
def folded (r : Request) : Request :=
  { r with
    joins? := r.joins?.map (List.map Join.folded)
    filters? := r.filters?.map (FilterGroup.map Condition.folded)
    aggregations? := r.aggregations?.map (List.map Aggregation.folded)
    sorting? := r.sorting?.map (List.map SortKey.folded) }

/-- Two requests that differ in the case of the ASCII letters of references alone. -/
def Recased (r r' : Request) : Prop := r.folded = r'.folded

/-- What a request says of columns is said under keys no two of which agree in upper case. -/
def HasDistinctMetadata (r : Request) : Prop :=
  ∀ metadata, r.columnMetadata? = some metadata → (metadata.keys.map upper).Nodup

end Request

/-- Requests whose references differ in case, part by part, and that are the same otherwise. -/
theorem Request.recased_of_parts {r r' : Request}
    (hrest : r' = { r with
      joins? := r'.joins?
      filters? := r'.filters?
      aggregations? := r'.aggregations?
      sorting? := r'.sorting? })
    (hjoins : r.joins?.map (List.map Join.folded) = r'.joins?.map (List.map Join.folded))
    (hfilters : r.filters?.map (FilterGroup.map Condition.folded) =
      r'.filters?.map (FilterGroup.map Condition.folded))
    (haggregations : r.aggregations?.map (List.map Aggregation.folded) =
      r'.aggregations?.map (List.map Aggregation.folded))
    (hsorting : r.sorting?.map (List.map SortKey.folded) =
      r'.sorting?.map (List.map SortKey.folded)) : r.Recased r' := by
  rw [Recased, folded, folded, hjoins, hfilters, haggregations, hsorting, hrest]

/-- Lists that may be missing have items with equal images if their images are equal. -/
theorem forall₂_getD_of_map_eq {α β : Type} {f : α → β} {x y : Option (List α)}
    (h : x.map (List.map f) = y.map (List.map f)) :
    List.Forall₂ (InvImage Eq f) (x.getD []) (y.getD []) := by
  rw [forall₂_invImage_iff]
  exact rel_getD (rel_invImage_iff.2 h) rfl

namespace Request.Recased

variable {r r' : Request}

/-- What does not change when references are folded is the same for both requests. -/
theorem congr {β : Type} (h : r.Recased r') (f : Request → β) (hf : ∀ r, f r.folded = f r) :
    f r = f r' := by
  rw [← hf r, ← hf r']
  exact congrArg f h

theorem filter (h : r.Recased r') : r.filter.Matches (InvImage Eq Condition.folded) r'.filter := by
  have hfilters : r.filters?.map (FilterGroup.map Condition.folded) =
      r'.filters?.map (FilterGroup.map Condition.folded) := congrArg Request.filters? h
  have hfilter : r.filter.map Condition.folded = r'.filter.map Condition.folded :=
    rel_getD (rel_invImage_iff.2 hfilters) rfl
  obtain ⟨hlogic, hchildren⟩ := FilterGroup.mk.inj hfilter
  exact ⟨hlogic, Tree.matchesAll_invImage_iff.2 hchildren⟩

theorem joins (h : r.Recased r') : List.Forall₂ (InvImage Eq Join.folded) r.joins r'.joins :=
  forall₂_getD_of_map_eq (congrArg Request.joins? h)

theorem aggregations (h : r.Recased r') :
    List.Forall₂ (InvImage Eq Aggregation.folded) r.aggregations r'.aggregations :=
  forall₂_getD_of_map_eq (congrArg Request.aggregations? h)

theorem sorting (h : r.Recased r') :
    List.Forall₂ (InvImage Eq SortKey.folded) r.sorting r'.sorting :=
  forall₂_getD_of_map_eq (congrArg Request.sorting? h)

theorem isGrouped (h : r.Recased r') : r.isGrouped = r'.isGrouped := by
  have hgroupBy : r.groupBy = r'.groupBy := h.congr Request.groupBy fun _ => rfl
  rw [Request.isGrouped, Request.isGrouped, hgroupBy,
    isEmpty_eq_of_length_eq h.aggregations.length_eq]

end Request.Recased

/-! ## Conditions -/

namespace Request.HasDistinctMetadata

variable {r : Request}

/-- What is said of a column is found in any case. -/
theorem metadata?_folded (h : r.HasDistinctMetadata) (column : String) :
    r.metadata? (Text.folded column) = r.metadata? column := by
  unfold Request.metadata?
  cases hmetadata : r.columnMetadata? with
  | none => rfl
  | some metadata =>
    have hexact := Dict.get?_or_find?_upper (h metadata hmetadata)
    simp only [Option.bind_eq_bind, Option.bind_some]
    rw [hexact (Text.folded column), hexact column, upper_folded]

theorem valueKind_folded (h : r.HasDistinctMetadata) (c : Condition) :
    r.valueKind c.folded = r.valueKind c := by
  simp only [Request.valueKind, Condition.folded, h.metadata?_folded]

/-- **Conditions on one column compare values of one kind, whatever its case.** -/
theorem valueKind_eq {r' : Request} (h : r.HasDistinctMetadata) (hr : r.Recased r')
    {c c' : Condition} (hc : c.folded = c'.folded) : r.valueKind c = r'.valueKind c' := by
  have hkind : r.valueKind c' = r'.valueKind c' := hr.congr (·.valueKind c') fun _ => rfl
  rw [← hkind, ← h.valueKind_folded c, hc, h.valueKind_folded]

end Request.HasDistinctMetadata

section Predicates

variable {options : Options} {e e' : Expr} {kind : ValueKind}

theorem folded_comparedExpr (options : Options) (kind : ValueKind) (e : Expr) :
    (comparedExpr options kind e).folded = comparedExpr options kind e.folded := by
  unfold comparedExpr
  split <;> rfl

theorem folded_searchedExpr (options : Options) (kind : ValueKind) (e : Expr) :
    (searchedExpr options kind e).folded = searchedExpr options kind e.folded := by
  cases kind <;> rfl

theorem folded_unaryPredicate? (e : Expr) (kind : ValueKind) (operator : Operator) :
    (unaryPredicate? e kind operator).map Predicate.folded =
      unaryPredicate? e.folded kind operator := by
  unfold unaryPredicate?
  cases operator with
  | isNull | isNotNull => rfl
  | isEmpty | isNotEmpty =>
    dsimp only
    split <;> rfl
  | _ => rfl

theorem folded_scalarPredicate? (options : Options) (e : Expr) (kind : ValueKind)
    (operator : Operator) (s : Scalar) :
    (scalarPredicate? options e kind operator s).map Predicate.folded =
      scalarPredicate? options e.folded kind operator s := by
  unfold scalarPredicate?
  split
  · rw [Option.map_some, searchPredicate, Predicate.folded, folded_searchedExpr, searchPredicate]
  · rw [Option.map_map]
    congr 1
    funext c
    rw [Function.comp_apply]
    split
    · rfl
    · rw [Predicate.folded, folded_comparedExpr]

theorem folded_listPredicate (options : Options) (e : Expr) (kind : ValueKind) (negated : Bool)
    (items : List Scalar) :
    (listPredicate options e kind negated items).folded =
      listPredicate options e.folded kind negated items := by
  cases kind <;> rfl

theorem folded_rangePredicate (options : Options) (e : Expr) (kind : ValueKind)
    (low high : Option Scalar) :
    (rangePredicate options e kind low high).folded =
      rangePredicate options e.folded kind low high := by
  cases low <;> cases high <;>
    simp [rangePredicate, Predicate.folded, folded_comparedExpr]

/-- **Conditions on one column have one predicate, whatever the case of the column**, over
expressions that differ in that case alone. -/
theorem conditionPredicate_recased (he : e.folded = e'.folded) {c c' : Condition}
    (hc : c.folded = c'.folded) :
    Traced.EndAlike (InvImage Eq Predicate.folded) (conditionPredicate options e kind c)
      (conditionPredicate options e' kind c') := by
  obtain ⟨column, datatype, operator, value⟩ := c
  obtain ⟨column', _, _, _⟩ := c'
  obtain ⟨-, rfl, rfl, rfl⟩ := Condition.mk.inj hc
  have hunary : Option.Rel (InvImage Eq Predicate.folded) (unaryPredicate? e kind operator)
      (unaryPredicate? e' kind operator) := by
    rw [rel_invImage_iff, folded_unaryPredicate?, folded_unaryPredicate?, he]
  unfold conditionPredicate
  dsimp only
  generalize unaryPredicate? e kind operator = x at hunary ⊢
  generalize unaryPredicate? e' kind operator = y at hunary ⊢
  cases hunary with
  | some hp => exact .pure hp
  | none =>
    cases value with
    -- the report names the column in the case that it was given
    | absent => exact .report_bind _ _ (.pure rfl)
    | scalar s =>
      have hscalar : Option.Rel (InvImage Eq Predicate.folded)
          (scalarPredicate? options e kind operator s)
          (scalarPredicate? options e' kind operator s) := by
        rw [rel_invImage_iff, folded_scalarPredicate?, folded_scalarPredicate?, he]
      dsimp only
      generalize scalarPredicate? options e kind operator s = x at hscalar ⊢
      generalize scalarPredicate? options e' kind operator s = y at hscalar ⊢
      cases hscalar with
      | some hp => exact .pure hp
      | none => exact .fail _ _
    | list items =>
      dsimp only
      split
      · refine .reportAll_bind _ _ ?_
        split
        · exact .pure rfl
        · refine .pure ?_
          rw [InvImage, folded_listPredicate, folded_listPredicate, he]
      · exact .fail _ _
    | range low high =>
      dsimp only
      split
      · refine .pure ?_
        rw [InvImage, folded_rangePredicate, folded_rangePredicate, he]
      · exact .fail _ _

end Predicates

/-! ## Sources -/

/-- A join of a plan with its references folded. -/
def PlannedJoin.folded (j : PlannedJoin) : PlannedJoin := { j with spec := j.spec.folded }

namespace SourcePlan

variable {p p' : SourcePlan} {s : Settings}

/-- A plan with the references of its joins folded. -/
def folded (p : SourcePlan) : SourcePlan := { p with joins := p.joins.map PlannedJoin.folded }

theorem occurrences_eq (hp : p.folded = p'.folded) : p.occurrences = p'.occurrences :=
  (SourcePlan.mk.inj hp).1

theorem resolveQualifier_folded (p : SourcePlan) (qualifier : String) :
    p.resolveQualifier (Text.folded qualifier) = p.resolveQualifier qualifier := by
  simp only [resolveQualifier, trim_folded, lastSegment_folded, sameFolded_folded_right]

theorem resolveColumn_folded (p : SourcePlan) (column : String) :
    p.resolveColumn (Text.folded column) =
      (p.resolveColumn column).map (Prod.map id Text.folded) := by
  rw [resolveColumn, resolveColumn, trim_folded, qualifierAndColumn_folded]
  cases qualifierAndColumn (trim column) with
  | none => rfl
  | some parts =>
    obtain ⟨qualifier, name⟩ := parts
    rw [Option.map_some, Prod.map_apply]
    dsimp only
    rw [resolveQualifier_folded, Option.map_map]
    rfl

/-- A qualifier refers to one occurrence in any case. -/
theorem resolveQualifier_eq (hp : p.folded = p'.folded) {qualifier qualifier' : String}
    (h : Text.folded qualifier = Text.folded qualifier') :
    p.resolveQualifier qualifier = p'.resolveQualifier qualifier' := by
  have hplan : p.resolveQualifier qualifier' = p'.resolveQualifier qualifier' := by
    rw [resolveQualifier, resolveQualifier, occurrences_eq hp]
  rw [← hplan, ← p.resolveQualifier_folded qualifier, h, resolveQualifier_folded]

/-- A column is one of the same occurrence in any case. -/
theorem resolveColumn_recased (hp : p.folded = p'.folded) {column column' : String}
    (h : Text.folded column = Text.folded column') :
    Option.Rel (InvImage Eq (Prod.map id Text.folded)) (p.resolveColumn column)
      (p'.resolveColumn column') := by
  have hplan : p.resolveColumn column' = p'.resolveColumn column' := by
    unfold resolveColumn resolveQualifier
    rw [occurrences_eq hp]
  rw [rel_invImage_iff, ← hplan, ← resolveColumn_folded, h, resolveColumn_folded]

/-- A column in any case stands for one column but for its case. -/
theorem columnRef?_recased (hs : s.IgnoresCase) (hp : p.folded = p'.folded)
    {column column' : String} (h : Text.folded column = Text.folded column') :
    Option.Rel (InvImage Eq ColumnRef.folded) (p.columnRef? s column)
      (p'.columnRef? s column') := by
  have htarget := resolveColumn_recased hp h
  rw [columnRef?, columnRef?, occurrences_eq hp]
  generalize p.resolveColumn column = x at htarget ⊢
  generalize p'.resolveColumn column' = y at htarget ⊢
  cases htarget with
  | none => exact .none
  | @some target target' htarget =>
    obtain ⟨index, name⟩ := target
    obtain ⟨index', name'⟩ := target'
    obtain ⟨hindex, hname⟩ := Prod.mk.inj htarget
    dsimp only [id_eq] at hindex
    subst hindex
    simp only [Option.bind_eq_bind, Option.bind_some]
    cases p'.occurrences[index]? with
    | none => exact .none
    | some o =>
      exact .some (congrArg (ColumnRef.qualified o.name) (hs.physicalColumn_eq o.dataset hname))

/-- A selected column does not depend on the references of joins. -/
theorem selectedColumn_eq (hp : p.folded = p'.folded) (s : Settings) (column : String) :
    p.selectedColumn s column = p'.selectedColumn s column := by
  unfold selectedColumn columnRef? resolveColumn resolveQualifier
  rw [occurrences_eq hp]

theorem selectedColumn_recased (hs : s.IgnoresCase) (hp : p.folded = p'.folded)
    {column column' : String} (h : Text.folded column = Text.folded column') :
    OutcomesAlike (InvImage Eq ColumnRef.folded) (p.selectedColumn s column)
      (p'.selectedColumn s column') := by
  have href := columnRef?_recased hs hp h
  unfold selectedColumn
  generalize p.columnRef? s column = x at href ⊢
  generalize p'.columnRef? s column' = y at href ⊢
  cases href with
  | some href => exact .ok href
  | none => exact .error _ _

theorem addJoin_recased (hp : p.folded = p'.folded) {spec spec' : Join}
    (hspec : spec.folded = spec'.folded) :
    OutcomesAlike (InvImage Eq folded) (p.addJoin spec) (p'.addJoin spec') := by
  obtain ⟨hleft, hright, hkind, -⟩ := Join.mk.inj hspec
  obtain ⟨hoccurrences, hjoins⟩ := SourcePlan.mk.inj hp
  rw [addJoin, addJoin, resolveQualifier_eq hp hleft]
  cases p'.resolveQualifier spec'.leftDataset with
  | none => exact .error _ _
  | some left =>
    refine .ok ?_
    simp [InvImage, folded, PlannedJoin.folded, usedNames, hoccurrences, hjoins, hright, hkind,
      hspec]

theorem addJoins_recased {specs specs' : List Join}
    (h : List.Forall₂ (InvImage Eq Join.folded) specs specs') (hp : p.folded = p'.folded) :
    OutcomesAlike (InvImage Eq folded) (p.addJoins specs) (p'.addJoins specs') := by
  induction h generalizing p p' with
  | nil => exact .ok hp
  | @cons spec spec' _ _ hspec _ ih =>
    have hstep := addJoin_recased hp hspec
    unfold addJoins
    generalize p.addJoin spec = x at hstep ⊢
    generalize p'.addJoin spec' = y at hstep ⊢
    cases hstep with
    | ok hp => exact ih hp
    | error e e' => exact .error e e'

/-- **Requests that differ in the case of references alone have the same sources.** -/
theorem ofRequest_recased {r r' : Request} (h : r.Recased r') :
    OutcomesAlike (InvImage Eq folded) (ofRequest r) (ofRequest r') := by
  have hdataset : r.dataset = r'.dataset := h.congr Request.dataset fun _ => rfl
  rw [ofRequest, ofRequest, hdataset]
  exact addJoins_recased h.joins rfl

/-- Joins change places by what does not depend on references. -/
theorem folded_reorder (p : SourcePlan) (weights : List Nat) :
    (p.reorder weights).folded = p.folded.reorder weights := by
  have hreorderable : p.folded.isReorderable = p.isReorderable := by
    simp [isReorderable, folded, List.all_map, Function.comp_def, PlannedJoin.folded, Join.folded]
  rw [reorder, reorder, hreorderable]
  split
  · have hsorted : ∀ js : List PlannedJoin,
        (js.mergeSort fun a b => weights.getD b.right 0 ≤ weights.getD a.right 0).map
            PlannedJoin.folded =
          (js.map PlannedJoin.folded).mergeSort fun a b =>
            weights.getD b.right 0 ≤ weights.getD a.right 0 :=
      fun js => List.map_mergeSort fun _ _ _ _ => rfl
    have hfilter : ∀ keep : Nat → Bool, (p.joins.filter fun j => keep j.left).map
        PlannedJoin.folded = (p.joins.map PlannedJoin.folded).filter fun j => keep j.left := by
      intro keep
      rw [List.filter_map]
      rfl
    unfold folded
    dsimp only
    rw [List.map_append, hsorted, hfilter (· == 0), hfilter (· != 0)]
  · rfl

/-- Joins change places alike. -/
theorem reorder_recased (hp : p.folded = p'.folded) (weights : List Nat) :
    (p.reorder weights).folded = (p'.reorder weights).folded := by
  rw [folded_reorder, hp, folded_reorder]

end SourcePlan

/-! ## Outputs -/

/-- An output with the letters of its name and of its column folded. -/
def AggregateOutput.folded (o : AggregateOutput) : AggregateOutput :=
  { o with name := Text.folded o.name, column := o.column.folded }

/-- The name of an aggregation has its letters folded when those of its parts are. -/
theorem Aggregation.folded_requestedName (a : Aggregation) :
    Text.folded a.folded.requestedName = Text.folded a.requestedName := by
  have hdefault : Text.folded (requestedName.default a.folded) =
      Text.folded (requestedName.default a) := by
    rw [requestedName.default, requestedName.default, folded_append, folded_append _ a.column]
    exact congrArg _ (folded_folded a.column)
  unfold requestedName folded
  cases a.outputName with
  | none => exact hdefault
  | some name =>
    simp only [Option.map_some, trim_folded, isEmpty_folded]
    split
    · exact hdefault
    · exact folded_folded _

namespace AggregateIndex

variable {index index' : AggregateIndex} {s : Settings}

/-- Outputs with the letters of their names and columns folded. -/
def folded (index : AggregateIndex) : AggregateIndex :=
  { index with outputs := index.outputs.map AggregateOutput.folded }

/-- **An output is found under its name in any case.** -/
theorem get?_recased (h : index.folded = index'.folded) {name name' : String}
    (hname : Text.folded name = Text.folded name') :
    Option.Rel (InvImage Eq AggregateOutput.folded) (index.get? name) (index'.get? name') := by
  obtain ⟨houtputs, hpositions⟩ := AggregateIndex.mk.inj h
  have hkey : upper (trim name) = upper (trim name') := by
    refine upper_eq_of_folded_eq ?_
    rw [← trim_folded, hname, trim_folded]
  rw [get?, get?, hkey, hpositions]
  cases index'.positions.lookup (upper (trim name')) with
  | none => exact .none
  | some position =>
    exact rel_getElem?_of_forall₂ (forall₂_invImage_iff.2 houtputs) position

theorem names_eq (h : index.folded = index'.folded) {name name' : String}
    (hname : Text.folded name = Text.folded name') : index.names name = index'.names name' :=
  isSome_eq_of_rel (get?_recased h hname)

theorem add_recased (h : index.folded = index'.folded) (options : Options) {a a' : Aggregation}
    (ha : a.folded = a'.folded) {column column' : ColumnRef}
    (hcolumn : column.folded = column'.folded) :
    (index.add options a column).folded = (index'.add options a' column').folded := by
  obtain ⟨houtputs, hpositions⟩ := AggregateIndex.mk.inj h
  have hrequested : Text.folded a.requestedName = Text.folded a'.requestedName := by
    rw [← a.folded_requestedName, ha, Aggregation.folded_requestedName]
  have hused : index.outputs.map (fun o => upper o.name) =
      index'.outputs.map fun o => upper o.name := by
    refine map_eq_of_forall₂ ?_ (forall₂_invImage_iff.2 houtputs)
    exact fun o o' ho => upper_eq_of_folded_eq (congrArg AggregateOutput.name ho)
  have hname : ∀ used, Text.folded (outputName options used a.requestedName) =
      Text.folded (outputName options used a'.requestedName) := by
    intro used
    rw [← folded_outputName, hrequested, folded_outputName]
  have hposition : index.outputs.length = index'.outputs.length :=
    (forall₂_invImage_iff.2 houtputs).length_eq
  have hfunction : a.function = a'.function := (Aggregation.mk.inj ha).2.1
  have houtput : ∀ used, AggregateOutput.folded
        ⟨outputName options used a.requestedName, a.function, column⟩ =
      AggregateOutput.folded ⟨outputName options used a'.requestedName, a'.function, column'⟩ := by
    intro used
    simp only [AggregateOutput.folded, hname, hfunction, hcolumn]
  unfold add folded
  dsimp only
  rw [hused, hpositions, hposition, upper_eq_of_folded_eq hrequested,
    upper_eq_of_folded_eq (hname _), List.map_append, List.map_append, houtputs, List.map_singleton,
    List.map_singleton, houtput]

theorem addAll_recased (hs : s.IgnoresCase) {p p' : SourcePlan} (hp : p.folded = p'.folded)
    {as as' : List Aggregation} (has : List.Forall₂ (InvImage Eq Aggregation.folded) as as')
    (h : index.folded = index'.folded) :
    OutcomesAlike (InvImage Eq folded) (addAll s p index as) (addAll s p' index' as') := by
  induction has generalizing index index' with
  | nil => exact .ok h
  | @cons a a' _ _ ha _ ih =>
    have hcolumn := SourcePlan.selectedColumn_recased hs hp (Aggregation.mk.inj ha).1
    unfold addAll
    generalize p.selectedColumn s a.column = x at hcolumn ⊢
    generalize p'.selectedColumn s a'.column = y at hcolumn ⊢
    cases hcolumn with
    | ok hcolumn => exact ih (add_recased h s.options ha hcolumn)
    | error e e' => exact .error e e'

/-- **Requests that differ in the case of references alone have outputs that differ in the case of
their names and columns alone.** -/
theorem ofRequest_recased (hs : s.IgnoresCase) {r r' : Request} (h : r.Recased r')
    {p p' : SourcePlan} (hp : p.folded = p'.folded) :
    OutcomesAlike (InvImage Eq folded) (ofRequest s r p) (ofRequest s r' p') :=
  addAll_recased hs hp h.aggregations rfl

end AggregateIndex

end ReportSql
