import ReportSql.Proofs.Scoping.Names
import ReportSql.Proofs.Text.Ends
import ReportSql.Proofs.Token.Lexer

/-!
# Names of outputs

The output of an aggregation is named after it.  The name is made safe outside quotes and cut to a
length, which may make it the name of an output before it; then it gets a number, for which the cut
name is cut again.  Numbers differ after the last underscore however much was cut before it, so one
of as many numbers as there are outputs is always free.

## Main definitions

* `IsOutputName` — a text that is safe outside quotes, not empty and no longer than a limit.
* `AggregateOutput.BelongsTo` — an output is that of an aggregation, beside the names before it.
* `AggregateIndex.WellNamed` — the outputs of aggregations, one for each, with names that are
  distinct, safe and bounded.

## Main statements

* `isFirstFree_outputName` — the search for the name of an output ends with the first free one.
* `AggregateIndex.ofRequest_induction` — what survives every aggregation holds of the outputs of a
  request.
* `AggregateIndex.wellNamed_or_unresolved` — outputs are well named unless a column is not found.
-/

namespace ReportSql

open Text

/-! ## Safe names -/

/-- A text of at least one and at most `length` letters, digits and underscores. -/
structure IsOutputName (length : Nat) (s : String) : Prop where
  ne_empty : s ≠ ""
  isNameText : IsNameText s
  length_le : s.length ≤ length

theorem isNameText_sanitizeAlias {fallback : String} (h : IsNameText fallback) (name : String)
    (length : Nat) : IsNameText (sanitizeAlias name length fallback) := by
  unfold sanitizeAlias
  dsimp only
  split
  · exact h
  · intro c hc
    rw [String.toList_ofList] at hc
    exact isNameChar_of_mem_nameChars (mem_of_mem_strip (List.mem_of_mem_take hc))

/-- A name made safe is an output name if the fallback is one. -/
theorem isOutputName_sanitizeAlias {length : Nat} {fallback : String}
    (h : IsOutputName length fallback) (name : String) :
    IsOutputName length (sanitizeAlias name length fallback) := by
  have htext := isNameText_sanitizeAlias h.isNameText name length
  unfold sanitizeAlias at htext ⊢
  dsimp only at htext ⊢
  split
  · exact h
  · next hkept =>
    rw [if_neg hkept] at htext
    refine ⟨fun hempty => hkept (by simpa using hempty), htext, ?_⟩
    rw [String.length_ofList]
    exact List.length_take_le _ _

/-- A base with a number at its end, cut so that the two fit a length. -/
def clippedName (length : Nat) (base : String) (n : Nat) : String :=
  numberedName (String.ofList (base.toList.take (length - ("_" ++ n.repr).length))) n

theorem IsNameText.clippedName {base : String} (h : IsNameText base) (length n : Nat) :
    IsNameText (clippedName length base n) := by
  refine IsNameText.numberedName (fun c hc => ?_) n
  rw [String.toList_ofList] at hc
  exact h c (List.mem_of_mem_take hc)

/-- A base that is an output name stays one with a number that leaves room for an underscore. -/
theorem isOutputName_clippedName {length n : Nat} {base : String} (h : IsOutputName length base)
    (hdigits : n.repr.length < length) : IsOutputName length (clippedName length base n) := by
  have hlength : (clippedName length base n).length =
      min (length - (1 + n.repr.length)) base.length + (1 + n.repr.length) := by
    have hunderscore : ("_" : String).length = 1 := rfl
    simp [clippedName, numberedName, hunderscore, Nat.add_assoc, String.length_toList]
  refine ⟨fun hempty => ?_, h.isNameText.clippedName length n, by omega⟩
  rw [hempty, String.length_empty] at hlength
  omega

/-- Candidates with different numbers differ however much was cut. -/
theorem clippedName_inj {length m n : Nat} {base : String}
    (h : upper (clippedName length base m) = upper (clippedName length base n)) : m = n := by
  rw [clippedName, clippedName, upper_numberedName, upper_numberedName] at h
  exact (append_number_inj h).2

/-! ## The name of an output -/

/-- What an output is named after: the name that was asked for, made safe and cut. -/
def Aggregation.baseName (options : Options) (a : Aggregation) : String :=
  sanitizeAlias a.requestedName options.maxNameLength options.fallbackName

/-- **The search for the name of an output ends with the first free one.** -/
theorem isFirstFree_outputName (options : Options) (used : List String) (a : Aggregation) :
    IsFirstFree used (a.baseName options) (clippedName options.maxNameLength (a.baseName options))
      (AggregateIndex.outputName options used a.requestedName) := by
  have hcandidates : AggregateIndex.outputName options used a.requestedName =
      freshName used (a.baseName options)
        (clippedName options.maxNameLength (a.baseName options)) := by
    unfold AggregateIndex.outputName clippedName numberedName
    simp only [String.append_assoc]
    rfl
  rw [hcandidates]
  exact isFirstFree_freshName fun m n => clippedName_inj

/-- The first free name is an output name if there are fewer used names than the numbers that leave
room for an underscore. -/
theorem IsFirstFree.isOutputName {length : Nat} {used : List String} {base name : String}
    (h : IsFirstFree used base (clippedName length base) name) (hbase : IsOutputName length base)
    {count : Nat} (hcount : used.length < count) (hdigits : count.repr.length < length) :
    IsOutputName length name := by
  rcases h.eq_base_or fun m n => clippedName_inj with rfl | ⟨n, -, hle, rfl⟩
  · exact hbase
  · have hpos : 0 < count.repr.length := Nat.length_repr_pos
    have hbound : count < 10 ^ count.repr.length := (Nat.length_repr_le_iff hpos).1 (Nat.le_refl _)
    have hshort : n.repr.length ≤ count.repr.length :=
      (Nat.length_repr_le_iff hpos).2 (by omega)
    exact isOutputName_clippedName hbase (by omega)

/-- Names between quotes agree when they agree in upper case. -/
theorem quotePart_inj {a b : String} : quotePart a = quotePart b ↔ upper a = upper b := by
  refine ⟨fun h => ?_, fun h => by rw [quotePart, h, quotePart]⟩
  have htokens := (lexes_quotePart a).tokensOf_eq
  rw [h, (lexes_quotePart b).tokensOf_eq] at htokens
  simpa using htokens.symm

/-! ## Outputs of aggregations -/

/-- An output is that of an aggregation: it has its function and its column, and the first name that
is free beside those used. -/
structure AggregateOutput.BelongsTo (o : AggregateOutput) (settings : Settings) (p : SourcePlan)
    (used : List String) (a : Aggregation) : Prop where
  function_eq : o.function = a.function
  column_eq : p.columnRef? settings a.column = some o.column
  named : IsFirstFree used (a.baseName settings.options)
    (clippedName settings.options.maxNameLength (a.baseName settings.options)) o.name

namespace AggregateIndex

variable {settings : Settings} {p : SourcePlan} {index index' : AggregateIndex}
  {as : List Aggregation} {r : Request}

/-- The upper-cased names of the outputs before a position. -/
def namesBefore (index : AggregateIndex) (position : Nat) : List String :=
  (index.outputs.take position).map fun o => upper o.name

/-- What survives every aggregation survives some aggregations in order. -/
theorem addAll_induction {motive : List Aggregation → AggregateIndex → Prop}
    (step : ∀ done index a column, p.columnRef? settings a.column = some column →
      motive done index → motive (done ++ [a]) (index.add settings.options a column))
    {done : List Aggregation} (start : motive done index)
    (h : addAll settings p index as = .ok index') : motive (done ++ as) index' := by
  induction as generalizing done index with
  | nil =>
    cases h
    simpa using start
  | cons a rest ih =>
    unfold addAll SourcePlan.selectedColumn at h
    cases hcolumn : p.columnRef? settings a.column with
    | none =>
      rw [hcolumn] at h
      cases h
    | some column =>
      rw [hcolumn] at h
      simpa using ih (step done index a column hcolumn start) h

/-- What holds of no outputs and survives every aggregation holds of the outputs of a request. -/
theorem ofRequest_induction {motive : List Aggregation → AggregateIndex → Prop}
    (start : motive [] {})
    (step : ∀ done index a column, p.columnRef? settings a.column = some column →
      motive done index → motive (done ++ [a]) (index.add settings.options a column))
    (h : ofRequest settings r p = .ok index) : motive r.aggregations index :=
  addAll_induction step start h

/-- Adding aggregations fails at a column that is not found, and at nothing else. -/
theorem addAll_eq_ok_or (settings : Settings) (p : SourcePlan) (index : AggregateIndex)
    (as : List Aggregation) :
    (∃ index', addAll settings p index as = .ok index') ∨
      ∃ a ∈ as, p.columnRef? settings a.column = none ∧
        addAll settings p index as = .error (.unresolvedColumn a.column) := by
  induction as generalizing index with
  | nil => exact .inl ⟨index, rfl⟩
  | cons a rest ih =>
    unfold addAll SourcePlan.selectedColumn
    cases hcolumn : p.columnRef? settings a.column with
    | none => exact .inr ⟨a, by simp, hcolumn, rfl⟩
    | some column =>
      exact (ih (index.add settings.options a column)).imp_right fun ⟨a', ha', h⟩ =>
        ⟨a', List.mem_cons_of_mem a ha', h⟩

/-- The outputs of aggregations, in order. -/
structure OutputsOf (index : AggregateIndex) (settings : Settings) (p : SourcePlan)
    (as : List Aggregation) : Prop where
  length_eq : index.outputs.length = as.length
  belongs : ∀ (i : Nat) (a : Aggregation) (o : AggregateOutput), as[i]? = some a →
    index.outputs[i]? = some o → o.BelongsTo settings p (index.namesBefore i) a

/-- One aggregation more has the next output. -/
theorem OutputsOf.add (h : index.OutputsOf settings p as) {a : Aggregation} {column : ColumnRef}
    (hcolumn : p.columnRef? settings a.column = some column) :
    (index.add settings.options a column).OutputsOf settings p (as ++ [a]) := by
  refine ⟨by simp [AggregateIndex.add, h.length_eq], fun i a' o ha ho => ?_⟩
  rcases Nat.lt_trichotomy i as.length with hlt | rfl | hgt
  · have hlt' : i < index.outputs.length := h.length_eq ▸ hlt
    have hbefore : (index.add settings.options a column).namesBefore i = index.namesBefore i := by
      simp [AggregateIndex.add, namesBefore, List.take_append_of_le_length (Nat.le_of_lt hlt')]
    rw [List.getElem?_append_left hlt] at ha
    rw [AggregateIndex.add, List.getElem?_append_left hlt'] at ho
    rw [hbefore]
    exact h.belongs i a' o ha ho
  · rw [List.getElem?_concat_length, Option.some_inj] at ha
    subst ha
    rw [← h.length_eq] at ho ⊢
    rw [AggregateIndex.add, List.getElem?_concat_length, Option.some_inj] at ho
    subst ho
    have hbefore : (index.add settings.options a column).namesBefore index.outputs.length =
        index.outputs.map fun o => upper o.name := by
      simp [AggregateIndex.add, namesBefore]
    rw [hbefore]
    exact ⟨rfl, hcolumn, isFirstFree_outputName _ _ a⟩
  · rw [List.getElem?_eq_none (by simpa using Nat.succ_le_of_lt hgt)] at ha
    cases ha

/-- The outputs of a request are those of its aggregations. -/
theorem outputsOf_of_ofRequest (h : ofRequest settings r p = .ok index) :
    index.OutputsOf settings p r.aggregations :=
  ofRequest_induction (motive := fun done index => index.OutputsOf settings p done)
    ⟨rfl, fun _ _ _ ha _ => by cases ha⟩ (fun _ _ _ _ hcolumn hdone => hdone.add hcolumn) h

namespace OutputsOf

/-- The output at a position is that of the aggregation there. -/
theorem exists_belongs (h : index.OutputsOf settings p as) {i : Nat} {o : AggregateOutput}
    (ho : index.outputs[i]? = some o) :
    ∃ a, as[i]? = some a ∧ o.BelongsTo settings p (index.namesBefore i) a := by
  have hlt : i < as.length := h.length_eq ▸ (List.getElem?_eq_some_iff.1 ho).1
  have ha := List.getElem?_eq_getElem hlt
  exact ⟨as[i], ha, h.belongs i _ o ha ho⟩

/-- No two outputs have one name in upper case. -/
theorem nodup_upper (h : index.OutputsOf settings p as) :
    (index.outputs.map fun o => upper o.name).Nodup := by
  rw [List.Nodup, List.pairwise_map, List.pairwise_iff_getElem]
  intro i j hi hj hij heq
  obtain ⟨a, -, hbelongs⟩ := h.exists_belongs (List.getElem?_eq_getElem hj)
  refine hbelongs.named.free (List.mem_map.2 ⟨index.outputs[i], ?_, heq⟩)
  exact List.mem_take_iff_getElem.2 ⟨i, by omega, rfl⟩

/-- No two outputs have one name between quotes. -/
theorem nodup_quotePart (h : index.OutputsOf settings p as) :
    (index.outputs.map fun o => quotePart o.name).Nodup := by
  have hupper := h.nodup_upper
  rw [List.Nodup, List.pairwise_map] at hupper ⊢
  exact hupper.imp fun hne heq => hne (quotePart_inj.1 heq)

/-- Outputs have safe names of limited length if the fallback is one and if the limit leaves room
for the number of outputs. -/
theorem isOutputName (h : index.OutputsOf settings p as)
    (hfallback : IsOutputName settings.options.maxNameLength settings.options.fallbackName)
    (hdigits : as.length.repr.length < settings.options.maxNameLength) {o : AggregateOutput}
    (ho : o ∈ index.outputs) : IsOutputName settings.options.maxNameLength o.name := by
  obtain ⟨i, hi⟩ := List.mem_iff_getElem?.1 ho
  obtain ⟨a, ha, hbelongs⟩ := h.exists_belongs hi
  have hcount : (index.namesBefore i).length < as.length := by
    have hlt := (List.getElem?_eq_some_iff.1 ha).1
    simp only [namesBefore, List.length_map, List.length_take]
    omega
  exact hbelongs.named.isOutputName (isOutputName_sanitizeAlias hfallback _) hcount hdigits

end OutputsOf

/-- The outputs of aggregations are well named: no two agree in any case or between quotes, and all
names are safe and bounded when the fallback is and when numbers fit the bound. -/
structure WellNamed (index : AggregateIndex) (options : Options) : Prop where
  distinct : (index.outputs.map fun o => upper o.name).Nodup
  distinct_quoted : (index.outputs.map fun o => quotePart o.name).Nodup
  bounded : IsOutputName options.maxNameLength options.fallbackName →
    index.outputs.length.repr.length < options.maxNameLength →
    ∀ o ∈ index.outputs, IsOutputName options.maxNameLength o.name

/-- **The aggregations of a request have well named outputs, one for each**, unless the column of
one is not found. -/
theorem wellNamed_or_unresolved (settings : Settings) (r : Request) (p : SourcePlan) :
    (∃ index, ofRequest settings r p = .ok index ∧
      index.OutputsOf settings p r.aggregations ∧ index.WellNamed settings.options) ∨
    ∃ a ∈ r.aggregations, p.columnRef? settings a.column = none ∧
      ofRequest settings r p = .error (.unresolvedColumn a.column) := by
  refine (addAll_eq_ok_or settings p {} r.aggregations).imp_left fun ⟨index, hindex⟩ => ?_
  have houtputs := outputsOf_of_ofRequest hindex
  refine ⟨index, hindex, houtputs, houtputs.nodup_upper, houtputs.nodup_quotePart, ?_⟩
  intro hfallback hdigits o ho
  exact houtputs.isOutputName hfallback (houtputs.length_eq ▸ hdigits) ho

end AggregateIndex

/-! ## Clashing names -/

/-- Settings under which names are short. -/
def terseSettings : Settings :=
  .ofCatalogs { maxNameLength := 6, fallbackName := "metric" } .empty .empty

/-- A request that asks for names that agree once they are cut, for the one that tells them apart,
and for one without a usable character. -/
def clashingTotals : Request where
  dataset := "EMP"
  aggregations? := some [⟨"SALARY", .sum, some "net total"⟩, ⟨"BONUS", .sum, some "Net-tone"⟩,
    ⟨"SALARY", .max, some "net__1"⟩, ⟨"GRADE", .min, some "(€)"⟩]

/-- A name that was cut for a number can be the one that the next aggregation asks for. -/
theorem isOutputName_clashingTotals :
    ∃ index, AggregateIndex.ofRequest terseSettings clashingTotals (.ofBase "EMP") = .ok index ∧
      index.outputs.map AggregateOutput.name = ["net_to", "Net__1", "net__2", "metric"] ∧
      IsOutputName 6 "metric" ∧ index.outputs.length.repr.length < 6 ∧
      ∀ o ∈ index.outputs, IsOutputName 6 o.name := by
  have hfallback : IsOutputName 6 "metric" := ⟨by decide, by decide, by decide⟩
  rcases AggregateIndex.wellNamed_or_unresolved terseSettings clashingTotals (.ofBase "EMP") with
    ⟨index, hindex, houtputs, hnamed⟩ | ⟨a, ha, hnone, -⟩
  · have hnames :
        (AggregateIndex.ofRequest terseSettings clashingTotals (.ofBase "EMP")).toOption.map
          (fun index => index.outputs.map AggregateOutput.name) =
            some ["net_to", "Net__1", "net__2", "metric"] := by
      decide +kernel
    rw [hindex] at hnames
    have hdigits : index.outputs.length.repr.length < 6 := by
      rw [houtputs.length_eq]
      decide
    exact ⟨index, hindex, Option.some_inj.1 hnames, hfallback, hdigits,
      hnamed.bounded hfallback hdigits⟩
  · have hall : ∀ a ∈ clashingTotals.aggregations,
        (SourcePlan.ofBase "EMP").columnRef? terseSettings a.column ≠ none := by decide +kernel
    exact absurd hnone (hall a ha)

end ReportSql
