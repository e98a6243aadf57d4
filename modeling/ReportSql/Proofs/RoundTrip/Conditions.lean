import Mathlib.Data.String.Basic
import ReportSql.Proofs.RoundTrip.Numbers

/-!
# Conditions that are written and read

The value of a condition is given its shape when the condition is built: blanks are left out, texts
are cut into lists, large whole numbers become floating-point numbers.  Written and read once more,
it has its shape already and stays as it is.

## Main definitions

* `FilterValue.input?` — the value that a condition is built from when it is read back.
* `Condition.IsStable` — a condition that is built from its own parts.

## Main statements

* `shapeValue_input?` — a value with a shape is given that shape.
* `Condition.isStable_of_build` — a condition that was built is stable.
* `Condition.IsStable.readsBack` — a stable condition is read back.
-/

namespace ReportSql

/-! ## Shapes -/

namespace FilterValue

/-- A value whose scalars can be written. -/
def IsWritable : FilterValue → Prop
  | .absent => True
  | .scalar s => s.IsWritable
  | .range low high => (∀ s ∈ low, s.IsWritable) ∧ ∀ s ∈ high, s.IsWritable
  | .list items => ∀ s ∈ items, s.IsWritable

/-- The value that a condition is built from when it is read back. -/
def input? : FilterValue → Option Json
  | .absent => none
  | v => some v.toJson

theorem sorted_toJson (v : FilterValue) : v.toJson.sorted = v.toJson := by
  have hoption : ∀ s : Option Scalar,
      (Json.ofOption Scalar.toJson s).sorted = Json.ofOption Scalar.toJson s := by
    intro s
    cases s with
    | none => exact Json.sorted_null
    | some s => exact s.sorted_toJson
  cases v with
  | absent => exact Json.sorted_null
  | scalar s => exact s.sorted_toJson
  | range low high => simp [toJson, hoption]
  | list items => simp [toJson, Json.ofList, Scalar.sorted_toJson]

/-- Only an absent value is written as `null`. -/
theorem IsWritable.toJson_ne_null {v : FilterValue} (h : v.IsWritable) (hv : v ≠ .absent) :
    v.toJson ≠ .null := by
  cases v with
  | absent => contradiction
  | scalar s => exact Scalar.toJson_ne_null h
  | range low high => simp [toJson]
  | list items => simp [toJson, Json.ofList]

/-- The value of a condition as it is read back. -/
theorem IsWritable.readOptional_document {v : FilterValue} (h : v.IsWritable) :
    readOptional readAny v.toJson.document = .ok v.input? := by
  by_cases hv : v = .absent
  · rw [hv, toJson, Json.document]
    rfl
  · have hinput : v.input? = some v.toJson := by
      cases v with
      | absent => contradiction
      | _ => rfl
    rw [hinput]
    refine readOptional_of_ne_null (mt Json.eq_null_of_document (h.toJson_ne_null hv)) ?_
    rw [Json.readAny_document, v.sorted_toJson]

end FilterValue

section Shapes

variable {column : String} {operator : Operator} {value : Json} {v : FilterValue}

/-- A bound of a range has its shape. -/
theorem rangeBound_toJson {bound : Option Scalar} (hvalue : value.IsHeld)
    (h : rangeBound column value = .ok bound) :
    (∀ s ∈ bound, s.IsWritable) ∧
      rangeBound column (.ofOption Scalar.toJson bound) = .ok bound := by
  unfold rangeBound at h
  split at h
  · next given hgiven =>
    cases h
    cases given with
    | none => exact ⟨by simp, rfl⟩
    | some s =>
      have hs := Scalar.isWritable_of_ofJson? hvalue hgiven
      cases hblank : s.isBlank with
      | true => simp [Option.filter, hblank, rangeBound, Json.ofOption, Scalar.ofJson?]
      | false =>
        simp [Option.filter, hblank, rangeBound, Json.ofOption, Scalar.ofJson?_toJson hs, hs]
  · cases h

theorem shapeRange_toJson (hvalue : value.IsHeld) (h : shapeRange column value = .ok v) :
    ∃ low high, v = .range low high ∧ v.IsWritable ∧ shapeRange column v.toJson = .ok v := by
  unfold shapeRange at h
  split at h
  · next low high =>
    rw [Json.isHeld_array] at hvalue
    cases hlow : rangeBound column low with
    | error e => rw [hlow] at h; cases h
    | ok low' =>
      cases hhigh : rangeBound column high with
      | error e => rw [hlow, hhigh] at h; cases h
      | ok high' =>
        rw [hlow, hhigh] at h
        cases h
        obtain ⟨hwritable, hfixed⟩ := rangeBound_toJson (hvalue low (by simp)) hlow
        obtain ⟨hwritable', hfixed'⟩ := rangeBound_toJson (hvalue high (by simp)) hhigh
        refine ⟨low', high', rfl, ⟨hwritable, hwritable'⟩, ?_⟩
        rw [FilterValue.toJson, shapeRange, hfixed, hfixed']
        rfl
  · cases h

/-- The items of an array are writable. -/
theorem isWritable_of_arrayItems {values : List Json} {items : List Scalar}
    (hvalues : ∀ v ∈ values, v.IsHeld) (h : arrayItems column values = .ok items) :
    ∀ s ∈ items, s.IsWritable := by
  induction values generalizing items with
  | nil =>
    cases h
    simp
  | cons value values ih =>
    obtain ⟨hvalue, hrest⟩ := List.forall_mem_cons.1 hvalues
    rw [arrayItems] at h
    split at h
    · next s hs =>
      cases hitems : arrayItems column values with
      | error e =>
        rw [hitems] at h
        cases h
      | ok rest =>
        rw [hitems] at h
        cases h
        exact List.forall_mem_cons.2 ⟨Scalar.isWritable_of_ofJson? hvalue hs, ih hrest hitems⟩
    · exact ih hrest h
    · cases h

theorem arrayItems_map_toJson {items : List Scalar} (h : ∀ s ∈ items, s.IsWritable) :
    arrayItems column (items.map Scalar.toJson) = .ok items := by
  induction items with
  | nil => rfl
  | cons s items ih =>
    obtain ⟨hs, hitems⟩ := List.forall_mem_cons.1 h
    rw [List.map_cons, arrayItems, Scalar.ofJson?_toJson hs, ih hitems]
    rfl

theorem shapeList_toJson (hvalue : value.IsHeld) (h : shapeList column value = .ok v) :
    ∃ items, v = .list items ∧ v.IsWritable ∧ shapeList column v.toJson = .ok v := by
  obtain ⟨items, rfl, hitems⟩ : ∃ items, v = .list items ∧ ∀ s ∈ items, s.IsWritable := by
    unfold shapeList at h
    split at h
    · next values =>
      cases hitems : arrayItems column values with
      | error e =>
        rw [hitems] at h
        cases h
      | ok items =>
        rw [hitems] at h
        cases h
        exact ⟨items, rfl, isWritable_of_arrayItems (Json.isHeld_array.1 hvalue) hitems⟩
    · cases h
      refine ⟨_, rfl, fun s hs => ?_⟩
      -- the items of a list in one text are texts
      obtain ⟨run, -, rfl⟩ := List.mem_map.1 hs
      trivial
    · split at h
      · next s hs =>
        cases h
        exact ⟨[s], rfl, by simpa using Scalar.isWritable_of_ofJson? hvalue hs⟩
      · cases h
  refine ⟨items, rfl, hitems, ?_⟩
  rw [FilterValue.toJson, Json.ofList, shapeList, arrayItems_map_toJson hitems]
  rfl

theorem shapeScalar_toJson (hvalue : value.IsHeld) (hgiven : isLeftOut (some value) = false)
    (h : shapeScalar column operator value = .ok v) :
    ∃ s, v = .scalar s ∧ v.IsWritable ∧ isLeftOut (some v.toJson) = false ∧
      shapeScalar column operator v.toJson = .ok v := by
  unfold shapeScalar at h
  split at h
  · next s hs =>
    cases h
    have hwritable := Scalar.isWritable_of_ofJson? hvalue hs
    refine ⟨s, rfl, hwritable, ?_, ?_⟩
    · cases s with
      | text t =>
        -- a text is given as it is
        cases value with
        | text t' =>
          cases hs
          exact hgiven
        | number n => cases n <;> cases hs
        | _ => cases hs
      | float x =>
        have hfinite : x.isFinite = true := hwritable
        rw [FilterValue.toJson, Scalar.toJson, Scalar.doubleJson, if_pos hfinite]
        rfl
      | _ => rfl
    · rw [FilterValue.toJson, shapeScalar, Scalar.ofJson?_toJson hwritable]
  · next hs =>
    -- only `null` has no scalar, and it is left out
    cases value <;> cases hs
    cases hgiven
  · cases h

/-- **A value with a shape is given that shape.** -/
theorem shapeValue_input? {value : Option Json} (hvalue : ∀ w ∈ value, w.IsHeld)
    (h : shapeValue column operator value = .ok v) :
    v.IsWritable ∧ shapeValue column operator v.input? = .ok v := by
  have habsent : FilterValue.absent.IsWritable ∧
      shapeValue column operator FilterValue.absent.input? = .ok .absent := ⟨trivial, rfl⟩
  cases hleft : isLeftOut value with
  | true =>
    unfold shapeValue at h
    rw [if_pos hleft] at h
    cases h
    exact habsent
  | false =>
    unfold shapeValue at h
    rw [if_neg (Bool.eq_false_iff.1 hleft)] at h
    cases value with
    | none => cases hleft
    | some w =>
      have hw := hvalue w rfl
      dsimp only at h
      split at h
      · obtain ⟨low, high, rfl, hwritable, hfixed⟩ := shapeRange_toJson hw h
        exact ⟨hwritable, hfixed⟩
      · obtain ⟨items, rfl, hwritable, hfixed⟩ := shapeList_toJson hw h
        exact ⟨hwritable, hfixed⟩
      · obtain ⟨items, rfl, hwritable, hfixed⟩ := shapeList_toJson hw h
        exact ⟨hwritable, hfixed⟩
      · next hbetween hamong hnotAmong =>
        obtain ⟨s, rfl, hwritable, hgiven, hfixed⟩ := shapeScalar_toJson hw hleft h
        refine ⟨hwritable, ?_⟩
        change shapeValue column operator (some (FilterValue.scalar s).toJson) = _
        unfold shapeValue
        rw [if_neg (Bool.eq_false_iff.1 hgiven)]
        dsimp only
        split <;> first | contradiction | exact hfixed

end Shapes

/-! ## Conditions -/

namespace Condition

/-- A condition whose value can be written and which is built from its own parts. -/
structure IsStable (c : Condition) : Prop where
  isWritable : c.value.IsWritable
  build : Condition.build c.column c.datatype c.operator c.value.input? = .ok c

/-- **A condition that was built is stable.** -/
theorem isStable_of_build {column : String} {datatype : Datatype} {operator : Operator}
    {value : Option Json} {c : Condition} (hvalue : ∀ v ∈ value, v.IsHeld)
    (h : Condition.build column datatype operator value = .ok c) : c.IsStable := by
  unfold Condition.build at h
  split at h
  · next hallows =>
    split at h
    · next hunary =>
      cases h
      exact ⟨trivial, by rw [Condition.build, if_pos hallows, if_pos hunary]⟩
    · next hunary =>
      obtain ⟨v, hv, rfl⟩ : ∃ v, shapeValue column operator value = .ok v ∧
          ⟨column, datatype, operator, v⟩ = c := by
        cases hshape : shapeValue column operator value with
        | error e =>
          rw [hshape] at h
          cases h
        | ok v =>
          rw [hshape] at h
          cases h
          exact ⟨v, rfl, rfl⟩
      obtain ⟨hwritable, hfixed⟩ := shapeValue_input? hvalue hv
      exact ⟨hwritable, by rw [Condition.build, if_pos hallows, if_neg hunary, hfixed]; rfl⟩
  · cases h

/-- A condition that is read is stable. -/
theorem isStable_of_read {origin : Origin} {d : Document} {c : Condition} (hd : d.IsHeld)
    (h : Condition.read origin d = .ok c) : c.IsStable := by
  obtain ⟨parts, hparts, h⟩ := exists_of_bind h
  have hvalue : ∀ v ∈ parts.value, v.IsHeld := by
    refine of_readRecord (P := fun p : ConditionParts => ∀ v ∈ p.value, v.IsHeld)
      (Q := Document.IsHeld) (by simp) ?_ (fun child => hd.of_mem_children) hparts
    intro f hf d p p' hd hp hput
    simp only [ConditionParts.fields, List.mem_cons, List.not_mem_nil, or_false] at hf
    rcases hf with rfl | rfl | rfl | rfl
    case inr.inr.inr =>
      obtain ⟨value, hread, rfl⟩ := exists_of_map hput
      rintro v rfl
      exact hd.of_value? (value?_of_readAny (eq_ok_of_readOptional hread))
    -- the other fields leave the value as it is
    all_goals
      obtain ⟨_, -, rfl⟩ := exists_of_map hput
      exact hp
  unfold ConditionParts.build at h
  split at h
  · next hbuild =>
    cases h
    exact isStable_of_build hvalue hbuild
  · cases h

/-- The parts of a condition are written in the order of their names. -/
theorem sorted_toJson (c : Condition) : c.toJson.sorted = c.toJson := by
  have hascending : Ascending [("column", Json.text c.column), ("datatype", .text c.datatype.name),
      ("operator", .text c.operator.name), ("value", c.value.toJson)] := by
    -- `String.lt_iff_ltb` would hide the order of two names from evaluation
    simp [Ascending, -String.lt_iff_ltb]
  rw [toJson, Json.sorted_object_of_ascending hascending]
  simp [FilterValue.sorted_toJson]

/-- **A stable condition is read back.** -/
theorem IsStable.readsBack {c : Condition} (h : c.IsStable) (origin : Origin) :
    ReadsBack (Condition.read origin) c.toJson c := by
  refine readsBack_of_sorted c.sorted_toJson ?_
  have hcolumn := (readsBack_text c.column).1
  have hdatatype : readChoice origin Datatype.choices (Json.text c.datatype.name).document =
      .ok c.datatype := (readsBack_choice c.datatype.lookup_choices).1
  have hoperator : readChoice origin Operator.choices (Json.text c.operator.name).document =
      .ok c.operator := (readsBack_choice c.operator.lookup_choices).1
  have hvalue := h.isWritable.readOptional_document
  have hparts : readRecord "RawFilterCondition" (ConditionParts.fields origin) {}
      c.toJson.document = .ok ⟨c.column, c.datatype, c.operator, c.value.input?⟩ := by
    simp [toJson, readRecord_object, readFields, ConditionParts.fields, RecordField.of,
      RecordField.answersTo, hcolumn, hdatatype, hoperator, hvalue, ok_map, ok_bind]
  rw [Condition.read, hparts]
  change ConditionParts.build _ = _
  rw [ConditionParts.build, h.build]

end Condition

end ReportSql
