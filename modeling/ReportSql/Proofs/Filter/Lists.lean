import ReportSql.Filter.Condition
import ReportSql.Proofs.Text.Ends
import ReportSql.Proofs.Text.Segments

/-!
# Lists of filters

The list of a membership test may be given as one text, as an array or as a single scalar.  A text
is cut at its separators, and what it is cut into loses the blanks around it, or is left out if it
is nothing but blanks.  The items of an array are taken as they stand.

## Main definitions

* `Text.IsTrimmed` — a text that is not empty and has no blanks at its ends.
* `Condition.IsNormalised` — the texts of a condition's list are all trimmed.
* `Text.joined` — texts with a character between each two of them.

## Main statements

* `isTrimmed_of_listItems` — the items of a text are trimmed.
* `listItems_joined` — trimmed texts that were joined by separators are found again.
* `Condition.isNormalised_iff` — when lists are normalised, and that the two ways to give one agree.
-/

namespace ReportSql

/-! ## Trimmed texts -/

namespace Text

/-- A text that is not empty and has no blanks at its ends. -/
structure IsTrimmed (s : String) : Prop where
  nonempty : s.toList ≠ []
  leading : ∀ c ∈ s.toList.head?, isBlank c = false
  trailing : ∀ c ∈ s.toList.getLast?, isBlank c = false

theorem isTrimmed_iff {s : String} : IsTrimmed s ↔ s.toList ≠ [] ∧ trim s = s := by
  rw [← String.toList_inj, toList_trim, strip_eq_self_iff]
  exact ⟨fun h => ⟨h.nonempty, h.leading, h.trailing⟩, fun h => ⟨h.1, h.2.1, h.2.2⟩⟩

/-- Texts with a character between each two of them. -/
def joined (first : String) (rest : List (Char × String)) : String :=
  String.ofList (first.toList ++ rest.flatMap fun item => item.1 :: item.2.toList)

end Text

open Text

/-! ## Lists in one text -/

/-- The items of a text are trimmed. -/
theorem isTrimmed_of_listItems {s item : String} (h : Scalar.text item ∈ listItems s) :
    IsTrimmed item := by
  obtain ⟨run, hrun, hitem⟩ := List.mem_map.1 h
  obtain rfl := Scalar.text.inj hitem
  obtain ⟨hmem, hnonempty⟩ := List.mem_filter.1 hrun
  obtain ⟨part, -, rfl⟩ := List.mem_map.1 hmem
  rw [isTrimmed_iff, ← String.toList_inj, toList_trim, String.toList_ofList, strip_strip]
  exact ⟨by simpa using hnonempty, rfl⟩

/-- Texts without separators are the runs between those that join them. -/
theorem splitWhere_joined {p : Char → Bool} {first : String} {rest : List (Char × String)}
    (hfirst : ∀ c ∈ first.toList, p c = false)
    (hrest : ∀ item ∈ rest, p item.1 = true ∧ ∀ c ∈ item.2.toList, p c = false) :
    splitWhere p (joined first rest).toList =
      first.toList :: rest.map fun item => item.2.toList := by
  rw [splitWhere_eq_splitOnP, joined, String.toList_ofList]
  induction rest generalizing first with
  | nil =>
    rw [List.flatMap_nil, List.append_nil]
    exact List.splitOnP_eq_singleton hfirst
  | cons item rest ih =>
    obtain ⟨⟨hseparator, hitem⟩, hrest⟩ := List.forall_mem_cons.1 hrest
    rw [List.flatMap_cons, List.cons_append,
      List.splitOnP_append_cons_of_forall_mem hfirst _ hseparator, ih hitem hrest, List.map_cons]

/-- **Trimmed texts that were joined by separators are found again.** -/
theorem listItems_joined {first : String} {rest : List (Char × String)}
    (hitems : ∀ s ∈ first :: rest.map Prod.snd,
      IsTrimmed s ∧ ∀ c ∈ s.toList, isListSeparator c = false)
    (hseparators : ∀ item ∈ rest, isListSeparator item.1 = true) :
    listItems (joined first rest) = (first :: rest.map Prod.snd).map .text := by
  obtain ⟨hfirst, hrest⟩ := List.forall_mem_cons.1 hitems
  have hruns : splitWhere isListSeparator (joined first rest).toList =
      (first :: rest.map Prod.snd).map String.toList := by
    rw [splitWhere_joined hfirst.2 fun item hitem =>
      ⟨hseparators item hitem, (hrest _ (List.mem_map_of_mem hitem)).2⟩]
    simp [Function.comp_def]
  have hstrip : ∀ s ∈ first :: rest.map Prod.snd, (strip isBlank ∘ String.toList) s = s.toList :=
    fun s hs => strip_eq_self_iff.2 ⟨(hitems s hs).1.leading, (hitems s hs).1.trailing⟩
  rw [listItems, hruns, List.map_map, List.map_congr_left hstrip, List.filter_eq_self.2]
  · simp [Function.comp_def]
  · intro run hrun
    obtain ⟨s, hs, rfl⟩ := List.mem_map.1 hrun
    simpa using (hitems s hs).1.nonempty

/-! ## Lists in an array -/

/-- A result that was mapped is the image of another. -/
theorem exists_of_map_ok {ε α β : Type} {x : Except ε α} {f : α → β} {b : β}
    (h : x.map f = .ok b) : ∃ a, x = .ok a ∧ f a = b := by
  cases x with
  | error e => cases h
  | ok a =>
    cases h
    exact ⟨a, rfl, rfl⟩

theorem ofJson?_eq_text_iff {value : Json} {s : String} :
    Scalar.ofJson? value = some (some (.text s)) ↔ value = .text s := by
  cases value with
  | number n => cases n <;> simp [Scalar.ofJson?, Scalar.ofNumber]
  | _ => simp [Scalar.ofJson?]

/-- The texts of an array's list are those of the array. -/
theorem text_mem_arrayItems_iff {column : String} {values : List Json} {items : List Scalar}
    {s : String} (h : arrayItems column values = .ok items) :
    .text s ∈ items ↔ .text s ∈ values := by
  induction values generalizing items with
  | nil =>
    cases h
    simp
  | cons value values ih =>
    have hhead : Scalar.ofJson? value = some (some (.text s)) ↔ value = .text s :=
      ofJson?_eq_text_iff
    unfold arrayItems at h
    split at h
    · next given hgiven =>
      obtain ⟨items, hitems, rfl⟩ := exists_of_map_ok h
      rw [hgiven, Option.some_inj, Option.some_inj] at hhead
      rw [List.mem_cons, List.mem_cons, ih hitems, eq_comm, hhead, eq_comm]
    · next hgiven =>
      rw [hgiven] at hhead
      have hne : value ≠ .text s := fun heq => by cases hhead.2 heq
      rw [List.mem_cons, ih h, or_iff_right (Ne.symm hne)]
    · cases h

theorem arrayItems_texts (column : String) (texts : List String) :
    arrayItems column (texts.map .text) = .ok (texts.map .text) := by
  induction texts with
  | nil => rfl
  | cons s texts ih =>
    rw [List.map_cons, arrayItems, Scalar.ofJson?]
    dsimp only
    rw [ih]
    rfl

/-! ## Lists of conditions -/

namespace Condition

/-- The texts of a condition's list are all trimmed. -/
def IsNormalised (c : Condition) : Prop :=
  ∀ items, c.value = .list items → ∀ s, .text s ∈ items → IsTrimmed s

variable {column : String} {datatype : Datatype} {operator : Operator}

/-- A membership test takes its value in the shape of a list. -/
theorem build_membership (hoperator : operator = .among ∨ operator = .notAmong) {value : Json}
    (hvalue : isLeftOut (some value) = false) :
    build column datatype operator (some value) =
      (shapeList column value).map fun v => ⟨column, datatype, operator, v⟩ := by
  obtain rfl | rfl := hoperator <;>
    simp [build, Datatype.allows, Operator.isUnary, shapeValue, hvalue]

/-- A value that is left out makes no list. -/
theorem build_membership_leftOut (hoperator : operator = .among ∨ operator = .notAmong)
    {value : Option Json} (hvalue : isLeftOut value = true) :
    build column datatype operator value = .ok ⟨column, datatype, operator, .absent⟩ := by
  obtain rfl | rfl := hoperator <;>
    simp [build, Datatype.allows, Operator.isUnary, shapeValue, hvalue, Except.map]

/-- The texts of a list are trimmed unless it is made of an array with another text. -/
theorem isTrimmed_shapeList_iff {value : Json} {v : FilterValue}
    (h : shapeList column value = .ok v) :
    ∃ items, v = .list items ∧
      ((∀ s, .text s ∈ items → IsTrimmed s) ↔
        ∀ values, value = .array values → ∀ s, .text s ∈ values → IsTrimmed s) := by
  unfold shapeList at h
  split at h
  · next values =>
    obtain ⟨items, hitems, rfl⟩ := exists_of_map_ok h
    refine ⟨items, rfl, ?_⟩
    simp only [text_mem_arrayItems_iff hitems, Json.array.injEq, forall_eq']
  · cases h
    exact ⟨_, rfl, iff_of_true (fun s => isTrimmed_of_listItems) fun _ heq => by cases heq⟩
  · next harray htext =>
    split at h
    · next given hgiven =>
      cases h
      refine ⟨_, rfl, iff_of_true (fun s hs => ?_) fun values heq => absurd heq (harray values)⟩
      rw [List.mem_singleton] at hs
      rw [← hs] at hgiven
      exact absurd (ofJson?_eq_text_iff.1 hgiven) (htext s)
    · cases h

/-- A membership test that was built has only trimmed texts unless it was built of an array with
another one. -/
theorem isNormalised_build_iff (hoperator : operator = .among ∨ operator = .notAmong)
    {value : Option Json} {c : Condition}
    (hbuild : build column datatype operator value = .ok c) :
    c.IsNormalised ↔
      ∀ values, value = some (.array values) → ∀ s, .text s ∈ values → IsTrimmed s := by
  cases hleft : isLeftOut value with
  | true =>
    rw [build_membership_leftOut hoperator hleft] at hbuild
    cases hbuild
    refine iff_of_true (fun items heq => by cases heq) ?_
    rintro values rfl
    cases hleft
  | false =>
    cases value with
    | none => cases hleft
    | some value =>
      rw [build_membership hoperator hleft] at hbuild
      obtain ⟨v, hshape, rfl⟩ := exists_of_map_ok hbuild
      obtain ⟨items, rfl, htexts⟩ := isTrimmed_shapeList_iff hshape
      simpa [IsNormalised] using htexts

/-- **When lists are normalised.**  The list of a membership test has only trimmed texts if and only
if it was not made of an array with another text.  Trimmed texts without separators make the same
condition in an array and joined by separators. -/
theorem isNormalised_iff (column : String) (datatype : Datatype)
    (hoperator : operator = .among ∨ operator = .notAmong) :
    (∀ value c, build column datatype operator value = .ok c →
      (c.IsNormalised ↔
        ∀ values, value = some (.array values) → ∀ s, .text s ∈ values → IsTrimmed s)) ∧
    ∀ first rest,
      (∀ s ∈ first :: rest.map Prod.snd,
        IsTrimmed s ∧ ∀ c ∈ s.toList, isListSeparator c = false) →
      (∀ item ∈ rest, isListSeparator item.1 = true) →
      build column datatype operator (some (.array ((first :: rest.map Prod.snd).map .text))) =
        .ok ⟨column, datatype, operator, .list ((first :: rest.map Prod.snd).map .text)⟩ ∧
      build column datatype operator (some (.text (joined first rest))) =
        .ok ⟨column, datatype, operator, .list ((first :: rest.map Prod.snd).map .text)⟩ := by
  refine ⟨fun _ _ => isNormalised_build_iff hoperator,
    fun first rest hitems hseparators => ⟨?_, ?_⟩⟩
  · rw [build_membership hoperator rfl, shapeList, arrayItems_texts]
    rfl
  · have hne : isLeftOut (some (.text (joined first rest))) = false := by
      obtain ⟨c, cs, hcs⟩ := List.exists_cons_of_ne_nil (hitems first List.mem_cons_self).1.nonempty
      rw [isLeftOut, joined, hcs]
      simp
    rw [build_membership hoperator hne, shapeList, listItems_joined hitems hseparators]
    rfl

/-! ## Lists of regions -/

/-- Regions pasted with commas, blanks and tabs make a list of trimmed texts, and the one that their
array makes. -/
theorem isNormalised_regions :
    build "REGION" .text .among (some (.text "NA, EU\tNew York,,")) =
      .ok ⟨"REGION", .text, .among, .list [.text "NA", .text "EU", .text "New York"]⟩ ∧
    IsNormalised ⟨"REGION", .text, .among, .list [.text "NA", .text "EU", .text "New York"]⟩ ∧
    build "REGION" .text .among (some (.array [.text "NA", .text "New York"])) =
      build "REGION" .text .among (some (.text "NA\tNew York")) := by
  have hamong : Operator.among = .among ∨ Operator.among = .notAmong := .inl rfl
  have hregions := isNormalised_iff "REGION" .text hamong
  have hbuild : build "REGION" .text .among (some (.text "NA, EU\tNew York,,")) =
      .ok ⟨"REGION", .text, .among, .list [.text "NA", .text "EU", .text "New York"]⟩ := by
    decide +kernel
  have hjoined := hregions.2 "NA" [('\t', "New York")]
    (by
      intro s hs
      simp only [List.map_cons, List.map_nil, List.mem_cons, List.not_mem_nil, or_false] at hs
      rcases hs with rfl | rfl <;>
        exact ⟨⟨by simp, by simp [Text.isBlank], by simp [Text.isBlank]⟩,
          by simp [isListSeparator]⟩)
    (by decide)
  refine ⟨hbuild, (hregions.1 _ _ hbuild).2 fun values heq => ?_, hjoined.1.trans hjoined.2.symm⟩
  cases heq

/-- **A list that is not normalised.**  The items of an array keep their blanks. -/
theorem not_isNormalised_blanks :
    (build "NAME" .text .among (some (.text " a "))) =
      .ok ⟨"NAME", .text, .among, .list [.text "a"]⟩ ∧
    ∃ c, build "NAME" .text .among (some (.array [.text " a "])) = .ok c ∧
      c.value = .list [.text " a "] ∧ ¬c.IsNormalised := by
  refine ⟨by decide +kernel, _, rfl, rfl, fun hnormal => ?_⟩
  have hblank := (hnormal _ rfl " a " List.mem_cons_self).leading ' ' rfl
  cases hblank

end Condition

end ReportSql
