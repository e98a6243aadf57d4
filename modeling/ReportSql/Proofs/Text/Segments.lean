import Mathlib.Data.List.Basic
import ReportSql.Text.Segment

/-!
# Names as lists of segments

The segments of a name are what its dots part.  A name without its schema has all but the first of
them, and a test on the end of a text compares whole segments.

## Main definitions

* `segments` — the segments of a name.

## Main statements

* `splitWhere_eq_splitOnP` — splitting is that of the library.
* `endsWithSegments_iff` — one name ends with the segments of another.
* `segments_withoutSchema` — a name without its schema has all segments but the first.
-/

namespace ReportSql.Text

/-- Splitting is that of the library. -/
theorem splitWhere_eq_splitOnP (p : Char → Bool) (cs : List Char) :
    splitWhere p cs = cs.splitOnP p := by
  induction cs with
  | nil => simp [splitWhere]
  | cons c cs ih =>
    rw [splitWhere, List.splitOnP_cons_eq_if_modifyHead, ih]
    split
    · rfl
    · cases hruns : cs.splitOnP p with
      | nil => exact absurd hruns (List.splitOnP_ne_nil p cs)
      | cons run runs => rfl

/-- What stands after other segments and a dot ends with that dot and what follows it. -/
theorem cons_isSuffix_intercalate (c : Char) (tail run : List Char) (runs : List (List Char)) :
    c :: tail <:+ [c].intercalate (run :: (runs ++ tail.splitOn c)) := by
  induction runs generalizing run with
  | nil =>
    rw [List.nil_append, List.intercalate_cons_of_ne_nil (List.splitOn_ne_nil c tail),
      List.intercalate_splitOn, List.append_assoc]
    exact List.suffix_append run (c :: tail)
  | cons run' runs ih =>
    rw [List.cons_append, List.intercalate_cons_cons]
    exact (ih run').trans (List.suffix_append _ _)

/-- **A text ends with the segments of another** if it is that text, or ends with a dot and it. -/
theorem splitOn_isSuffix_splitOn_iff {c : Char} {cs tail : List Char} :
    tail.splitOn c <:+ cs.splitOn c ↔ cs = tail ∨ c :: tail <:+ cs := by
  constructor
  · rintro ⟨runs, hruns⟩
    have hcs : cs = [c].intercalate (runs ++ tail.splitOn c) := by
      rw [hruns, List.intercalate_splitOn]
    cases runs with
    | nil => exact .inl (by rw [hcs, List.nil_append, List.intercalate_splitOn])
    | cons run runs =>
      rw [hcs]
      exact .inr (cons_isSuffix_intercalate c tail run runs)
  · rintro (rfl | ⟨before, rfl⟩)
    · exact List.suffix_rfl
    · rw [List.splitOn_append_cons_self]
      exact List.suffix_append _ _

/-! ## Names -/

/-- The segments of a name. -/
def segments (name : String) : List String := (name.toList.splitOn '.').map String.ofList

theorem map_ofList_isSuffix_iff {as bs : List (List Char)} :
    as.map String.ofList <:+ bs.map String.ofList ↔ as <:+ bs := by
  refine ⟨fun h => ?_, fun h => h.map _⟩
  have hlists := h.map String.toList
  simpa [List.map_map, Function.comp_def] using hlists

/-- **The test on the end of a name compares whole segments.** -/
theorem endsWithSegments_iff {name tail : String} :
    endsWithSegments name tail = true ↔ segments tail <:+ segments name := by
  rw [segments, segments, map_ofList_isSuffix_iff, splitOn_isSuffix_splitOn_iff, endsWithSegments,
    Bool.or_eq_true, decide_eq_true_eq, List.isSuffixOf_iff_suffix, String.toList_inj]

/-- **A name without its schema has all segments but the first.** -/
theorem segments_withoutSchema {name tail : String} (h : withoutSchema name = some tail) :
    segments tail = (segments name).tail := by
  obtain ⟨⟨before, after⟩, hcut, rfl⟩ := Option.map_eq_some_iff.1 h
  obtain ⟨hname, hbefore⟩ := eq_append_of_cutFirst hcut
  rw [segments, segments, hname, List.splitOn_append_cons_self_of_not_mem hbefore]
  simp

theorem withoutSchema_eq_none_iff {name : String} :
    withoutSchema name = none ↔ '.' ∉ name.toList := by
  rw [withoutSchema, Option.map_eq_none_iff, cutFirst_eq_none_iff]

/-- The end of a longer name is no segment of it. -/
example : endsWithSegments "HR.DAILY_SALES" "SALES" = false := by decide

end ReportSql.Text
