import Mathlib.Data.List.Infix
import ReportSql.Proofs.Compare.UpperCase

/-!
# Patterns of searches

The patterns that a database searches texts for: a percent sign stands for any run of characters, an
underscore for any one, and every other character for itself.

## Main definitions

* `fits` — whether a text fits a pattern.
* `isWildcard` — the characters that stand for others.

## Main statements

* `fits_percent_append_percent_iff`, `fits_append_percent_iff`, `fits_percent_cons_iff` — a pattern
  between percent signs fits what has a run, a beginning or an end that fits it.
* `fits_iff_eq` — a pattern without wildcards fits itself alone.
* `fits_masked` — a text that differs from a pattern in its wildcards fits it.
-/

namespace ReportSql.Text

/-- A character that stands for others in a pattern. -/
def isWildcard (c : Char) : Bool := c = '%' || c = '_'

/-- Whether a text fits a pattern, in which `%` stands for any run of characters and `_` for any one
character. -/
def fits : List Char → List Char → Bool
  | [], text => text.isEmpty
  | p :: ps, text =>
    if p = '%' then text.tails.any (fits ps)
    else
      match text with
      | [] => false
      | c :: cs => (p = '_' || p = c) && fits ps cs

/-! ## Equations -/

@[simp] theorem fits_nil_iff {text : List Char} : fits [] text = true ↔ text = [] := by
  rw [fits, List.isEmpty_iff]

/-- A percent sign skips any beginning of a text. -/
theorem fits_percent_cons_iff {ps text : List Char} :
    fits ('%' :: ps) text = true ↔ ∃ run, run <:+ text ∧ fits ps run = true := by
  simp [fits, List.any_eq_true, List.mem_tails]

theorem fits_cons_nil {p : Char} (hp : p ≠ '%') (ps : List Char) : fits (p :: ps) [] = false := by
  simp [fits, hp]

theorem fits_cons_cons_iff {p : Char} (hp : p ≠ '%') {ps cs : List Char} {c : Char} :
    fits (p :: ps) (c :: cs) = true ↔ (p = '_' ∨ p = c) ∧ fits ps cs = true := by
  simp [fits, hp]

/-! ## Percent signs around a pattern -/

/-- A percent sign at the end lets a text go on. -/
theorem fits_append_percent_iff {ps text : List Char} :
    fits (ps ++ ['%']) text = true ↔ ∃ run, run <+: text ∧ fits ps run = true := by
  induction ps generalizing text with
  | nil =>
    have hempty : fits [] [] = true := rfl
    simp only [List.nil_append, fits_percent_cons_iff, fits_nil_iff]
    exact ⟨fun _ => ⟨[], List.nil_prefix, rfl⟩, fun _ => ⟨[], List.nil_suffix, rfl⟩⟩
  | cons p ps ih =>
    by_cases hp : p = '%'
    · subst hp
      simp only [List.cons_append, fits_percent_cons_iff, ih]
      -- what is skipped and the run after it make one beginning of the text
      constructor
      · rintro ⟨_, ⟨before, rfl⟩, run, hrun, hfits⟩
        exact ⟨before ++ run, (List.prefix_append_right_inj before).2 hrun, run,
          List.suffix_append before run, hfits⟩
      · rintro ⟨_, ⟨after, rfl⟩, run, ⟨before, rfl⟩, hfits⟩
        exact ⟨run ++ after, ⟨before, by simp⟩, run, List.prefix_append run after, hfits⟩
    · cases text with
      | nil => simp [fits_cons_nil hp]
      | cons c cs =>
        rw [List.cons_append, fits_cons_cons_iff hp, ih]
        constructor
        · rintro ⟨hc, run, hrun, hfits⟩
          exact ⟨c :: run, (List.prefix_cons_inj c).2 hrun, (fits_cons_cons_iff hp).2 ⟨hc, hfits⟩⟩
        · rintro ⟨run, hrun, hfits⟩
          cases run with
          | nil => simp [fits_cons_nil hp] at hfits
          | cons d run =>
            obtain ⟨rfl, hrest⟩ := List.cons_prefix_cons.1 hrun
            obtain ⟨hc, hfits⟩ := (fits_cons_cons_iff hp).1 hfits
            exact ⟨hc, run, hrest, hfits⟩

/-- Between percent signs a pattern is searched for anywhere in a text. -/
theorem fits_percent_append_percent_iff {ps text : List Char} :
    fits ('%' :: (ps ++ ['%'])) text = true ↔ ∃ run, run <:+: text ∧ fits ps run = true := by
  simp only [fits_percent_cons_iff, fits_append_percent_iff]
  constructor
  · rintro ⟨_, hsuffix, run, hrun, hfits⟩
    exact ⟨run, hrun.isInfix.trans hsuffix.isInfix, hfits⟩
  · rintro ⟨run, ⟨before, after, rfl⟩, hfits⟩
    exact ⟨run ++ after, ⟨before, by simp⟩, run, List.prefix_append run after, hfits⟩

/-! ## Wildcards -/

/-- **A pattern without wildcards fits itself alone.** -/
theorem fits_iff_eq {ps text : List Char} (h : ∀ p ∈ ps, isWildcard p = false) :
    fits ps text = true ↔ text = ps := by
  induction ps generalizing text with
  | nil => exact fits_nil_iff
  | cons p ps ih =>
    have hp : p ≠ '%' ∧ p ≠ '_' := by simpa [isWildcard] using h p (by simp)
    have hps : ∀ q ∈ ps, isWildcard q = false := fun q hq => h q (by simp [hq])
    cases text with
    | nil => simp [fits_cons_nil hp.1]
    | cons c cs => simp [fits_cons_cons_iff hp.1, hp.2, ih hps, eq_comm (a := p)]

/-- A pattern with a letter in the place of every wildcard. -/
def masked (ps : List Char) : List Char := ps.map fun p => if isWildcard p then 'X' else p

@[simp] theorem length_masked (ps : List Char) : (masked ps).length = ps.length := List.length_map _

/-- **A text that differs from a pattern in its wildcards fits it.** -/
theorem fits_masked (ps : List Char) : fits ps (masked ps) = true := by
  induction ps with
  | nil => rfl
  | cons p ps ih =>
    by_cases hp : p = '%'
    · subst hp
      exact fits_percent_cons_iff.2 ⟨masked ps, List.suffix_cons _ _, ih⟩
    · refine (fits_cons_cons_iff hp).2 ⟨?_, ih⟩
      by_cases hunderscore : p = '_'
      · exact .inl hunderscore
      · simp [isWildcard, hp, hunderscore]

theorem masked_ne {ps : List Char} {p : Char} (hmem : p ∈ ps) (hp : isWildcard p = true) :
    masked ps ≠ ps := by
  intro heq
  have hmask : (if isWildcard p then 'X' else p) = p := by
    have hfixed : ∀ q ∈ ps, (if isWildcard q then 'X' else q) = q := by
      simpa [masked] using List.map_inj_left.1 (heq.trans (List.map_id ps).symm)
    exact hfixed p hmem
  rw [if_pos hp] at hmask
  subst hmask
  exact absurd hp (by decide)

/-! ## Wildcards in upper case -/

/-- A wildcard stands in the upper case of a text where it stands in the text. -/
theorem forall_isWildcard_upper_iff (s : String) :
    (∀ c ∈ (upper s).toList, isWildcard c = false) ↔ ∀ c ∈ s.toList, isWildcard c = false := by
  have hiff : ∀ {c : Char}, isWildcard c = true → (c ∈ (upper s).toList ↔ c ∈ s.toList) := by
    intro c hc
    have hcases : c = '%' ∨ c = '_' := by simpa [isWildcard] using hc
    rcases hcases with rfl | rfl
    · exact mem_upper_iff (by decide) (by decide) s
    · exact mem_upper_iff (by decide) (by decide) s
  constructor
  · intro h c hc
    exact Bool.eq_false_iff.2 fun hw => Bool.eq_false_iff.1 (h c ((hiff hw).2 hc)) hw
  · intro h c hc
    exact Bool.eq_false_iff.2 fun hw => Bool.eq_false_iff.1 (h c ((hiff hw).1 hc)) hw

/-- The upper case of a text with letters in the places of its wildcards is its own upper case. -/
theorem flatMap_upperChar_masked_upper (s : String) :
    (masked (upper s).toList).flatMap upperChar = masked (upper s).toList := by
  have hfixed : ∀ c ∈ masked (upper s).toList, upperChar c = [c] := by
    intro c hc
    obtain ⟨d, hd, rfl⟩ := List.mem_map.1 hc
    split
    · rfl
    · rw [toList_upper, List.mem_flatMap] at hd
      obtain ⟨e, -, hde⟩ := hd
      exact upperChar_of_mem hde
  rw [List.flatMap_congr hfixed, List.flatMap_singleton']

end ReportSql.Text
