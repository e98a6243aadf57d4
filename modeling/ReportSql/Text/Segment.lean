/-!
# Dotted names

A name such as `schema.table.column` is read as segments parted by dots.  A reference splits at its
last dot into qualifier and column; a dataset loses its schema at its first dot.

## Main definitions

* `cutFirst`, `cutLast` — a list in two, around the first or last occurrence of a character.
* `splitWhere` — the runs of a list between separators.
* `qualifierAndColumn` — a reference around its last dot.
* `lastSegment` — what follows the last dot of a name.
* `withoutSchema` — what follows the first dot of a name.
-/

namespace ReportSql.Text

/-- The parts of a list before and after the first `c`. -/
def cutFirst (c : Char) : List Char → Option (List Char × List Char)
  | [] => none
  | d :: ds =>
    if d = c then some ([], ds)
    else (cutFirst c ds).map fun (before, after) => (d :: before, after)

/-- The parts of a list before and after the last `c`. -/
def cutLast (c : Char) : List Char → Option (List Char × List Char)
  | [] => none
  | d :: ds =>
    match cutLast c ds with
    | some (before, after) => some (d :: before, after)
    | none => if d = c then some ([], ds) else none

/-- The runs of a list between the characters satisfying `p`. -/
def splitWhere (p : Char → Bool) : List Char → List (List Char)
  | [] => [[]]
  | c :: cs =>
    if p c then [] :: splitWhere p cs
    else
      match splitWhere p cs with
      | [] => [[c]]
      | run :: runs => (c :: run) :: runs

/-- A reference split at its last dot, if it has one. -/
def qualifierAndColumn (name : String) : Option (String × String) :=
  (cutLast '.' name.toList).map fun (q, c) => (String.ofList q, String.ofList c)

/-- What follows the last dot of a name, the whole name when it has none. -/
def lastSegment (name : String) : String :=
  match cutLast '.' name.toList with
  | some (_, tail) => String.ofList tail
  | none => name

/-- What follows the first dot of a name. -/
def withoutSchema (name : String) : Option String :=
  (cutFirst '.' name.toList).map fun (_, tail) => String.ofList tail

/-- Whether the segments of `tail` are the last segments of `name`. -/
def endsWithSegments (name tail : String) : Bool :=
  name = tail || ('.' :: tail.toList).isSuffixOf name.toList

theorem cutFirst_eq_none_iff {c : Char} {cs : List Char} : cutFirst c cs = none ↔ c ∉ cs := by
  induction cs with
  | nil => simp [cutFirst]
  | cons d ds ih =>
    by_cases h : d = c
    · simp [cutFirst, h]
    · simp [cutFirst, h, ih, Ne.symm h]

/-- A cut at the first occurrence loses nothing but that occurrence. -/
theorem eq_append_of_cutFirst {c : Char} {cs before after : List Char}
    (h : cutFirst c cs = some (before, after)) : cs = before ++ c :: after ∧ c ∉ before := by
  induction cs generalizing before with
  | nil => simp [cutFirst] at h
  | cons d ds ih =>
    by_cases hd : d = c
    · simp only [cutFirst, hd, if_true, Option.some.injEq, Prod.mk.injEq] at h
      obtain ⟨rfl, rfl⟩ := h
      simp [hd]
    · simp only [cutFirst, hd, if_false, Option.map_eq_some_iff, Prod.mk.injEq, Prod.exists] at h
      obtain ⟨u, v, huv, rfl, rfl⟩ := h
      obtain ⟨rfl, hu⟩ := ih huv
      simp [hu, Ne.symm hd]

theorem cutLast_eq_none_iff {c : Char} {cs : List Char} : cutLast c cs = none ↔ c ∉ cs := by
  induction cs with
  | nil => simp [cutLast]
  | cons d ds ih =>
    unfold cutLast
    cases hds : cutLast c ds with
    | some p =>
      have : c ∈ ds := by
        refine Classical.byContradiction fun h => ?_
        simp [ih.2 h] at hds
      simp [this]
    | none =>
      have : c ∉ ds := ih.1 hds
      by_cases hd : d = c
      · simp [hd]
      · simp [hd, this, Ne.symm hd]

/-- A cut at the last occurrence loses nothing but that occurrence. -/
theorem eq_append_of_cutLast {c : Char} {cs before after : List Char}
    (h : cutLast c cs = some (before, after)) : cs = before ++ c :: after ∧ c ∉ after := by
  induction cs generalizing before with
  | nil => simp [cutLast] at h
  | cons d ds ih =>
    unfold cutLast at h
    split at h
    · next u v huv =>
      simp only [Option.some.injEq, Prod.mk.injEq] at h
      obtain ⟨rfl, rfl⟩ := h
      obtain ⟨rfl, hv⟩ := ih huv
      exact ⟨rfl, hv⟩
    · next hnone =>
      split at h
      · next hd =>
        simp only [Option.some.injEq, Prod.mk.injEq] at h
        obtain ⟨rfl, rfl⟩ := h
        exact ⟨by simp [hd], cutLast_eq_none_iff.1 hnone⟩
      · simp at h

/-- What follows the last occurrence is without the character. -/
theorem cutLast_append_cons {c : Char} {after : List Char} (before : List Char) (h : c ∉ after) :
    cutLast c (before ++ c :: after) = some (before, after) := by
  induction before with
  | nil => simp [cutLast, cutLast_eq_none_iff.2 h]
  | cons d before ih => simp [cutLast, ih]

/-- What follows a dot has the last segment of the whole name. -/
theorem lastSegment_append (qualifier name : String) :
    lastSegment (qualifier ++ "." ++ name) = lastSegment name := by
  have hlist : (qualifier ++ "." ++ name).toList = qualifier.toList ++ '.' :: name.toList := by
    simp
  rw [lastSegment, lastSegment, hlist]
  cases hparts : cutLast '.' name.toList with
  | none =>
    rw [cutLast_append_cons _ (cutLast_eq_none_iff.1 hparts)]
    simp
  | some parts =>
    obtain ⟨before, after⟩ := parts
    obtain ⟨hname, hafter⟩ := eq_append_of_cutLast hparts
    rw [hname, ← List.cons_append, ← List.append_assoc, cutLast_append_cons _ hafter]

/-- A qualifier and a column without a dot are found again. -/
theorem qualifierAndColumn_append {column : String} (qualifier : String)
    (h : '.' ∉ column.toList) :
    qualifierAndColumn (qualifier ++ "." ++ column) = some (qualifier, column) := by
  have hlist : (qualifier ++ "." ++ column).toList = qualifier.toList ++ '.' :: column.toList := by
    simp
  rw [qualifierAndColumn, hlist, cutLast_append_cons _ h]
  simp

/-- A number at the end of a name stands after its last underscore. -/
theorem cutLast_number (stem : String) (n : Nat) :
    cutLast '_' (stem ++ "_" ++ n.repr).toList = some (stem.toList, Nat.toDigits 10 n) := by
  have hlist : (stem ++ "_" ++ n.repr).toList = stem.toList ++ '_' :: Nat.toDigits 10 n := by
    simp [Nat.toList_repr]
  rw [hlist]
  exact cutLast_append_cons stem.toList Nat.underscore_not_in_toDigits

/-- A name and the number at its end can be told apart. -/
theorem append_number_inj {stem stem' : String} {m n : Nat}
    (h : stem ++ "_" ++ m.repr = stem' ++ "_" ++ n.repr) : stem = stem' ∧ m = n := by
  have hparts := cutLast_number stem m
  rw [h, cutLast_number, Option.some_inj, Prod.mk.injEq] at hparts
  refine ⟨(String.toList_inj.1 hparts.1).symm, ?_⟩
  rw [← Nat.ofDigitChars_ten_toDigits (n := m), ← hparts.2, Nat.ofDigitChars_ten_toDigits]

end ReportSql.Text
