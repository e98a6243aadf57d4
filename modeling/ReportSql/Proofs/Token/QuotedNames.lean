import ReportSql.Proofs.Compare.UpperCase
import ReportSql.Proofs.Token.Lexer
import ReportSql.Sql.Predicate

/-!
# Reading quoted names

A name in a query is one quoted part, or several with a dot between each two.  Between the quotes of
a part any character stands for itself, but a double quote is written twice.  A text can be read so
in one way at most, even if a name has dots beside quotes, and what it is read as is the name that
was written, in upper case unless it is a label.

## Main definitions

* `Doubled` — what the characters between two quotes stand for.
* `Reads` — the parts that a text can be read as.
* `CutAtLastDot` — a name in its one or two parts.

## Main statements

* `reads_iff` — the texts of parts are those that are written for them.
* `reads_intercalate_iff` — no text can be read in two ways.
* `quotedNames_readBack` — identifiers, columns and labels are read back.
-/

namespace ReportSql

open Text

/-! ## Quoted parts -/

/-- Between two quotes `text` stands for `name`: a double quote is written twice, any other
character once. -/
inductive Doubled : List Char → List Char → Prop where
  | nil : Doubled [] []
  | char {c : Char} {text name : List Char} (hc : c ≠ '"') (h : Doubled text name) :
      Doubled (c :: text) (c :: name)
  | quote {text name : List Char} (h : Doubled text name) :
      Doubled ('"' :: '"' :: text) ('"' :: name)

theorem doubled_iff {text name : List Char} : Doubled text name ↔ text = doubleQuotes name := by
  constructor
  · intro h
    induction h with
    | nil => rfl
    | char hc _ ih => rw [doubleQuotes, if_neg hc, ih]
    | quote _ ih => rw [doubleQuotes, if_pos rfl, ih]
  · rintro rfl
    induction name with
    | nil => exact .nil
    | cons c name ih =>
      by_cases hc : c = '"'
      · subst hc
        exact .quote ih
      · rw [doubleQuotes, if_neg hc]
        exact .char hc ih

/-- The parts that a text can be read as: quoted parts with a dot between each two. -/
inductive Reads : String → List String → Prop where
  | last {text : List Char} {name : String} (h : Doubled text name.toList) :
      Reads ("\"" ++ String.ofList text ++ "\"") [name]
  | more {text : List Char} {name rest : String} {parts : List String}
      (h : Doubled text name.toList) (hrest : Reads rest parts) :
      Reads ("\"" ++ String.ofList text ++ "\"." ++ rest) (name :: parts)

/-- The text of parts: each between quotes, with a dot between each two. -/
def quotedParts (parts : List String) : String := ".".intercalate (parts.map quoteLabel)

theorem quoteLabel_eq (name : String) :
    quoteLabel name = "\"" ++ String.ofList (doubleQuotes name.toList) ++ "\"" := by
  apply String.toList_inj.1
  simp [quoteLabel]

theorem quotedParts_singleton (name : String) : quotedParts [name] = quoteLabel name := by
  apply String.toList_inj.1
  simp [quotedParts]

theorem quotedParts_cons (name : String) {parts : List String} (h : parts ≠ []) :
    quotedParts (name :: parts) = quoteLabel name ++ "." ++ quotedParts parts := by
  obtain ⟨next, parts, rfl⟩ := List.exists_cons_of_ne_nil h
  apply String.toList_inj.1
  simp [quotedParts, String.toList_intercalate]

theorem Reads.ne_nil {text : String} {parts : List String} (h : Reads text parts) :
    parts ≠ [] := by
  cases h <;> simp

/-- **The texts of parts are those that are written for them.** -/
theorem reads_iff {text : String} {parts : List String} :
    Reads text parts ↔ parts ≠ [] ∧ text = quotedParts parts := by
  constructor
  · intro h
    refine ⟨h.ne_nil, ?_⟩
    induction h with
    | last h => rw [quotedParts_singleton, quoteLabel_eq, doubled_iff.1 h]
    | more h hrest ih =>
      rw [quotedParts_cons _ hrest.ne_nil, quoteLabel_eq, doubled_iff.1 h, ih]
      apply String.toList_inj.1
      simp
  · rintro ⟨hne, rfl⟩
    induction parts with
    | nil => exact absurd rfl hne
    | cons name parts ih =>
      have hname : Doubled (doubleQuotes name.toList) name.toList := doubled_iff.2 rfl
      by_cases hparts : parts = []
      · rw [hparts, quotedParts_singleton, quoteLabel_eq]
        exact .last hname
      · have hmore := Reads.more hname (ih hparts)
        rw [quotedParts_cons _ hparts, quoteLabel_eq]
        convert hmore using 1
        apply String.toList_inj.1
        simp

/-! ## One reading -/

/-- The quoted names among tokens. -/
def quotedNames (ts : List Token) : List String :=
  ts.filterMap fun
    | .quoted name => some name
    | _ => none

theorem quotedNames_intercalate (parts : List String) :
    quotedNames ([.symbol '.'].intercalate (parts.map fun name => [.quoted name])) = parts := by
  induction parts with
  | nil => rfl
  | cons name parts ih =>
    cases parts with
    | nil => rfl
    | cons next parts =>
      rw [List.map_cons] at ih
      rw [List.map_cons, List.map_cons, List.intercalate_cons_cons]
      simpa [quotedNames] using ih

/-- A lexer finds the parts of a text again. -/
theorem quotedNames_tokensOf (parts : List String) :
    quotedNames (tokensOf (quotedParts parts)) = parts := by
  have hquoted : List.Forall₂ Lexes (parts.map quoteLabel) (parts.map fun name => [.quoted name]) :=
    Lexes.forall₂_map fun name _ => lexes_quoteLabel name
  have hlexes := Lexes.intercalate hquoted "." [.symbol '.']
  rw [quotedParts, hlexes.tokensOf_eq, quotedNames_intercalate]

theorem quotedParts_inj {parts parts' : List String} :
    quotedParts parts = quotedParts parts' ↔ parts = parts' := by
  refine ⟨fun h => ?_, congrArg quotedParts⟩
  rw [← quotedNames_tokensOf parts, h, quotedNames_tokensOf]

/-- **No text can be read in two ways.** -/
theorem reads_quotedParts_iff {parts parts' : List String} (h : parts ≠ []) :
    Reads (quotedParts parts) parts' ↔ parts' = parts := by
  rw [reads_iff, quotedParts_inj]
  constructor
  · rintro ⟨-, hparts⟩
    exact hparts.symm
  · rintro rfl
    exact ⟨h, rfl⟩

/-! ## Identifiers -/

/-- A name in its parts: around its last dot if it has one, else as a whole. -/
def CutAtLastDot (name : String) (parts : List String) : Prop :=
  ('.' ∉ name.toList ∧ parts = [name]) ∨
    ∃ qualifier column, name = qualifier ++ "." ++ column ∧ '.' ∉ column.toList ∧
      parts = [qualifier, column]

theorem CutAtLastDot.ne_nil {name : String} {parts : List String} (h : CutAtLastDot name parts) :
    parts ≠ [] := by
  rcases h with ⟨-, rfl⟩ | ⟨qualifier, column, -, -, rfl⟩ <;> simp

/-- The parts of a name in upper case, with the dot between them, are the name in upper case. -/
theorem CutAtLastDot.intercalate_upper {name : String} {parts : List String}
    (h : CutAtLastDot name parts) : ".".intercalate (parts.map upper) = upper name := by
  apply String.toList_inj.1
  rcases h with ⟨-, rfl⟩ | ⟨qualifier, column, rfl, -, rfl⟩
  · simp
  · have hdot : upperChar '.' = ['.'] := rfl
    simp [hdot]

/-- A column of a source is two parts. -/
theorem ColumnRef.render_qualified (source column : String) :
    (ColumnRef.qualified source column).render = quotedParts [upper source, upper column] := by
  rw [quotedParts_cons _ (by simp), quotedParts_singleton]
  rfl

theorem exists_cutAtLastDot (name : String) :
    ∃ parts, CutAtLastDot name parts ∧ quoteIdentifier name = quotedParts (parts.map upper) := by
  rw [quoteIdentifier]
  cases hparts : qualifierAndColumn name with
  | none =>
    rw [qualifierAndColumn, Option.map_eq_none_iff, cutLast_eq_none_iff] at hparts
    exact ⟨[name], .inl ⟨hparts, rfl⟩, (quotedParts_singleton _).symm⟩
  | some parts =>
    obtain ⟨⟨before, after⟩, hcut, rfl⟩ := Option.map_eq_some_iff.1 hparts
    obtain ⟨hname, hafter⟩ := eq_append_of_cutLast hcut
    refine ⟨[String.ofList before, String.ofList after], .inr ⟨_, _, ?_, ?_, rfl⟩, ?_⟩
    · apply String.toList_inj.1
      simpa using hname
    · simpa using hafter
    · exact (ColumnRef.render_qualified _ _)

/-- Names are quoted alike in upper case. -/
theorem quoteIdentifier_upper (name : String) :
    quoteIdentifier (upper name) = quoteIdentifier name := by
  rw [quoteIdentifier, quoteIdentifier, qualifierAndColumn_upper]
  cases qualifierAndColumn name with
  | none => simp [quotePart, upper_upper]
  | some parts => simp [quotePart, upper_upper]

/-- **Quoted names are read back.**  An identifier can be read in one way only: as one part if the
name has no dot, else as the two parts around its last dot, in upper case.  Joined by a dot they are
the name in upper case, so identifiers agree where the names do in upper case.  A column of a source
is read as the two names in upper case, and a label as the label itself. -/
theorem quotedNames_readBack :
    (∀ name, ∃ parts, CutAtLastDot name parts ∧
      (∀ read, Reads (quoteIdentifier name) read ↔ read = parts.map upper) ∧
      ".".intercalate (parts.map upper) = upper name) ∧
    (∀ name name', quoteIdentifier name = quoteIdentifier name' ↔ upper name = upper name') ∧
    (∀ source column read, Reads (ColumnRef.qualified source column).render read ↔
      read = [upper source, upper column]) ∧
    (∀ source column source' column',
      (ColumnRef.qualified source column).render = (ColumnRef.qualified source' column').render ↔
        upper source = upper source' ∧ upper column = upper column') ∧
    ∀ label read, Reads (quoteLabel label) read ↔ read = [label] := by
  refine ⟨fun name => ?_, fun name name' => ⟨fun h => ?_, fun h => ?_⟩,
    fun source column read => ?_, fun source column source' column' => ?_, fun label read => ?_⟩
  · obtain ⟨parts, hcut, hquoted⟩ := exists_cutAtLastDot name
    refine ⟨parts, hcut, fun read => ?_, hcut.intercalate_upper⟩
    rw [hquoted]
    exact reads_quotedParts_iff (by simpa using hcut.ne_nil)
  · obtain ⟨parts, hcut, hquoted⟩ := exists_cutAtLastDot name
    obtain ⟨parts', hcut', hquoted'⟩ := exists_cutAtLastDot name'
    rw [hquoted, hquoted', quotedParts_inj] at h
    rw [← hcut.intercalate_upper, h, hcut'.intercalate_upper]
  · rw [← quoteIdentifier_upper name, h, quoteIdentifier_upper]
  · rw [ColumnRef.render_qualified]
    exact reads_quotedParts_iff (by simp)
  · rw [ColumnRef.render_qualified, ColumnRef.render_qualified, quotedParts_inj]
    simp
  · rw [← quotedParts_singleton]
    exact reads_quotedParts_iff (by simp)

/-- What looks like the end of a part within a name does not end it. -/
example : quotedNames (tokensOf (quoteIdentifier "a\".\"b.c")) = ["A\".\"B", "C"] := by
  decide

end ReportSql
