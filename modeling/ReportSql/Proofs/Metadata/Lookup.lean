import ReportSql.Plan.Partitions
import ReportSql.Proofs.Compare.UpperCase

/-!
# Looking up what is known of a column

What a request says of a column stands under a name.  A column is looked up under its own name,
then in any case, then by its last segment alone; the entry that is found is the first one that
passes the first of these tests that any entry passes.

## Main definitions

* `firstOf` — the first item that passes the first of some tests that any item passes.
* `Request.entryFor?` — the entry that is found for a column.
* `Request.withoutMetadata` — a request without what it says under some names.

## Main statements

* `firstOf_filter_iff` — leaving items out keeps the one that is found if it is not left out.
* `Request.entryFor?_withoutMetadata_iff` — the same of the entry for a column.
* `Request.loadIdKind_eq` — a load column is looked up under its dataset alone.
-/

namespace ReportSql

open Text

/-! ## Tests in order -/

section Tests

variable {α : Type} {tests : List (α → Bool)} {l : List α}

/-- The first item that passes the first of some tests that any item passes. -/
def firstOf (tests : List (α → Bool)) (l : List α) : Option α := tests.findSome? fun p => l.find? p

theorem firstOf_cons (p : α → Bool) (tests : List (α → Bool)) (l : List α) :
    firstOf (p :: tests) l = (l.find? p).or (firstOf tests l) := by
  rw [firstOf, List.findSome?_cons]
  cases l.find? p <;> rfl

theorem mem_of_firstOf {a : α} (h : firstOf tests l = some a) : a ∈ l := by
  obtain ⟨p, -, hp⟩ := List.exists_of_findSome?_eq_some h
  exact List.mem_of_find?_eq_some hp

theorem firstOf_eq_none_iff : firstOf tests l = none ↔ ∀ p ∈ tests, ∀ a ∈ l, p a = false := by
  simp [firstOf, List.findSome?_eq_none_iff]

/-- The first item that passes a test is still the first if it is not left out. -/
theorem find?_filter_of_find? {p keep : α → Bool} {a : α} (h : l.find? p = some a)
    (ha : keep a = true) : (l.filter keep).find? p = some a := by
  obtain ⟨hp, before, after, rfl, hbefore⟩ := List.find?_eq_some_iff_append.1 h
  refine List.find?_eq_some_iff_append.2 ⟨hp, before.filter keep, after.filter keep, ?_, ?_⟩
  · rw [List.filter_append, List.filter_cons_of_pos ha]
  · exact fun b hb => hbefore b (List.mem_of_mem_filter hb)

/-- **Leaving items out keeps the one that is found**, if and only if it is not left out. -/
theorem firstOf_filter_iff {keep : α → Bool} :
    firstOf tests (l.filter keep) = firstOf tests l ↔
      ∀ a, firstOf tests l = some a → keep a = true := by
  constructor
  · intro h a ha
    exact List.of_mem_filter (mem_of_firstOf (h.trans ha))
  · induction tests with
    | nil => exact fun _ => rfl
    | cons p tests ih =>
      intro hkeep
      rw [firstOf_cons, firstOf_cons] at *
      cases hp : l.find? p with
      | some a =>
        have ha : keep a = true := hkeep a (by rw [hp, Option.some_or])
        rw [find?_filter_of_find? hp ha, Option.some_or, Option.some_or]
      | none =>
        have hnone : (l.filter keep).find? p = none := by
          rw [List.find?_eq_none] at hp ⊢
          exact fun a ha => hp a (List.mem_of_mem_filter ha)
        rw [hnone, Option.none_or, Option.none_or]
        exact ih fun a ha => hkeep a (by rw [hp, Option.none_or, ha])

end Tests

/-! ## Entries -/

/-- The tests by which the entry of a column is found: its name, its name in any case, and its last
segment in any case. -/
def columnTests (column : String) : List (String × ColumnMetadata → Bool) :=
  [fun e => e.1 == column, fun e => upper e.1 == upper column,
    fun e => lastSegment (upper e.1) == lastSegment (upper column)]

/-- Each of the tests compares the last segment. -/
theorem lastSegment_of_columnTests {column : String} {p : String × ColumnMetadata → Bool}
    (hp : p ∈ columnTests column) {e : String × ColumnMetadata} (h : p e = true) :
    lastSegment (upper e.1) = lastSegment (upper column) := by
  simp only [columnTests, List.mem_cons, List.not_mem_nil, or_false] at hp
  rcases hp with rfl | rfl | rfl
  · rw [eq_of_beq h]
  · rw [eq_of_beq h]
  · exact eq_of_beq h

theorem Dict.get?_eq_find? {α : Type} (d : Dict α) (key : String) :
    d.get? key = (d.entries.find? fun e => e.1 == key).map Prod.snd := by
  unfold get?
  induction d.entries with
  | nil => rfl
  | cons e entries ih =>
    rw [lookup_cons_eq_ite, List.find?_cons, ih]
    by_cases h : key = e.1
    · simp [h]
    · simp [h, beq_eq_false_iff_ne.2 (Ne.symm h)]

namespace Request

variable {r : Request} {column : String} {p : String → Bool}

/-- What a request says of columns, under their names. -/
def metadataEntries (r : Request) : List (String × ColumnMetadata) :=
  (r.columnMetadata?.map Dict.entries).getD []

/-- The entry that is found for a column. -/
def entryFor? (r : Request) (column : String) : Option (String × ColumnMetadata) :=
  firstOf (columnTests column) r.metadataEntries

/-- What a request says of a column is what its entry says. -/
theorem metadata?_eq_entryFor? (column : String) :
    r.metadata? column = (r.entryFor? column).map Prod.snd := by
  unfold metadata? entryFor? metadataEntries
  cases r.columnMetadata? with
  | none => rfl
  | some metadata =>
    simp only [Option.bind_eq_bind, Option.bind_some, Option.map_some, Option.getD_some,
      Dict.get?_eq_find?, Dict.find?, columnTests, firstOf_cons, Option.map_or]
    rw [Option.or_assoc, firstOf, List.findSome?_nil, Option.map_none, Option.or_none]

/-- Nothing is said of a column if no entry has its last segment. -/
theorem entryFor?_eq_none_iff :
    r.entryFor? column = none ↔
      ∀ e ∈ r.metadataEntries, lastSegment (upper e.1) ≠ lastSegment (upper column) := by
  rw [entryFor?, firstOf_eq_none_iff]
  constructor
  · intro h e he
    have hlast := h (fun e => lastSegment (upper e.1) == lastSegment (upper column))
      (by simp [columnTests]) e he
    exact ne_of_beq_false hlast
  · intro h p hp e he
    exact eq_false_of_ne_true fun htrue => h e he (lastSegment_of_columnTests hp htrue)

/-- If an entry has the name of a column in some case, so has the one that is found. -/
theorem upper_of_entryFor? {e e' : String × ColumnMetadata} (he : e ∈ r.metadataEntries)
    (hname : upper e.1 = upper column) (h : r.entryFor? column = some e') :
    upper e'.1 = upper column := by
  rw [entryFor?, columnTests, firstOf_cons, firstOf_cons] at h
  cases hexact : r.metadataEntries.find? fun e => e.1 == column with
  | some e'' =>
    have hfound : e''.1 = column := by simpa using List.find?_some hexact
    rw [hexact, Option.some_or, Option.some.injEq] at h
    rw [← h, hfound]
  | none =>
    obtain ⟨e'', hcase⟩ : ∃ e'', (r.metadataEntries.find? fun e => upper e.1 == upper column) =
        some e'' := by
      rw [← Option.isSome_iff_exists, List.find?_isSome]
      exact ⟨e, he, beq_iff_eq.2 hname⟩
    have hfound : upper e''.1 = upper column := by simpa using List.find?_some hcase
    rw [hexact, hcase, Option.none_or, Option.some_or, Option.some.injEq] at h
    rw [← h, hfound]

/-! ## Leaving entries out -/

/-- A request without what it says of columns under some names. -/
def withoutMetadata (r : Request) (p : String → Bool) : Request :=
  { r with columnMetadata? := r.columnMetadata?.map (Dict.filterKeys fun key => !p key) }

theorem metadataEntries_withoutMetadata (r : Request) (p : String → Bool) :
    (r.withoutMetadata p).metadataEntries = r.metadataEntries.filter fun e => !p e.1 := by
  unfold metadataEntries withoutMetadata
  cases r.columnMetadata? <;> rfl

/-- **An entry is found as before**, if and only if it is not left out. -/
theorem entryFor?_withoutMetadata_iff :
    (r.withoutMetadata p).entryFor? column = r.entryFor? column ↔
      ∀ e, r.entryFor? column = some e → p e.1 = false := by
  rw [entryFor?, metadataEntries_withoutMetadata, entryFor?, firstOf_filter_iff]
  simp only [Bool.not_eq_true']

/-! ## Load columns -/

/-- **A load column is looked up under its dataset alone**: its own name would find nothing more. -/
theorem loadIdKind_eq (r : Request) (dataset column : String) :
    r.loadIdKind dataset column =
      ((r.metadata? (dataset ++ "." ++ column)).bind ColumnMetadata.kind?).getD .text := by
  have hsegment : lastSegment (upper (dataset ++ "." ++ column)) = lastSegment (upper column) := by
    rw [lastSegment_upper, lastSegment_upper, lastSegment_append]
  unfold loadIdKind
  cases hentry : r.entryFor? (dataset ++ "." ++ column) with
  | some e => rw [metadata?_eq_entryFor? (_ ++ _), hentry, Option.map_some, Option.some_or]
  | none =>
    have hnone : r.entryFor? column = none := by
      rw [entryFor?_eq_none_iff] at hentry ⊢
      rwa [hsegment] at hentry
    rw [metadata?_eq_entryFor? column, hnone, Option.map_none, Option.or_none]

end Request

end ReportSql
