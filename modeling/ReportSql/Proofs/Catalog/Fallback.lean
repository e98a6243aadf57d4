import ReportSql.Proofs.Catalog.Keys
import ReportSql.Proofs.Text.Bytes
import ReportSql.Proofs.Text.Segments

/-!
# What is found for a name

A name is looked up in upper case, so names that differ in case alone find the same.  What has no
entry of its own is found under another key: the least one, in order of bytes, that ends with the
segments of the name less the first, and for tables before that the least one whose table has the
name as its physical name.

## Main definitions

* `Dict.IsLeastEntry` — the entry of the least key that satisfies a condition.
* `Catalog.IsFallback` — the entry found through the end of a name.
* `Catalog.AnswersBySegments` — partitions and tables are found through their keys in this order.
* `Catalog.AnswersAlike` — two names of a dataset, and two of a column, find the same.

## Main statements

* `Dict.isLeastEntry_find?` — the first entry found is that of the least key.
* `Catalog.isFallback_findUnqualified?` — the test on the end of a key compares whole segments.
* `Catalog.answers_of_isBuilt` — keys are in upper case, case makes no difference, and fallbacks
  match whole segments, for every catalog that can be made.
-/

namespace ReportSql

open Text

/-! ## Least entries -/

namespace Dict

variable {α : Type} {d : Dict α} {p q : String → α → Prop} {found : Option α}

/-- The value of the least key, in order of bytes, whose entry satisfies a condition; nothing if no
entry does. -/
def IsLeastEntry (d : Dict α) (p : String → α → Prop) : Option α → Prop
  | none => ∀ key value, d.get? key = some value → ¬p key value
  | some value => ∃ key, d.get? key = some value ∧ p key value ∧
      ∀ key' value', d.get? key' = some value' → p key' value' → bytes key ≤ bytes key'

theorem IsLeastEntry.congr
    (hpq : ∀ key value, d.get? key = some value → (p key value ↔ q key value))
    (h : d.IsLeastEntry p found) : d.IsLeastEntry q found := by
  cases found with
  | none => exact fun key value hget hq => h key value hget ((hpq key value hget).2 hq)
  | some value =>
    obtain ⟨key, hget, hp, hleast⟩ := h
    exact ⟨key, hget, (hpq key value hget).1 hp, fun key' value' hget' hq =>
      hleast key' value' hget' ((hpq key' value' hget').2 hq)⟩

/-- Nothing is found where nothing satisfies a condition. -/
theorem isLeastEntry_none (h : ∀ key value, ¬p key value) : d.IsLeastEntry p none :=
  fun key value _ => h key value

theorem bytes_le_of_not_lt {s t : String} (h : ¬t < s) : bytes s ≤ bytes t :=
  fun hlt => h (bytes_lt_bytes_iff.1 hlt)

/-- **The first entry that is found is that of the least key.** -/
theorem isLeastEntry_find? (d : Dict α) (p : String → α → Bool) :
    d.IsLeastEntry (fun key value => p key value = true) (d.find? p) := by
  rw [find?]
  cases hfind : d.entries.find? fun e => p e.1 e.2 with
  | none =>
    intro key value hget
    exact List.find?_eq_none.1 hfind (key, value) (mem_entries_iff.2 hget)
  | some entry =>
    obtain ⟨hentry, before, after, hentries, hbefore⟩ := List.find?_eq_some_iff_append.1 hfind
    have hget : d.get? entry.1 = some entry.2 := by
      rw [← mem_entries_iff, hentries]
      exact List.mem_append_right _ List.mem_cons_self
    refine ⟨entry.1, hget, hentry, fun key value hkey hp => bytes_le_of_not_lt fun hlt => ?_⟩
    -- a smaller key stands before the one that is found, where nothing satisfies the test
    have hmem := mem_entries_iff.2 hkey
    have hsorted := List.pairwise_map.1 d.ascending
    rw [hentries, List.mem_append, List.mem_cons] at hmem
    rw [hentries, List.pairwise_append, List.pairwise_cons] at hsorted
    rcases hmem with hmem | heq | hmem
    · have := hbefore _ hmem
      rw [hp] at this
      cases this
    · rw [← heq] at hlt
      exact String.lt_irrefl _ hlt
    · exact String.lt_asymm hlt (hsorted.2.1.1 _ hmem)

end Dict

/-! ## Names of datasets and columns -/

namespace Catalog

variable {c : Catalog} {d e a b : String}

/-- The entry that is found through the end of a name: if the name has a dot, that of the least key
that ends with the segments of the name in upper case, less the first. -/
def IsFallback {α : Type} (entries : Dict α) (name : String) (found : Option α) : Prop :=
  entries.IsLeastEntry
    (fun key _ => '.' ∈ name.toList ∧ (segments (upper name)).tail <:+ segments key) found

/-- **The test on the end of a key compares whole segments.** -/
theorem isFallback_findUnqualified? {α : Type} (entries : Dict α) (name : String) :
    IsFallback entries name (findUnqualified? entries (upper name)) := by
  have hdot : '.' ∈ (upper name).toList ↔ '.' ∈ name.toList := mem_upper_iff (by decide) rfl name
  unfold findUnqualified? IsFallback
  cases htail : withoutSchema (upper name) with
  | none =>
    rw [withoutSchema_eq_none_iff, hdot] at htail
    exact Dict.isLeastEntry_none fun _ _ h => htail h.1
  | some tail =>
    have hname : '.' ∈ name.toList := by
      refine hdot.1 (Classical.byContradiction fun hmem => ?_)
      rw [withoutSchema_eq_none_iff.2 hmem] at htail
      cases htail
    refine (Dict.isLeastEntry_find? entries fun key _ => endsWithSegments key tail).congr ?_
    intro key _ _
    rw [endsWithSegments_iff, segments_withoutSchema htail]
    exact ⟨fun hsuffix => ⟨hname, hsuffix⟩, And.right⟩

/-- What is found for a dataset: the partition under its name in upper case, or else that found
through the end of the name; the table likewise, with that which has the physical name in
between. -/
structure AnswersBySegments (c : Catalog) (d : String) : Prop where
  partition : ∃ fallback, IsFallback c.partitions d fallback ∧
    c.partition? d = (c.partitions.get? (upper d)).or fallback
  table : ∃ physical fallback,
    c.tables.IsLeastEntry (fun _ t => t.physicalName.map upper = some (upper d)) physical ∧
    IsFallback c.tables d fallback ∧
    c.table? d = ((c.tables.get? (upper d)).or physical).or fallback

theorem answersBySegments (c : Catalog) (d : String) : c.AnswersBySegments d where
  partition := ⟨_, isFallback_findUnqualified? c.partitions d, rfl⟩
  table := by
    have hphysical := c.tables.isLeastEntry_find? fun _ t =>
      t.physicalName.map upper = some (upper d)
    exact ⟨_, _, hphysical.congr fun _ _ _ => by rw [decide_eq_true_eq],
      isFallback_findUnqualified? c.tables d, rfl⟩

/-- Two names of a dataset and two of a column find the same: its partition and the loads it has,
its table and the columns it is limited to, and all names that are configured.  A name that is not
configured is answered by the one asked for. -/
structure AnswersAlike (c : Catalog) (d e a b : String) : Prop where
  partition : c.partition? d = c.partition? e
  supports : ∀ loadType, (c.partition? d).map (fun spec => spec.supports loadType) =
    (c.partition? e).map fun spec => spec.supports loadType
  table : c.table? d = c.table? e
  visibleColumns : c.visibleColumns? d = c.visibleColumns? e
  physicalTable : c.physicalTable d = ((c.table? e).bind TableSpec.physicalName).getD d
  tableDisplayName :
    c.tableDisplayName d = ((c.table? e).bind TableSpec.displayName).getD (lastSegment d)
  physicalColumn : c.physicalColumn d a = ((c.column? e b).bind ColumnSpec.physicalName).getD a
  columnDisplayName : c.columnDisplayName d a = ((c.column? e b).bind ColumnSpec.displayName).getD a

/-- Names that differ in case alone find the same. -/
theorem answersAlike (c : Catalog) (hdataset : upper d = upper e) (hcolumn : upper a = upper b) :
    c.AnswersAlike d e a b := by
  have hpartition : c.partition? d = c.partition? e := by rw [partition?, partition?, hdataset]
  have htable : c.table? d = c.table? e := by rw [table?, table?, hdataset]
  have hcolumns : c.column? d a = c.column? e b := by rw [column?, column?, htable, hcolumn]
  exact {
    partition := hpartition
    supports := fun loadType => by rw [hpartition]
    table := htable
    visibleColumns := by rw [visibleColumns?, visibleColumns?, htable]
    physicalTable := by rw [physicalTable, htable]
    tableDisplayName := by rw [tableDisplayName, htable]
    physicalColumn := by rw [physicalColumn, hcolumns]
    columnDisplayName := by rw [columnDisplayName, hcolumns] }

/-- **What catalogs answer.**  However a catalog is made, its keys are in upper case, names that
differ in case alone find the same, and a name without an entry of its own finds that of the least
key that ends with its segments, whole ones, less the first. -/
theorem answers_of_isBuilt (hc : c.IsBuilt) :
    c.IsCanonical ∧
    (∀ d e a b, upper d = upper e → upper a = upper b → c.AnswersAlike d e a b) ∧
    ∀ d, c.AnswersBySegments d :=
  ⟨hc.isCanonical, fun _ _ _ _ => c.answersAlike, c.answersBySegments⟩

/-! ## Loads of sales -/

/-- Sales of several schemas, one of them with a longer name that ends alike. -/
def salesLoads : Catalog :=
  (((empty.withPartition "hr.daily_sales" ⟨"DAY_ID", none, none⟩).withPartition "us.hr.sales"
    ⟨"US_ID", none, none⟩).withPartition "hr.Sales" ⟨"HR_ID", none, none⟩).withTable "straße"
      { physicalName := some "hq.sales", columns := some (.ofList [("größe", {})]) }

/-- A name of another schema finds the key that ends with a whole segment, and a table is found
through its physical name in any case. -/
theorem answers_salesLoads :
    salesLoads.IsBuilt ∧
    (salesLoads.IsCanonical ∧
      (∀ d e a b, upper d = upper e → upper a = upper b → salesLoads.AnswersAlike d e a b) ∧
      ∀ d, salesLoads.AnswersBySegments d) ∧
    salesLoads.partition? "hq.sales" = some ⟨"HR_ID", none, none⟩ ∧
    salesLoads.visibleColumns? "HQ.Sales" = some ["GRÖSSE"] := by
  have hbuilt : salesLoads.IsBuilt :=
    .withTable _ _ (.withPartition _ _ (.withPartition _ _ (.withPartition _ _ .empty)))
  exact ⟨hbuilt, answers_of_isBuilt hbuilt, by decide +kernel, by decide +kernel⟩

end Catalog

end ReportSql
