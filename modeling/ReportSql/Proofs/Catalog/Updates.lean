import ReportSql.Proofs.Catalog.Keys

/-!
# Updates of catalogs

What putting a partition or a table into a catalog does to it.  A partition is put in under the
upper case of its dataset.  A table is put in under the name as it is written, and all keys are put
in upper case afterwards; if the name stands before its upper case in order, a table that was
already there comes after the new one and is kept in its place.

## Main definitions

* `Catalog.tableAfter` — the table of a dataset after an update.
* `Catalog.UpdatesApart` — an update keeps to its own dataset.
* `Catalog.LastWriteWins` — and what is put in is found.

## Main statements

* `Catalog.get?_withTable` — what is found after a table is put in.
* `Catalog.lastWriteWins_iff` — what is put in is found if and only if no other table is in the way.
-/

namespace ReportSql.Catalog

open Text

variable {c : Catalog} {d e : String} {t u : TableSpec} {p q : PartitionSpec}

/-! ## One update -/

/-- The table of a dataset after one was put in for it.  One that was there already stays if the
name of the dataset stands before its upper case. -/
def tableAfter (c : Catalog) (d : String) (t : TableSpec) : TableSpec :=
  if d < upper d then (c.tables.get? (upper d)).getD t.normalized else t.normalized

/-- Of the tables whose names have one upper case that of the greatest name is found. -/
theorem get?_withTable_of_greatest {k : String} {s : TableSpec}
    (hget : (c.tables.insert d t).get? k = some s)
    (hgreatest : ∀ k' ∈ (c.tables.insert d t).keys, upper k' = upper k → k' ≤ k) :
    (c.withTable d t).tables.get? (upper k) = some s.normalized := by
  refine Dict.get?_mapKeys_of_greatest ?_ fun k' hk' himage => ?_
  · rw [Dict.get?_map, hget]
    rfl
  · rw [Dict.keys_map] at hk'
    exact hgreatest k' hk' himage

/-- A name with the upper case of the dataset that is put in is this dataset's, or it is the upper
case itself and was there before. -/
theorem IsCanonical.eq_or_of_mem_insert (hc : c.IsCanonical) {k : String}
    (hk : k ∈ (c.tables.insert d t).keys) (hupper : upper k = upper d) :
    k = d ∨ k = upper d ∧ upper d ∈ c.tables.keys := by
  obtain rfl | hk := Dict.mem_keys_insert.1 hk
  · exact .inl rfl
  · rw [hc.tables k hk] at hupper
    exact .inr ⟨hupper, hupper ▸ hk⟩

/-- A table that is put in is found if its dataset's name is the greatest of those with its upper
case. -/
theorem get?_withTable_new
    (hgreatest : ∀ k ∈ (c.tables.insert d t).keys, upper k = upper d → k ≤ d) :
    (c.withTable d t).tables.get? (upper d) = some t.normalized :=
  get?_withTable_of_greatest (by rw [Dict.get?_insert, if_pos rfl]) hgreatest

/-- What is found for a dataset after a table was put in for it. -/
theorem get?_withTable_self (hc : c.IsCanonical) (d : String) (t : TableSpec) :
    (c.withTable d t).tables.get? (upper d) = some (c.tableAfter d t) := by
  rw [tableAfter]
  by_cases hlt : d < upper d
  · rw [if_pos hlt]
    cases hold : c.tables.get? (upper d) with
    | none =>
      refine get?_withTable_new fun k hk hupper => ?_
      obtain rfl | ⟨-, hmem⟩ := hc.eq_or_of_mem_insert hk hupper
      · exact String.le_refl k
      · exact absurd hmem (Dict.get?_eq_none_iff.1 hold)
    | some s =>
      have hne : upper d ≠ d := fun heq => String.lt_irrefl d (by rwa [heq] at hlt)
      have hget : (c.tables.insert d t).get? (upper d) = some s := by
        rw [Dict.get?_insert, if_neg hne, hold]
      have hfound := get?_withTable_of_greatest hget fun k hk hupper => by
        rw [upper_upper] at hupper
        obtain rfl | ⟨rfl, -⟩ := hc.eq_or_of_mem_insert hk hupper
        · exact String.not_lt.1 (String.lt_asymm hlt)
        · exact String.le_refl _
      rw [upper_upper, (hc.columns _ _ hold).normalized_eq] at hfound
      exact hfound
  · rw [if_neg hlt]
    refine get?_withTable_new fun k hk hupper => ?_
    obtain rfl | ⟨rfl, -⟩ := hc.eq_or_of_mem_insert hk hupper
    · exact String.le_refl k
    · exact String.not_lt.1 hlt

/-- An update leaves every table under another key as it is. -/
theorem get?_withTable_of_ne (hc : c.IsCanonical) {key : String} (hne : key ≠ upper d) :
    (c.withTable d t).tables.get? key = c.tables.get? key := by
  have hkeys : ∀ k ∈ (c.tables.insert d t).keys, upper k = key → k = key ∧ k ∈ c.tables.keys := by
    intro k hk himage
    obtain rfl | hk := Dict.mem_keys_insert.1 hk
    · exact absurd himage.symm hne
    · exact ⟨(hc.tables k hk).symm.trans himage, hk⟩
  cases hold : c.tables.get? key with
  | none =>
    refine Dict.get?_mapKeys_eq_none fun k hk himage => ?_
    rw [Dict.keys_map] at hk
    obtain ⟨rfl, hk⟩ := hkeys k hk himage
    exact Dict.get?_eq_none_iff.1 hold hk
  | some s =>
    have hkey : upper key = key := hc.tables key (Dict.mem_keys_of_get? hold)
    have hname : key ≠ d := by
      rintro rfl
      exact hne hkey.symm
    have hget : (c.tables.insert d t).get? key = some s := by
      rw [Dict.get?_insert, if_neg hname, hold]
    have hfound := get?_withTable_of_greatest hget fun k hk himage =>
      (hkeys k hk (himage.trans hkey)).1 ▸ String.le_refl k
    rw [hkey, (hc.columns key s hold).normalized_eq] at hfound
    exact hfound

/-- **What is found after a table is put in.** -/
theorem get?_withTable (hc : c.IsCanonical) (d : String) (t : TableSpec) (key : String) :
    (c.withTable d t).tables.get? key =
      if key = upper d then some (c.tableAfter d t) else c.tables.get? key := by
  split
  · next heq => rw [heq, get?_withTable_self hc]
  · next hne => exact get?_withTable_of_ne hc hne

theorem partitions_withTable (hc : c.IsCanonical) (d : String) (t : TableSpec) :
    (c.withTable d t).partitions = c.partitions := hc.partitions.mapKeys_eq

theorem table?_withTable (hc : c.IsCanonical) (d : String) (t : TableSpec) :
    (c.withTable d t).table? d = some (c.tableAfter d t) := by
  rw [table?, get?_withTable_self hc]
  rfl

/-- A table that stands before its own upper case does not take the place of another. -/
theorem withTable_eq_self (hc : c.IsCanonical) (hlt : d < upper d) {s : TableSpec}
    (hold : c.tables.get? (upper d) = some s) : c.withTable d t = c := by
  have htables : (c.withTable d t).tables = c.tables := by
    refine Dict.eq_of_get? fun key => ?_
    rw [get?_withTable hc, tableAfter, if_pos hlt, hold]
    split
    · next heq => rw [heq, hold, Option.getD_some]
    · rfl
  obtain ⟨partitions, tables⟩ := c
  exact congrArg₂ Catalog.mk (partitions_withTable hc d t) htables

/-! ## Two updates -/

/-- An update of another dataset makes no difference to the table found after one. -/
theorem tableAfter_withTable (hc : c.IsCanonical) (hne : upper d ≠ upper e) :
    (c.withTable d t).tableAfter e u = c.tableAfter e u := by
  rw [tableAfter, tableAfter, get?_withTable_of_ne hc hne.symm]

/-- **Tables of different datasets can be put in in any order.** -/
theorem withTable_comm (hc : c.IsCanonical) (hne : upper d ≠ upper e) :
    (c.withTable d t).withTable e u = (c.withTable e u).withTable d t := by
  have hd : (c.withTable d t).IsCanonical := isCanonical_ofParts _ _
  have he : (c.withTable e u).IsCanonical := isCanonical_ofParts _ _
  have htables : ((c.withTable d t).withTable e u).tables =
      ((c.withTable e u).withTable d t).tables := by
    refine Dict.eq_of_get? fun key => ?_
    rw [get?_withTable hd, get?_withTable he, get?_withTable hc, get?_withTable hc,
      tableAfter_withTable hc hne, tableAfter_withTable hc hne.symm]
    by_cases hkey : key = upper d
    · rw [if_pos hkey, if_pos hkey, if_neg (hkey ▸ hne)]
    · rw [if_neg hkey, if_neg hkey]
  refine congrArg₂ Catalog.mk ?_ htables
  change ((c.withTable d t).withTable e u).partitions = ((c.withTable e u).withTable d t).partitions
  rw [partitions_withTable hd, partitions_withTable hc, partitions_withTable he,
    partitions_withTable hc]

theorem partition?_withPartition (c : Catalog) (d : String) (p : PartitionSpec) :
    (c.withPartition d p).partition? d = some p := by
  rw [partition?, withPartition, Dict.get?_insert, if_pos rfl]
  rfl

/-- **Partitions of different datasets can be put in in any order.** -/
theorem withPartition_comm (hne : upper d ≠ upper e) :
    (c.withPartition d p).withPartition e q = (c.withPartition e q).withPartition d p := by
  refine congrArg₂ Catalog.mk (Dict.eq_of_get? fun key => ?_) rfl
  simp only [withPartition, Dict.get?_insert]
  by_cases hkey : key = upper d
  · rw [if_pos hkey, if_pos hkey, if_neg (hkey ▸ hne)]
  · rw [if_neg hkey, if_neg hkey]

/-! ## The last update -/

/-- Updates keep to their own datasets: those of different ones can be made in any order, and each
leaves what is under other keys, and all that is of the other kind, as it is.  A partition that is
put in is found. -/
structure UpdatesApart (c : Catalog) (d e : String) (t u : TableSpec) (p q : PartitionSpec) :
    Prop where
  tables_comm : upper d ≠ upper e →
    (c.withTable d t).withTable e u = (c.withTable e u).withTable d t
  tables_apart : ∀ key, key ≠ upper d → (c.withTable d t).tables.get? key = c.tables.get? key
  partitions_kept : (c.withTable d t).partitions = c.partitions
  partition_found : (c.withPartition d p).partition? d = some p
  partitions_comm : upper d ≠ upper e →
    (c.withPartition d p).withPartition e q = (c.withPartition e q).withPartition d p
  partitions_apart : ∀ key, key ≠ upper d →
    (c.withPartition d p).partitions.get? key = c.partitions.get? key
  tables_kept : (c.withPartition d p).tables = c.tables

/-- The last update of a dataset counts, and it counts for that dataset alone. -/
structure LastWriteWins (c : Catalog) (d e : String) (t u : TableSpec) (p q : PartitionSpec) :
    Prop extends UpdatesApart c d e t u p q where
  table_found : (c.withTable d t).table? d = some t.normalized

theorem IsCanonical.updatesApart (hc : c.IsCanonical) : c.UpdatesApart d e t u p q where
  tables_comm := withTable_comm hc
  tables_apart _ hne := get?_withTable_of_ne hc hne
  partitions_kept := partitions_withTable hc d t
  partition_found := partition?_withPartition c d p
  partitions_comm := withPartition_comm
  partitions_apart key hne := by rw [Catalog.withPartition, Dict.get?_insert, if_neg hne]
  tables_kept := rfl

/-- **When the last update counts.**  Updates of a catalog always keep to their own datasets.  A
table that is put in is found if and only if its dataset does not stand before its own upper case,
or no other table is there already; otherwise the catalog stays as it was. -/
theorem lastWriteWins_iff (d e : String) (t u : TableSpec) (p q : PartitionSpec)
    (hc : c.IsBuilt) :
    (c.LastWriteWins d e t u p q ↔
      (d < upper d → ∀ s, c.tables.get? (upper d) = some s → s = t.normalized)) ∧
    c.UpdatesApart d e t u p q ∧
    (d < upper d → ∀ s, c.tables.get? (upper d) = some s → c.withTable d t = c) := by
  have hcanonical := hc.isCanonical
  have hfound := table?_withTable hcanonical d t
  refine ⟨⟨fun h hlt s hold => ?_, fun h => ⟨hcanonical.updatesApart, ?_⟩⟩,
    hcanonical.updatesApart, fun hlt s hold => withTable_eq_self hcanonical hlt hold⟩
  · rw [h.table_found, Option.some_inj, tableAfter, if_pos hlt, hold] at hfound
    exact hfound.symm
  · rw [hfound, Option.some_inj, tableAfter]
    split
    · next hlt =>
      cases hold : c.tables.get? (upper d) with
      | none => rfl
      | some s => exact h hlt s hold
    · rfl

/-! ## Two tables of one dataset -/

/-- A catalog with one table.  The small letter of its name stands before the capital. -/
def oldStock : Catalog := empty.withTable "Ÿ" { physicalName := some "OLD" }

/-- A name that stands after its upper case, as one of small ASCII letters does: the new table is
found. -/
theorem lastWriteWins_stock :
    oldStock.IsBuilt ∧
    oldStock.LastWriteWins "stock" "ÿ" { physicalName := some "NEW" } {} ⟨"LOAD", none, none⟩
      ⟨"ID", none, none⟩ := by
  have hbuilt : oldStock.IsBuilt := .withTable _ _ .empty
  exact ⟨hbuilt, (lastWriteWins_iff "stock" "ÿ" { physicalName := some "NEW" } {}
    ⟨"LOAD", none, none⟩ ⟨"ID", none, none⟩ hbuilt).1.2 fun hlt =>
      absurd hlt (by decide +kernel)⟩

/-- **An update that is lost.**  A table put in under a small letter that stands before its capital
does not take the place of the one under the capital. -/
theorem not_lastWriteWins_oldStock :
    oldStock.IsBuilt ∧
    (oldStock.withTable "ÿ" { physicalName := some "NEW" }).table? "ÿ" =
      some { physicalName := some "OLD" } ∧
    ¬oldStock.LastWriteWins "ÿ" "stock" { physicalName := some "NEW" } {} ⟨"LOAD", none, none⟩
      ⟨"ID", none, none⟩ := by
  have hlost : (oldStock.withTable "ÿ" { physicalName := some "NEW" }).table? "ÿ" =
      some { physicalName := some "OLD" } := by decide +kernel
  refine ⟨.withTable _ _ .empty, hlost, fun h => ?_⟩
  have hfound := hlost.symm.trans h.table_found
  exact absurd hfound (by decide +kernel)

end ReportSql.Catalog
