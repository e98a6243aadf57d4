import Mathlib.Data.List.Nodup
import ReportSql.Catalog.Reading
import ReportSql.Proofs.Compare.UpperCase

/-!
# The keys of catalogs

A catalog is read from a text or made by putting entries in one after the other.  However it is
made, its keys are in upper case: those of its partitions, of its tables and of their columns.

Dictionaries are compared by what is found in them.  Where several keys have one image the entry of
the greatest of them is kept, so an image is found through the greatest key that has it.

## Main definitions

* `Dict.IsUpper` — every key of a dictionary is its own upper case.
* `Catalog.IsBuilt` — the catalogs that can be made.
* `Catalog.IsCanonical` — all keys of a catalog are in upper case.

## Main statements

* `Dict.eq_of_get?` — dictionaries in which the same is found are equal.
* `Dict.get?_mapKeys_of_greatest` — the entry found under an image.
* `Catalog.IsBuilt.isCanonical` — a catalog that can be made has its keys in upper case.
-/

namespace ReportSql

open Text

/-! ## Dictionaries -/

namespace Dict

variable {α β : Type} {d e : Dict α} {f : String → String} {key : String} {value : α}

theorem nodup_keys (d : Dict α) : d.keys.Nodup := by
  refine List.Pairwise.imp (fun {a b} hlt => ?_) d.ascending
  rintro rfl
  exact String.lt_irrefl a hlt

/-- The entries are the keys with what is found under them. -/
theorem mem_entries_iff : (key, value) ∈ d.entries ↔ d.get? key = some value := by
  constructor
  · exact lookup_eq_some_of_mem d.nodup_keys
  · intro h
    obtain ⟨before, after, hentries, -⟩ := List.lookup_eq_some_iff.1 h
    rw [hentries]
    exact List.mem_append_right _ List.mem_cons_self

/-- Of entries under different keys each is in the dictionary of them all. -/
theorem mem_entries_ofList {entries : List (String × α)} {entry : String × α}
    (hnodup : (entries.map Prod.fst).Nodup) :
    entry ∈ (ofList entries).entries ↔ entry ∈ entries := by
  obtain ⟨key, value⟩ := entry
  rw [mem_entries_iff]
  constructor
  · intro h
    rw [get?_ofList] at h
    obtain ⟨before, after, hsplit, -⟩ := List.lookup_eq_some_iff.1 h
    rw [← List.mem_reverse, hsplit]
    simp
  · exact get?_ofList_of_mem hnodup

/-- **Dictionaries in which the same is found are equal.** -/
theorem eq_of_get? (h : ∀ key, d.get? key = e.get? key) : d = e := by
  have hnodup : ∀ d : Dict α, d.entries.Nodup := fun d => List.Nodup.of_map _ d.nodup_keys
  have hperm : d.entries.Perm e.entries := by
    refine (List.perm_ext_iff_of_nodup (hnodup d) (hnodup e)).2 fun ⟨key, value⟩ => ?_
    rw [mem_entries_iff, mem_entries_iff, h]
  have hsorted : ∀ d : Dict α, d.entries.Pairwise (fun x y => x.1 < y.1) := fun d =>
    List.pairwise_map.1 d.ascending
  refine ext (hperm.eq_of_pairwise (fun x y _ _ hxy hyx => ?_) (hsorted d) (hsorted e))
  exact absurd (String.lt_trans hxy hyx) (String.lt_irrefl _)

theorem get?_eq_none_iff : d.get? key = none ↔ key ∉ d.keys := lookup_eq_none_iff

theorem mem_keys_of_get? (h : d.get? key = some value) : key ∈ d.keys := by
  rw [mem_keys_iff, h]
  rfl

theorem mem_keys_insert {k : String} : k ∈ (d.insert key value).keys ↔ k = key ∨ k ∈ d.keys := by
  simp only [mem_keys_iff, get?_insert]
  by_cases h : k = key <;> simp [h]

theorem get?_map (f : α → β) (d : Dict α) (key : String) :
    (d.map f).get? key = (d.get? key).map f := by
  have hentries : ∀ entries : List (String × α),
      (entries.map fun e => (e.1, f e.2)).lookup key = (entries.lookup key).map f := by
    intro entries
    induction entries with
    | nil => rfl
    | cons e entries ih =>
      rw [List.map_cons, lookup_cons_eq_ite, lookup_cons_eq_ite, ih]
      split <;> rfl
  exact hentries d.entries

@[simp] theorem keys_map (f : α → β) (d : Dict α) : (d.map f).keys = d.keys := by
  simp [keys, map]

theorem mem_keys_mapKeys : key ∈ (d.mapKeys f).keys ↔ ∃ k ∈ d.keys, f k = key := by
  rw [mapKeys, mem_keys_ofList]
  simp [keys]

/-- **Of the keys with one image the greatest has its entry kept.** -/
theorem get?_mapKeys_of_greatest {k : String} (hget : d.get? k = some value)
    (hgreatest : ∀ k' ∈ d.keys, f k' = f k → k' ≤ k) :
    (d.mapKeys f).get? (f k) = some value := by
  obtain ⟨before, after, hentries, -⟩ := List.lookup_eq_some_iff.1 hget
  -- the keys that follow `k` are greater, so none of them has the image of `k`
  have hafter : ∀ e ∈ after, f e.1 ≠ f k := by
    intro e he himage
    have hmem : e.1 ∈ d.keys := by
      rw [keys, hentries]
      exact List.mem_map_of_mem (List.mem_append_right _ (List.mem_cons_of_mem _ he))
    have hsorted := List.pairwise_map.1 d.ascending
    rw [hentries, List.pairwise_append, List.pairwise_cons] at hsorted
    exact String.not_lt.2 (hgreatest e.1 hmem himage) (hsorted.2.1.1 e he)
  have hnone : (after.map fun e => (f e.1, e.2)).reverse.lookup (f k) = none := by
    rw [lookup_eq_none_iff, List.map_reverse, List.mem_reverse, List.map_map, List.mem_map]
    rintro ⟨e, he, himage⟩
    exact hafter e he himage
  rw [mapKeys, get?_ofList, hentries, List.map_append, List.map_cons, List.reverse_append,
    List.reverse_cons, List.append_assoc, lookup_append, hnone, Option.none_or, lookup_append,
    lookup_cons_eq_ite, if_pos rfl, Option.some_or]

/-- What is found under an image is an entry of a key that has it. -/
theorem exists_of_get?_mapKeys (h : (d.mapKeys f).get? key = some value) :
    ∃ k, d.get? k = some value ∧ f k = key := by
  rw [mapKeys, get?_ofList] at h
  obtain ⟨before, after, hentries, -⟩ := List.lookup_eq_some_iff.1 h
  have hmem : (key, value) ∈ d.entries.map fun e => (f e.1, e.2) := by
    rw [← List.mem_reverse, hentries]
    exact List.mem_append_right _ List.mem_cons_self
  obtain ⟨⟨k, value'⟩, hentry, himage⟩ := List.mem_map.1 hmem
  obtain ⟨rfl, rfl⟩ := Prod.mk.inj himage
  exact ⟨k, mem_entries_iff.1 hentry, rfl⟩

theorem get?_mapKeys_eq_none (h : ∀ k ∈ d.keys, f k ≠ key) : (d.mapKeys f).get? key = none := by
  rw [get?_eq_none_iff, mem_keys_mapKeys]
  rintro ⟨k, hk, hkey⟩
  exact h k hk hkey

/-- Every key is its own upper case. -/
def IsUpper (d : Dict α) : Prop := ∀ key ∈ d.keys, upper key = key

theorem IsUpper.insert (h : d.IsUpper) (key : String) (value : α) :
    (d.insert (upper key) value).IsUpper := by
  intro k hk
  obtain rfl | hk := mem_keys_insert.1 hk
  · exact upper_upper key
  · exact h k hk

theorem isUpper_mapKeys (d : Dict α) : (d.mapKeys upper).IsUpper := by
  intro key hkey
  obtain ⟨k, -, rfl⟩ := mem_keys_mapKeys.1 hkey
  exact upper_upper k

/-- Keys in upper case stay as they are. -/
theorem IsUpper.mapKeys_eq (h : d.IsUpper) : d.mapKeys upper = d := by
  refine eq_of_get? fun key => ?_
  cases hget : d.get? key with
  | some value =>
    have hkey := h key (mem_keys_of_get? hget)
    have hfound := get?_mapKeys_of_greatest (f := upper) hget fun k hk himage => by
      rw [h k hk, hkey] at himage
      exact himage ▸ String.le_refl k
    rwa [hkey] at hfound
  | none =>
    refine get?_mapKeys_eq_none fun k hk himage => ?_
    rw [h k hk] at himage
    exact get?_eq_none_iff.1 hget (himage ▸ hk)

end Dict

/-! ## Catalogs -/

/-- A table whose columns have their keys in upper case. -/
def TableSpec.IsUpper (t : TableSpec) : Prop := ∀ columns ∈ t.columns, columns.IsUpper

theorem TableSpec.isUpper_normalized (t : TableSpec) : t.normalized.IsUpper := by
  intro columns hcolumns
  obtain ⟨columns, -, rfl⟩ := Option.mem_map.1 hcolumns
  exact columns.isUpper_mapKeys

theorem TableSpec.IsUpper.normalized_eq {t : TableSpec} (h : t.IsUpper) : t.normalized = t := by
  obtain ⟨physicalName, displayName, columns⟩ := t
  cases columns with
  | none => rfl
  | some columns =>
    have hcolumns : columns.mapKeys upper = columns := (h columns rfl).mapKeys_eq
    simp [normalized, hcolumns]

namespace Catalog

/-- The catalogs that can be made: the one without entries, those of texts, and those with a
partition or a table put into another. -/
inductive IsBuilt : Catalog → Prop
  | empty : IsBuilt empty
  | ofText {s : String} {c : Catalog} : ofText s = .ok c → IsBuilt c
  | withPartition {c : Catalog} (dataset : String) (spec : PartitionSpec) :
      IsBuilt c → IsBuilt (c.withPartition dataset spec)
  | withTable {c : Catalog} (dataset : String) (table : TableSpec) :
      IsBuilt c → IsBuilt (c.withTable dataset table)

/-- All keys are in upper case: those of partitions, of tables and of their columns. -/
structure IsCanonical (c : Catalog) : Prop where
  partitions : c.partitions.IsUpper
  tables : c.tables.IsUpper
  columns : ∀ key table, c.tables.get? key = some table → table.IsUpper

variable {c : Catalog}

theorem isCanonical_ofParts (partitions : Dict PartitionSpec) (tables : Dict TableSpec) :
    (ofParts partitions tables).IsCanonical where
  partitions := partitions.isUpper_mapKeys
  tables := Dict.isUpper_mapKeys _
  columns key table hget := by
    obtain ⟨k, hk, -⟩ := Dict.exists_of_get?_mapKeys hget
    rw [Dict.get?_map, Option.map_eq_some_iff] at hk
    obtain ⟨table, -, rfl⟩ := hk
    exact table.isUpper_normalized

theorem IsCanonical.withPartition (h : c.IsCanonical) (dataset : String) (spec : PartitionSpec) :
    (c.withPartition dataset spec).IsCanonical :=
  ⟨h.partitions.insert dataset spec, h.tables, h.columns⟩

/-- **A catalog that can be made has its keys in upper case.** -/
theorem IsBuilt.isCanonical (h : c.IsBuilt) : c.IsCanonical := by
  induction h with
  | empty => exact isCanonical_ofParts .empty .empty
  | ofText hread =>
    rw [Catalog.ofText] at hread
    cases hparts : readParts.runText _ with
    | error e =>
      rw [hparts] at hread
      cases hread
    | ok parts =>
      rw [hparts] at hread
      cases hread
      exact isCanonical_ofParts parts.1 parts.2
  | withPartition dataset spec _ ih => exact ih.withPartition dataset spec
  | withTable dataset table _ _ => exact isCanonical_ofParts _ _

end Catalog

end ReportSql
