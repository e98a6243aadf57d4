/-!
# Dictionaries

Finite maps from texts, kept as a list of entries in ascending order of their keys.  The order of
texts is that of their characters, which is also the order of their UTF-8 bytes.  Two dictionaries
with the same entries are equal.

## Main definitions

* `Dict α` — a map from texts to `α`.
* `Dict.insert`, `Dict.get?` — one entry.
* `Dict.ofList` — the map of a list of entries, the last of several under one key.
-/

namespace ReportSql

variable {α β : Type}

/-- A list of entries with one put in at the place of its key. -/
def insertEntry (key : String) (value : α) : List (String × α) → List (String × α)
  | [] => [(key, value)]
  | (k, v) :: rest =>
    if key = k then (key, value) :: rest
    else if key < k then (key, value) :: (k, v) :: rest
    else (k, v) :: insertEntry key value rest

/-- Entries in ascending order of their keys, no key twice. -/
def Ascending (entries : List (String × α)) : Prop := (entries.map Prod.fst).Pairwise (· < ·)

theorem mem_insertEntry {key : String} {value : α} {entries : List (String × α)}
    {e : String × α} (h : e ∈ insertEntry key value entries) : e = (key, value) ∨ e ∈ entries := by
  induction entries with
  | nil => simpa [insertEntry] using h
  | cons e' rest ih =>
    obtain ⟨k, v⟩ := e'
    unfold insertEntry at h
    split at h
    · rcases List.mem_cons.1 h with h | h
      · exact .inl h
      · exact .inr (List.mem_cons_of_mem _ h)
    · split at h
      · exact List.mem_cons.1 h
      · rcases List.mem_cons.1 h with h | h
        · exact .inr (h ▸ List.mem_cons_self)
        · exact (ih h).imp id (List.mem_cons_of_mem _)

theorem mem_keys_insertEntry {key : String} {value : α} {entries : List (String × α)}
    {k : String} (h : k ∈ (insertEntry key value entries).map Prod.fst) :
    k = key ∨ k ∈ entries.map Prod.fst := by
  obtain ⟨e, he, rfl⟩ := List.mem_map.1 h
  rcases mem_insertEntry he with rfl | he
  · exact .inl rfl
  · exact .inr (List.mem_map_of_mem he)

theorem Ascending.insertEntry {entries : List (String × α)} (h : Ascending entries)
    (key : String) (value : α) : Ascending (insertEntry key value entries) := by
  unfold Ascending at h ⊢
  induction entries with
  | nil => simp [ReportSql.insertEntry]
  | cons e rest ih =>
    obtain ⟨k, v⟩ := e
    rw [List.map_cons, List.pairwise_cons] at h
    obtain ⟨hk, hrest⟩ := h
    unfold ReportSql.insertEntry
    split
    · next heq => exact heq ▸ List.pairwise_cons.2 ⟨hk, hrest⟩
    · next hne =>
      split
      · next hlt =>
        refine List.pairwise_cons.2 ⟨fun x hx => ?_, List.pairwise_cons.2 ⟨hk, hrest⟩⟩
        rcases List.mem_cons.1 hx with rfl | hx
        · exact hlt
        · exact String.lt_trans hlt (hk x hx)
      · next hnlt =>
        refine List.pairwise_cons.2 ⟨fun x hx => ?_, ih hrest⟩
        rcases mem_keys_insertEntry hx with rfl | hx
        · refine Classical.byContradiction fun hkx => ?_
          exact hne (String.le_antisymm (String.not_lt.1 hkx) (String.not_lt.1 hnlt))
        · exact hk x hx

/-- A map from texts to `α`. -/
structure Dict (α : Type) where
  entries : List (String × α)
  ascending : Ascending entries

namespace Dict

@[ext] theorem ext {d e : Dict α} (h : d.entries = e.entries) : d = e := by
  obtain ⟨_, _⟩ := d
  obtain ⟨_, _⟩ := e
  cases h
  rfl

instance [DecidableEq α] : DecidableEq (Dict α) := fun d e =>
  if h : d.entries = e.entries then isTrue (ext h) else isFalse fun he => h (he ▸ rfl)

/-- The map without entries. -/
def empty : Dict α := ⟨[], .nil⟩

/-- A map with one entry more, in place of any that had its key. -/
def insert (d : Dict α) (key : String) (value : α) : Dict α :=
  ⟨insertEntry key value d.entries, d.ascending.insertEntry key value⟩

/-- The entries whose keys satisfy a test. -/
def filterKeys (p : String → Bool) (d : Dict α) : Dict α :=
  ⟨d.entries.filter fun e => p e.1, by
    have := d.ascending
    unfold Ascending at this ⊢
    exact this.sublist (List.Sublist.map _ List.filter_sublist)⟩

/-- The map of a list of entries, the last of several under one key. -/
def ofList (entries : List (String × α)) : Dict α :=
  entries.foldl (fun d e => d.insert e.1 e.2) empty

/-- The value under a key. -/
def get? (d : Dict α) (key : String) : Option α := d.entries.lookup key

/-- The keys in ascending order. -/
def keys (d : Dict α) : List String := d.entries.map Prod.fst

/-- A map without entries. -/
def isEmpty (d : Dict α) : Bool := d.entries.isEmpty

/-- The first entry, in order of keys, that satisfies a test. -/
def find? (d : Dict α) (p : String → α → Bool) : Option α :=
  (d.entries.find? fun e => p e.1 e.2).map Prod.snd

/-- The map with every value replaced by its image. -/
def map (f : α → β) (d : Dict α) : Dict β :=
  ⟨d.entries.map fun e => (e.1, f e.2), by
    have := d.ascending
    simpa [Ascending, Function.comp_def] using this⟩

/-- The map with every key replaced by its image, the last of several with one image. -/
def mapKeys (f : String → String) (d : Dict α) : Dict α :=
  ofList (d.entries.map fun e => (f e.1, e.2))

@[simp] theorem get?_empty (key : String) : (empty : Dict α).get? key = none := rfl

theorem lookup_cons_eq_ite (k key : String) (value : α) (rest : List (String × α)) :
    ((key, value) :: rest).lookup k = if k = key then some value else rest.lookup k := by
  by_cases h : k = key
  · simp [h]
  · rw [List.lookup_cons, beq_eq_false_iff_ne.2 h, if_neg h]

theorem lookup_insertEntry (key k : String) (value : α) (entries : List (String × α)) :
    (insertEntry key value entries).lookup k =
      if k = key then some value else entries.lookup k := by
  induction entries with
  | nil => rw [insertEntry, lookup_cons_eq_ite]
  | cons e rest ih =>
    obtain ⟨k', v'⟩ := e
    unfold insertEntry
    split
    · next heq =>
      subst heq
      by_cases h : k = key <;> simp [lookup_cons_eq_ite, h]
    · next hne =>
      split
      · rw [lookup_cons_eq_ite]
      · by_cases h : k = k'
        · subst h
          simp [Ne.symm hne]
        · simp [lookup_cons_eq_ite, h, ih]

/-- The entry put in is found, and no other changes. -/
theorem get?_insert (d : Dict α) (key k : String) (value : α) :
    (d.insert key value).get? k = if k = key then some value else d.get? k :=
  lookup_insertEntry key k value d.entries

theorem lookup_append (key : String) (entries rest : List (String × α)) :
    (entries ++ rest).lookup key = (entries.lookup key).or (rest.lookup key) := by
  induction entries with
  | nil => rfl
  | cons e entries ih =>
    rw [List.cons_append, lookup_cons_eq_ite, lookup_cons_eq_ite, ih]
    split <;> rfl

/-- Of several entries under one key the last is found. -/
theorem get?_ofList (entries : List (String × α)) (key : String) :
    (ofList entries).get? key = entries.reverse.lookup key := by
  suffices h : ∀ d : Dict α, (entries.foldl (fun d e => d.insert e.1 e.2) d).get? key =
      (entries.reverse.lookup key).or (d.get? key) by
    simpa [ofList] using h empty
  induction entries with
  | nil => simp
  | cons e entries ih =>
    intro d
    rw [List.foldl_cons, ih, get?_insert, List.reverse_cons, lookup_append, lookup_cons_eq_ite,
      Option.or_assoc]
    split <;> simp

theorem lookup_eq_none_iff {key : String} {entries : List (String × α)} :
    entries.lookup key = none ↔ key ∉ entries.map Prod.fst := by
  induction entries with
  | nil => simp
  | cons e entries ih =>
    rw [lookup_cons_eq_ite]
    by_cases h : key = e.1 <;> simp [h, ih]

/-- The keys are those under which a value is found. -/
theorem mem_keys_iff {d : Dict α} {key : String} : key ∈ d.keys ↔ (d.get? key).isSome = true := by
  rw [Option.isSome_iff_ne_none, ne_eq, get?, lookup_eq_none_iff, Classical.not_not, keys]

theorem mem_keys_ofList {entries : List (String × α)} {key : String} :
    key ∈ (ofList entries).keys ↔ key ∈ entries.map Prod.fst := by
  rw [mem_keys_iff, get?_ofList, Option.isSome_iff_ne_none, ne_eq, lookup_eq_none_iff,
    Classical.not_not, List.map_reverse, List.mem_reverse]

theorem lookup_eq_some_of_mem {key : String} {value : α} {entries : List (String × α)}
    (hnodup : (entries.map Prod.fst).Nodup) (h : (key, value) ∈ entries) :
    entries.lookup key = some value := by
  induction entries with
  | nil => cases h
  | cons e entries ih =>
    rw [List.map_cons, List.nodup_cons] at hnodup
    rw [lookup_cons_eq_ite]
    rcases List.mem_cons.1 h with rfl | h
    · simp
    · have hne : key ≠ e.1 := by
        rintro rfl
        exact hnodup.1 (List.mem_map.2 ⟨_, h, rfl⟩)
      rw [if_neg hne]
      exact ih hnodup.2 h

/-- Of entries under different keys each is found. -/
theorem get?_ofList_of_mem {key : String} {value : α} {entries : List (String × α)}
    (hnodup : (entries.map Prod.fst).Nodup) (h : (key, value) ∈ entries) :
    (ofList entries).get? key = some value := by
  rw [get?_ofList]
  refine lookup_eq_some_of_mem ?_ (List.mem_reverse.2 h)
  rw [List.map_reverse, List.Nodup, List.pairwise_reverse]
  exact hnodup.imp Ne.symm

end Dict

end ReportSql
