import ReportSql.Json.Reading

/-!
# Values that are written and read

A value is written with the entries of its objects in some order, and a reader may meet them in that
order or in the order of their keys.

## Main definitions

* `ReadsBack read w a` — a reader finds `a` in what is written as `w`.
* `JsonNumber.IsHeld`, `Json.IsHeld` — numbers of 64 bits, and values that have no others.

## Main statements

* `Json.value?_document` — the value of the document of a value.
* `Json.sorted_sorted`, `Json.sorted_object_of_ascending` — objects in the order of their keys.
* `readsBack_optional`, `readsBack_list`, `readsBack_dict` — options, lists and dictionaries.
-/

namespace ReportSql

variable {α : Type}

/-! ## Entries in order -/

/-- An entry with the greatest key is put last. -/
theorem insertEntry_eq_append {key : String} {value : α} {entries : List (String × α)}
    (h : ∀ e ∈ entries, e.1 < key) : insertEntry key value entries = entries ++ [(key, value)] := by
  induction entries with
  | nil => rfl
  | cons e rest ih =>
    obtain ⟨k, v⟩ := e
    have hlt : k < key := h (k, v) List.mem_cons_self
    have hne : key ≠ k := fun heq => String.lt_irrefl k (heq ▸ hlt)
    rw [insertEntry, if_neg hne, if_neg (String.lt_asymm hlt),
      ih fun e he => h e (List.mem_cons_of_mem _ he), List.cons_append]

theorem Ascending.of_append_cons {done rest : List (String × α)} {e : String × α}
    (h : Ascending (done ++ e :: rest)) : ∀ x ∈ done, x.1 < e.1 := by
  rw [Ascending, List.map_append, List.pairwise_append] at h
  intro x hx
  exact h.2.2 _ (List.mem_map_of_mem hx) _ (by simp)

namespace Json

@[simp] theorem sorted_null : Json.null.sorted = .null := by simp [sorted]

@[simp] theorem sorted_bool (b : Bool) : (Json.bool b).sorted = .bool b := by simp [sorted]

@[simp] theorem sorted_number (n : JsonNumber) : (Json.number n).sorted = .number n := by
  simp [sorted]

@[simp] theorem sorted_text (s : String) : (Json.text s).sorted = .text s := by simp [sorted]

@[simp] theorem sortedItems_eq_map (items : List Json) : sortedItems items = items.map sorted := by
  induction items with
  | nil => rw [sortedItems, List.map_nil]
  | cons item items ih => rw [sortedItems, ih, List.map_cons]

@[simp] theorem sorted_array (items : List Json) :
    (Json.array items).sorted = .array (items.map sorted) := by
  rw [sorted, sortedItems_eq_map]

theorem sortedEntries_of_ascending {entries done : List (String × Json)}
    (h : Ascending (done ++ entries)) :
    sortedEntries entries done = done ++ entries.map fun e => (e.1, e.2.sorted) := by
  induction entries generalizing done with
  | nil => rw [sortedEntries, List.map_nil, List.append_nil]
  | cons e rest ih =>
    obtain ⟨key, value⟩ := e
    have hkeys : Ascending ((done ++ [(key, value.sorted)]) ++ rest) := by
      simpa [Ascending] using h
    rw [sortedEntries, insertEntry_eq_append h.of_append_cons, ih hkeys, List.map_cons,
      List.append_assoc, List.singleton_append]

/-- An object whose entries are in order keeps their order. -/
theorem sorted_object_of_ascending {entries : List (String × Json)} (h : Ascending entries) :
    (Json.object entries).sorted = .object (entries.map fun e => (e.1, e.2.sorted)) := by
  have hsorted : sortedEntries entries [] = [] ++ entries.map fun e => (e.1, e.2.sorted) :=
    sortedEntries_of_ascending h
  rw [sorted, hsorted, List.nil_append]

theorem ascending_sortedEntries {entries done : List (String × Json)} (h : Ascending done) :
    Ascending (sortedEntries entries done) := by
  induction entries generalizing done with
  | nil => rwa [sortedEntries]
  | cons e rest ih =>
    obtain ⟨key, value⟩ := e
    rw [sortedEntries]
    exact ih (h.insertEntry key value.sorted)

mutual

/-- **A value in order is in order already.** -/
theorem sorted_sorted : ∀ v : Json, v.sorted.sorted = v.sorted
  | .null | .bool _ | .number _ | .text _ => by simp [sorted]
  | .array items => by rw [sorted_array, sorted_array, sorted_items_sorted items]
  | .object entries => by
    have hsorted : ∀ e ∈ sortedEntries entries [], e.2.sorted = e.2 :=
      sorted_snd_of_mem_sortedEntries entries (by simp)
    have hascending : Ascending (sortedEntries entries []) := ascending_sortedEntries .nil
    rw [sorted, sorted_object_of_ascending hascending]
    refine congrArg Json.object ((List.map_congr_left fun e he => ?_).trans (List.map_id' _))
    rw [hsorted e he]

theorem sorted_items_sorted : ∀ items : List Json,
    (items.map sorted).map sorted = items.map sorted
  | [] => rfl
  | item :: items => by
    rw [List.map_cons, List.map_cons, sorted_sorted item, sorted_items_sorted items]

theorem sorted_snd_of_mem_sortedEntries : ∀ (entries : List (String × Json))
    {done : List (String × Json)}, (∀ e ∈ done, e.2.sorted = e.2) →
      ∀ e ∈ sortedEntries entries done, e.2.sorted = e.2
  | [], done, h => by rwa [sortedEntries]
  | (key, value) :: rest, done, h => by
    rw [sortedEntries]
    refine sorted_snd_of_mem_sortedEntries rest fun e he => ?_
    rcases mem_insertEntry he with rfl | he
    · exact sorted_sorted value
    · exact h e he

end

mutual

/-- **The value of the document of a value** is the value with its entries in order. -/
theorem value?_document : ∀ v : Json, v.document.value? = some v.sorted
  | .null | .bool _ | .number _ | .text _ => by simp [document, Document.value?, sorted]
  | .array items => by
    rw [document, Document.value?, values?_documents items, Option.map_some, sorted]
  | .object entries => by
    rw [document, Document.value?, entries?_documentEntries entries [], Option.map_some, sorted]

theorem values?_documents : ∀ items : List Json,
    Document.values? (documents items) = some (sortedItems items)
  | [] => by rw [documents, Document.values?, sortedItems]
  | item :: items => by
    rw [documents, Document.values?, value?_document item, values?_documents items, sortedItems]

theorem entries?_documentEntries : ∀ (entries done : List (String × Json)),
    Document.entries? (documentEntries entries) done = some (sortedEntries entries done)
  | [], done => by rw [documentEntries, Document.entries?, sortedEntries]
  | (key, value) :: rest, done => by
    rw [documentEntries, sortedEntries, ← entries?_documentEntries rest]
    simp [Document.entries?, value?_document value]

end

@[simp] theorem readAny_document (v : Json) : readAny v.document = .ok v.sorted := by
  rw [readAny, value?_document]

@[simp] theorem documents_eq_map (items : List Json) : documents items = items.map document := by
  induction items with
  | nil => rw [documents, List.map_nil]
  | cons item items ih => rw [documents, ih, List.map_cons]

@[simp] theorem documentEntries_eq_map (entries : List (String × Json)) :
    documentEntries entries = entries.map fun e => (.text e.1, e.2.document) := by
  induction entries with
  | nil => rw [documentEntries, List.map_nil]
  | cons e entries ih => rw [documentEntries, ih, List.map_cons]

theorem document_array (items : List Json) :
    (Json.array items).document = .array (items.map document) := by
  rw [document, documents_eq_map]

theorem document_object (entries : List (String × Json)) :
    (Json.object entries).document = .object (entries.map fun e => (.text e.1, e.2.document)) := by
  rw [document, documentEntries_eq_map]

theorem eq_null_of_document {v : Json} (h : v.document = .null) : v = .null := by
  cases v with
  | null => rfl
  | array items => simp [document_array] at h
  | object entries => simp [document_object] at h
  | _ => simp [document] at h

theorem eq_null_of_sorted {v : Json} (h : v.sorted = .null) : v = .null := by
  cases v with
  | null => rfl
  | array items => simp at h
  | object entries => simp [sorted] at h
  | _ => simp at h

end Json

/-! ## Reading back -/

/-- A reader finds `a` in what is written as `w`, whether the entries of objects stand as they were
written or in the order of their keys. -/
def ReadsBack (read : Reader α) (w : Json) (a : α) : Prop :=
  read w.document = .ok a ∧ read w.sorted.document = .ok a

section ReadsBack

variable {read : Reader α}

theorem ok_bind {β : Type} (a : α) (f : α → Except Fault β) : (Except.ok a >>= f) = f a := rfl

theorem ok_map {β : Type} (f : α → β) (a : α) : (Except.ok a : Except Fault α).map f = .ok (f a) :=
  rfl

/-- A record is read from the document of an object entry by entry. -/
theorem readRecord_object {title : String} {fields : List (RecordField α)} {blank : α}
    (entries : List (String × Json)) :
    readRecord title fields blank (Json.object entries).document =
      readFields fields (entries.map fun e => (.text e.1, e.2.document)) [] blank := by
  rw [Json.document_object, readRecord]

/-- What is in order already is read one way. -/
theorem readsBack_of_sorted {w : Json} {a : α} (hw : w.sorted = w) (h : read w.document = .ok a) :
    ReadsBack read w a := ⟨h, hw.symm ▸ h⟩

theorem readsBack_text (s : String) : ReadsBack readText (.text s) s :=
  readsBack_of_sorted (Json.sorted_text s) (by rw [Json.document, readText])

theorem readsBack_flag (b : Bool) : ReadsBack readFlag (.bool b) b :=
  readsBack_of_sorted (Json.sorted_bool b) (by rw [Json.document, readFlag])

theorem readsBack_choice {origin : Origin} {choices : List (String × α)} {name : String} {a : α}
    (h : choices.lookup name = some a) : ReadsBack (readChoice origin choices) (.text name) a := by
  refine readsBack_of_sorted (Json.sorted_text name) ?_
  rw [Json.document]
  cases origin with
  | text => rw [readChoice, readTextChoice, findChoice, h]
  | value => rw [readChoice, readValueChoice, findChoice, h]

/-- What is not `null` is read as a value. -/
theorem readOptional_of_ne_null {d : Document} {a : α} (hd : d ≠ .null) (h : read d = .ok a) :
    readOptional read d = .ok (some a) := by
  unfold readOptional
  split
  · contradiction
  · rw [h]
    rfl

/-- None is written as `null`, which is not read as a value. -/
theorem readsBack_optional {f : α → Json} {o : Option α} (hnull : ∀ a ∈ o, f a ≠ .null)
    (h : ∀ a ∈ o, ReadsBack read (f a) a) : ReadsBack (readOptional read) (.ofOption f o) o := by
  cases o with
  | none => exact readsBack_of_sorted Json.sorted_null (by rw [Json.ofOption, Json.document]; rfl)
  | some a =>
    obtain ⟨hwritten, hsorted⟩ := h a rfl
    have hne := hnull a rfl
    exact ⟨readOptional_of_ne_null (mt Json.eq_null_of_document hne) hwritten,
      readOptional_of_ne_null (mt Json.eq_null_of_document (mt Json.eq_null_of_sorted hne)) hsorted⟩

theorem mapM_map_eq_ok {β : Type} {f : β → Except Fault α} {g : α → β} {as : List α}
    (h : ∀ a ∈ as, f (g a) = .ok a) : (as.map g).mapM f = .ok as := by
  induction as with
  | nil => rfl
  | cons a as ih =>
    obtain ⟨ha, has⟩ := List.forall_mem_cons.1 h
    rw [List.map_cons, List.mapM_cons, ha, ih has]
    rfl

theorem readsBack_list {f : α → Json} {as : List α} (h : ∀ a ∈ as, ReadsBack read (f a) a) :
    ReadsBack (readList read) (.ofList f as) as := by
  constructor
  · rw [Json.ofList, Json.document_array, readList, List.map_map]
    exact mapM_map_eq_ok fun a ha => (h a ha).1
  · rw [Json.ofList, Json.sorted_array, Json.document_array, readList, List.map_map, List.map_map]
    exact mapM_map_eq_ok fun a ha => (h a ha).2

/-- Entries in order are put one after another. -/
theorem readEntriesInto_eq_ok (g : α → Document) {entries : List (String × α)} {done d : Dict α}
    (hd : d.entries = done.entries ++ entries) (h : ∀ e ∈ entries, read (g e.2) = .ok e.2) :
    readEntriesInto read (entries.map fun e => (.text e.1, g e.2)) done = .ok d := by
  induction entries generalizing done with
  | nil =>
    rw [List.append_nil] at hd
    rw [List.map_nil, readEntriesInto, Dict.ext hd]
  | cons e rest ih =>
    obtain ⟨he, hrest⟩ := List.forall_mem_cons.1 h
    have hlast : ∀ x ∈ done.entries, x.1 < e.1 := (hd ▸ d.ascending).of_append_cons
    have hdone : d.entries = (done.insert e.1 e.2).entries ++ rest := by
      change d.entries = insertEntry e.1 e.2 done.entries ++ rest
      rw [hd, insertEntry_eq_append hlast, List.append_assoc, List.singleton_append]
    rw [List.map_cons, readEntriesInto, he]
    exact ih hdone hrest

theorem readsBack_dict {f : α → Json} {d : Dict α}
    (h : ∀ e ∈ d.entries, ReadsBack read (f e.2) e.2) :
    ReadsBack (readDict read) (.ofDict f d) d := by
  have hascending : Ascending (d.entries.map fun e => (e.1, f e.2)) := (d.map f).ascending
  constructor
  · rw [Json.ofDict, Json.document_object, readDict, List.map_map]
    exact readEntriesInto_eq_ok (fun a => (f a).document) rfl fun e he => (h e he).1
  · rw [Json.ofDict, Json.sorted_object_of_ascending hascending, Json.document_object, readDict,
      List.map_map, List.map_map]
    exact readEntriesInto_eq_ok (fun a => (f a).sorted.document) rfl fun e he => (h e he).2

end ReadsBack

end ReportSql
