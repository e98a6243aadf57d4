import ReportSql.Proofs.Store.Files
import ReportSql.Service

/-!
# Runs of a store

A run is a history of one store and the files: the files change, and the store is opened, asked for
its catalog and told to read its file again.  Whatever happens to the files, the store holds what it
read from its file at one moment, together with the time that the file had at that moment, and a
failure to read leaves both as they are.

## Main definitions

* `CatalogStore.Call` — the uses of a store.
* `CatalogStore.Run` — the runs of a store.
* `CatalogStore.Faithful` — a store that holds what it read.

## Main statements

* `CatalogStore.refresh_cases`, `CatalogStore.reload_cases` — all that a look at the file can do.
* `CatalogStore.Run.faithful` — what every run keeps.
* `CatalogStore.sound_of_run` — the same, and what failures leave.
* `Service.reload_of_error` — a service that cannot read its catalog again.
-/

namespace ReportSql

/-- A catalog is read from the text of a file. -/
theorem readCatalog_eq_ok_iff {files : Files} {path : String} {c : Catalog} :
    readCatalog files path = .ok c ↔
      ∃ text time, files.find path = .ok (.file (.text text) time) ∧
        parseCatalog text = .ok c := by
  unfold readCatalog Files.read
  cases files.find path with
  | error e => simp
  | ok entry =>
    cases entry with
    | directory time => simp
    | file content time => cases content <;> simp

namespace CatalogStore

variable {files : Files} {path : String} {store : CatalogStore} {past : List Files}
  {may : List Files → Files → Prop}

theorem isStale_eq_false_iff {time : Int} :
    store.isStale time = false ↔ ∃ loaded, store.loaded = some loaded ∧ time ≤ loaded := by
  unfold isStale
  cases store.loaded <;> simp

/-- **All that a look at the file can do.**  The store loses its catalog with the file, or takes
over the catalog of the file with its time, or stays as it is. -/
theorem refresh_cases (store : CatalogStore) (files : Files) :
    (files.find store.path = .error .notFound ∧
      (store.refresh files).1 = { store with current := .empty, loaded := none }) ∨
    (∃ text time c, files.find store.path = .ok (.file (.text text) time) ∧
      parseCatalog text = .ok c ∧
      (store.refresh files).1 = { store with current := c, loaded := some time }) ∨
    ((store.refresh files).1 = store ∧
      (files.find store.path = .error .notFound → store.loaded = none) ∧
      ∀ text time c, files.find store.path = .ok (.file (.text text) time) →
        parseCatalog text = .ok c → ∃ loaded, store.loaded = some loaded ∧ time ≤ loaded) := by
  unfold refresh
  cases hfind : files.find store.path with
  | error e =>
    rw [Files.modified_eq_error_iff.2 hfind]
    by_cases he : e = .notFound
    · subst he
      cases hloaded : store.loaded with
      | some loaded => exact .inl ⟨rfl, rfl⟩
      | none => exact .inr (.inr ⟨rfl, fun _ => rfl, by simp⟩)
    · refine .inr (.inr ⟨?_, by simp [he], by simp⟩)
      cases e <;> first | exact absurd rfl he | rfl
  | ok entry =>
    rw [Files.modified_eq_ok_iff.2 ⟨entry, hfind, rfl⟩]
    dsimp only
    cases hstale : store.isStale entry.modified with
    | false =>
      refine .inr (.inr ⟨rfl, by simp, ?_⟩)
      rintro text time c heq -
      cases heq
      exact isStale_eq_false_iff.1 hstale
    | true =>
      rw [if_pos rfl]
      cases hread : readCatalog files store.path with
      | ok c =>
        obtain ⟨text, time, hfile, hparse⟩ := readCatalog_eq_ok_iff.1 hread
        rw [hfind] at hfile
        cases hfile
        exact .inr (.inl ⟨text, time, c, rfl, hparse, rfl⟩)
      | error e =>
        refine .inr (.inr ⟨rfl, by simp, ?_⟩)
        rintro text time c heq hparse
        have hok := readCatalog_eq_ok_iff.2 ⟨text, time, hfind.trans heq, hparse⟩
        rw [hread] at hok
        cases hok

/-- **All that reading the file again can do.**  The store takes over the catalog of the file with
its time, or the file cannot be read and the store stays as it is. -/
theorem reload_cases (store : CatalogStore) (files : Files) :
    (∃ text time c, files.find store.path = .ok (.file (.text text) time) ∧
      parseCatalog text = .ok c ∧
      store.reload files = (.ok c, { store with current := c, loaded := some time })) ∨
    ∃ e, store.reload files = (.error e, store) := by
  unfold reload
  cases hfind : files.find store.path with
  | error e =>
    rw [Files.modified_eq_error_iff.2 hfind]
    exact .inr ⟨_, rfl⟩
  | ok entry =>
    rw [Files.modified_eq_ok_iff.2 ⟨entry, hfind, rfl⟩]
    dsimp only
    cases hread : readCatalog files store.path with
    | error e => exact .inr ⟨e, rfl⟩
    | ok c =>
      obtain ⟨text, time, hfile, hparse⟩ := readCatalog_eq_ok_iff.1 hread
      rw [hfind] at hfile
      cases hfile
      exact .inl ⟨text, time, c, rfl, hparse, rfl⟩

/-! ## Runs -/

/-- The uses of a store. -/
inductive Call where
  | open
  | snapshot
  | reload
deriving DecidableEq, Repr

/-- The store after a use.  It is opened anew for the path that it has. -/
def Call.run (files : Files) (store : CatalogStore) : Call → CatalogStore
  | .open => (ofPath files store.path).1
  | .snapshot => (store.snapshot files).2.1
  | .reload => (store.reload files).2

/-- The runs of a store for the file at a path, from its opening on.  A run is given by the files as
they were at every moment so far, the last ones first, and by the store as it is now.  The files of
some moments may become others as `may` allows. -/
inductive Run (may : List Files → Files → Prop) (path : String) :
    List Files → CatalogStore → Prop where
  | opened (files : Files) : Run may path [files] (ofPath files path).1
  | changed {past : List Files} {store : CatalogStore} {files : Files} :
      Run may path past store → may past files → Run may path (files :: past) store
  | called {files : Files} {past : List Files} {store : CatalogStore} (call : Call) :
      Run may path (files :: past) store →
        Run may path (files :: past) (call.run files store)

/-- The text and the time of the file at a path at one of some moments. -/
def WasRead (path : String) (past : List Files) (text : String) (time : Int) : Prop :=
  ∃ files ∈ past, files.find path = .ok (.file (.text text) time)

/-- A store that holds what it read: nothing without a time, and with a time the catalog of a text
that its file had at that time. -/
structure Faithful (path : String) (past : List Files) (store : CatalogStore) : Prop where
  path_eq : store.path = path
  unloaded : store.loaded = none → store.current = .empty
  loaded : ∀ time, store.loaded = some time →
    ∃ text, WasRead path past text time ∧ parseCatalog text = .ok store.current

namespace Faithful

/-- A store that was never used. -/
theorem new (path : String) (past : List Files) : Faithful path past { path } where
  path_eq := rfl
  unloaded _ := rfl
  loaded _ h := nomatch h

/-- A store that has taken over the catalog of its file. -/
theorem ofText {text : String} {time : Int} {c : Catalog} (hmem : files ∈ past)
    (hfind : files.find path = .ok (.file (.text text) time)) (hparse : parseCatalog text = .ok c) :
    Faithful path past { path, current := c, loaded := some time } where
  path_eq := rfl
  unloaded h := nomatch h
  loaded time' h := by
    cases h
    exact ⟨text, ⟨files, hmem, hfind⟩, hparse⟩

/-- What was read stays what was read, whatever becomes of the files. -/
theorem cons (h : Faithful path past store) (files : Files) :
    Faithful path (files :: past) store where
  path_eq := h.path_eq
  unloaded := h.unloaded
  loaded time htime := by
    obtain ⟨text, ⟨before, hmem, hfind⟩, hparse⟩ := h.loaded time htime
    exact ⟨text, ⟨before, List.mem_cons_of_mem _ hmem, hfind⟩, hparse⟩

theorem refresh (h : Faithful path past store) (hmem : files ∈ past) :
    Faithful path past (store.refresh files).1 := by
  obtain rfl := h.path_eq
  rcases store.refresh_cases files with
    ⟨-, heq⟩ | ⟨text, time, c, hfind, hparse, heq⟩ | ⟨heq, -, -⟩
  · rw [heq]
    exact .new store.path past
  · rw [heq]
    exact .ofText hmem hfind hparse
  · rwa [heq]

theorem run (h : Faithful path past store) (hmem : files ∈ past) (call : Call) :
    Faithful path past (call.run files store) := by
  cases call with
  | «open» =>
    obtain rfl := h.path_eq
    exact (Faithful.new store.path past).refresh hmem
  | snapshot => exact h.refresh hmem
  | reload =>
    unfold Call.run
    rcases store.reload_cases files with ⟨text, time, c, hfind, hparse, heq⟩ | ⟨e, heq⟩
    · rw [heq]
      obtain rfl := h.path_eq
      exact .ofText hmem hfind hparse
    · rwa [heq]

end Faithful

/-- **Every run leaves a store that holds what it read.** -/
theorem Run.faithful (h : Run may path past store) : Faithful path past store := by
  induction h with
  | opened files => exact (Faithful.new path [files]).refresh (by simp)
  | changed _ _ ih => exact ih.cons _
  | called call _ ih => exact ih.run (by simp) call

/-! ## Failures -/

/-- A file that cannot be looked at, or cannot be read, or whose text is no catalog.  A file that is
gone is none of these. -/
inductive Unreadable (files : Files) (path : String) : Prop where
  | inaccessible (e : FileError) (h : files.modified path = .error e) (he : e ≠ .notFound)
  | unreadable (time : Int) (e : FileError) (h : files.modified path = .ok time)
      (hread : readCatalog files path = .error (.unreadable e))
  | malformed (time : Int) (fault : Fault) (h : files.modified path = .ok time)
      (hread : readCatalog files path = .error (.malformed fault))

/-- A look at a file that cannot be read changes nothing. -/
theorem refresh_of_unreadable (store : CatalogStore) (h : Unreadable files store.path) :
    (store.refresh files).1 = store := by
  rcases store.refresh_cases files with ⟨hfind, -⟩ | ⟨text, time, c, hfind, hparse, -⟩ | ⟨heq, -, -⟩
  · have hgone := Files.modified_eq_error_iff.2 hfind
    cases h with
    | inaccessible e h he =>
      rw [hgone] at h
      cases h
      exact absurd rfl he
    | unreadable time e h => rw [hgone] at h; cases h
    | malformed time fault h => rw [hgone] at h; cases h
  · have hread := readCatalog_eq_ok_iff.2 ⟨text, time, hfind, hparse⟩
    cases h with
    | inaccessible e h =>
      rw [Files.modified_eq_error_iff, hfind] at h
      cases h
    | unreadable time e h hfail => rw [hread] at hfail; cases hfail
    | malformed time fault h hfail => rw [hread] at hfail; cases hfail
  · exact heq

/-- A file that cannot be read again changes nothing. -/
theorem reload_of_error {e : CatalogError} (h : (store.reload files).1 = .error e) :
    (store.reload files).2 = store := by
  rcases store.reload_cases files with ⟨text, time, c, -, -, heq⟩ | ⟨e', heq⟩
  · rw [heq] at h
    cases h
  · rw [heq]

/-- What is true of a store at every moment of a run.  Its catalog is empty or that of one whole
text of its file, read while the file had the time that the store remembers.  A use of the store
that fails to read leaves the catalog and the time as they are, and a store opened on a file that
cannot be read is as new. -/
structure Sound (path : String) (files : Files) (past : List Files) (store : CatalogStore) :
    Prop where
  current : store.current = .empty ∨
    ∃ text time, WasRead path (files :: past) text time ∧ parseCatalog text = .ok store.current
  unloaded : store.loaded = none → store.current = .empty
  loaded : ∀ time, store.loaded = some time →
    ∃ text, WasRead path (files :: past) text time ∧ parseCatalog text = .ok store.current
  reload_failed : ∀ e, (store.reload files).1 = .error e →
    (Call.reload.run files store).current = store.current ∧
      (Call.reload.run files store).loaded = store.loaded
  snapshot_failed : Unreadable files path →
    (Call.snapshot.run files store).current = store.current ∧
      (Call.snapshot.run files store).loaded = store.loaded
  open_failed : Unreadable files path →
    (Call.open.run files store).current = .empty ∧ (Call.open.run files store).loaded = none

/-- **Whatever happens to the files, a store holds what it read**, and failures leave it as it
is. -/
theorem sound_of_run (h : Run may path (files :: past) store) : Sound path files past store := by
  have hfaithful := h.faithful
  obtain rfl := hfaithful.path_eq
  refine ⟨?_, hfaithful.unloaded, hfaithful.loaded, ?_, ?_, ?_⟩
  · cases hloaded : store.loaded with
    | none => exact .inl (hfaithful.unloaded hloaded)
    | some time =>
      obtain ⟨text, hread, hparse⟩ := hfaithful.loaded time hloaded
      exact .inr ⟨text, time, hread, hparse⟩
  · intro e he
    have hsame : Call.reload.run files store = store := reload_of_error he
    rw [hsame]
    exact ⟨rfl, rfl⟩
  · intro hfails
    have hsame : Call.snapshot.run files store = store := refresh_of_unreadable store hfails
    rw [hsame]
    exact ⟨rfl, rfl⟩
  · intro hfails
    have hnew : Call.open.run files store = { path := store.path } :=
      refresh_of_unreadable { path := store.path } hfails
    rw [hnew]
    exact ⟨rfl, rfl⟩

end CatalogStore

/-- A service that cannot read its catalog again stays as it is. -/
theorem Service.reload_of_error {service : Service} {files : Files} {e : ServiceError}
    (h : (service.reload files).1 = .error e) : (service.reload files).2 = service := by
  cases service with
  | fixed c => rfl
  | stored store =>
    cases houtcome : (store.reload files).1 with
    | ok c => simp [Service.reload, houtcome] at h
    | error e => simp [Service.reload, CatalogStore.reload_of_error houtcome]

/-! ## A file whose time turns back -/

namespace CatalogStore

/-- A catalog file. -/
def catalogPath : String := "catalog.json"

/-- A catalog of sales, whose loads are kept in a column. -/
def salesText : String :=
  "\x7b\"partitions\":\x7b\"sales\":\x7b\"load_id_column\":\"LOAD\"\x7d\x7d\x7d"

/-- A store that has read the catalog of sales from a file of time 5. -/
def salesStore : CatalogStore where
  path := catalogPath
  current := ⟨.ofList [("SALES", ⟨"LOAD", none, none⟩)], .empty⟩
  loaded := some 5

/-- The catalog of sales in a file. -/
def salesFiles : Files := Files.write .empty catalogPath (.text salesText) 5

/-- An empty catalog in the place of the catalog of sales, with an earlier time. -/
def earlierFiles : Files := salesFiles.write catalogPath (.text "\x7b\x7d") 3

/-- The file of sales, replaced by an empty catalog with an earlier time and then by text that is
none, the last state first. -/
def turnedBack : List Files :=
  [earlierFiles.write catalogPath (.text "\x7b") 9, earlierFiles, salesFiles]

/-- The store goes on to hold the catalog of sales, which it read first. -/
theorem sound_turnedBack :
    ∃ files past, turnedBack = files :: past ∧
      Run (fun _ _ => True) catalogPath (files :: past) salesStore ∧
      Sound catalogPath files past salesStore := by
  have hopened : Run (fun _ _ => True) catalogPath [salesFiles] salesStore :=
    .opened salesFiles
  have hearlier : Run (fun _ _ => True) catalogPath [earlierFiles, salesFiles] salesStore :=
    hopened.changed trivial
  have hbroken : Run (fun _ _ => True) catalogPath turnedBack salesStore :=
    (hearlier.called .snapshot).changed trivial
  have hreloaded := hbroken.called .reload
  exact ⟨_, _, rfl, hreloaded, sound_of_run hreloaded⟩

end CatalogStore

end ReportSql
