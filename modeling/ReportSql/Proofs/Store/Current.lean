import ReportSql.Proofs.Store.Run

/-!
# Stores that are up to date

As long as the times of its file advance, a store cannot be told from one that reads the file
whenever it is asked.  The time that a store remembers was seen at its file when the catalog was
read, and what was put there since is later, so a file that is not later still has the text that the
catalog was read from.

## Main definitions

* `CatalogStore.Advances` — the steps on a file by which its times advance.
* `CatalogStore.UpToDate` — a store that need not read a file that is not later.

## Main statements

* `CatalogStore.Advances.find_cases` — what can be found after such a step.
* `CatalogStore.shows_file_of_run` — a snapshot shows the file as it is.
-/

namespace ReportSql.CatalogStore

variable {files now : Files} {past : List Files} {path : String} {store : CatalogStore}

/-! ## Steps on the file -/

/-- A time later than all that the file at a path had at some moments. -/
def LaterThanAll (path : String) (past : List Files) (time : Int) : Prop :=
  ∀ files ∈ past, ∀ seen, files.modified path = .ok seen → seen < time

/-- The steps on the file at a path by which its times advance: what is put there is later than all
that was there before, and a touch does not turn its time back.  Other files may change in any
way. -/
inductive Advances (path : String) : List Files → Files → Prop where
  | write {now : Files} {past : List Files} (content : FileContent) (time : Int)
      (h : LaterThanAll path (now :: past) time) :
      Advances path (now :: past) (now.write path content time)
  | makeDirectory {now : Files} {past : List Files} (time : Int)
      (h : LaterThanAll path (now :: past) time) :
      Advances path (now :: past) (now.makeDirectory path time)
  | touch {now : Files} {past : List Files} (time : Int)
      (h : ∀ seen, now.modified path = .ok seen → seen ≤ time) :
      Advances path (now :: past) (now.touch path time)
  | remove {now : Files} {past : List Files} : Advances path (now :: past) (now.remove path)
  | elsewhere {now : Files} {past : List Files} (files : Files)
      (h : files.find path = now.find path) : Advances path (now :: past) files

/-- **What can be found after such a step** on a path that does not lead to the root: what was there
before, perhaps touched, or what is later than all that was there before. -/
theorem Advances.find_cases (h : Advances path (now :: past) files)
    (hinner : (Location.ofPath path).isOutermost = false) {entry : FileEntry}
    (hfind : files.find path = .ok entry) :
    (∃ before, now.find path = .ok before ∧ before.modified ≤ entry.modified ∧
      (entry = before ∨ entry = before.touched entry.modified)) ∨
    LaterThanAll path (now :: past) entry.modified := by
  cases h with
  | write content time hlater =>
    have hentry := Files.entryAt?_of_find hfind
    rw [Files.write, Files.entryAt?_insert hinner, Option.some_inj] at hentry
    subst hentry
    exact .inr hlater
  | makeDirectory time hlater =>
    have hentry := Files.entryAt?_of_find hfind
    rw [Files.makeDirectory, Files.entryAt?_insert hinner, Option.some_inj] at hentry
    subst hentry
    exact .inr hlater
  | touch time hnot =>
    left
    rcases Files.find_of_find_touch hfind with hsame | ⟨before, hbefore, rfl⟩
    · exact ⟨entry, hsame, Int.le_refl _, .inl rfl⟩
    · rw [FileEntry.modified_touched]
      exact ⟨before, hbefore, hnot _ (Files.modified_eq_ok_iff.2 ⟨_, hbefore, rfl⟩), .inr rfl⟩
  | remove =>
    have hentry := Files.entryAt?_of_find hfind
    rw [Files.entryAt?_remove hinner] at hentry
    cases hentry
  | elsewhere files hsame => exact .inl ⟨entry, hsame ▸ hfind, Int.le_refl _, .inl rfl⟩

/-! ## The invariant -/

/-- A store that need not read its file unless it is later than the time that the store remembers:
any other file has the text that the catalog of the store was read from. -/
def UpToDate (path : String) (files : Files) (store : CatalogStore) : Prop :=
  ∀ loaded, store.loaded = some loaded → ∀ entry, files.find path = .ok entry →
    entry.modified ≤ loaded →
      ∃ text, entry = .file (.text text) entry.modified ∧ parseCatalog text = .ok store.current

namespace UpToDate

/-- A store that remembers no time reads any file. -/
theorem of_unloaded (h : store.loaded = none) : UpToDate path files store := by
  intro loaded hloaded
  rw [h] at hloaded
  cases hloaded

/-- A store that has just read its file. -/
theorem of_find {text : String} {time : Int} {c : Catalog}
    (hfind : files.find path = .ok (.file (.text text) time)) (hparse : parseCatalog text = .ok c) :
    UpToDate path files { path := store.path, current := c, loaded := some time } := by
  intro loaded _ entry hentry _
  rw [hfind] at hentry
  cases hentry
  exact ⟨text, rfl, hparse⟩

/-- A step by which times advance leaves a store up to date. -/
theorem step (h : UpToDate path now store) (hfaithful : Faithful path (now :: past) store)
    (hstep : Advances path (now :: past) files) : UpToDate path files store := by
  intro loaded hloaded entry hfind hle
  obtain ⟨text, ⟨before, hmem, hread⟩, -⟩ := hfaithful.loaded loaded hloaded
  have hinner := Files.isOutermost_of_find_file hread
  rcases hstep.find_cases hinner hfind with ⟨old, hold, hadvance, hentry⟩ | hlater
  · obtain ⟨text, heq, hparse⟩ := h loaded hloaded old hold (Int.le_trans hadvance hle)
    refine ⟨text, ?_, hparse⟩
    rcases hentry with hentry | hentry
    · rw [hentry]
      exact heq
    · rw [hentry, heq]
      rfl
  · have hlt := hlater before hmem loaded (Files.modified_eq_ok_iff.2 ⟨_, hread, rfl⟩)
    omega

theorem refresh (h : UpToDate store.path files store) :
    UpToDate store.path files (store.refresh files).1 := by
  rcases store.refresh_cases files with
    ⟨-, heq⟩ | ⟨text, time, c, hfind, hparse, heq⟩ | ⟨heq, -, -⟩
  · rw [heq]
    exact of_unloaded rfl
  · rw [heq]
    exact of_find hfind hparse
  · rwa [heq]

theorem run (h : UpToDate store.path files store) (call : Call) :
    UpToDate store.path files (call.run files store) := by
  cases call with
  | «open» =>
    have hnew : UpToDate store.path files { path := store.path } := of_unloaded rfl
    exact hnew.refresh
  | snapshot => exact h.refresh
  | reload =>
    unfold Call.run
    rcases store.reload_cases files with ⟨text, time, c, hfind, hparse, heq⟩ | ⟨e, heq⟩
    · rw [heq]
      exact of_find hfind hparse
    · rwa [heq]

end UpToDate

/-- **In every run in which the times of the file advance the store is up to date.** -/
theorem Run.upToDate (h : Run (Advances path) path (now :: past) store) :
    UpToDate path now store := by
  generalize hmoments : now :: past = moments at h
  induction h generalizing now past with
  | opened files =>
    cases hmoments
    have hnew : UpToDate path files { path } := .of_unloaded rfl
    exact hnew.refresh
  | @changed moments store files hrun hstep ih =>
    cases hmoments
    cases hmoments : moments with
    | nil => subst hmoments; cases hstep
    | cons before past =>
      subst hmoments
      exact (ih rfl).step hrun.faithful hstep
  | @called files moments store call hrun ih =>
    cases hmoments
    obtain rfl := hrun.faithful.path_eq
    exact (ih rfl).run call

/-! ## What a store shows -/

/-- What is to be shown of the file at a path while a catalog is held: the catalog of its text, the
empty catalog if nothing is there, and what is held if the file cannot be read. -/
def shown (files : Files) (path : String) (held : Catalog) : Catalog :=
  match files.find path with
  | .error .notFound => .empty
  | .ok (.file (.text text) _) =>
    match parseCatalog text with
    | .ok c => c
    | .error _ => held
  | _ => held

/-- A look at the file leaves a store that is up to date with what is to be shown. -/
theorem current_refresh (hfaithful : Faithful store.path past store)
    (hupToDate : UpToDate store.path now store) :
    (store.refresh now).1.current = shown now store.path store.current := by
  unfold shown
  rcases store.refresh_cases now with
    ⟨hgone, heq⟩ | ⟨text, time, c, hfind, hparse, heq⟩ | ⟨heq, hgone, hread⟩
  · rw [heq, hgone]
  · rw [heq, hfind]
    dsimp only
    rw [hparse]
  · rw [heq]
    cases hfind : now.find store.path with
    | error e =>
      cases e with
      | notFound => exact hfaithful.unloaded (hgone hfind)
      | _ => rfl
    | ok entry =>
      cases entry with
      | directory time => rfl
      | file content time =>
        cases content with
        | undecodable => rfl
        | text text =>
          dsimp only
          cases hparse : parseCatalog text with
          | error e => rfl
          | ok c =>
            obtain ⟨loaded, hloaded, hle⟩ := hread text time c hfind hparse
            obtain ⟨text', hentry, hparse'⟩ := hupToDate loaded hloaded _ hfind hle
            cases hentry
            rw [hparse] at hparse'
            exact (Except.ok.inj hparse').symm

/-- **As long as the times of its file advance, a store shows the file as it is**, and when the file
is read again successfully, the catalog of its text. -/
theorem shows_file_of_run (h : Run (Advances path) path (now :: past) store) :
    (store.snapshot now).1 = shown now path store.current ∧
      ∀ c reloaded, store.reload now = (.ok c, reloaded) →
        ∃ text time, now.find path = .ok (.file (.text text) time) ∧ parseCatalog text = .ok c ∧
          reloaded.current = c := by
  have hfaithful := h.faithful
  have hupToDate := h.upToDate
  obtain rfl := hfaithful.path_eq
  constructor
  · exact current_refresh hfaithful hupToDate
  · intro c reloaded hreload
    rcases store.reload_cases now with ⟨text, time, c', hfind, hparse, heq⟩ | ⟨e, heq⟩
    · rw [heq] at hreload
      cases hreload
      exact ⟨text, time, hfind, hparse, rfl⟩
    · rw [heq] at hreload
      cases hreload

/-! ## A file that comes back -/

/-- A file of sales that is touched, removed, and written again, the last state first. -/
def comesBack : List Files :=
  let touched := salesFiles.touch catalogPath 7
  let removed := touched.remove catalogPath
  [removed.write catalogPath (.text salesText) 8, removed, touched, salesFiles]

/-- A store that saw the file only while it was gone shows the catalog of sales again. -/
theorem shows_file_comesBack :
    ∃ now past, comesBack = now :: past ∧
      Run (Advances catalogPath) catalogPath (now :: past) { path := catalogPath } ∧
      (CatalogStore.snapshot { path := catalogPath } now).1 = salesStore.current ∧
      ∀ c reloaded, CatalogStore.reload { path := catalogPath } now = (.ok c, reloaded) →
        ∃ text time, now.find catalogPath = .ok (.file (.text text) time) ∧
          parseCatalog text = .ok c ∧ reloaded.current = c := by
  have hopened : Run (Advances catalogPath) catalogPath [salesFiles] salesStore :=
    .opened salesFiles
  have htouched := hopened.changed (.touch 7 fun seen hseen => by cases hseen; decide)
  have hgone := (htouched.changed .remove).called .snapshot
  have hlater : LaterThanAll catalogPath comesBack.tail 8 := by
    intro files hfiles seen hseen
    simp only [comesBack, List.tail_cons, List.mem_cons, List.not_mem_nil, or_false] at hfiles
    rcases hfiles with rfl | rfl | rfl
    · cases hseen
    · cases hseen
      decide
    · cases hseen
      decide
  have hwritten := hgone.changed (.write (.text salesText) 8 hlater)
  obtain ⟨hshown, hreload⟩ := shows_file_of_run hwritten
  exact ⟨_, _, rfl, hwritten, hshown, hreload⟩

end ReportSql.CatalogStore
