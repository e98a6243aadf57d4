import ReportSql.Catalog.Files

/-!
# Steps on one file

What stands at the end of a path after the file there was written, touched or removed, or a
directory was put in its place.  A path that can be walked leads to its location, so only what
stands at that location matters, and what the steps of the path lead through.

## Main statements

* `Files.entryAt?_of_find` — what is found at the end of a path stands at its location.
* `Files.entryAt?_insert`, `Files.entryAt?_remove` — what stands where an entry was put or removed.
* `Files.find_of_find_touch` — a touch changes nothing but a time.
-/

namespace ReportSql

@[simp] theorem FileEntry.modified_touched (time : Int) (entry : FileEntry) :
    (entry.touched time).modified = time := by
  cases entry <;> rfl

namespace Files

variable {files : Files} {path : String} {entry : FileEntry} {l : Location}

/-! ## Paths and locations -/

/-- A walk that comes to its end has taken all steps. -/
theorem eq_foldl_of_walk {target : Location} {names : List String}
    (h : files.walk l names = .ok target) : target = names.foldl Location.step l := by
  induction names generalizing l with
  | nil =>
    rw [walk] at h
    cases h
    rfl
  | cons name names ih =>
    rw [walk] at h
    split at h
    · exact ih h
    · cases h
    · cases h

/-- What is found at the end of a path stands where its steps lead. -/
theorem find_eq_ok_iff :
    files.find path = .ok entry ↔
      ∃ target, files.walk (.start path) (Location.steps path) = .ok target ∧
        files.entryAt? target = some entry := by
  unfold find
  cases files.walk (.start path) (Location.steps path) with
  | error e => simp [bind, Except.bind]
  | ok target => cases hentry : files.entryAt? target <;> simp [bind, Except.bind, hentry]

/-- What is found at the end of a path stands at the location of the path. -/
theorem entryAt?_of_find (h : files.find path = .ok entry) :
    files.entryAt? (.ofPath path) = some entry := by
  obtain ⟨target, hwalk, hentry⟩ := find_eq_ok_iff.1 h
  obtain rfl : target = .ofPath path := eq_foldl_of_walk hwalk
  exact hentry

theorem modified_eq_ok_iff {time : Int} :
    files.modified path = .ok time ↔
      ∃ entry, files.find path = .ok entry ∧ entry.modified = time := by
  unfold modified
  cases files.find path <;> simp [Except.map]

theorem modified_eq_error_iff {e : FileError} :
    files.modified path = .error e ↔ files.find path = .error e := by
  unfold modified
  cases files.find path <;> simp [Except.map]

/-- The root is a directory, and so are the places above it. -/
theorem entryAt?_of_isOutermost (hl : l.isOutermost = true) :
    files.entryAt? l = some (.directory 0) := by
  rw [entryAt?, if_pos hl]

/-- A file is not found at the root or above it. -/
theorem isOutermost_of_find_file {content : FileContent} {time : Int}
    (h : files.find path = .ok (.file content time)) :
    (Location.ofPath path).isOutermost = false := by
  cases hl : (Location.ofPath path).isOutermost with
  | false => rfl
  | true =>
    have hentry := entryAt?_of_find h
    rw [entryAt?_of_isOutermost hl] at hentry
    cases hentry

/-! ## Entries put in and removed -/

/-- What was put at a location stands there. -/
theorem entryAt?_insert (hl : l.isOutermost = false) :
    entryAt? (files.insert l.path entry) l = some entry := by
  have hget : (files.insert l.path entry).get? l.path = some entry := by
    rw [Dict.get?_insert, if_pos rfl]
  rw [entryAt?, hl, if_neg Bool.false_ne_true, hget]

/-- Nothing stands where an entry was removed, for all that stood below it is gone as well. -/
theorem entryAt?_remove (hl : (Location.ofPath path).isOutermost = false) :
    (files.remove path).entryAt? (.ofPath path) = none := by
  have hkeys : ∀ key ∈ (files.remove path).keys,
      key ≠ (Location.ofPath path).path ∧ ¬isBelow (Location.ofPath path).path key = true := by
    intro key hkey
    obtain ⟨e, he, rfl⟩ := List.mem_map.1 hkey
    simpa using (List.mem_filter.1 he).2
  have hget : (files.remove path).get? (Location.ofPath path).path = none :=
    Dict.lookup_eq_none_iff.2 fun hkey => (hkeys _ hkey).1 rfl
  have hbelow : (files.remove path).keys.any (isBelow (Location.ofPath path).path) = false :=
    List.any_eq_false.2 fun key hkey => (hkeys key hkey).2
  rw [entryAt?, hl, if_neg Bool.false_ne_true, hget, hbelow]
  rfl

/-! ## Touches -/

/-- What stands nowhere cannot be touched. -/
theorem touch_of_get?_eq_none (time : Int)
    (h : files.get? (Location.ofPath path).path = none) : files.touch path time = files := by
  simp only [touch, h]

theorem touch_of_get?_eq_some (time : Int)
    (h : files.get? (Location.ofPath path).path = some entry) :
    files.touch path time = files.insert (Location.ofPath path).path (entry.touched time) := by
  simp only [touch, h]

/-- A touch leaves what stands at every location, but for its time. -/
theorem entryAt?_touch (files : Files) (path : String) (time : Int) (l : Location) :
    (files.touch path time).entryAt? l = files.entryAt? l ∨
      ∃ entry, files.entryAt? l = some entry ∧
        (files.touch path time).entryAt? l = some (entry.touched time) := by
  cases hget : files.get? (Location.ofPath path).path with
  | none => exact .inl (by rw [touch_of_get?_eq_none time hget])
  | some entry =>
    rw [touch_of_get?_eq_some time hget]
    cases hl : l.isOutermost with
    | true => exact .inl (by rw [entryAt?_of_isOutermost hl, entryAt?_of_isOutermost hl])
    | false =>
      by_cases hkey : l.path = (Location.ofPath path).path
      · rw [← hkey] at hget ⊢
        refine .inr ⟨entry, ?_, entryAt?_insert hl⟩
        rw [entryAt?, hl, if_neg Bool.false_ne_true, hget]
      · -- elsewhere the keys are those that there were
        have hany : (files.insert (Location.ofPath path).path (entry.touched time)).keys.any
            (isBelow l.path) = files.keys.any (isBelow l.path) := by
          rw [Bool.eq_iff_iff, List.any_eq_true, List.any_eq_true]
          refine exists_congr fun key => and_congr_left' ?_
          rw [Dict.mem_keys_iff, Dict.mem_keys_iff, Dict.get?_insert]
          split
          · next heq => simp [heq, hget]
          · rfl
        left
        rw [entryAt?, entryAt?, hl, Dict.get?_insert, if_neg hkey, hany]

/-- A touch leaves where the steps of a path lead. -/
theorem walk_touch (time : Int) (l : Location) (names : List String) :
    (files.touch path time).walk l names = files.walk l names := by
  induction names generalizing l with
  | nil => rw [walk, walk]
  | cons name names ih =>
    rw [walk, walk, ih]
    rcases entryAt?_touch files path time l with h | ⟨entry, hentry, h⟩
    · rw [h]
    · rw [h, hentry]
      cases entry <;> rfl

/-- What is found after a touch was there before, but for its time. -/
theorem find_of_find_touch {time : Int} (h : (files.touch path time).find path = .ok entry) :
    files.find path = .ok entry ∨
      ∃ before, files.find path = .ok before ∧ entry = before.touched time := by
  obtain ⟨target, hwalk, hentry⟩ := find_eq_ok_iff.1 h
  rw [walk_touch] at hwalk
  rcases entryAt?_touch files path time target with hsame | ⟨before, hb, hsame⟩
  · exact .inl (find_eq_ok_iff.2 ⟨target, hwalk, hsame ▸ hentry⟩)
  · rw [hsame, Option.some_inj] at hentry
    exact .inr ⟨before, find_eq_ok_iff.2 ⟨target, hwalk, hb⟩, hentry.symm⟩

end Files

end ReportSql
