import ReportSql.Catalog.Files
import ReportSql.Catalog.Reading
import ReportSql.Event

/-!
# Catalog stores

A catalog kept in memory beside the file that it comes from.  Before the catalog is used the file is
read again if its time has advanced.  A file that is gone stands for the empty catalog; a file that
cannot be read leaves the catalog as it is.

## Main definitions

* `CatalogError` — why a catalog cannot be read.
* `readCatalog` — the catalog of a file.
* `CatalogStore` — a catalog and the time of the file that it was read from.
* `CatalogStore.refresh` — the store after a look at its file.
* `CatalogStore.ofPath`, `CatalogStore.snapshot`, `CatalogStore.reload` — what users do with a
  store.
-/

namespace ReportSql

/-- Why a catalog cannot be read. -/
inductive CatalogError where
  | unreadable (error : FileError)
  | malformed (fault : Fault)
deriving DecidableEq

namespace CatalogError

/-- What is said about a catalog that cannot be read. -/
def message : CatalogError → String
  | .unreadable error => "failed to read catalog file: " ++ error.message
  | .malformed fault => "invalid catalog json: " ++ fault.message

end CatalogError

/-- The catalog of a text. -/
def parseCatalog (text : String) : Except CatalogError Catalog :=
  match Catalog.ofText text with
  | .ok c => .ok c
  | .error fault => .error (.malformed fault)

/-- The catalog of the file at a path. -/
def readCatalog (files : Files) (path : String) : Except CatalogError Catalog :=
  match files.read path with
  | .ok text => parseCatalog text
  | .error e => .error (.unreadable e)

/-- A catalog, and the time of the file that it was read from; no time when it was read from
none. -/
structure CatalogStore where
  path : String
  current : Catalog := .empty
  loaded : Option Int := none

namespace CatalogStore

variable (store : CatalogStore)

/-- Whether a file of a time has to be read. -/
def isStale (modified : Int) : Bool :=
  match store.loaded with
  | some loaded => loaded < modified
  | none => true

/-- The store after a look at its file, and what is reported about it. -/
def refresh (files : Files) : CatalogStore × List Event :=
  match files.modified store.path with
  | .error .notFound =>
    if store.loaded.isSome then
      ({ store with current := .empty, loaded := none }, [.catalogGone])
    else (store, [])
  | .error _ => (store, [.catalogUnreachable])
  | .ok modified =>
    if store.isStale modified then
      match readCatalog files store.path with
      | .ok c => ({ store with current := c, loaded := some modified }, [.catalogLoaded])
      | .error _ => (store, [.catalogUnreadable])
    else (store, [])

/-- A new store for the file at a path. -/
def ofPath (files : Files) (path : String) : CatalogStore × List Event :=
  refresh { path } files

/-- The catalog of the store after a look at its file. -/
def snapshot (files : Files) : Catalog × CatalogStore × List Event :=
  let (store, events) := store.refresh files
  (store.current, store, events)

/-- The catalog of the file, read again whatever its time, and the store afterwards. -/
def reload (files : Files) : Except CatalogError Catalog × CatalogStore :=
  match files.modified store.path with
  | .error e => (.error (.unreadable e), store)
  | .ok modified =>
    match readCatalog files store.path with
    | .ok c => (.ok c, { store with current := c, loaded := some modified })
    | .error e => (.error e, store)

end CatalogStore

end ReportSql
