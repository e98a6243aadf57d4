import ReportSql.Catalog.Store
import ReportSql.Compile

/-!
# Compiling as a service

A long-lived compiler that takes requests as texts and answers with texts.  Its catalog is fixed, or
kept in a store and looked up anew for every request.

## Main definitions

* `ServiceError` — why there is no answer.
* `Service` — a compiler with its catalog.
* `Service.answer` — the answer to a request.
-/

namespace ReportSql

/-- Why there is no answer. -/
inductive ServiceError where
  | request (fault : Fault)
  | catalog (error : CatalogError)
  | compile (error : CompileError)

namespace ServiceError

/-- What is said when there is no answer. -/
def message : ServiceError → String
  | .request fault => "invalid JSON for query request: " ++ fault.message
  | .catalog error => error.message
  | .compile error => error.message

end ServiceError

/-- A compiler with its catalog. -/
inductive Service where
  | stored (store : CatalogStore)
  | fixed (catalog : Catalog)

/-- What a request asks the number of. -/
inductive Asked where
  | rows
  | count
deriving DecidableEq

namespace Service

/-- A service with the catalog of a file. -/
def ofPath (files : Files) (path : String) : Service × List Event :=
  let (store, events) := CatalogStore.ofPath files path
  (.stored store, events)

/-- A service with the catalog of a text. -/
def ofCatalogText (text : String) : Except ServiceError Service :=
  match parseCatalog text with
  | .ok c => .ok (.fixed c)
  | .error e => .error (.catalog e)

/-- The catalog of a service for the next request. -/
def snapshot (service : Service) (files : Files) : Catalog × Service × List Event :=
  match service with
  | .stored store =>
    let (c, store, events) := store.snapshot files
    (c, .stored store, events)
  | .fixed c => (c, .fixed c, [])

/-- The answer to a request: the text of the compiled query.  The catalog is looked up only for a
request that can be read. -/
def answer (service : Service) (files : Files) (asked : Asked) (text : String) :
    Except ServiceError String × Service × List Event :=
  match readRequest text with
  | .error fault => (.error (.request fault), service, [])
  | .ok r =>
    let (c, service, events) := service.snapshot files
    let step :=
      match asked with
      | .rows => compile (.ofCatalog c) r
      | .count => compileCount (.ofCatalog c) r
    let outcome :=
      match step.outcome with
      | .ok compiled => .ok compiled.toJson.render
      | .error e => .error (.compile e)
    (outcome, service, events ++ step.events)

/-- Whether the catalog could be read again, and the service afterwards.  Nothing happens to a fixed
catalog. -/
def reload (service : Service) (files : Files) : Except ServiceError Unit × Service :=
  match service with
  | .stored store =>
    let (outcome, store) := store.reload files
    let done :=
      match outcome with
      | .ok _ => .ok ()
      | .error e => .error (.catalog e)
    (done, .stored store)
  | .fixed c => (.ok (), .fixed c)

end Service

end ReportSql
