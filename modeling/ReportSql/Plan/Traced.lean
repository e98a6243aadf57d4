import ReportSql.Event
import ReportSql.Request.Reading

/-!
# Traced steps

Steps of compilation that report events and may fail.  Events that were reported before a failure
are kept.

## Main definitions

* `CompileError` — why a request cannot be compiled.
* `CompileError.message`, `CompileError.context` — what is said about a failure, and the part of the
  request that it lies in.
* `Traced α` — the events and the outcome of a step.
-/

namespace ReportSql

/-- Why a request cannot be compiled. -/
inductive CompileError where
  /-- The text of the request holds no request. -/
  | unreadable (fault : Fault)
  | invalid (error : RequestError)
  /-- A join refers to a dataset that is not yet part of the query. -/
  | unresolvedJoin (join : Join)
  /-- A selected or aggregated column names a dataset that is not part of the query. -/
  | unresolvedColumn (column : String)
  | unsupportedOperator (condition : Condition)
  | unfitValue (condition : Condition)

namespace CompileError

/-- What a failure to put the query together consists in. -/
def generationMessage : CompileError → String
  | .unresolvedJoin join =>
    "join references '" ++ join.leftDataset ++ "' before it is part of the query"
  | .unresolvedColumn column => "column '" ++ column ++ "' names an unknown dataset"
  | .unsupportedOperator condition =>
    "unsupported operator '" ++ condition.operator.name ++ "'"
  | .unfitValue condition =>
    "value shape does not fit operator '" ++ condition.operator.name ++ "'"
  | _ => ""

/-- What is said about a failure. -/
def message : CompileError → String
  | .unreadable fault => "json error: " ++ fault.message
  | .invalid error => "invalid request: " ++ error.message
  | e => "sql generation error: " ++ e.generationMessage

/-- The part of the request that a failure lies in, with sorted keys. -/
def context : CompileError → Option Json
  | .unreadable _ | .invalid _ => none
  | .unresolvedJoin join => some join.toJson.sorted
  | .unresolvedColumn column => some (.text column)
  | .unsupportedOperator condition | .unfitValue condition => some condition.toJson.sorted

end CompileError

/-- The events and the outcome of a step. -/
structure Traced (α : Type) where
  events : List Event
  outcome : Except CompileError α

namespace Traced

variable {α β : Type}

/-- A step without events. -/
def ofExcept (outcome : Except CompileError α) : Traced α := ⟨[], outcome⟩

/-- A step that fails. -/
def fail (error : CompileError) : Traced α := ⟨[], .error error⟩

/-- A step that reports an event. -/
def report (event : Event) : Traced Unit := ⟨[event], .ok ()⟩

/-- A step that reports some events. -/
def reportAll (events : List Event) : Traced Unit := ⟨events, .ok ()⟩

/-- One step after another; a failure ends the sequence. -/
protected def bind (x : Traced α) (f : α → Traced β) : Traced β :=
  match x.outcome with
  | .error e => ⟨x.events, .error e⟩
  | .ok a => ⟨x.events ++ (f a).events, (f a).outcome⟩

instance : Monad Traced where
  pure a := ⟨[], .ok a⟩
  bind := Traced.bind

@[simp] theorem events_pure (a : α) : (pure a : Traced α).events = [] := rfl

@[simp] theorem outcome_pure (a : α) : (pure a : Traced α).outcome = .ok a := rfl

theorem bind_of_ok {x : Traced α} {a : α} (h : x.outcome = .ok a) (f : α → Traced β) :
    x >>= f = ⟨x.events ++ (f a).events, (f a).outcome⟩ := by
  change Traced.bind x f = _
  rw [Traced.bind, h]

theorem bind_of_error {x : Traced α} {e : CompileError} (h : x.outcome = .error e)
    (f : α → Traced β) : x >>= f = ⟨x.events, .error e⟩ := by
  change Traced.bind x f = _
  rw [Traced.bind, h]

end Traced

end ReportSql
