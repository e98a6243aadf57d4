import ReportSql.BindValue

/-!
# Placeholders

The named places of a query text to which values are bound.  One count numbers all the placeholders
of a query, whatever the stems of their names are, so no name is given out twice.

## Main definitions

* `Placeholder` — a stem and a number.
* `Hole` — a value that still waits for its placeholder.
* `Bindings` — the placeholders given out so far and the values bound to them.
-/

namespace ReportSql

/-- A named place of a query text. -/
structure Placeholder where
  stem : String
  number : Nat
deriving DecidableEq, Repr

namespace Placeholder

/-- The name of a placeholder: its stem and its number with an underscore between. -/
def name (p : Placeholder) : String := p.stem ++ "_" ++ p.number.repr

/-- A placeholder in query text. -/
def render (p : Placeholder) : String := ":" ++ p.name

end Placeholder

/-- A value that still waits for its placeholder, and the stem that the name is to have. -/
structure Hole where
  stem : String
  value : BindValue

/-- The count of placeholders given out so far, and the values bound to them in that order. -/
structure Bindings where
  issued : Nat := 0
  bound : List (Placeholder × BindValue) := []

namespace Bindings

/-- A new placeholder without a value. -/
def next (b : Bindings) (stem : String) : Placeholder × Bindings :=
  (⟨stem, b.issued + 1⟩, { b with issued := b.issued + 1 })

/-- A new placeholder with a value. -/
def bind (b : Bindings) (stem : String) (value : BindValue) : Placeholder × Bindings :=
  let (p, b) := b.next stem
  (p, { b with bound := b.bound ++ [(p, value)] })

/-- The count of bound values. -/
def size (b : Bindings) : Nat := b.bound.length

/-- Whether no value is bound. -/
def isEmpty (b : Bindings) : Bool := b.bound.isEmpty

/-- The bound values under the names of their placeholders. -/
def toDict (b : Bindings) : Dict BindValue := Dict.ofList (b.bound.map fun e => (e.1.name, e.2))

@[simp] theorem issued_next (b : Bindings) (stem : String) :
    (b.next stem).2.issued = b.issued + 1 := rfl

@[simp] theorem bound_next (b : Bindings) (stem : String) : (b.next stem).2.bound = b.bound := rfl

@[simp] theorem issued_bind (b : Bindings) (stem : String) (value : BindValue) :
    (b.bind stem value).2.issued = b.issued + 1 := rfl

@[simp] theorem bound_bind (b : Bindings) (stem : String) (value : BindValue) :
    (b.bind stem value).2.bound = b.bound ++ [(⟨stem, b.issued + 1⟩, value)] := rfl

@[simp] theorem size_bind (b : Bindings) (stem : String) (value : BindValue) :
    (b.bind stem value).2.size = b.size + 1 := by simp [size]

end Bindings

end ReportSql
