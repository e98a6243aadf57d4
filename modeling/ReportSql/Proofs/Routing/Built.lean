import ReportSql.Plan.Predicates

/-!
# Conditions that were built

A condition that was built from its parts has a value that suits its operator, so it has a
predicate over every expression.

## Main definitions

* `Condition.IsBuilt` — a condition that was built from parts.
* `FilterValue.suits` — a value of the shape that an operator compares with.

## Main statements

* `Condition.IsBuilt.exists_predicate` — a condition that was built has a predicate.
-/

namespace ReportSql

namespace Traced

variable {α β : Type}

/-! ## Outcomes -/

theorem outcome_bind (x : Traced α) (f : α → Traced β) :
    (x >>= f).outcome = x.outcome.bind fun a => (f a).outcome := by
  cases h : x.outcome with
  | ok a => rw [bind_of_ok h]; rfl
  | error e => rw [bind_of_error h]; rfl

theorem outcome_bind_of_ok {x : Traced α} {a : α} (h : x.outcome = .ok a) (f : α → Traced β) :
    (x >>= f).outcome = (f a).outcome := by
  rw [bind_of_ok h]

/-- A sequence of steps that succeeds has steps that succeed. -/
theorem exists_of_outcome_bind {x : Traced α} {f : α → Traced β} {b : β}
    (h : (x >>= f).outcome = .ok b) : ∃ a, x.outcome = .ok a ∧ (f a).outcome = .ok b := by
  rw [outcome_bind] at h
  cases hx : x.outcome with
  | ok a =>
    rw [hx] at h
    exact ⟨a, rfl, h⟩
  | error e =>
    rw [hx] at h
    cases h

end Traced

/-- A condition that was built from parts. -/
def Condition.IsBuilt (c : Condition) : Prop :=
  ∃ column datatype operator value, Condition.build column datatype operator value = .ok c

/-- Whether a value has the shape that an operator compares with; a missing one suits them all. -/
def FilterValue.suits : FilterValue → Operator → Bool
  | .absent, _ => true
  | .scalar _, operator => operator.isSearch || (Comparison.ofOperator? operator).isSome
  | .range _ _, operator => operator = .between
  | .list _, operator => operator = .among || operator = .notAmong

/-! ## Shapes -/

section Shapes

variable {column : String} {operator : Operator} {value : Json} {v : FilterValue}

theorem exists_range_of_shapeRange (h : shapeRange column value = .ok v) :
    ∃ low high, v = .range low high := by
  unfold shapeRange at h
  split at h
  · next low high =>
    cases hlow : rangeBound column low with
    | error e => rw [hlow] at h; cases h
    | ok low =>
      cases hhigh : rangeBound column high with
      | error e => rw [hlow, hhigh] at h; cases h
      | ok high => rw [hlow, hhigh] at h; cases h; exact ⟨low, high, rfl⟩
  · cases h

theorem exists_list_of_shapeList (h : shapeList column value = .ok v) :
    ∃ items, v = .list items := by
  unfold shapeList at h
  split at h
  · next items =>
    cases hitems : arrayItems column items with
    | error e => rw [hitems] at h; cases h
    | ok items => rw [hitems] at h; cases h; exact ⟨items, rfl⟩
  · cases h; exact ⟨_, rfl⟩
  · split at h
    · cases h; exact ⟨_, rfl⟩
    · cases h

theorem eq_scalar_of_shapeScalar (h : shapeScalar column operator value = .ok v) :
    v = .absent ∨ ∃ s, v = .scalar s := by
  unfold shapeScalar at h
  split at h
  · cases h; exact .inr ⟨_, rfl⟩
  · cases h; exact .inl rfl
  · cases h

/-- The shape that a value is given suits the operator. -/
theorem suits_of_shapeValue {value : Option Json} (hunary : operator.isUnary = false)
    (h : shapeValue column operator value = .ok v) : v.suits operator = true := by
  unfold shapeValue at h
  split at h
  · cases h; rfl
  · split at h
    · cases h; rfl
    · split at h
      · obtain ⟨low, high, rfl⟩ := exists_range_of_shapeRange h; rfl
      · obtain ⟨items, rfl⟩ := exists_list_of_shapeList h; rfl
      · obtain ⟨items, rfl⟩ := exists_list_of_shapeList h; rfl
      · next hbetween hamong hnotAmong =>
        rcases eq_scalar_of_shapeScalar h with rfl | ⟨s, rfl⟩
        · rfl
        · cases operator with
          | between => exact absurd rfl hbetween
          | among => exact absurd rfl hamong
          | notAmong => exact absurd rfl hnotAmong
          | isNull | isNotNull | isEmpty | isNotEmpty => exact absurd hunary (by decide)
          | _ => rfl

end Shapes

/-- The value of a condition that was built suits its operator. -/
theorem Condition.IsBuilt.suits {c : Condition} (h : c.IsBuilt) :
    c.value.suits c.operator = true := by
  obtain ⟨column, datatype, operator, value, h⟩ := h
  unfold Condition.build at h
  split at h
  · split at h
    · cases h; rfl
    · next hunary =>
      cases hvalue : shapeValue column operator value with
      | error e => rw [hvalue] at h; cases h
      | ok v =>
        rw [hvalue] at h
        cases h
        exact suits_of_shapeValue (Bool.eq_false_iff.2 hunary) hvalue
  · cases h

/-! ## Predicates -/

/-- **A condition that was built has a predicate** over every expression, whatever the kind of the
values that it compares. -/
theorem Condition.IsBuilt.exists_predicate {c : Condition} (h : c.IsBuilt) (options : Options)
    (e : Expr) (kind : ValueKind) :
    ∃ p, (conditionPredicate options e kind c).outcome = .ok p := by
  have hsuits := h.suits
  unfold conditionPredicate
  split
  · exact ⟨_, rfl⟩
  · split
    · exact ⟨_, rfl⟩
    · next s hvalue =>
      rw [hvalue, FilterValue.suits, Bool.or_eq_true] at hsuits
      have hsome : ∃ p, scalarPredicate? options e kind c.operator s = some p := by
        unfold scalarPredicate?
        rcases hsuits with hsearch | hcompare
        · rw [if_pos hsearch]
          exact ⟨_, rfl⟩
        · split
          · exact ⟨_, rfl⟩
          · obtain ⟨comparison, hcomparison⟩ := Option.isSome_iff_exists.1 hcompare
            rw [hcomparison]
            exact ⟨_, rfl⟩
      obtain ⟨p, hp⟩ := hsome
      rw [hp]
      exact ⟨p, rfl⟩
    · next items hvalue =>
      rw [hvalue, FilterValue.suits, Bool.or_eq_true, decide_eq_true_eq, decide_eq_true_eq]
        at hsuits
      rw [if_pos hsuits]
      simp only [Traced.outcome_bind]
      split <;> exact ⟨_, rfl⟩
    · next low high hvalue =>
      rw [hvalue, FilterValue.suits, decide_eq_true_eq] at hsuits
      rw [if_pos hsuits]
      exact ⟨_, rfl⟩

end ReportSql
