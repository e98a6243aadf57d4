import Mathlib.Data.Prod.Lex
import ReportSql.Plan.Predicates

/-!
# Comparisons of moments

Days and moments in the order of the calendar, and what predicates over a column of moments say of
one row.  The day function of the database cuts a moment to the start of its day, and a bound date
is compared as the start of that day.

## Main definitions

* `Date.rank`, `Time.rank`, `Timestamp.rank` — places in the order of the calendar.
* `Timestamp.startOf` — the start of a day.
* `ValueTest` — a comparison with a value, or a range with sides that may be open.
* `Predicate.holdsAt?` — whether a predicate holds of a row whose column has a given moment.

## Main statements

* `Timestamp.startOf_lt_iff`, `Timestamp.lt_startOf_iff` — how starts of days compare with moments.
-/

namespace ReportSql

/-! ## The order of the calendar -/

/-- The place of a day in the order of the calendar. -/
def Date.rank (d : Date) : ℤ ×ₗ ℕ ×ₗ ℕ := toLex (d.year, toLex (d.month, d.day))

/-- The place of a moment in its day. -/
def Time.rank (t : Time) : ℕ ×ₗ ℕ ×ₗ ℕ ×ₗ ℕ :=
  toLex (t.hour, toLex (t.minute, toLex (t.second, t.nano)))

/-- The place of a moment in the order of the calendar. -/
def Timestamp.rank (t : Timestamp) : (ℤ ×ₗ ℕ ×ₗ ℕ) ×ₗ ℕ ×ₗ ℕ ×ₗ ℕ ×ₗ ℕ :=
  toLex (t.date.rank, t.time.rank)

theorem Date.rank_inj {d e : Date} : d.rank = e.rank ↔ d = e := by
  obtain ⟨y, m, n, hd⟩ := d
  obtain ⟨y', m', n', he⟩ := e
  simp [rank]

theorem Time.rank_inj {t u : Time} : t.rank = u.rank ↔ t = u := by
  obtain ⟨h, m, s, n, ht⟩ := t
  obtain ⟨h', m', s', n', hu⟩ := u
  simp [rank]

theorem Timestamp.rank_inj {t u : Timestamp} : t.rank = u.rank ↔ t = u := by
  obtain ⟨d, t⟩ := t
  obtain ⟨e, u⟩ := u
  simp [rank, Date.rank_inj, Time.rank_inj]

/-! ## Starts of days -/

/-- The first moment of a day. -/
def Time.midnight : Time := ⟨0, 0, 0, 0, by decide⟩

theorem Time.rank_midnight_le (t : Time) : Time.midnight.rank ≤ t.rank := by
  simp only [rank, midnight, Prod.Lex.toLex_le_toLex]
  omega

/-- The start of a day. -/
def Timestamp.startOf (d : Date) : Timestamp := ⟨d, .midnight⟩

namespace Timestamp

variable {d : Date} {t : Timestamp}

@[simp] theorem date_startOf (d : Date) : (startOf d).date = d := rfl

@[simp] theorem time_startOf (d : Date) : (startOf d).time = .midnight := rfl

theorem startOf_eq_iff : startOf d = t ↔ d = t.date ∧ t.time = .midnight := by
  obtain ⟨e, u⟩ := t
  simp [startOf, eq_comm]

/-- No moment of a day comes before its start. -/
theorem lt_startOf_iff : t.rank < (startOf d).rank ↔ t.date.rank < d.rank := by
  have hstart := t.time.rank_midnight_le
  rw [rank, rank, Prod.Lex.toLex_lt_toLex]
  simp only [date_startOf, time_startOf, or_iff_left_iff_imp, and_imp]
  exact fun _ h => absurd h (not_lt.2 hstart)

theorem startOf_le_iff : (startOf d).rank ≤ t.rank ↔ d.rank ≤ t.date.rank := by
  rw [← not_lt, lt_startOf_iff, not_lt]

/-- The start of a day comes before every other moment of the day. -/
theorem startOf_lt_iff :
    (startOf d).rank < t.rank ↔ d.rank < t.date.rank ∨ d = t.date ∧ t.time ≠ .midnight := by
  rw [lt_iff_le_and_ne, startOf_le_iff, ne_eq, rank_inj, startOf_eq_iff, le_iff_lt_or_eq,
    Date.rank_inj]
  constructor
  · rintro ⟨hlt | rfl, hne⟩
    · exact .inl hlt
    · exact .inr ⟨rfl, fun htime => hne ⟨rfl, htime⟩⟩
  · rintro (hlt | ⟨rfl, hne⟩)
    · exact ⟨.inl hlt, fun heq => hlt.ne (congrArg Date.rank heq.1)⟩
    · exact ⟨.inr rfl, fun heq => hne heq.2⟩

theorem le_startOf_iff :
    t.rank ≤ (startOf d).rank ↔ t.date.rank < d.rank ∨ d = t.date ∧ t.time = .midnight := by
  rw [le_iff_lt_or_eq, lt_startOf_iff, eq_comm, rank_inj, startOf_eq_iff]

end Timestamp

/-! ## Tests of values -/

section Tests

variable {α β : Type} [LinearOrder α]

/-- Whether one value stands in a relation to another. -/
def Comparison.Holds : Comparison → α → α → Prop
  | .equal, a, b => a = b
  | .notEqual, a, b => a ≠ b
  | .greater, a, b => b < a
  | .atLeast, a, b => b ≤ a
  | .less, a, b => a < b
  | .atMost, a, b => a ≤ b

instance : ∀ (c : Comparison) (a b : α), Decidable (c.Holds a b)
  | .equal, a, b => inferInstanceAs (Decidable (a = b))
  | .notEqual, a, b => inferInstanceAs (Decidable (a ≠ b))
  | .greater, a, b => inferInstanceAs (Decidable (b < a))
  | .atLeast, a, b => inferInstanceAs (Decidable (b ≤ a))
  | .less, a, b => inferInstanceAs (Decidable (a < b))
  | .atMost, a, b => inferInstanceAs (Decidable (a ≤ b))

/-- A comparison with a value, or a range with sides that may be open. -/
inductive ValueTest (α : Type) where
  | compare (c : Comparison) (value : α)
  | range (low high : Option α)
deriving DecidableEq

namespace ValueTest

/-- The test by the images of its values. -/
def map (f : α → β) : ValueTest α → ValueTest β
  | .compare c v => .compare c (f v)
  | .range low high => .range (low.map f) (high.map f)

/-- Whether a value passes a test. -/
def Holds : ValueTest α → α → Prop
  | .compare c v, x => c.Holds x v
  | .range low high, x => (∀ v ∈ low, v ≤ x) ∧ ∀ v ∈ high, x ≤ v

instance : ∀ (test : ValueTest α) (x : α), Decidable (test.Holds x)
  | .compare c v, x => inferInstanceAs (Decidable (c.Holds x v))
  | .range low high, x =>
    inferInstanceAs (Decidable ((∀ v ∈ low, v ≤ x) ∧ ∀ v ∈ high, x ≤ v))

end ValueTest

end Tests

/-! ## Predicates over moments -/

/-- The moment that a bound value is compared as: a date as the start of its day. -/
def BindValue.moment? : BindValue → Option Timestamp
  | .date d => some (.startOf d)
  | .timestamp t => some t
  | _ => none

/-- The moment of an expression in a row whose column has the moment `t`.  The day of a moment is
its start. -/
def Expr.momentAt? (column : Expr) (t : Timestamp) : Expr → Option Timestamp
  | .day function e =>
    if .day function e = column then some t
    else (momentAt? column t e).map fun u => .startOf u.date
  | e => if e = column then some t else none

@[simp] theorem Expr.momentAt?_self (e : Expr) (t : Timestamp) : e.momentAt? t e = some t := by
  cases e <;> simp [momentAt?]

@[simp] theorem Expr.momentAt?_day (e : Expr) (t : Timestamp) (function : String) :
    e.momentAt? t (.day function e) = some (.startOf t.date) := by
  have hne : Expr.day function e ≠ e := by
    intro heq
    have hsize := congrArg sizeOf heq
    simp at hsize
  simp [momentAt?, hne]

/-- Whether a predicate holds of a row whose column has the moment `t`; none for a predicate that
compares no moments. -/
def Predicate.holdsAt? (column : Expr) (t : Timestamp) : Predicate Hole → Option Bool
  | .always => some true
  | .never => some false
  | .isNull e => (column.momentAt? t e).map fun _ => false
  | .isNotNull e => (column.momentAt? t e).map fun _ => true
  | .compare e c value => do
    let moment ← column.momentAt? t e
    let bound ← value.value.moment?
    return decide (c.Holds moment.rank bound.rank)
  | .between e low high => do
    let moment ← column.momentAt? t e
    let low ← low.value.moment?
    let high ← high.value.moment?
    return decide (low.rank ≤ moment.rank ∧ moment.rank ≤ high.rank)
  | .among negated e values => do
    let moment ← column.momentAt? t e
    let bounds ← values.mapM fun h => h.value.moment?
    return bounds.contains moment != negated
  | _ => none

namespace Predicate

variable {column e : Expr} {t moment : Timestamp}

theorem holdsAt?_compare (he : column.momentAt? t e = some moment) (c : Comparison)
    {value : Hole} {bound : Timestamp} (hvalue : value.value.moment? = some bound) :
    (compare e c value).holdsAt? column t = some (decide (c.Holds moment.rank bound.rank)) := by
  rw [holdsAt?, he, hvalue]
  rfl

theorem holdsAt?_between (he : column.momentAt? t e = some moment) {low high : Hole}
    {lowBound highBound : Timestamp} (hlow : low.value.moment? = some lowBound)
    (hhigh : high.value.moment? = some highBound) :
    (between e low high).holdsAt? column t =
      some (decide (lowBound.rank ≤ moment.rank ∧ moment.rank ≤ highBound.rank)) := by
  rw [holdsAt?, he, hlow, hhigh]
  rfl

end Predicate

end ReportSql
