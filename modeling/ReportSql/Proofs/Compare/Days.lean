import ReportSql.Compile
import ReportSql.Proofs.Compare.Moments

/-!
# Comparisons by days

A condition on dates or timestamps is compared with the day of a row: the column is cut to the start
of its day.  The value of the condition is not cut.  So the comparison is one of days where the
value is the start of a day, as every date is.  A value within a day equals no start of a day, and
the start of its own day comes before it: `greater` and `atMost` still compare days, the others do
not.

## Main definitions

* `Condition.momentTest?` — the test that a condition asks for of a column of moments.
* `ValueTest.IsByDay` — a test that the starts of days pass as their days do.

## Main statements

* `Condition.exists_holdsAt?` — the predicate of a condition tests the start of the day of a row.
* `ValueTest.holdsOfStart_iff` — when that is a test of the day.
* `Condition.comparesDays_iff` — when the predicate of a condition compares days.
-/

namespace ReportSql

/-! ## Tests of conditions -/

/-- The moment that a scalar is compared as with moments, if it names one. -/
def Scalar.moment? (s : Scalar) : Option Timestamp := (coerceDate s).moment?

/-- The test that a condition asks for of a column of moments, if it has the operator and the values
of one. -/
def Condition.momentTest? (c : Condition) : Option (ValueTest Timestamp) :=
  match c.value with
  | .scalar s => do
    let comparison ← Comparison.ofOperator? c.operator
    let value ← s.moment?
    return .compare comparison value
  | .range low high =>
    if c.operator = .between then do
      let low ← low.mapM Scalar.moment?
      let high ← high.mapM Scalar.moment?
      return .range low high
    else none
  | _ => none

/-! ## Tests of days -/

namespace ValueTest

/-- Whether a day stands to the days of the values of a test as the test asks for. -/
def HoldsOfDay (test : ValueTest Timestamp) (d : Date) : Prop :=
  (test.map fun v => v.date.rank).Holds d.rank

/-- Whether the start of a day passes a test. -/
def HoldsOfStart (test : ValueTest Timestamp) (d : Date) : Prop :=
  (test.map Timestamp.rank).Holds (Timestamp.startOf d).rank

instance (test : ValueTest Timestamp) (d : Date) : Decidable (test.HoldsOfDay d) :=
  inferInstanceAs (Decidable ((test.map fun v => v.date.rank).Holds d.rank))

instance (test : ValueTest Timestamp) (d : Date) : Decidable (test.HoldsOfStart d) :=
  inferInstanceAs (Decidable ((test.map Timestamp.rank).Holds (Timestamp.startOf d).rank))

/-- A test that the starts of days pass as their days do.  The value of a comparison is the start of
a day, unless the comparison treats a day like its start; and so is the low side of a range, unless
the range holds no day. -/
def IsByDay : ValueTest Timestamp → Prop
  | .compare c v => c = .greater ∨ c = .atMost ∨ v.time = .midnight
  | .range low high => ∀ l ∈ low, l.time = .midnight ∨ ∃ h ∈ high, h.date.rank < l.date.rank

end ValueTest

namespace Comparison

open Timestamp

/-- Starts of days compare like their days. -/
theorem holds_startOf_startOf (c : Comparison) (d e : Date) :
    c.Holds (startOf d).rank (startOf e).rank ↔ c.Holds d.rank e.rank := by
  cases c with
  | equal => simp [Holds, rank_inj, startOf_eq_iff, Date.rank_inj]
  | notEqual => simp [Holds, rank_inj, startOf_eq_iff, Date.rank_inj]
  | greater => exact lt_startOf_iff
  | atLeast => exact startOf_le_iff
  | less => exact lt_startOf_iff
  | atMost => exact startOf_le_iff

/-- The start of a day compares with a value within the day as the day does with itself for two
comparisons only. -/
theorem holds_startOf_self_iff (c : Comparison) {v : Timestamp} (hv : v.time ≠ .midnight) :
    (c.Holds (startOf v.date).rank v.rank ↔ c.Holds v.date.rank v.date.rank) ↔
      c = .greater ∨ c = .atMost := by
  cases c with
  | equal => simp [Holds, rank_inj, startOf_eq_iff, hv]
  | notEqual => simp [Holds, rank_inj, startOf_eq_iff, hv]
  | greater => simp [Holds, lt_startOf_iff]
  | atLeast => simp [Holds, le_startOf_iff, hv]
  | less => simp [Holds, startOf_lt_iff, hv]
  | atMost => simp [Holds, startOf_le_iff]

end Comparison

namespace ValueTest

open Timestamp

theorem holdsOfStart_compare_iff (c : Comparison) (v : Timestamp) :
    (∀ d, (compare c v).HoldsOfStart d ↔ (compare c v).HoldsOfDay d) ↔
      (compare c v).IsByDay := by
  by_cases hv : v.time = .midnight
  · have hstart : startOf v.date = v := startOf_eq_iff.2 ⟨rfl, hv⟩
    refine iff_of_true (fun d => ?_) (.inr (.inr hv))
    have hdays := c.holds_startOf_startOf d v.date
    rwa [hstart] at hdays
  · have hself := c.holds_startOf_self_iff hv
    constructor
    · intro hall
      exact (hself.1 (hall v.date)).imp_right .inl
    · rintro (rfl | rfl | hmidnight) d
      · exact lt_startOf_iff
      · exact startOf_le_iff
      · exact absurd hmidnight hv

theorem holdsOfStart_range {low high : Option Timestamp} {d : Date} :
    (range low high).HoldsOfStart d ↔
      (∀ l ∈ low, l.rank ≤ (startOf d).rank) ∧ ∀ h ∈ high, (startOf d).rank ≤ h.rank := by
  simp [HoldsOfStart, map, Holds]

theorem holdsOfDay_range {low high : Option Timestamp} {d : Date} :
    (range low high).HoldsOfDay d ↔
      (∀ l ∈ low, l.date.rank ≤ d.rank) ∧ ∀ h ∈ high, d.rank ≤ h.date.rank := by
  simp [HoldsOfDay, map, Holds]

theorem holdsOfStart_range_iff (low high : Option Timestamp) :
    (∀ d, (range low high).HoldsOfStart d ↔ (range low high).HoldsOfDay d) ↔
      (range low high).IsByDay := by
  have hhigh : ∀ d, (∀ h ∈ high, (startOf d).rank ≤ h.rank) ↔ ∀ h ∈ high, d.rank ≤ h.date.rank :=
    fun d => forall₂_congr fun h _ => startOf_le_iff
  have hparts : ∀ d, ((range low high).HoldsOfStart d ↔ (range low high).HoldsOfDay d) ↔
      ((∀ h ∈ high, d.rank ≤ h.date.rank) →
        ((∀ l ∈ low, l.rank ≤ (startOf d).rank) ↔ ∀ l ∈ low, l.date.rank ≤ d.rank)) := by
    intro d
    rw [holdsOfStart_range, holdsOfDay_range, hhigh d, and_congr_left_iff]
  rw [forall_congr' hparts]
  constructor
  · intro hall l hl
    by_contra hneither
    rw [not_or] at hneither
    -- the day of the low side lies in the range, but its start comes before the low side
    have hin : ∀ h ∈ high, l.date.rank ≤ h.date.rank := by
      intro h hh
      exact not_lt.1 fun hlt => hneither.2 ⟨h, hh, hlt⟩
    have hlow : ∀ l' ∈ low, l'.date.rank ≤ l.date.rank := by
      intro l' hl'
      rw [Option.mem_unique hl' hl]
    have hpasses := ((hall l.date hin).2 hlow) l hl
    rw [le_startOf_iff] at hpasses
    rcases hpasses with hlt | ⟨-, htime⟩
    · exact lt_irrefl _ hlt
    · exact hneither.1 htime
  · intro hbyDay d hin
    refine forall₂_congr fun l hl => ?_
    rcases hbyDay l hl with htime | ⟨h, hh, hlt⟩
    · rw [le_startOf_iff, and_iff_left htime, le_iff_lt_or_eq, Date.rank_inj, eq_comm]
    · -- the range holds no day, so a day below its high side is not above its low side
      have hbelow : d.rank < l.date.rank := (hin h hh).trans_lt hlt
      refine iff_of_false (fun hle => ?_) (not_le.2 hbelow)
      rcases le_startOf_iff.1 hle with hlt' | ⟨rfl, -⟩
      · exact lt_asymm hbelow hlt'
      · exact lt_irrefl _ hbelow

/-- **When the starts of days pass a test as their days do.** -/
theorem holdsOfStart_iff (test : ValueTest Timestamp) :
    (∀ d, test.HoldsOfStart d ↔ test.HoldsOfDay d) ↔ test.IsByDay := by
  cases test with
  | compare c v => exact holdsOfStart_compare_iff c v
  | range low high => exact holdsOfStart_range_iff low high

end ValueTest

/-! ## Predicates of conditions -/

section

variable (options : Options) (e : Expr) {kind : ValueKind} {c : Condition}

theorem moment?_kindHole (hkind : kind.isTemporal = true) (s : Scalar) :
    (kindHole kind s).value.moment? = s.moment? := by
  cases kind with
  | date | timestamp => rfl
  | text | number => cases hkind

theorem momentAt?_comparedExpr (hkind : kind.isTemporal = true) (t : Timestamp) :
    e.momentAt? t (comparedExpr options kind e) = some (.startOf t.date) := by
  rw [comparedExpr, if_pos hkind, Expr.momentAt?_day]

/-- A value other than a text is compared as it is bound. -/
theorem conditionPredicate_of_ofOperator? (hkind : kind ≠ .text) {comparison : Comparison}
    (hoperator : Comparison.ofOperator? c.operator = some comparison) {s : Scalar}
    (hvalue : c.value = .scalar s) :
    conditionPredicate options e kind c =
      pure (.compare (comparedExpr options kind e) comparison (kindHole kind s)) := by
  obtain ⟨column, datatype, operator, value⟩ := c
  dsimp only at hoperator hvalue
  subst hvalue
  cases operator <;> cases hoperator <;>
    simp [conditionPredicate, unaryPredicate?, scalarPredicate?, Operator.isSearch,
      Comparison.ofOperator?, hkind]

theorem conditionPredicate_of_range {low high : Option Scalar} (hoperator : c.operator = .between)
    (hvalue : c.value = .range low high) :
    conditionPredicate options e kind c = pure (rangePredicate options e kind low high) := by
  rw [conditionPredicate, hoperator, hvalue]
  rfl

/-- The predicate of a range tests the start of the day of a row. -/
theorem holdsAt?_rangePredicate (hkind : kind.isTemporal = true) {low high : Option Scalar}
    {lowMoment highMoment : Option Timestamp} (hlow : low.mapM Scalar.moment? = some lowMoment)
    (hhigh : high.mapM Scalar.moment? = some highMoment) (t : Timestamp) :
    (rangePredicate options e kind low high).holdsAt? e t =
      some (decide ((ValueTest.range lowMoment highMoment).HoldsOfStart t.date)) := by
  have hside : ∀ {s : Scalar} {moment : Option Timestamp},
      (some s).mapM Scalar.moment? = some moment → ∃ v, s.moment? = some v ∧ some v = moment :=
    fun h => Option.map_eq_some_iff.1 h
  have hbound : ∀ {s : Scalar} {v : Timestamp}, s.moment? = some v →
      (kindHole kind s).value.moment? = some v :=
    fun h => (moment?_kindHole hkind _).trans h
  have hmoment := momentAt?_comparedExpr options e hkind t
  cases low with
  | none =>
    cases hlow
    cases high with
    | none =>
      cases hhigh
      simp [rangePredicate, Predicate.holdsAt?, ValueTest.holdsOfStart_range]
    | some high =>
      obtain ⟨v, hv, rfl⟩ := hside hhigh
      rw [rangePredicate, Predicate.holdsAt?_compare hmoment _ (hbound hv)]
      refine congrArg some (decide_eq_decide.2 ?_)
      simp [ValueTest.holdsOfStart_range, Comparison.Holds]
  | some low =>
    obtain ⟨u, hu, rfl⟩ := hside hlow
    cases high with
    | none =>
      cases hhigh
      rw [rangePredicate, Predicate.holdsAt?_compare hmoment _ (hbound hu)]
      refine congrArg some (decide_eq_decide.2 ?_)
      simp [ValueTest.holdsOfStart_range, Comparison.Holds]
    | some high =>
      obtain ⟨v, hv, rfl⟩ := hside hhigh
      rw [rangePredicate, Predicate.holdsAt?_between hmoment (hbound hu) (hbound hv)]
      simp [ValueTest.holdsOfStart_range]

/-- **The predicate of a condition on moments tests the start of the day of a row.** -/
theorem Condition.exists_holdsAt? (hkind : kind.isTemporal = true) {test : ValueTest Timestamp}
    (htest : c.momentTest? = some test) :
    ∃ p, conditionPredicate options e kind c = pure p ∧
      ∀ t, p.holdsAt? e t = some (decide (test.HoldsOfStart t.date)) := by
  unfold Condition.momentTest? at htest
  split at htest
  · next s hvalue =>
    obtain ⟨comparison, hoperator, htest⟩ := Option.bind_eq_some_iff.1 htest
    obtain ⟨value, hmoment, htest⟩ := Option.bind_eq_some_iff.1 htest
    cases htest
    have hkind' : kind ≠ .text := by
      rintro rfl
      cases hkind
    refine ⟨_, conditionPredicate_of_ofOperator? options e hkind' hoperator hvalue, fun t => ?_⟩
    exact Predicate.holdsAt?_compare (momentAt?_comparedExpr options e hkind t) comparison
      ((moment?_kindHole hkind s).trans hmoment)
  · next low high hvalue =>
    split at htest
    · next hoperator =>
      obtain ⟨lowMoment, hlow, htest⟩ := Option.bind_eq_some_iff.1 htest
      obtain ⟨highMoment, hhigh, htest⟩ := Option.bind_eq_some_iff.1 htest
      cases htest
      exact ⟨_, conditionPredicate_of_range options e hoperator hvalue,
        holdsAt?_rangePredicate options e hkind hlow hhigh⟩
    · cases htest
  · cases htest

/-- **When the predicate of a condition compares days.**  It tests the start of the day of a row; so
it holds of the rows whose days stand to the days of the values as the condition asks for, if and
only if the test is one by day. -/
theorem Condition.comparesDays_iff (hkind : kind.isTemporal = true) {test : ValueTest Timestamp}
    (htest : c.momentTest? = some test) :
    ∃ p, conditionPredicate options e kind c = pure p ∧
      (∀ t, p.holdsAt? e t = some (decide (test.HoldsOfStart t.date))) ∧
      ((∀ t, p.holdsAt? e t = some (decide (test.HoldsOfDay t.date))) ↔ test.IsByDay) := by
  obtain ⟨p, hp, hholds⟩ := exists_holdsAt? options e hkind htest
  refine ⟨p, hp, hholds, ?_⟩
  rw [← test.holdsOfStart_iff]
  constructor
  · intro hdays d
    have hboth := (hholds (.startOf d)).symm.trans (hdays (.startOf d))
    exact decide_eq_decide.1 (Option.some_inj.1 hboth)
  · intro hall t
    rw [hholds, decide_eq_decide.2 (hall t.date)]

end

/-! ## Values within a day -/

/-- The days of a week, up to a moment of the last of them. -/
def firstWeek : Condition where
  column := "AT"
  datatype := .timestamp
  operator := .between
  value := .range (some (.text "2026-03-01")) (some (.text "2026-03-07T18:00:00"))

theorem comparesDays_firstWeek :
    ValueKind.timestamp.isTemporal = true ∧
      ∃ test, firstWeek.momentTest? = some test ∧
        ∃ p, conditionPredicate {} (.column (.bare "AT")) .timestamp firstWeek = pure p ∧
          ∀ t, p.holdsAt? (.column (.bare "AT")) t = some (decide (test.HoldsOfDay t.date)) := by
  have htest : firstWeek.momentTest? = some (.range (some (.startOf ⟨2026, 3, 1, by decide⟩))
      (some ⟨⟨2026, 3, 7, by decide⟩, ⟨18, 0, 0, 0, by decide⟩⟩)) := by
    decide +kernel
  have hkind : ValueKind.timestamp.isTemporal = true := rfl
  obtain ⟨p, hp, -, hiff⟩ := Condition.comparesDays_iff {} (.column (.bare "AT")) hkind htest
  refine ⟨hkind, _, htest, p, hp, hiff.2 fun l hl => .inl ?_⟩
  cases hl
  rfl

/-- Ten o'clock of a day. -/
def tenOClock : Timestamp := ⟨⟨2026, 3, 1, by decide⟩, ⟨10, 0, 0, 0, by decide⟩⟩

/-- A condition on the day of that moment. -/
def atTen : Condition := ⟨"AT", .timestamp, .equal, .scalar (.text "2026-03-01T10:00:00")⟩

/-- **Equality with a moment within a day holds of no row**, not even of one at that moment. -/
theorem not_comparesDays_atTen :
    ((compile (.ofCatalog .empty)
        { dataset := "EVENTS", columns? := some ["ID"], filters? := some ⟨.and, [.leaf atTen]⟩ }
      ).outcome.toOption =
        some ⟨"SELECT \"EVENTS\".\"ID\" AS \"EVENTS.ID\"\n" ++
          "FROM (SELECT * FROM \"EVENTS\" WHERE (TRUNC(\"AT\") = :p_1)) \"EVENTS\"\n" ++
          "OFFSET 0 ROWS FETCH NEXT 100 ROWS ONLY", .ofList [("p_1", .timestamp tenOClock)]⟩) ∧
      ∃ p, conditionPredicate {} (.column (.bare "AT")) .timestamp atTen = pure p ∧
        (∀ t, p.holdsAt? (.column (.bare "AT")) t = some false) ∧
        (ValueTest.compare .equal tenOClock).HoldsOfDay tenOClock.date := by
  have htest : atTen.momentTest? = some (.compare .equal tenOClock) := by decide +kernel
  have hkind : ValueKind.timestamp.isTemporal = true := rfl
  obtain ⟨p, hp, hholds⟩ := Condition.exists_holdsAt? {} (.column (.bare "AT")) hkind htest
  refine ⟨by decide +kernel, p, hp, fun t => ?_, rfl⟩
  have hnone : ¬(ValueTest.compare .equal tenOClock).HoldsOfStart t.date := by
    intro heq
    have htime := (Timestamp.startOf_eq_iff.1 (Timestamp.rank_inj.1 heq)).2
    revert htime
    decide
  rw [hholds, decide_eq_false hnone]

end ReportSql
