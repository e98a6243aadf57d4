import ReportSql.Proofs.Compare.Days
import ReportSql.Proofs.Compare.UpperCase

/-!
# Lists of one item

Equality with a scalar and membership in the list of it alone.  The two are put together apart from
each other, but bind one value and compare one expression with it, with two exceptions.  In a column
of text a scalar that is no text is spelled out for equality and bound as it stands in a list.  And
equality compares moments by their days; in rows at the start of a day both compare the same.

## Main definitions

* `Predicate.equality?` — the equality that a predicate asks for.
* `EqualityTest.Agrees` — what equality and membership have in common.

## Main statements

* `Predicate.holdsAt?_of_equality?` — a predicate holds of the rows of the equality it asks for.
* `equalTo_agrees_amongOne` — equality with a scalar agrees with membership in the list of it.
-/

namespace ReportSql

open Text

/-! ## Equalities -/

/-- The question whether an expression equals a value, or its negation. -/
structure EqualityTest where
  negated : Bool
  expr : Expr
  value : BindValue

namespace Comparison

/-- The comparison that asks for equality or for its negation. -/
def equality (negated : Bool) : Comparison := if negated then .notEqual else .equal

/-- Whether a comparison asks for the negation of equality; none where it asks for neither. -/
def negated? : Comparison → Option Bool
  | .equal => some false
  | .notEqual => some true
  | _ => none

@[simp] theorem negated?_equality (negated : Bool) :
    (equality negated).negated? = some negated := by
  cases negated <;> rfl

theorem eq_equality {c : Comparison} {negated : Bool} (h : c.negated? = some negated) :
    c = equality negated := by
  cases c <;> cases h <;> rfl

/-- An equality holds of equal values, and its negation of the others. -/
theorem holds_equality_iff {α : Type} [LinearOrder α] (negated : Bool) (a b : α) :
    (equality negated).Holds a b ↔ (decide (a = b) != negated) = true := by
  cases negated <;> simp [equality, Holds]

end Comparison

/-- The upper case of a bound text; none for other values. -/
def BindValue.upper? : BindValue → Option BindValue
  | .text s => some (.text (upper s))
  | _ => none

/-- The equality that a predicate asks for.  A member of a list of one equals its item. -/
def Predicate.equality? : Predicate Hole → Option EqualityTest
  | .compare e c h => c.negated?.map fun negated => ⟨negated, e, h.value⟩
  | .compareUpper e c h => do return ⟨← c.negated?, .upper e, ← h.value.upper?⟩
  | .among negated e [h] => some ⟨negated, e, h.value⟩
  | _ => none

/-- Whether an equality holds of a row whose column has the moment `t`; none for one that compares
no moments. -/
def EqualityTest.holdsAt? (column : Expr) (t : Timestamp) (test : EqualityTest) : Option Bool := do
  let moment ← column.momentAt? t test.expr
  let bound ← test.value.moment?
  return decide (moment = bound) != test.negated

/-- **The rows of a predicate are those of the equality that it asks for.** -/
theorem Predicate.holdsAt?_of_equality? {p : Predicate Hole} {test : EqualityTest}
    (h : p.equality? = some test) (column : Expr) (t : Timestamp) :
    p.holdsAt? column t = test.holdsAt? column t := by
  unfold equality? at h
  split at h
  · next e c value =>
    obtain ⟨negated, hc, rfl⟩ := Option.map_eq_some_iff.1 h
    rw [Comparison.eq_equality hc, holdsAt?, EqualityTest.holdsAt?]
    simp only [Comparison.holds_equality_iff, Timestamp.rank_inj, Bool.decide_eq_true]
  · next e c value =>
    obtain ⟨negated, -, h⟩ := Option.bind_eq_some_iff.1 h
    obtain ⟨bound, hbound, h⟩ := Option.bind_eq_some_iff.1 h
    cases h
    -- a text is no moment
    have hnone : bound.moment? = none := by
      unfold BindValue.upper? at hbound
      split at hbound
      · cases hbound
        rfl
      · cases hbound
    have hholds : (compareUpper e c value).holdsAt? column t = none := rfl
    rw [hholds, EqualityTest.holdsAt?, hnone]
    cases column.momentAt? t (.upper e) <;> rfl
  · next negated e value =>
    cases h
    rw [holdsAt?, EqualityTest.holdsAt?]
    cases hvalue : value.value.moment? <;> simp [hvalue]
  · cases h

/-! ## Equality and membership -/

/-- Whether a scalar is a text. -/
def Scalar.isText : Scalar → Bool
  | .text _ => true
  | _ => false

/-- What an equality with a scalar has in common with a membership in the list of it alone, in a
column of a kind. -/
structure EqualityTest.Agrees (column : Expr) (kind : ValueKind) (negated : Bool) (s : Scalar)
    (equal member : EqualityTest) : Prop where
  negated : equal.negated = negated ∧ member.negated = negated
  /-- Moments at the start of a day are compared as they stand. -/
  startOf : ∀ d,
    column.momentAt? (.startOf d) equal.expr = column.momentAt? (.startOf d) member.expr
  expr : kind.isTemporal = false → equal.expr = member.expr
  value : kind ≠ .text ∨ s.isText = true → equal.value = member.value
  /-- In a column of text other scalars are spelled out, or bound as they stand. -/
  spelling : kind = .text → s.isText = false →
    equal.value = .text (upper s.spelling) ∧ member.value = .ofScalar s

namespace EqualityTest

variable {column : Expr} {kind : ValueKind} {negated : Bool} {s : Scalar}
  {equal member : EqualityTest}

/-- Away from moments, and from other scalars than text in a column of text, the two are one. -/
theorem Agrees.eq (h : equal.Agrees column kind negated s member) (hkind : kind.isTemporal = false)
    (hs : kind ≠ .text ∨ s.isText = true) : equal = member := by
  obtain ⟨n, expr, value⟩ := equal
  obtain ⟨n', expr', value'⟩ := member
  obtain rfl : n = n' := h.negated.1.trans h.negated.2.symm
  obtain rfl : expr = expr' := h.expr hkind
  obtain rfl : value = value' := h.value hs
  rfl

/-- Both hold of the same rows among those whose column stands at the start of a day. -/
theorem Agrees.holdsAt?_startOf (h : equal.Agrees column kind negated s member)
    (hs : kind ≠ .text ∨ s.isText = true) (d : Date) :
    equal.holdsAt? column (.startOf d) = member.holdsAt? column (.startOf d) := by
  rw [holdsAt?, holdsAt?, h.startOf, h.value hs, h.negated.1, h.negated.2]

end EqualityTest

/-- A condition of equality with a scalar, or of its negation. -/
def Condition.equalTo (column : String) (datatype : Datatype) (negated : Bool) (s : Scalar) :
    Condition :=
  ⟨column, datatype, if negated then .notEqual else .equal, .scalar s⟩

/-- A condition of membership in a list of one scalar, or of its negation. -/
def Condition.amongOne (column : String) (datatype : Datatype) (negated : Bool) (s : Scalar) :
    Condition :=
  ⟨column, datatype, if negated then .notAmong else .among, .list [s]⟩

section

variable (options : Options) (e : Expr) (kind : ValueKind) (column : String) (datatype : Datatype)
  (negated : Bool) (s : Scalar)

/-- The equality that a condition of equality asks for. -/
def equalTest : EqualityTest :=
  if kind = .text then ⟨negated, .upper (.castText options.textType e), .text (upper s.spelling)⟩
  else ⟨negated, comparedExpr options kind e, kind.coerce s⟩

/-- The equality that a condition of membership asks for. -/
def memberTest : EqualityTest :=
  if kind = .text then
    ⟨negated, .upper (.castText options.textType e), (textItemHole s).value⟩
  else ⟨negated, e, kind.coerce s⟩

theorem exists_equality?_equalTo :
    ∃ p, conditionPredicate options e kind (.equalTo column datatype negated s) = pure p ∧
      p.equality? = some (equalTest options e kind negated s) := by
  by_cases hkind : kind = .text
  · subst hkind
    refine ⟨.compareUpper (.castText options.textType e) (.equality negated)
      (textHole (upper s.spelling)), ?_, ?_⟩
    · cases negated <;> rfl
    · -- the database folds a text that is folded already
      simp [Predicate.equality?, BindValue.upper?, textHole, equalTest, upper_upper]
  · have hoperator : Comparison.ofOperator? (Condition.equalTo column datatype negated s).operator =
        some (.equality negated) := by
      cases negated <;> rfl
    refine ⟨_, conditionPredicate_of_ofOperator? options e hkind hoperator rfl, ?_⟩
    simp [Predicate.equality?, equalTest, hkind, kindHole]

theorem exists_equality?_amongOne (hlimit : 0 < options.maxListItems) :
    ∃ p, conditionPredicate options e kind (.amongOne column datatype negated s) = pure p ∧
      p.equality? = some (memberTest options e kind negated s) := by
  have hevents : listEvents options column [s] = [] := by
    simp [listEvents, Nat.ne_of_gt hlimit]
  have htake : [s].take options.maxListItems = [s] := List.take_of_length_le hlimit
  refine ⟨listPredicate options e kind negated [s], ?_, ?_⟩
  · cases negated <;>
      simp [conditionPredicate, Condition.amongOne, unaryPredicate?, hevents] <;> rfl
  · cases kind <;>
      simp [listPredicate, htake, Predicate.equality?, memberTest, kindHole]

theorem equalTest_agrees :
    (equalTest options e kind negated s).Agrees e kind negated s
      (memberTest options e kind negated s) := by
  by_cases hkind : kind = .text
  · subst hkind
    rw [equalTest, memberTest, if_pos rfl, if_pos rfl]
    cases s <;> constructor <;> simp [Scalar.isText, textItemHole, textHole, Scalar.spelling]
  · rw [equalTest, memberTest, if_neg hkind, if_neg hkind]
    have hexpr : kind.isTemporal = false → comparedExpr options kind e = e := by
      intro htemporal
      rw [comparedExpr, htemporal]
      rfl
    refine ⟨⟨rfl, rfl⟩, fun d => ?_, hexpr, fun _ => rfl, fun htext => absurd htext hkind⟩
    cases htemporal : kind.isTemporal with
    | true =>
      rw [momentAt?_comparedExpr options e htemporal, Expr.momentAt?_self]
      rfl
    | false => rw [hexpr htemporal]

/-- **Equality with a scalar agrees with membership in the list of it alone**, if a list may have an
item. -/
theorem equalTo_agrees_amongOne (hlimit : 0 < options.maxListItems) :
    ∃ p q equal member,
      conditionPredicate options e kind (.equalTo column datatype negated s) = pure p ∧
      conditionPredicate options e kind (.amongOne column datatype negated s) = pure q ∧
      p.equality? = some equal ∧ q.equality? = some member ∧ equal.Agrees e kind negated s member ∧
      (kind.isTemporal = true → ∀ d, p.holdsAt? e (.startOf d) = q.holdsAt? e (.startOf d)) := by
  obtain ⟨p, hp, hequal⟩ := exists_equality?_equalTo options e kind column datatype negated s
  obtain ⟨q, hq, hmember⟩ :=
    exists_equality?_amongOne options e kind column datatype negated s hlimit
  have hagrees := equalTest_agrees options e kind negated s
  refine ⟨p, q, _, _, hp, hq, hequal, hmember, hagrees, fun hkind d => ?_⟩
  have htext : kind ≠ .text := by
    rintro rfl
    cases hkind
  rw [Predicate.holdsAt?_of_equality? hequal, Predicate.holdsAt?_of_equality? hmember,
    hagrees.holdsAt?_startOf (.inl htext)]

end

/-! ## Where the two differ -/

theorem equalTo_agrees_amongOne_region :
    0 < ({} : Options).maxListItems ∧
      ∃ p q test,
        conditionPredicate {} (.column (.bare "REGION")) .text
            (.equalTo "REGION" .text true (.text "emea")) = pure p ∧
        conditionPredicate {} (.column (.bare "REGION")) .text
            (.amongOne "REGION" .text true (.text "emea")) = pure q ∧
        p.equality? = some test ∧ q.equality? = some test := by
  have hlimit : 0 < ({} : Options).maxListItems := by decide
  obtain ⟨p, q, equal, member, hp, hq, hequal, hmember, hagrees, -⟩ :=
    equalTo_agrees_amongOne {} (.column (.bare "REGION")) .text "REGION" .text true
      (.text "emea") hlimit
  obtain rfl := hagrees.eq rfl (.inr rfl)
  exact ⟨hlimit, p, q, equal, hp, hq, hequal, hmember⟩

/-- Events at a number in a column of text and on a day, both asked for twice. -/
def eventsAskedTwice : Request where
  dataset := "EVENTS"
  columns? := some ["ID"]
  filters? := some ⟨.and,
    [.leaf (.equalTo "CODE" .text false (.int 5)), .leaf (.amongOne "CODE" .text false (.int 5)),
      .leaf (.equalTo "AT" .timestamp false (.text "2026-03-01")),
      .leaf (.amongOne "AT" .timestamp false (.text "2026-03-01"))]⟩

/-- **Equality and membership differ**: in the value that is bound for a number in a column of text,
and in a row at ten o'clock of the day that is asked for.  No list has an item where none is let
through. -/
theorem equality_differs_from_membership :
    ((compile (.ofCatalog .empty) eventsAskedTwice).outcome.toOption =
        some ⟨"SELECT \"EVENTS\".\"ID\" AS \"EVENTS.ID\"\n" ++
          "FROM (SELECT * FROM \"EVENTS\" WHERE " ++
          "(UPPER(CAST(\"CODE\" AS VARCHAR2(4000))) = UPPER(:p_1)) AND " ++
          "(UPPER(CAST(\"CODE\" AS VARCHAR2(4000))) IN (:p_2)) AND " ++
          "(TRUNC(\"AT\") = :p_3) AND (\"AT\" IN (:p_4))) \"EVENTS\"\n" ++
          "OFFSET 0 ROWS FETCH NEXT 100 ROWS ONLY",
          .ofList [("p_1", .text "5"), ("p_2", .int 5), ("p_3", .date tenOClock.date),
            ("p_4", .date tenOClock.date)]⟩) ∧
      (∃ p q equal member,
        conditionPredicate {} (.column (.bare "CODE")) .text
            (.equalTo "CODE" .text false (.int 5)) = pure p ∧
        conditionPredicate {} (.column (.bare "CODE")) .text
            (.amongOne "CODE" .text false (.int 5)) = pure q ∧
        p.equality? = some equal ∧ q.equality? = some member ∧ equal.value ≠ member.value) ∧
      (∃ p q,
        conditionPredicate {} (.column (.bare "AT")) .timestamp
            (.equalTo "AT" .timestamp false (.text "2026-03-01")) = pure p ∧
        conditionPredicate {} (.column (.bare "AT")) .timestamp
            (.amongOne "AT" .timestamp false (.text "2026-03-01")) = pure q ∧
        p.holdsAt? (.column (.bare "AT")) tenOClock = some true ∧
        q.holdsAt? (.column (.bare "AT")) tenOClock = some false) ∧
      ∃ q, (conditionPredicate { maxListItems := 0 } (.column (.bare "ID")) .number
            (.amongOne "ID" .number false (.int 5))).outcome = .ok q ∧ q.equality? = none := by
  have hlimit : 0 < ({} : Options).maxListItems := by decide
  refine ⟨by decide +kernel, ?_, ?_, ⟨_, rfl, rfl⟩⟩
  · obtain ⟨p, hp, hequal⟩ := exists_equality?_equalTo {} (.column (.bare "CODE")) .text "CODE"
      .text false (.int 5)
    obtain ⟨q, hq, hmember⟩ := exists_equality?_amongOne {} (.column (.bare "CODE")) .text "CODE"
      .text false (.int 5) hlimit
    exact ⟨p, q, _, _, hp, hq, hequal, hmember, by decide +kernel⟩
  · obtain ⟨p, hp, hequal⟩ := exists_equality?_equalTo {} (.column (.bare "AT")) .timestamp "AT"
      .timestamp false (.text "2026-03-01")
    obtain ⟨q, hq, hmember⟩ := exists_equality?_amongOne {} (.column (.bare "AT")) .timestamp "AT"
      .timestamp false (.text "2026-03-01") hlimit
    refine ⟨p, q, hp, hq, ?_, ?_⟩
    · rw [Predicate.holdsAt?_of_equality? hequal]
      decide +kernel
    · rw [Predicate.holdsAt?_of_equality? hmember]
      decide +kernel

end ReportSql
