import Mathlib.Data.List.TakeWhile
import ReportSql.Proofs.RoundTrip.Conditions
import ReportSql.Proofs.Routing.Built

/-!
# Values that are written as null

JSON has no infinite numbers and no NaN, and a bound value that is one is written as `null`.  The
numbers of a request are finite, so only a text can become such a value: one that spells it, where
it is compared as a number.

## Main definitions

* `BindValue.IsNull` — a bound value that is written as `null`.
* `Scalar.SpellsNonFinite` — a text that spells an infinite number or a NaN.
* `Condition.compared` — the scalars that a condition compares as values of a kind.

## Main statements

* `ValueKind.isNull_coerce_iff` — the scalars that become such a value.
* `exists_isNull_conditionPredicate_iff` — the conditions that bind one.
-/

namespace ReportSql

open Text

/-! ## Whole numbers as floating-point numbers -/

namespace Double

/-- The sign of a ratio does not make it finite or not. -/
theorem isFinite_ofRatio (negative : Bool) (num den : Nat) :
    (ofRatio negative num den).isFinite = (ofRatio false num den).isFinite := by
  unfold ofRatio
  split
  · rfl
  · dsimp only
    split <;> dsimp only <;> split <;> rfl

/-- **A numeral of 64 bits without a power of ten is near a finite number.** -/
theorem isFinite_ofDecimal_zero (negative : Bool) {n : Nat} (h : n < Nat.pow 2 64) :
    (ofDecimal negative n 0).isFinite = true := by
  have hratio : (ofRatio negative n 1).isFinite = true := by
    rw [isFinite_ofRatio]
    exact isFinite_ofNat h
  unfold ofDecimal
  split
  · rfl
  · have hlarge : ¬(0 : Int) + n.log2 + 1 < -330 := by omega
    rw [if_neg (by decide), if_neg hlarge, if_pos (by decide)]
    simpa using hratio

end Double

namespace Numeral

/-- Digits have no lower case. -/
theorem map_toLower_of_isDigits {ds : List Char} (h : isDigits ds = true) :
    ds.map Char.toLower = ds := by
  rw [isDigits, Bool.and_eq_true, List.all_eq_true] at h
  refine (List.map_congr_left fun d hd => ?_).trans (List.map_id' ds)
  have hdigit := h.2 d hd
  rw [Char.isDigit, Bool.and_eq_true, decide_eq_true_eq, decide_eq_true_eq] at hdigit
  refine dif_neg fun hupper => ?_
  exact absurd (UInt32.le_trans hupper.1 hdigit.2) (by decide)

/-- A run of digits spells a numeral without a fraction and a power of ten. -/
theorem read?_of_isDigits {cs ds : List Char} {negative : Bool} (hcs : cutSign cs = (negative, ds))
    (h : isDigits ds = true) : read? cs = some ⟨negative, digitsValue ds, 0⟩ := by
  rw [isDigits, Bool.and_eq_true, Bool.not_eq_true', List.isEmpty_eq_false_iff,
    List.all_eq_true] at h
  have htake : ds.takeWhile Char.isDigit = ds := List.takeWhile_eq_self_iff.2 h.2
  have hdrop : ds.dropWhile Char.isDigit = [] := List.dropWhile_eq_nil_iff.2 h.2
  simp [read?, hcs, htake, hdrop, cutFraction, h.1, readExponent?, ofParts]

end Numeral

/-- **A text that spells a whole number spells no infinite number and no NaN.** -/
theorem isFinite_of_readInteger? {s : String} {i : Int} {x : Double}
    (hi : readInteger? s = some i) (hx : readDouble? s = some x) : x.isFinite = true := by
  obtain ⟨hsigned, hfits⟩ := Option.filter_eq_some_iff.1 hi
  unfold Numeral.signed? at hsigned
  unfold readDouble? at hx
  cases hcut : Numeral.cutSign s.toList with
  | mk negative ds =>
    simp only [hcut] at hsigned hx
    split at hsigned
    · next hdigits =>
      rw [Numeral.map_toLower_of_isDigits hdigits] at hx
      have hword : ∀ word : String, (word.toList.all Char.isDigit) = false →
          String.ofList ds ≠ word := by
        rintro _ hword rfl
        rw [String.toList_ofList] at hword
        rw [Numeral.isDigits, hword, Bool.and_false] at hdigits
        cases hdigits
      rw [if_neg (not_or.2 ⟨hword _ (by decide), hword _ (by decide)⟩),
        if_neg (hword _ (by decide)), Numeral.read?_of_isDigits hcut hdigits] at hx
      cases hx
      refine Double.isFinite_ofDecimal_zero negative ?_
      have hpow : Nat.pow 2 64 = 2 * Nat.pow 2 63 := rfl
      rw [fitsInt64, Bool.and_eq_true, decide_eq_true_eq, decide_eq_true_eq] at hfits
      cases hsigned
      change Numeral.digitsValue ds < Nat.pow 2 64
      split at hfits <;> omega
    · cases hsigned

/-! ## Bound values -/

/-- A bound value that is written as `null`. -/
def BindValue.IsNull (v : BindValue) : Prop := v.toJson = .null

namespace BindValue

/-- The values that are written as `null` are the infinite numbers and NaN. -/
theorem isNull_float_iff {x : Double} : (BindValue.float x).IsNull ↔ x.isFinite = false := by
  rw [IsNull, toJson, Scalar.doubleJson]
  cases x.isFinite <;> simp

@[simp] theorem not_isNull_text (s : String) : ¬(BindValue.text s).IsNull := by
  simp [IsNull, toJson]

@[simp] theorem not_isNull_int (i : Int) : ¬(BindValue.int i).IsNull := by
  simp [IsNull, toJson]

/-- A scalar that can be written is bound as a value that can. -/
theorem not_isNull_ofScalar {s : Scalar} (h : s.IsWritable) : ¬(ofScalar s).IsNull := by
  have hjson : (ofScalar s).toJson = s.toJson := by cases s <;> rfl
  rw [IsNull, hjson]
  exact Scalar.toJson_ne_null h

end BindValue

/-- What names a moment is bound as one. -/
theorem not_isNull_of_readTemporal? {s : String} {v : BindValue} (h : readTemporal? s = some v) :
    ¬v.IsNull := by
  unfold readTemporal? at h
  dsimp only at h
  split at h <;> cases h <;> simp [BindValue.IsNull, BindValue.toJson]

/-! ## Scalars -/

/-- A text that spells an infinite number or a NaN: one of the words for them, or a numeral past the
greatest floating-point number. -/
def Scalar.SpellsNonFinite (s : Scalar) : Prop :=
  ∃ t x, s = .text t ∧ readDouble? (trim t) = some x ∧ x.isFinite = false

theorem not_isNull_coerceDate {s : Scalar} (h : s.IsWritable) : ¬(coerceDate s).IsNull := by
  unfold coerceDate
  split
  · split
    · next hvalue => exact not_isNull_of_readTemporal? hvalue
    · exact BindValue.not_isNull_text _
  · exact BindValue.not_isNull_ofScalar h

theorem isNull_coerceNumber_iff {s : Scalar} (h : s.IsWritable) :
    (coerceNumber s).IsNull ↔ s.SpellsNonFinite := by
  cases s with
  | text t =>
    have hspells : (Scalar.text t).SpellsNonFinite ↔
        ∃ x, readDouble? (trim t) = some x ∧ x.isFinite = false := by
      simp [Scalar.SpellsNonFinite]
    rw [hspells]
    unfold coerceNumber
    dsimp only
    split
    · next i hi =>
      refine iff_of_false (BindValue.not_isNull_int i) ?_
      rintro ⟨x, hx, hinfinite⟩
      rw [isFinite_of_readInteger? hi hx] at hinfinite
      cases hinfinite
    · next x _ hx => simp [BindValue.isNull_float_iff, hx]
    · next _ hx => simp [hx]
  | _ => exact iff_of_false (BindValue.not_isNull_ofScalar h) (by simp [Scalar.SpellsNonFinite])

/-- **The scalars that are bound as a value that is written as `null`.** -/
theorem ValueKind.isNull_coerce_iff {kind : ValueKind} {s : Scalar} (h : s.IsWritable) :
    (kind.coerce s).IsNull ↔ kind = .number ∧ s.SpellsNonFinite := by
  cases kind with
  | text => simpa [coerce] using BindValue.not_isNull_ofScalar h
  | number => simpa [coerce] using isNull_coerceNumber_iff h
  | date => simpa [coerce] using not_isNull_coerceDate h
  | timestamp => simpa [coerce] using not_isNull_coerceDate h

/-! ## Conditions -/

/-- The scalars that a condition compares as values of a kind, as far as a list is not cut.  A
search is for a text. -/
def Condition.compared (options : Options) (c : Condition) : List Scalar :=
  match c.value with
  | .absent => []
  | .scalar s => if c.operator.isSearch then [] else [s]
  | .range low high => low.toList ++ high.toList
  | .list items => items.take options.maxListItems

section Conditions

variable {options : Options} {e : Expr} {kind : ValueKind} {c : Condition} {p : Predicate Hole}

/-- Some hole of a predicate is filled with a value that is written as `null`. -/
def Predicate.BindsNull (p : Predicate Hole) : Prop := ∃ h ∈ p.values, h.value.IsNull

theorem not_isNull_textHole (s : String) : ¬(textHole s).value.IsNull := BindValue.not_isNull_text s

theorem not_isNull_textItemHole {s : Scalar} (h : s.IsWritable) :
    ¬(textItemHole s).value.IsNull := by
  cases s with
  | text t => exact not_isNull_textHole _
  | _ => exact BindValue.not_isNull_ofScalar h

/-- Holes for scalars of a kind, whatever their placeholders are called. -/
theorem exists_isNull_map_iff {hole : Scalar → Hole} (hhole : ∀ s, (hole s).value = kind.coerce s)
    {items : List Scalar} (h : ∀ s ∈ items, s.IsWritable) :
    (∃ x ∈ items.map hole, x.value.IsNull) ↔
      kind = .number ∧ ∃ s ∈ items, s.SpellsNonFinite := by
  have hnull : ∀ s ∈ items, (hole s).value.IsNull ↔ kind = .number ∧ s.SpellsNonFinite := by
    intro s hs
    rw [hhole]
    exact ValueKind.isNull_coerce_iff (h s hs)
  constructor
  · rintro ⟨x, hx, hxnull⟩
    obtain ⟨s, hs, rfl⟩ := List.mem_map.1 hx
    obtain ⟨hkind, hspells⟩ := (hnull s hs).1 hxnull
    exact ⟨hkind, s, hs, hspells⟩
  · rintro ⟨hkind, s, hs, hspells⟩
    exact ⟨_, List.mem_map_of_mem hs, (hnull s hs).2 ⟨hkind, hspells⟩⟩

theorem bindsNull_scalarPredicate?_iff {operator : Operator} {s : Scalar} (hs : s.IsWritable)
    (h : scalarPredicate? options e kind operator s = some p) :
    p.BindsNull ↔ kind = .number ∧ ∃ s' ∈ (if operator.isSearch then [] else [s]),
      s'.SpellsNonFinite := by
  unfold scalarPredicate? at h
  split at h
  · next hsearch =>
    cases h
    simp [Predicate.BindsNull, searchPredicate, Predicate.values, not_isNull_textHole, hsearch]
  · next hsearch =>
    obtain ⟨comparison, -, rfl⟩ := Option.map_eq_some_iff.1 h
    rw [if_neg hsearch]
    split
    · next htext =>
      simp [Predicate.BindsNull, Predicate.values, not_isNull_textHole, htext.1]
    · simp [Predicate.BindsNull, Predicate.values, kindHole, ValueKind.isNull_coerce_iff hs]

theorem bindsNull_listPredicate_iff {negated : Bool} {items : List Scalar}
    (hitems : ∀ s ∈ items, s.IsWritable) :
    (listPredicate options e kind negated items).BindsNull ↔
      kind = .number ∧ ∃ s ∈ items.take options.maxListItems, s.SpellsNonFinite := by
  have hwritable : ∀ s ∈ items.take options.maxListItems, s.IsWritable :=
    fun s hs => hitems s (List.mem_of_mem_take hs)
  have hkind : (∃ x ∈ (items.take options.maxListItems).map (kindHole kind), x.value.IsNull) ↔
      kind = .number ∧ ∃ s ∈ items.take options.maxListItems, s.SpellsNonFinite :=
    exists_isNull_map_iff (fun _ => rfl) hwritable
  cases kind with
  | text =>
    refine iff_of_false ?_ (by simp)
    rintro ⟨hole, hmem, hnull⟩
    obtain ⟨s, hs, rfl⟩ := List.mem_map.1 hmem
    exact not_isNull_textItemHole (hwritable s hs) hnull
  | _ => exact hkind

theorem bindsNull_rangePredicate_iff {low high : Option Scalar}
    (hlow : ∀ s ∈ low, s.IsWritable) (hhigh : ∀ s ∈ high, s.IsWritable) :
    (rangePredicate options e kind low high).BindsNull ↔
      kind = .number ∧ ∃ s ∈ low.toList ++ high.toList, s.SpellsNonFinite := by
  have hvalues : (rangePredicate options e kind low high).values =
      (low.toList ++ high.toList).map (kindHole kind) := by
    cases low <;> cases high <;> rfl
  have hwritable : ∀ s ∈ low.toList ++ high.toList, s.IsWritable := by
    simpa [or_imp, forall_and] using And.intro hlow hhigh
  rw [Predicate.BindsNull, hvalues]
  exact exists_isNull_map_iff (fun _ => rfl) hwritable

theorem FilterValue.eq_absent_of_suits {v : FilterValue} {operator : Operator}
    (hunary : operator.isUnary = true) (h : v.suits operator = true) : v = .absent := by
  cases v with
  | absent => rfl
  | _ => cases operator <;> simp_all [Operator.isUnary, suits, Operator.isSearch,
      Comparison.ofOperator?]

/-- An operator that compares with no value has a predicate without holes. -/
theorem values_of_unaryPredicate? {operator : Operator}
    (h : unaryPredicate? e kind operator = some p) :
    operator.isUnary = true ∧ p.values = [] := by
  unfold unaryPredicate? at h
  split at h
  case h_1 | h_2 =>
    cases h
    exact ⟨rfl, rfl⟩
  case h_3 | h_4 =>
    cases h
    refine ⟨rfl, ?_⟩
    split <;> rfl
  case h_5 => cases h

/-- **The conditions that bind a value that is written as `null`.**  They compare numbers, and one
of the texts that they compare with spells an infinite number or a NaN. -/
theorem bindsNull_conditionPredicate_iff (hsuits : c.value.suits c.operator = true)
    (hwritable : c.value.IsWritable) (h : (conditionPredicate options e kind c).outcome = .ok p) :
    p.BindsNull ↔ kind = .number ∧ ∃ s ∈ c.compared options, s.SpellsNonFinite := by
  unfold conditionPredicate at h
  split at h
  · next hp =>
    cases h
    obtain ⟨hunary, hvalues⟩ := values_of_unaryPredicate? hp
    have habsent := FilterValue.eq_absent_of_suits hunary hsuits
    simp [Predicate.BindsNull, hvalues, Condition.compared, habsent]
  · unfold Condition.compared
    split at h
    case h_1 hvalue =>
      cases h
      simp [hvalue, Predicate.BindsNull, Predicate.values]
    case h_2 s hvalue =>
      rw [hvalue] at hwritable
      split at h
      · next hp =>
        cases h
        simpa only [hvalue] using bindsNull_scalarPredicate?_iff hwritable hp
      · cases h
    case h_3 items hvalue =>
      rw [hvalue] at hwritable
      split at h
      · dsimp only at h
        rw [Traced.outcome_bind_of_ok rfl] at h
        simp only [hvalue]
        split at h
        · next hempty =>
          cases h
          rw [List.isEmpty_iff.1 hempty]
          split <;> simp [Predicate.BindsNull, Predicate.values]
        · cases h
          exact bindsNull_listPredicate_iff hwritable
      · cases h
    case h_4 low high hvalue =>
      rw [hvalue] at hwritable
      split at h
      · cases h
        simpa only [hvalue] using bindsNull_rangePredicate_iff hwritable.1 hwritable.2
      · cases h

end Conditions

end ReportSql
