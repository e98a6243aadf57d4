import ReportSql.Proofs.Join.Restriction
import ReportSql.Proofs.Tree.Split

/-!
# Filters moved before the joins

A filter whose conditions on single sources were moved into those sources selects the same joined
rows as the whole filter after the joins, for every kind of join.

## Main definitions

* `Reading R` — the truth of conditions of the rows that they read.
* `Scope.truth` — the truth of a condition of a joined row.
* `Pushdown.admits` — the rows of a source that the filter moved into it keeps.

## Main statements

* `filter_joinedRows_pushdown` — moving filters into the sources does not change the result.
-/

namespace ReportSql

open Text

variable {R : Type}

/-! ## The truth of conditions -/

/-- The truth of conditions.  A condition on a column reads the row or null of one occurrence; one
on the output of an aggregation may have any truth value. -/
structure Reading (R : Type) where
  column : Condition → Option R → Truth
  output : Condition → JoinedRow R → Truth

/-- The truth of a condition of a joined row.  A condition whose column is not found is true. -/
def Scope.truth (s : Scope) (ρ : Reading R) (m : JoinedRow R) (c : Condition) : Truth :=
  if (trim c.column).isEmpty then .yes
  else if s.aggregates.names c.column then ρ.output c m
  else
    match s.sources.resolveColumn c.column with
    | some (i, _) => ρ.column c (m i)
    | none => .yes

/-- A condition on a column of an occurrence reads the row of that occurrence. -/
theorem Scope.truth_of_belongsTo {s : Scope} {target : Nat} {c : Condition}
    (h : s.belongsTo target c = true) (ρ : Reading R) (m : JoinedRow R) :
    s.truth ρ m c = ρ.column c (m target) := by
  simp only [belongsTo, Bool.and_eq_true, Bool.not_eq_true', Option.any_eq_true,
    beq_iff_eq] at h
  obtain ⟨⟨hnames, hblank⟩, ⟨i, name⟩, hresolve, rfl⟩ := h
  simp [truth, hnames, hblank, hresolve]

/-! ## The filters moved into the sources -/

namespace FilterGroup

variable {α : Type}

/-- A filter without members is true. -/
theorem value_of_isEmpty {g : FilterGroup α} (h : g.isEmpty = true) (v : α → Truth) :
    g.value v = .yes := by
  obtain ⟨logic, children⟩ := g
  obtain rfl : children = [] := List.isEmpty_iff.1 h
  simp [value, Tree.value, toTree]

end FilterGroup

namespace Pushdown

variable {s : Scope}

@[simp] theorem at?_cons_zero (g : Option Filter) (gs : List (Option Filter)) (kept : Filter) :
    at? ⟨g :: gs, kept⟩ 0 = g := by
  cases g <;> rfl

@[simp] theorem at?_cons_succ (g : Option Filter) (gs : List (Option Filter)) (kept : Filter)
    (k : Nat) : at? ⟨g :: gs, kept⟩ (k + 1) = at? ⟨gs, kept⟩ k := by
  simp [at?]

/-- What one source takes out of a filter: nothing if an outer join may miss its rows, else
conditions on its own columns.  What it takes and what it leaves have the value of the filter. -/
theorem fromPosition_cons (s : Scope) (target : Nat) (o : Occurrence) (rest : List Occurrence)
    (g : Filter) :
    ∃ (moved : Option Filter) (kept : Filter),
      fromPosition s target (o :: rest) g =
        ⟨moved :: (fromPosition s (target + 1) rest kept).pushed,
          (fromPosition s (target + 1) rest kept).remaining⟩ ∧
      (∀ h, moved = some h →
        o.nullSupplying = false ∧ ∀ c ∈ h.leaves, s.belongsTo target c = true) ∧
      ∀ v, g.value v = ((moved.map (FilterGroup.value v)).getD .yes).and (kept.value v) := by
  cases hnull : o.nullSupplying with
  | true =>
    refine ⟨none, g, ?_, ?_, ?_⟩
    · simp [fromPosition, hnull]
    · intro h hh
      cases hh
    · intro v
      rfl
  | false =>
    refine ⟨if (splitFilter (s.belongsTo target) g).1.isEmpty then none
      else some (splitFilter (s.belongsTo target) g).1, (splitFilter (s.belongsTo target) g).2,
      ?_, ?_, ?_⟩
    · simp [fromPosition, hnull]
    · intro h hh
      split at hh
      · cases hh
      · cases hh
        exact ⟨rfl, all_leaves_splitFilter_fst _ g⟩
    · intro v
      rw [← value_splitFilter (s.belongsTo target) v g]
      split
      · next hempty => rw [FilterGroup.value_of_isEmpty hempty]; rfl
      · rfl

/-- What is moved into a source is on the columns of that source, and no outer join may miss its
rows. -/
theorem of_at?_fromPosition {s : Scope} {target k : Nat} {occurrences : List Occurrence}
    {g h : Filter} (hk : (fromPosition s target occurrences g).at? k = some h) :
    (∃ o, occurrences[k]? = some o ∧ o.nullSupplying = false) ∧
      ∀ c ∈ h.leaves, s.belongsTo (target + k) c = true := by
  induction occurrences generalizing target g k with
  | nil => simp [fromPosition, at?] at hk
  | cons o rest ih =>
    obtain ⟨moved, kept, heq, hmoved, -⟩ := fromPosition_cons s target o rest g
    rw [heq] at hk
    cases k with
    | zero =>
      obtain ⟨hnull, hleaves⟩ := hmoved h hk
      exact ⟨⟨o, rfl, hnull⟩, hleaves⟩
    | succ k =>
      rw [at?_cons_succ] at hk
      have hrest := ih hk
      rwa [Nat.add_right_comm] at hrest

/-- A filter is true when all that was moved out of it and what is left of it are. -/
theorem holds_value_fromPosition (s : Scope) (v : Condition → Truth) (target : Nat)
    (occurrences : List Occurrence) (g : Filter) :
    (g.value v).holds = true ↔
      (∀ k h, (fromPosition s target occurrences g).at? k = some h → (h.value v).holds = true) ∧
        ((fromPosition s target occurrences g).remaining.value v).holds = true := by
  induction occurrences generalizing target g with
  | nil => simp [fromPosition, at?]
  | cons o rest ih =>
    obtain ⟨moved, kept, heq, -, hvalue⟩ := fromPosition_cons s target o rest g
    have hhead : ((moved.map (FilterGroup.value v)).getD .yes).holds = true ↔
        ∀ h, moved = some h → (h.value v).holds = true := by
      cases moved <;> simp
    rw [heq, hvalue v, Truth.holds_and, Bool.and_eq_true, hhead, ih (target + 1) kept,
      ← and_assoc]
    refine and_congr_left fun _ => ⟨?_, ?_⟩
    · rintro ⟨hzero, hsucc⟩ k h hk
      cases k with
      | zero => exact hzero h hk
      | succ k => exact hsucc k h hk
    · intro hall
      exact ⟨fun h hh => hall 0 h hh, fun k h hk => hall (k + 1) h hk⟩

/-- Whether the filter moved into a source keeps a row of it. -/
def admits (plan : Pushdown) (ρ : Reading R) (i : Nat) (b : R) : Bool :=
  match plan.at? i with
  | none => true
  | some g => (g.value fun c => ρ.column c (some b)).holds

/-- Only sources whose rows no outer join may miss are restricted. -/
theorem admits_of_nullSupplying {s : Scope} {i : Nat} {o : Occurrence}
    (ho : s.sources.occurrences[i]? = some o) (hnull : o.nullSupplying = true) (ρ : Reading R)
    (b : R) : (ofScope s).admits ρ i b = true := by
  unfold admits
  split
  · rfl
  · next g hg =>
    obtain ⟨⟨o', ho', hnull'⟩, -⟩ := of_at?_fromPosition hg
    rw [ho, Option.some_inj] at ho'
    subst ho'
    exact absurd (hnull'.symm.trans hnull) Bool.false_ne_true

/-- In a joined row without nulls for the restricted sources, what a source admits of its own rows
is what its filter keeps of joined rows. -/
theorem passes_admits {s : Scope} {ρ : Reading R} {m : JoinedRow R}
    (hm : ∀ i o, s.sources.occurrences[i]? = some o → o.nullSupplying = false →
      (m i).isSome = true) :
    passes ((ofScope s).admits ρ) s.sources.occurrences.length m ↔
      ∀ k h, (ofScope s).at? k = some h → (h.value (s.truth ρ m)).holds = true := by
  have hvalue : ∀ k h, (ofScope s).at? k = some h →
      k < s.sources.occurrences.length ∧
        ((m k).all ((ofScope s).admits ρ k) = (h.value (s.truth ρ m)).holds) := by
    intro k h hk
    obtain ⟨⟨o, ho, hnull⟩, hleaves⟩ := of_at?_fromPosition hk
    obtain ⟨b, hb⟩ := Option.isSome_iff_exists.1 (hm k o ho hnull)
    refine ⟨(List.getElem?_eq_some_iff.1 ho).1, ?_⟩
    have hcongr : h.value (s.truth ρ m) = h.value fun c => ρ.column c (some b) := by
      refine FilterGroup.value_congr fun c hc => ?_
      rw [Nat.zero_add] at hleaves
      rw [Scope.truth_of_belongsTo (hleaves c hc), hb]
    rw [hb, hcongr, Option.all_some, admits, hk]
  constructor
  · intro hpass k h hk
    obtain ⟨hlt, heq⟩ := hvalue k h hk
    rw [← heq]
    exact hpass k hlt
  · intro hall i _
    cases hi : (ofScope s).at? i with
    | none => cases m i <;> simp [admits, hi]
    | some h => rw [(hvalue i h hi).2, hall i h hi]

end Pushdown

/-! ## The result -/

/-- **Filters moved into the sources select the same joined rows.**  The sources are restricted by
the filters moved into them and joined, and the rows of which the remaining filter is true are kept;
this yields the bag that is left of the unrestricted join by the whole filter. -/
theorem filter_joinedRows_pushdown {s : Scope}
    (hs : SourcePlan.ofRequest s.request = .ok s.sources) (D : Tables R) (ρ : Reading R) :
    ((s.sources.joinedRows (D.restrict ((Pushdown.ofScope s).admits ρ))).filter fun m =>
        ((Pushdown.ofScope s).remaining.value (s.truth ρ m)).holds) =
      (s.sources.joinedRows D).filter fun m => (s.request.filter.value (s.truth ρ m)).holds := by
  rw [SourcePlan.joinedRows_restrict hs fun i o ho hnull =>
    Pushdown.admits_of_nullSupplying ho hnull ρ, Multiset.filter_filter]
  refine Multiset.filter_congr fun m hm => ?_
  have hsome := SourcePlan.isSome_of_mem_joinedRows hs m hm
  rw [Pushdown.passes_admits hsome, and_comm]
  exact (Pushdown.holds_value_fromPosition s _ 0 _ _).symm

/-- Sales with their shops, and with the towns of the shops where these are known.  Conditions on
sales and shops move into their sources; the one on towns stays. -/
def shopSales : Scope where
  request := {
    dataset := "sales"
    joins? := some
      [⟨"sales", "shops", .inner, [⟨"shop", "id"⟩]⟩, ⟨"shops", "towns", .left, [⟨"town", "id"⟩]⟩]
    filters? := some ⟨.and,
      [.leaf ⟨"shops.size", .number, .greater, .scalar (.int 3)⟩,
        .group .or
          [.leaf ⟨"year", .number, .equal, .scalar (.int 2020)⟩,
            .leaf ⟨"month", .number, .isNull, .absent⟩],
        .leaf ⟨"towns.name", .text, .isNull, .absent⟩]⟩ }
  sources := {
    occurrences := [⟨"sales", "sales", false⟩, ⟨"shops", "shops", false⟩, ⟨"towns", "towns", true⟩]
    joins :=
      [⟨⟨"sales", "shops", .inner, [⟨"shop", "id"⟩]⟩, 0, 1⟩,
        ⟨⟨"shops", "towns", .left, [⟨"town", "id"⟩]⟩, 1, 2⟩] }
  aggregates := {}

/-- Rows that are numbers, joined where they are equal. -/
def equalRows : Tables Nat where
  rows i := {i, 2, 3}
  on _ left right := if left = some right then .yes else .no

/-- Conditions that are true of small numbers and unknown of null. -/
def smallRows : Reading Nat where
  column _ row := match row with
    | some n => if n < 3 then .yes else .no
    | none => .unknown
  output _ _ := .unknown

theorem filter_joinedRows_pushdown_shopSales :
    SourcePlan.ofRequest shopSales.request = .ok shopSales.sources ∧
      ((shopSales.sources.joinedRows
          (equalRows.restrict ((Pushdown.ofScope shopSales).admits smallRows))).filter fun m =>
        ((Pushdown.ofScope shopSales).remaining.value (shopSales.truth smallRows m)).holds) =
      (shopSales.sources.joinedRows equalRows).filter fun m =>
        (shopSales.request.filter.value (shopSales.truth smallRows m)).holds := by
  have hs : SourcePlan.ofRequest shopSales.request = .ok shopSales.sources := rfl
  exact ⟨hs, filter_joinedRows_pushdown hs equalRows smallRows⟩

end ReportSql
