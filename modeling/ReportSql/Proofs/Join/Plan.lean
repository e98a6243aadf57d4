import Mathlib.Data.List.Nodup
import ReportSql.Plan.Sources

/-!
# Planned joins

A plan grows by one join at a time: every join brings in the next occurrence and hangs it on one
that is already there.

## Main definitions

* `SourcePlan.withJoin` — a plan with a join on a given occurrence.
* `SourcePlan.Numbered` — the joins bring in the occurrences in order.

## Main statements

* `SourcePlan.ofRequest_induction` — what holds of a base dataset and survives every join holds of
  the plan of a request.
* `SourcePlan.numbered_of_ofRequest` — the plan of a request is numbered.
-/

namespace ReportSql.SourcePlan

variable {p q : SourcePlan} {r : Request} {spec : Join} {i left : Nat}

/-! ## Growing a plan -/

/-- A plan with a join of a further dataset on the occurrence at a position. -/
def withJoin (p : SourcePlan) (spec : Join) (left : Nat) : SourcePlan where
  occurrences :=
    (p.occurrences.map fun o =>
      { o with nullSupplying := o.nullSupplying || spec.kind.keepsRight }) ++
      [⟨spec.rightDataset, occurrenceName p.usedNames spec.rightDataset, spec.kind.keepsLeft⟩]
  joins := p.joins ++ [⟨spec, left, p.occurrences.length⟩]

/-- A qualifier refers to an occurrence of the plan. -/
theorem resolveQualifier_lt {qualifier : String} (h : p.resolveQualifier qualifier = some i) :
    i < p.occurrences.length := by
  have lt_of_findIdx? : ∀ f : Occurrence → Bool, p.occurrences.findIdx? f = some i →
      i < p.occurrences.length := by
    intro f hf
    exact (List.findIdx?_eq_some_iff_getElem.1 hf).1
  simp only [resolveQualifier, Option.or_eq_some_iff] at h
  rcases h with (h | ⟨-, h⟩) | ⟨-, h⟩
  · exact lt_of_findIdx? _ h
  · exact lt_of_findIdx? _ h
  · exact lt_of_findIdx? _ h

/-- A join is added on an occurrence of the plan. -/
theorem addJoin_eq_ok (h : p.addJoin spec = .ok q) :
    ∃ left < p.occurrences.length, q = p.withJoin spec left := by
  unfold addJoin at h
  split at h
  · cases h
  · next left hleft =>
    cases h
    exact ⟨left, resolveQualifier_lt hleft, rfl⟩

/-- What survives every join survives some joins in order. -/
theorem addJoins_induction {motive : SourcePlan → Prop}
    (step : ∀ p spec left, left < p.occurrences.length → motive p → motive (p.withJoin spec left))
    (specs : List Join) (hp : motive p) (h : p.addJoins specs = .ok q) : motive q := by
  induction specs generalizing p with
  | nil =>
    rw [addJoins] at h
    cases h
    exact hp
  | cons spec specs ih =>
    rw [addJoins] at h
    split at h
    · next p' hp' =>
      obtain ⟨left, hleft, rfl⟩ := addJoin_eq_ok hp'
      exact ih (step p spec left hleft hp) h
    · cases h

/-- What holds of a base dataset and survives every join holds of the plan of a request. -/
theorem ofRequest_induction {motive : SourcePlan → Prop} (base : ∀ dataset, motive (ofBase dataset))
    (step : ∀ p spec left, left < p.occurrences.length → motive p → motive (p.withJoin spec left))
    (h : ofRequest r = .ok p) : motive p :=
  addJoins_induction step r.joins (base r.dataset) h

/-! ## Positions -/

/-- The joins of a plan bring in the occurrences in order, each after the one it hangs on. -/
structure Numbered (p : SourcePlan) : Prop where
  length_occurrences : p.occurrences.length = p.joins.length + 1
  map_right : p.joins.map PlannedJoin.right = List.range' 1 p.joins.length
  left_lt_right : ∀ j ∈ p.joins, j.left < j.right

/-- The plan of a request is numbered. -/
theorem numbered_of_ofRequest (h : ofRequest r = .ok p) : p.Numbered := by
  refine ofRequest_induction (fun dataset => ⟨rfl, rfl, by simp [ofBase]⟩) ?_ h
  intro p spec left hleft hp
  refine ⟨?_, ?_, ?_⟩
  · simp [withJoin, hp.length_occurrences]
  · simp only [withJoin, List.map_append, hp.map_right, List.map_cons, List.map_nil,
      List.length_append, List.length_cons, List.length_nil, hp.length_occurrences]
    rw [List.range'_1_concat, Nat.add_comm 1]
  · intro j hj
    simp only [withJoin, List.mem_append, List.mem_singleton] at hj
    rcases hj with hj | rfl
    · exact hp.left_lt_right j hj
    · exact hleft

namespace Numbered

/-- Joins bring in later occurrences later. -/
theorem pairwise_right (hp : p.Numbered) : p.joins.Pairwise fun j k => j.right < k.right := by
  rw [← List.pairwise_map (f := PlannedJoin.right) (R := (· < ·)), hp.map_right]
  exact List.pairwise_lt_range'

/-- A join brings in no base dataset. -/
theorem right_pos (hp : p.Numbered) {j : PlannedJoin} (hj : j ∈ p.joins) : 0 < j.right :=
  Nat.zero_lt_of_lt (hp.left_lt_right j hj)

/-- Two joins bring in different occurrences. -/
theorem eq_of_right_eq (hp : p.Numbered) {j k : PlannedJoin} (hj : j ∈ p.joins) (hk : k ∈ p.joins)
    (h : j.right = k.right) : j = k := by
  have hnodup : (p.joins.map PlannedJoin.right).Nodup := by
    rw [hp.map_right]
    exact List.nodup_range'
  exact List.inj_on_of_nodup_map hnodup hj hk h

/-- A join hangs on the base dataset or on an occurrence that another join brings in. -/
theorem exists_right_eq_left (hp : p.Numbered) {j : PlannedJoin} (hj : j ∈ p.joins)
    (hleft : j.left ≠ 0) : ∃ i ∈ p.joins, i.right = j.left := by
  have hright : j.right ∈ List.range' 1 p.joins.length := by
    rw [← hp.map_right]
    exact List.mem_map_of_mem hj
  have hlt := hp.left_lt_right j hj
  have hmem : j.left ∈ p.joins.map PlannedJoin.right := by
    rw [hp.map_right, List.mem_range'_1]
    rw [List.mem_range'_1] at hright
    omega
  exact List.mem_map.1 hmem

end Numbered

end ReportSql.SourcePlan
