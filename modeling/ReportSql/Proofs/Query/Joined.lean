import ReportSql.Proofs.Join.Order
import ReportSql.Proofs.Query.Compiled

/-!
# Joined occurrences

The sources of a query are the occurrences of its scope: the base dataset, and then those that the
joins bring in, in their order.

## Main definitions

* `Request.datasets` — the datasets of a request.
* `Scope.joined` — the occurrences of a scope in the order of its joins.

## Main statements

* `Scope.PlannedFor.positions_perm`, `Scope.PlannedFor.joined_perm` — every occurrence is joined
  once.
* `Scope.PlannedFor.exists_joined_iff` — the joined occurrences are those of the datasets.
* `Scope.PlannedFor.exists_left` — a join hangs on an occurrence that is joined before.
* `Select.WrittenFor.forall₂_joined` — the sources of a query are those of the joined occurrences.
-/

namespace ReportSql

variable {settings : Settings} {r : Request} {s : Scope} {bound : List (Placeholder × BindValue)}

/-- The datasets of a request: its own, and those that its joins bring in. -/
def Request.datasets (r : Request) : List String := r.dataset :: r.joins.map Join.rightDataset

/-- Joins bring in occurrences of their right sides. -/
theorem SourcePlan.datasets_of_addJoins {p q : SourcePlan} {specs : List Join}
    (h : p.addJoins specs = .ok q) :
    q.occurrences.map Occurrence.dataset =
      p.occurrences.map Occurrence.dataset ++ specs.map Join.rightDataset := by
  induction specs generalizing p with
  | nil =>
    rw [addJoins] at h
    cases h
    simp
  | cons spec specs ih =>
    rw [addJoins] at h
    split at h
    · next p' hp' =>
      obtain ⟨left, -, rfl⟩ := addJoin_eq_ok hp'
      simp [ih h, withJoin, Function.comp_def]
    · cases h

/-- The occurrences of a scope in the order of its joins. -/
def Scope.joined (s : Scope) : List Occurrence :=
  s.occurrence 0 :: s.sources.joins.map fun j => s.occurrence j.right

namespace Scope.PlannedFor

/-- The positions of the occurrences in the order of the joins are all the positions. -/
theorem positions_perm (h : s.PlannedFor settings r) :
    (0 :: s.sources.joins.map PlannedJoin.right).Perm
      (List.range s.sources.occurrences.length) := by
  obtain ⟨p, weights, hp, hs, -, -⟩ := h.exists_sources
  have hnumbered := SourcePlan.numbered_of_ofRequest hp
  have hrange : List.range p.occurrences.length = 0 :: p.joins.map PlannedJoin.right := by
    rw [hnumbered.map_right, hnumbered.length_occurrences, List.range_eq_range', List.range'_succ]
  rw [hs, SourcePlan.occurrences_reorder, hrange]
  exact ((p.joins_reorder_perm weights).map _).cons 0

/-- **Every occurrence of a request is joined once.** -/
theorem joined_perm (h : s.PlannedFor settings r) :
    ∃ p, SourcePlan.ofRequest r = .ok p ∧ s.sources.occurrences = p.occurrences ∧
      s.joined.Perm p.occurrences := by
  obtain ⟨p, weights, hp, hs, -, -⟩ := h.exists_sources
  have hsources : s.sources.occurrences = p.occurrences := by
    rw [hs, SourcePlan.occurrences_reorder]
  have hoccurrences : p.occurrences = (List.range p.occurrences.length).map s.occurrence := by
    refine List.ext_getElem (by simp) fun i hi _ => ?_
    simp [occurrence, hsources, hi]
  have hperm := h.positions_perm.map s.occurrence
  rw [hsources, ← hoccurrences] at hperm
  exact ⟨p, hp, hsources, by simpa [joined, Function.comp_def] using hperm⟩

/-- The joined occurrences are those of the datasets of the request. -/
theorem exists_joined_iff (h : s.PlannedFor settings r) {P : String → Prop} :
    (∃ o ∈ s.joined, P o.dataset) ↔ ∃ dataset ∈ r.datasets, P dataset := by
  obtain ⟨p, hp, -, hperm⟩ := h.joined_perm
  have hdatasets : r.datasets = p.occurrences.map Occurrence.dataset :=
    (SourcePlan.datasets_of_addJoins hp).symm
  rw [hdatasets]
  constructor
  · rintro ⟨o, ho, hP⟩
    exact ⟨o.dataset, List.mem_map_of_mem (hperm.mem_iff.1 ho), hP⟩
  · rintro ⟨dataset, hdataset, hP⟩
    obtain ⟨o, ho, rfl⟩ := List.mem_map.1 hdataset
    exact ⟨o, hperm.mem_iff.2 ho, hP⟩

theorem mem_joined (h : s.PlannedFor settings r) {o : Occurrence}
    (ho : o ∈ s.sources.occurrences) : o ∈ s.joined := by
  obtain ⟨p, -, hsources, hperm⟩ := h.joined_perm
  exact hperm.mem_iff.2 (hsources ▸ ho)

/-- The scope of a request is one. -/
theorem unique (h : s.PlannedFor settings r) {s' : Scope} (h' : s'.PlannedFor settings r) :
    s = s' := by
  obtain ⟨planned, hplanned, rfl⟩ := h.exists_planned
  obtain ⟨planned', hplanned', rfl⟩ := h'.exists_planned
  rw [Except.ok.inj (hplanned.symm.trans hplanned')]

/-- A join hangs on the base dataset or on an occurrence that a join before it brings in. -/
theorem exists_left (h : s.PlannedFor settings r) {before after : List PlannedJoin}
    {j : PlannedJoin} (hj : s.sources.joins = before ++ j :: after) :
    s.occurrence j.left ∈ s.occurrence 0 :: before.map fun i => s.occurrence i.right := by
  obtain ⟨p, weights, hp, hs, -, -⟩ := h.exists_sources
  have hnumbered := SourcePlan.numbered_of_ofRequest hp
  rw [List.mem_cons, List.mem_map]
  have horder := hnumbered.introducedInOrder_reorder weights before j after (hs ▸ hj)
  rcases horder with hleft | ⟨i, hi, hleft⟩
  · exact .inl (by rw [hleft])
  · exact .inr ⟨i, hi, by rw [hleft]⟩

end Scope.PlannedFor

theorem Scope.right_mem_joined {j : PlannedJoin} (hj : j ∈ s.sources.joins) :
    s.occurrence j.right ∈ s.joined :=
  List.mem_cons_of_mem _ (List.mem_map_of_mem (f := fun j => s.occurrence j.right) hj)

theorem Scope.PlannedFor.left_mem_joined (h : s.PlannedFor settings r) {j : PlannedJoin}
    (hj : j ∈ s.sources.joins) : s.occurrence j.left ∈ s.joined := by
  obtain ⟨before, after, hsplit⟩ := List.append_of_mem hj
  have hleft := h.exists_left hsplit
  rw [List.mem_cons, List.mem_map] at hleft
  rcases hleft with hleft | ⟨i, hi, hleft⟩
  · rw [hleft]
    exact List.mem_cons_self
  · rw [← hleft]
    exact right_mem_joined (by simp [hsplit, hi])

/-- The sources of a query are those of the joined occurrences. -/
theorem Select.WrittenFor.forall₂_joined {q : Select Placeholder}
    (h : q.WrittenFor settings s bound) :
    List.Forall₂ (fun o source => source.WrittenFor settings s bound o) s.joined q.sources := by
  refine .cons h.base ?_
  rw [List.forall₂_map_left_iff, List.forall₂_map_right_iff]
  exact h.joins.imp fun _ _ hj => hj.source

end ReportSql
