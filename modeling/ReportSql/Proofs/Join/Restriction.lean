import ReportSql.Proofs.Join.Rows

/-!
# Restricting sources before a join

Rows of an occurrence may be left out before the joins instead of after them, as long as no outer
join may put null in their place.

## Main definitions

* `passes` — a joined row whose rows pass the tests of their occurrences.

## Main statements

* `SourcePlan.isSome_of_mem_joinedRows` — null stands only for rows that an outer join may miss.
* `SourcePlan.joinedRows_restrict` — joining the rows that pass yields the joined rows that pass.
-/

namespace ReportSql

variable {R : Type} {D : Tables R} {keep : Nat → R → Bool}

/-- Whether the rows of the first `n` occurrences in a joined row pass their tests; null passes. -/
def passes (keep : Nat → R → Bool) (n : Nat) (m : JoinedRow R) : Prop :=
  ∀ i < n, (m i).all (keep i) = true

instance (n : Nat) (m : JoinedRow R) : Decidable (passes keep n m) :=
  inferInstanceAs (Decidable (∀ i < n, (m i).all (keep i) = true))

/-- The row of one occurrence more is tested apart from those before it. -/
theorem passes_succ_update {n : Nat} {m : JoinedRow R} {x : Option R} :
    passes keep (n + 1) (Function.update m n x) ↔ passes keep n m ∧ x.all (keep n) = true := by
  have hbefore : ∀ i < n, Function.update m n x i = m i := fun i hi =>
    Function.update_of_ne (Nat.ne_of_lt hi) x m
  constructor
  · intro h
    refine ⟨fun i hi => ?_, ?_⟩
    · rw [← hbefore i hi]
      exact h i (Nat.lt_succ_of_lt hi)
    · simpa using h n (Nat.lt_succ_self n)
  · rintro ⟨hm, hx⟩ i hi
    rcases Nat.lt_succ_iff_lt_or_eq.1 hi with hlt | rfl
    · rw [hbefore i hlt]
      exact hm i hlt
    · simpa using hx

theorem passes_of_all {n : Nat} (h : ∀ i < n, ∀ b, keep i b = true) (m : JoinedRow R) :
    passes keep n m := by
  intro i hi
  rw [Option.all_eq_true]
  intro b _
  exact h i hi b

theorem passes_nullRow (n : Nat) : passes keep n nullRow := fun _ _ => rfl

/-! ## One join -/

namespace PlannedJoin

variable {j : PlannedJoin} (acc : Multiset (JoinedRow R))

@[simp] theorem rows_restrict (i : Nat) :
    (D.restrict keep).rows i = (D.rows i).filter fun b => keep i b := rfl

@[simp] theorem meets_restrict : j.meets (D.restrict keep) = j.meets D := rfl

theorem paired_restrict :
    j.paired (D.restrict keep) (acc.filter (passes keep j.right)) =
      (j.paired D acc).filter (passes keep (j.right + 1)) := by
  simp only [paired, rows_restrict, Multiset.bind_filter, Multiset.filter_bind]
  refine Multiset.bind_congr fun m _ => ?_
  rw [Multiset.filter_map, Multiset.filter_filter, Multiset.filter_filter]
  by_cases hm : passes keep j.right m
  · rw [if_pos hm]
    refine congrArg _ (Multiset.filter_congr fun b _ => ?_)
    simp [passes_succ_update, hm, and_comm]
  · rw [if_neg hm, eq_comm, Multiset.map_eq_zero, Multiset.filter_eq_nil]
    intro b _ h
    exact hm (passes_succ_update.1 h.1).1

/-- No right row is left out, so a row that meets none before meets none after. -/
theorem unpairedLeft_restrict (hright : ∀ b, keep j.right b = true) :
    j.unpairedLeft (D.restrict keep) (acc.filter (passes keep j.right)) =
      (j.unpairedLeft D acc).filter (passes keep (j.right + 1)) := by
  have hrows : (D.restrict keep).rows j.right = D.rows j.right := by simp [hright]
  simp only [unpairedLeft, hrows, meets_restrict]
  rw [Multiset.filter_map, Multiset.filter_comm]
  refine congrArg _ (Multiset.filter_congr fun m _ => ?_)
  simp [passes_succ_update]

/-- No row so far is left out, so a right row that none meets before is met by none after. -/
theorem unpairedRight_restrict (hleft : ∀ i < j.right, ∀ b, keep i b = true) :
    j.unpairedRight (D.restrict keep) (acc.filter (passes keep j.right)) =
      (j.unpairedRight D acc).filter (passes keep (j.right + 1)) := by
  have hacc : acc.filter (passes keep j.right) = acc :=
    Multiset.filter_eq_self.2 fun m _ => passes_of_all hleft m
  simp only [unpairedRight, hacc, meets_restrict, rows_restrict]
  rw [Multiset.filter_map, Multiset.filter_comm]
  refine congrArg _ (Multiset.filter_congr fun b _ => ?_)
  simp [passes_succ_update, passes_nullRow]

/-- **One join of the rows that pass yields the joined rows that pass**, if the side that may be
missed is left whole. -/
theorem execute_restrict (hright : j.spec.kind.keepsLeft = true → ∀ b, keep j.right b = true)
    (hleft : j.spec.kind.keepsRight = true → ∀ i < j.right, ∀ b, keep i b = true) :
    j.execute (D.restrict keep) (acc.filter (passes keep j.right)) =
      (j.execute D acc).filter (passes keep (j.right + 1)) := by
  simp only [execute, Multiset.filter_add]
  congr 1
  · congr 1
    · exact paired_restrict acc
    · split
      · next h => exact unpairedLeft_restrict acc (hright h)
      · rfl
  · split
    · next h => exact unpairedRight_restrict acc (hleft h)
    · rfl

end PlannedJoin

/-! ## All joins of a plan -/

namespace SourcePlan

variable {p : SourcePlan} {r : Request}

theorem getElem?_withJoin_of_lt {i : Nat} {o : Occurrence} (spec : Join) (left : Nat)
    (h : p.occurrences[i]? = some o) :
    (p.withJoin spec left).occurrences[i]? =
      some { o with nullSupplying := o.nullSupplying || spec.kind.keepsRight } := by
  have hi := (List.getElem?_eq_some_iff.1 h).1
  rw [withJoin, List.getElem?_append_left (by simpa using hi), List.getElem?_map, h]
  rfl

theorem getElem?_withJoin_length (p : SourcePlan) (spec : Join) (left : Nat) :
    (p.withJoin spec left).occurrences[p.occurrences.length]? =
      some ⟨spec.rightDataset, occurrenceName p.usedNames spec.rightDataset,
        spec.kind.keepsLeft⟩ := by
  rw [withJoin, List.getElem?_append_right (by simp)]
  simp

theorem length_occurrences_withJoin (p : SourcePlan) (spec : Join) (left : Nat) :
    (p.withJoin spec left).occurrences.length = p.occurrences.length + 1 := by
  simp [withJoin]

/-- An occurrence whose rows no outer join may miss has a row in every joined row. -/
theorem isSome_of_mem_joinedRows (h : ofRequest r = .ok p) :
    ∀ m ∈ p.joinedRows D, ∀ i o, p.occurrences[i]? = some o → o.nullSupplying = false →
      (m i).isSome = true := by
  refine ofRequest_induction (motive := fun p => ∀ m ∈ p.joinedRows D, ∀ i o,
    p.occurrences[i]? = some o → o.nullSupplying = false → (m i).isSome = true) ?base ?step h
  case base =>
    intro dataset m hm i o ho _
    simp only [joinedRows_ofBase, baseRows, Multiset.mem_map] at hm
    obtain ⟨b, -, rfl⟩ := hm
    have hi : i = 0 := by
      have hlt := (List.getElem?_eq_some_iff.1 ho).1
      simp only [ofBase, List.length_cons, List.length_nil] at hlt
      omega
    simp [hi]
  case step =>
    intro p spec left _ ih m hm i o ho hnull
    rw [joinedRows_withJoin, PlannedJoin.mem_execute] at hm
    rcases Nat.lt_or_ge i p.occurrences.length with hi | hi
    · -- an occurrence from before: the join keeps no right rows, so its row is still there
      rw [getElem?_withJoin_of_lt spec left (List.getElem?_eq_getElem hi), Option.some_inj] at ho
      subst ho
      obtain ⟨hbefore, hright⟩ := Bool.or_eq_false_iff.1 hnull
      have hrow : ∀ l ∈ p.joinedRows D, (l i).isSome = true := fun l hl =>
        ih l hl i _ (List.getElem?_eq_getElem hi) hbefore
      have hne : i ≠ p.occurrences.length := Nat.ne_of_lt hi
      rcases hm with hm | ⟨-, hm⟩ | ⟨hkeeps, -⟩
      · obtain ⟨l, hl, b, -, -, rfl⟩ := PlannedJoin.mem_paired.1 hm
        rw [Function.update_of_ne hne]
        exact hrow l hl
      · obtain ⟨l, hl, -, rfl⟩ := PlannedJoin.mem_unpairedLeft.1 hm
        rw [Function.update_of_ne hne]
        exact hrow l hl
      · rw [hright] at hkeeps
        exact absurd hkeeps Bool.false_ne_true
    · -- the occurrence that the join brings in: the join keeps no left rows
      have hi' : i = p.occurrences.length := by
        have hlt := (List.getElem?_eq_some_iff.1 ho).1
        rw [length_occurrences_withJoin] at hlt
        omega
      subst hi'
      rw [getElem?_withJoin_length, Option.some_inj] at ho
      subst ho
      rcases hm with hm | ⟨hkeeps, -⟩ | ⟨-, hm⟩
      · obtain ⟨l, -, b, -, -, rfl⟩ := PlannedJoin.mem_paired.1 hm
        simp
      · exact absurd (hnull.symm.trans hkeeps) Bool.false_ne_true
      · obtain ⟨b, -, -, rfl⟩ := PlannedJoin.mem_unpairedRight.1 hm
        simp

/-- **Joining the rows that pass yields the joined rows that pass**, if every occurrence that an
outer join may miss is left whole. -/
theorem joinedRows_restrict (h : ofRequest r = .ok p)
    (hkeep : ∀ i o, p.occurrences[i]? = some o → o.nullSupplying = true →
      ∀ b, keep i b = true) :
    p.joinedRows (D.restrict keep) =
      (p.joinedRows D).filter (passes keep p.occurrences.length) := by
  refine ofRequest_induction (motive := fun p =>
    (∀ i o, p.occurrences[i]? = some o → o.nullSupplying = true → ∀ b, keep i b = true) →
      p.joinedRows (D.restrict keep) =
        (p.joinedRows D).filter (passes keep p.occurrences.length)) ?base ?step h hkeep
  case base =>
    intro dataset _
    simp only [joinedRows_ofBase, baseRows, PlannedJoin.rows_restrict]
    rw [Multiset.filter_map]
    refine congrArg _ (Multiset.filter_congr fun b _ => ?_)
    simp [ofBase, passes]
  case step =>
    intro p spec left _ ih hkeep
    have hbefore : ∀ i o, p.occurrences[i]? = some o →
        (o.nullSupplying || spec.kind.keepsRight) = true → ∀ b, keep i b = true := fun i o ho =>
      hkeep i _ (getElem?_withJoin_of_lt spec left ho)
    have hih := ih fun i o ho hnull => hbefore i o ho (by rw [hnull, Bool.true_or])
    rw [joinedRows_withJoin, joinedRows_withJoin, hih, length_occurrences_withJoin]
    refine PlannedJoin.execute_restrict (j := ⟨spec, left, p.occurrences.length⟩) _ ?_ ?_
    · intro hkeeps
      exact hkeep _ _ (getElem?_withJoin_length p spec left) hkeeps
    · intro hkeeps i hi
      exact hbefore i _ (List.getElem?_eq_getElem hi) (by rw [hkeeps, Bool.or_true])

end SourcePlan

end ReportSql
