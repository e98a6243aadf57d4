import ReportSql.Proofs.Join.Rows

/-!
# The order of joins

Inner and left joins extend every row by itself, so two of them that hang on neither of each other
may change places.  The joins with the base dataset may therefore come first, in any order, without
a change of the result.

## Main definitions

* `StableDescending` — a list in descending order of weights, equal weights as they were.
* `IntroducedInOrder` — joins that hang on the base dataset or on an occurrence brought in before.
* `ReorderedFrom` — what reordering may change and what it keeps.

## Main statements

* `PlannedJoin.execute_comm` — two independent joins may change places.
* `SourcePlan.reorderedFrom_reorder` — what reordering does to the joins and to their result.
-/

namespace ReportSql

variable {α β : Type}

/-! ## Folds in another order -/

/-- A step may be taken after those it commutes with. -/
theorem foldl_step_comm {f : β → α → β} {a : α} {l : List α}
    (comm : ∀ b ∈ l, ∀ z, f (f z a) b = f (f z b) a) (z : β) :
    l.foldl f (f z a) = f (l.foldl f z) a := by
  induction l generalizing z with
  | nil => rfl
  | cons b l ih =>
    rw [List.foldl_cons, List.foldl_cons, comm b List.mem_cons_self]
    exact ih (fun c hc => comm c (List.mem_cons_of_mem b hc)) (f z b)

/-- The steps that pass a test may be taken first if they commute with the others before them. -/
theorem foldl_filter_append {f : β → α → β} (first : α → Bool) {l : List α}
    (comm : l.Pairwise fun a b => first a = false → first b = true →
      ∀ z, f (f z a) b = f (f z b) a) (z : β) :
    (l.filter first ++ l.filter fun a => !first a).foldl f z = l.foldl f z := by
  induction l generalizing z with
  | nil => rfl
  | cons a l ih =>
    obtain ⟨ha, hl⟩ := List.pairwise_cons.1 comm
    cases hfirst : first a with
    | true =>
      simp only [List.filter_cons, hfirst, if_true, Bool.not_true, Bool.false_eq_true, if_false,
        List.cons_append, List.foldl_cons]
      exact ih hl (f z a)
    | false =>
      have hswap : ∀ b ∈ l.filter first, ∀ z, f (f z a) b = f (f z b) a := by
        intro b hb
        rw [List.mem_filter] at hb
        exact ha b hb.1 hfirst hb.2
      simp only [List.filter_cons, hfirst, Bool.false_eq_true, if_false, Bool.not_false, if_true,
        List.foldl_append, List.foldl_cons]
      rw [← foldl_step_comm hswap, ← List.foldl_append]
      exact ih hl (f z a)

/-! ## Stable order -/

/-- A list in descending order of weights, in which equal weights keep the order of the first
list. -/
structure StableDescending (weight : α → Nat) (xs ys : List α) : Prop where
  descending : ys.Pairwise fun a b => weight b ≤ weight a
  stable : ∀ n, ys.filter (fun a => weight a = n) = xs.filter fun a => weight a = n

/-- Sorting by weights is stable. -/
theorem stableDescending_mergeSort (weight : α → Nat) (xs : List α) :
    StableDescending weight xs (xs.mergeSort fun a b => weight b ≤ weight a) := by
  have trans : ∀ a b c : α, decide (weight b ≤ weight a) = true →
      decide (weight c ≤ weight b) = true → decide (weight c ≤ weight a) = true := by
    intro a b c hab hbc
    rw [decide_eq_true_eq] at hab hbc ⊢
    exact Nat.le_trans hbc hab
  have total : ∀ a b : α,
      (decide (weight b ≤ weight a) || decide (weight a ≤ weight b)) = true := by
    intro a b
    rw [Bool.or_eq_true, decide_eq_true_eq, decide_eq_true_eq]
    exact Nat.le_total _ _
  refine ⟨?_, fun n => ?_⟩
  · have hsorted := List.pairwise_mergeSort trans total xs
    exact hsorted.imp fun h => of_decide_eq_true h
  · -- the elements of one weight are in order already, so sorting keeps them as a sublist
    have hpairwise : (xs.filter fun a => weight a = n).Pairwise
        fun a b => decide (weight b ≤ weight a) = true := by
      refine List.pairwise_of_forall_mem_list fun a ha b hb => ?_
      rw [List.mem_filter, decide_eq_true_eq] at ha hb
      rw [decide_eq_true_eq, ha.2, hb.2]
    have hsublist := (List.sublist_mergeSort trans total hpairwise List.filter_sublist).filter
      fun a => decide (weight a = n)
    rw [List.filter_filter] at hsublist
    simp only [Bool.and_self] at hsublist
    have hlength := ((List.mergeSort_perm xs fun a b => weight b ≤ weight a).filter
      fun a => decide (weight a = n)).length_eq
    exact (hsublist.eq_of_length hlength.symm).symm

/-! ## Inner and left joins -/

namespace PlannedJoin

variable {R : Type} (D : Tables R) {j k : PlannedJoin}

/-- What an inner or left join puts beside the row or null of its left occurrence. -/
def partners (j : PlannedJoin) (left : Option R) : Multiset (Option R) :=
  (((D.rows j.right).filter fun b => (D.on j left b).holds).map some) +
    if j.spec.kind.keepsLeft = true ∧ ∀ b ∈ D.rows j.right, ¬(D.on j left b).holds then {none}
    else 0

/-- An inner or left join extends every row by itself. -/
theorem execute_eq_bind (hj : j.spec.kind.keepsRight = false) (acc : Multiset (JoinedRow R)) :
    j.execute D acc =
      acc.bind fun m => (j.partners D (m j.left)).map (Function.update m j.right) := by
  have hleft : (if j.spec.kind.keepsLeft then j.unpairedLeft D acc else 0) =
      acc.bind fun m =>
        if j.spec.kind.keepsLeft = true ∧ ∀ b ∈ D.rows j.right, ¬(D.on j (m j.left) b).holds then
          {Function.update m j.right none}
        else 0 := by
    cases j.spec.kind.keepsLeft with
    | true =>
      simp only [if_true, true_and, unpairedLeft]
      rw [← Multiset.bind_singleton, Multiset.bind_filter]
      rfl
    | false => simp
  unfold execute
  rw [hj, if_neg Bool.false_ne_true, add_zero, hleft, paired, ← Multiset.bind_add]
  refine Multiset.bind_congr fun m _ => ?_
  rw [partners, Multiset.map_add, Multiset.map_map]
  congr 1
  split <;> simp

/-- **Two joins that hang on neither of each other may change places.** -/
theorem execute_comm (hj : j.spec.kind.keepsRight = false) (hk : k.spec.kind.keepsRight = false)
    (hjk : j.right ≠ k.left) (hkj : k.right ≠ j.left) (hne : j.right ≠ k.right)
    (acc : Multiset (JoinedRow R)) :
    k.execute D (j.execute D acc) = j.execute D (k.execute D acc) := by
  rw [execute_eq_bind D hj, execute_eq_bind D hk, execute_eq_bind D hk, execute_eq_bind D hj,
    Multiset.bind_assoc, Multiset.bind_assoc]
  refine Multiset.bind_congr fun m _ => ?_
  rw [Multiset.bind_map, Multiset.bind_map]
  have hleft : ∀ x, Function.update m j.right x k.left = m k.left := fun x =>
    Function.update_of_ne hjk.symm x m
  have hright : ∀ x, Function.update m k.right x j.left = m j.left := fun x =>
    Function.update_of_ne hkj.symm x m
  simp only [hleft, hright]
  rw [Multiset.bind_map_comm]
  refine Multiset.bind_congr fun y _ => ?_
  simp only [Function.update_comm hne]

end PlannedJoin

/-! ## Reordering -/

/-- Every join hangs on the base dataset or on an occurrence that a join before it brings in. -/
def IntroducedInOrder (js : List PlannedJoin) : Prop :=
  ∀ before j after, js = before ++ j :: after →
    j.left = 0 ∨ ∃ i ∈ before, i.right = j.left

/-- The weight of the occurrence that a join brings in. -/
def PlannedJoin.weight (weights : List Nat) (j : PlannedJoin) : Nat := weights.getD j.right 0

/-- What reordering makes of a plan.  The joins change places only if all are inner or left joins;
then those with the base dataset come first by descending weight, equal weights as they were, and
the others follow as they were.  Every join still hangs on the base dataset or on an occurrence
brought in before it, and the joins yield the same bag of rows. -/
structure ReorderedFrom (weights : List Nat) (p q : SourcePlan) : Prop where
  occurrences : q.occurrences = p.occurrences
  unchanged : ¬(∀ j ∈ p.joins, j.spec.kind = .inner ∨ j.spec.kind = .left) → q.joins = p.joins
  perm : q.joins.Perm p.joins
  anchored_first : (∀ j ∈ p.joins, j.spec.kind = .inner ∨ j.spec.kind = .left) →
    ∃ anchored, q.joins = anchored ++ p.joins.filter (fun j => j.left != 0) ∧
      StableDescending (PlannedJoin.weight weights) (p.joins.filter fun j => j.left == 0) anchored
  introduced : IntroducedInOrder q.joins
  joinedRows : ∀ (R : Type) (D : Tables R), q.joinedRows D = p.joinedRows D

namespace SourcePlan

variable {p : SourcePlan} {r : Request}

/-- Whether every join is an inner or a left one. -/
theorem isReorderable_iff :
    p.isReorderable = true ↔ ∀ j ∈ p.joins, j.spec.kind = .inner ∨ j.spec.kind = .left := by
  have hkind : ∀ kind : JoinKind, (!kind.keepsRight) = true ↔ kind = .inner ∨ kind = .left := by
    intro kind
    cases kind <;> decide
  simp only [isReorderable, List.all_eq_true, hkind]

/-- The joins in their new order: those with the base dataset by weight, then the others. -/
theorem joins_reorder (weights : List Nat) (h : p.isReorderable = true) :
    (p.reorder weights).joins =
      (p.joins.filter fun j => j.left == 0).mergeSort
          (fun a b => b.weight weights ≤ a.weight weights) ++
        p.joins.filter fun j => j.left != 0 := by
  rw [reorder, if_pos h]
  rfl

theorem reorder_of_not_isReorderable (weights : List Nat) (h : ¬p.isReorderable = true) :
    p.reorder weights = p := by
  rw [reorder, if_neg h]

theorem occurrences_reorder (weights : List Nat) :
    (p.reorder weights).occurrences = p.occurrences := by
  unfold reorder
  split <;> rfl

theorem joins_reorder_perm (weights : List Nat) : (p.reorder weights).joins.Perm p.joins := by
  by_cases h : p.isReorderable = true
  · rw [joins_reorder weights h]
    exact ((List.mergeSort_perm _ _).append_right _).trans (List.filter_append_perm _ _)
  · rw [reorder_of_not_isReorderable weights h]

/-- Joins of a plan are in order if none hangs on an occurrence that a later one brings in. -/
theorem Numbered.introducedInOrder (hp : p.Numbered) {js : List PlannedJoin}
    (hperm : js.Perm p.joins) (hjs : js.Pairwise fun a b => a.left = 0 ∨ b.right ≠ a.left) :
    IntroducedInOrder js := by
  intro before j after heq
  by_cases hleft : j.left = 0
  · exact .inl hleft
  · have hj : j ∈ p.joins := hperm.subset (by simp [heq])
    obtain ⟨i, hi, hright⟩ := hp.exists_right_eq_left hj hleft
    have hmem : i ∈ before ++ j :: after := heq ▸ hperm.symm.subset hi
    rw [List.mem_append, List.mem_cons] at hmem
    rcases hmem with hmem | rfl | hmem
    · exact .inr ⟨i, hmem, hright⟩
    · exact absurd hright (Nat.ne_of_gt (hp.left_lt_right i hj))
    · rw [heq, List.pairwise_append, List.pairwise_cons] at hjs
      rcases hjs.2.1.1 i hmem with h | h
      · exact absurd h hleft
      · exact absurd hright h

/-- Every join still hangs on an occurrence brought in before. -/
theorem Numbered.introducedInOrder_reorder (hp : p.Numbered) (weights : List Nat) :
    IntroducedInOrder (p.reorder weights).joins := by
  refine hp.introducedInOrder (joins_reorder_perm weights) ?_
  have hplanned : p.joins.Pairwise fun a b => a.left = 0 ∨ b.right ≠ a.left := by
    refine hp.pairwise_right.imp_of_mem fun {a b} ha _ hab => .inr ?_
    have := hp.left_lt_right a ha
    omega
  by_cases h : p.isReorderable = true
  · rw [joins_reorder weights h, List.pairwise_append]
    have hanchored : ∀ a ∈ (p.joins.filter fun j => j.left == 0).mergeSort
        (fun a b => b.weight weights ≤ a.weight weights), a.left = 0 := by
      intro a ha
      rw [List.mem_mergeSort, List.mem_filter, beq_iff_eq] at ha
      exact ha.2
    refine ⟨?_, hplanned.filter _, fun a ha b _ => .inl (hanchored a ha)⟩
    exact List.pairwise_of_forall_mem_list fun a ha b _ => .inl (hanchored a ha)
  · rwa [reorder_of_not_isReorderable weights h]

/-- **The joins yield the same rows in their new order.** -/
theorem Numbered.joinedRows_reorder (hp : p.Numbered) (weights : List Nat) (R : Type)
    (D : Tables R) : (p.reorder weights).joinedRows D = p.joinedRows D := by
  by_cases h : p.isReorderable = true
  case neg => rw [reorder_of_not_isReorderable weights h]
  case pos =>
    have hkeeps : ∀ j ∈ p.joins, j.spec.kind.keepsRight = false := by
      intro j hj
      simpa using List.all_eq_true.1 h j hj
    -- a join with the base dataset moves before one that does not hang on it
    have hchained : p.joins.Pairwise fun a b => (a.left == 0) = false → (b.left == 0) = true →
        ∀ z, b.execute D (a.execute D z) = a.execute D (b.execute D z) := by
      refine hp.pairwise_right.imp_of_mem fun {a b} ha hb hab _ hleft z => ?_
      have hlt := hp.left_lt_right a ha
      rw [beq_iff_eq] at hleft
      exact PlannedJoin.execute_comm D (hkeeps a ha) (hkeeps b hb) (by omega) (by omega)
        (by omega) z
    -- joins with the base dataset change places among themselves
    have hanchored : ∀ a ∈ p.joins.filter (fun j => j.left == 0),
        ∀ b ∈ p.joins.filter (fun j => j.left == 0),
        ∀ z, b.execute D (a.execute D z) = a.execute D (b.execute D z) := by
      intro a ha b hb z
      rw [List.mem_filter, beq_iff_eq] at ha hb
      by_cases hab : a = b
      · rw [hab]
      · have hne : a.right ≠ b.right := fun heq => hab (hp.eq_of_right_eq ha.1 hb.1 heq)
        have hapos := hp.right_pos ha.1
        have hbpos := hp.right_pos hb.1
        exact PlannedJoin.execute_comm D (hkeeps a ha.1) (hkeeps b hb.1) (by omega) (by omega)
          hne z
    unfold joinedRows executeAll
    rw [joins_reorder weights h, List.foldl_append,
      (List.mergeSort_perm _ _).foldl_eq' (fun a ha b hb z => hanchored a
        (List.mem_mergeSort.1 ha) b (List.mem_mergeSort.1 hb) z), ← List.foldl_append]
    exact foldl_filter_append (fun j : PlannedJoin => j.left == 0) hchained _

/-- **Reordering changes the order of the joins alone, and not the rows that they yield.** -/
theorem reorderedFrom_reorder (hp : ofRequest r = .ok p) (weights : List Nat) :
    ReorderedFrom weights p (p.reorder weights) where
  occurrences := occurrences_reorder weights
  unchanged h := by rw [reorder_of_not_isReorderable weights (mt isReorderable_iff.1 h)]
  perm := joins_reorder_perm weights
  anchored_first h := ⟨_, joins_reorder weights (isReorderable_iff.2 h),
    stableDescending_mergeSort (PlannedJoin.weight weights) _⟩
  introduced := (numbered_of_ofRequest hp).introducedInOrder_reorder weights
  joinedRows := (numbered_of_ofRequest hp).joinedRows_reorder weights

/-- Sales with their shops, with the towns of the shops where these are known, and with their
items. -/
def itemSales : Request where
  dataset := "sales"
  joins? := some
    [⟨"sales", "shops", .inner, [⟨"shop", "id"⟩]⟩, ⟨"shops", "towns", .left, [⟨"town", "id"⟩]⟩,
      ⟨"sales", "items", .inner, [⟨"item", "id"⟩]⟩]

/-- The plan of `itemSales`, in which the items come last. -/
def itemSalesPlan : SourcePlan where
  occurrences := [⟨"sales", "sales", false⟩, ⟨"shops", "shops", false⟩, ⟨"towns", "towns", true⟩,
    ⟨"items", "items", false⟩]
  joins := [⟨⟨"sales", "shops", .inner, [⟨"shop", "id"⟩]⟩, 0, 1⟩,
    ⟨⟨"shops", "towns", .left, [⟨"town", "id"⟩]⟩, 1, 2⟩,
    ⟨⟨"sales", "items", .inner, [⟨"item", "id"⟩]⟩, 0, 3⟩]

/-- With two conditions on items, these come first. -/
theorem reorderedFrom_reorder_itemSales :
    ofRequest itemSales = .ok itemSalesPlan ∧
      ReorderedFrom [0, 1, 0, 2] itemSalesPlan (itemSalesPlan.reorder [0, 1, 0, 2]) := by
  have hp : ofRequest itemSales = .ok itemSalesPlan := rfl
  exact ⟨hp, reorderedFrom_reorder hp [0, 1, 0, 2]⟩

end SourcePlan

end ReportSql
