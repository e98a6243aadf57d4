import ReportSql.Proofs.Join.Pushdown
import ReportSql.Proofs.Tree.Homes

/-!
# Pushdown plans as partitions

Planning takes a filter apart.  Every condition ends up in one place, the filter of one source or
the filter that is left, and the places keep the order of the conditions.  What is left has nothing
that could still be moved.

## Main definitions

* `Pushdown.part` — the filter at a place: at a source, or after the joins.
* `Pushdown.Homes` — the place of every condition of a filter.
* `Pushdown.IsMaximalPartition` — a plan that takes the filter of a request apart.

## Main statements

* `Pushdown.isMaximalPartition_ofScope` — the plan of every request is such a plan.
-/

namespace ReportSql.Pushdown

open ReportSql.Tree Text

variable {s : Scope} {target : Nat} {o : Occurrence} {rest : List Occurrence} {g : Filter}

/-! ## One source after the other -/

theorem fromPosition_cons_of_nullSupplying (h : o.nullSupplying = true) :
    fromPosition s target (o :: rest) g =
      ⟨none :: (fromPosition s (target + 1) rest g).pushed,
        (fromPosition s (target + 1) rest g).remaining⟩ := by
  simp [fromPosition, h]

theorem fromPosition_cons_of_not_nullSupplying (h : o.nullSupplying = false) :
    fromPosition s target (o :: rest) g =
      ⟨(if (splitFilter (s.belongsTo target) g).1.isEmpty then none
          else some (splitFilter (s.belongsTo target) g).1) ::
          (fromPosition s (target + 1) rest (splitFilter (s.belongsTo target) g).2).pushed,
        (fromPosition s (target + 1) rest (splitFilter (s.belongsTo target) g).2).remaining⟩ := by
  simp [fromPosition, h]

/-- There is a place for every source. -/
theorem length_pushed_fromPosition (s : Scope) (target : Nat) (occurrences : List Occurrence)
    (g : Filter) : (fromPosition s target occurrences g).pushed.length = occurrences.length := by
  induction occurrences generalizing target g with
  | nil => rfl
  | cons o rest ih =>
    cases h : o.nullSupplying with
    | true => simp [fromPosition_cons_of_nullSupplying h, ih]
    | false => simp [fromPosition_cons_of_not_nullSupplying h, ih]

/-! ## Places -/

/-- A filter without members has no conditions. -/
theorem leaves_of_isEmpty (h : g.isEmpty = true) : g.leaves = [] := by
  rw [FilterGroup.leaves, List.isEmpty_iff.1 h, leavesAll_nil]

@[simp] theorem leaves_default : ({} : Filter).leaves = [] := leaves_of_isEmpty rfl

/-- The filter at a place: the one moved into the source at a position, or the one that is left. -/
def part (plan : Pushdown) : Option Nat → Filter
  | none => plan.remaining
  | some i => (plan.at? i).getD {}

/-- The place of every condition of a filter.  A place has its conditions in the order of the
filter, and an OR with members is at one place, as it was. -/
structure Homes (plan : Pushdown) (g : Filter) (homes : Tree (Condition × Option Nat)) : Prop where
  erased : homes.map Prod.fst = g.toTree
  leaves_part : ∀ place, (plan.part place).leaves = itemsAt place homes.leaves
  whole : ∀ members, .group .or members ∈ homes.subtrees → members ≠ [] →
    ∃ place, (∀ x ∈ leavesAll members, x.2 = place) ∧
      .group .or (mapAll Prod.fst members) ∈ (plan.part place).toTree.subtrees

/-- The places seen from one source earlier. -/
def later (x : Condition × Option Nat) : Condition × Option Nat := (x.1, x.2.map (· + 1))

theorem itemsAt_map_later (place : Option Nat) (xs : List (Condition × Option Nat)) :
    itemsAt (place.map (· + 1)) (xs.map later) = itemsAt place xs := by
  have hsame : ∀ x : Condition × Option Nat,
      decide ((later x).2 = place.map (· + 1)) = decide (x.2 = place) := by
    intro x
    have hinj : Function.Injective (Option.map (· + 1) : Option Nat → Option Nat) :=
      Option.map_injective (add_left_injective 1)
    exact decide_eq_decide.2 hinj.eq_iff
  simp only [itemsAt, List.filter_map, List.map_map, Function.comp_def, hsame]
  rfl

/-- Seen from one source earlier, nothing is at that source. -/
theorem snd_ne_of_mem_leaves_map_later (t : Tree (Condition × Option Nat)) :
    ∀ x ∈ (t.map later).leaves, x.2 ≠ some 0 := by
  intro x hx
  rw [leaves_map] at hx
  obtain ⟨⟨c, place⟩, -, rfl⟩ := List.mem_map.1 hx
  cases place <;> simp [later]

/-- The places of what one source keeps, and those of what it takes, are places of the whole. -/
theorem Homes.cons {plan : Pushdown} {kept : Filter} {homes w : Tree (Condition × Option Nat)}
    {moved : List (Tree Condition)} {head : Option Filter} (hkept : plan.Homes kept homes)
    (herased : w.map Prod.fst = g.toTree)
    (hhouses : Houses (some 0) moved [homes.map later] [w])
    (hleaves : (head.getD {}).leaves = leavesAll moved)
    (hwhole : ∀ members, members ≠ [] → .group .or members ∈ subtreesAll moved →
      .group .or members ∈ (head.getD {}).toTree.subtrees) :
    Homes ⟨head :: plan.pushed, plan.remaining⟩ g w := by
  have hpart : ∀ place : Option Nat,
      part ⟨head :: plan.pushed, plan.remaining⟩ (place.map (· + 1)) = plan.part place := by
    intro place
    cases place with
    | none => rfl
    | some i => simp [part, at?]
  have hlater : ∀ place : Option Nat,
      itemsAt (place.map (· + 1)) w.leaves = itemsAt place homes.leaves := by
    intro place
    have hne : place.map (· + 1) ≠ some 0 := by cases place <;> simp
    rw [← itemsAt_map_later place homes.leaves, ← leaves_map]
    simpa only [leavesAll_cons, leavesAll_nil, List.append_nil] using hhouses.itemsKept _ hne
  have hplaces : ∀ place : Option Nat,
      place = some 0 ∨ ∃ i : Option Nat, place = i.map (· + 1) := by
    rintro (_ | _ | i)
    · exact .inr ⟨none, rfl⟩
    · exact .inl rfl
    · exact .inr ⟨some i, rfl⟩
  refine ⟨herased, ?_, ?_⟩
  · intro place
    rcases hplaces place with rfl | ⟨i, rfl⟩
    · rw [part, at?_cons_zero, hleaves, ← hhouses.itemsMoved]
      simp
    · rw [hpart, hlater, hkept.leaves_part]
  · intro members hmem hne
    rcases hhouses.whole members (by simpa using hmem) hne with ⟨hhome, hmoved⟩ | hstays
    · refine ⟨some 0, hhome, ?_⟩
      rw [part, at?_cons_zero]
      exact hwhole _ (by simpa using hne) hmoved
    · rw [subtreesAll_cons, subtreesAll_nil, List.append_nil, subtrees_map, List.mem_map] at hstays
      obtain ⟨u, hu, hmap⟩ := hstays
      obtain ⟨members', rfl, rfl⟩ := map_eq_group hmap
      obtain ⟨place, hplace, hsub⟩ := hkept.whole members' hu (by simpa using hne)
      refine ⟨place.map (· + 1), ?_, ?_⟩
      · intro x hx
        rw [leavesAll_mapAll, List.mem_map] at hx
        obtain ⟨y, hy, rfl⟩ := hx
        exact congrArg (Option.map (· + 1)) (hplace y hy)
      · rw [hpart, mapAll_mapAll]
        exact hsub

/-- An OR with members is inside no filter without members. -/
theorem not_mem_subtrees_of_isEmpty (h : g.isEmpty = true) {members : List (Tree Condition)}
    (hne : members ≠ []) : Tree.group .or members ∉ g.toTree.subtrees := by
  obtain ⟨logic, children⟩ := g
  obtain rfl : children = [] := List.isEmpty_iff.1 h
  simp [FilterGroup.toTree, hne]

/-- **Every condition has a place in a plan.** -/
theorem exists_homes_fromPosition (s : Scope) (target : Nat) (occurrences : List Occurrence)
    (g : Filter) : ∃ homes, (fromPosition s target occurrences g).Homes g homes := by
  induction occurrences generalizing target g with
  | nil =>
    have hhouses : Houses (none : Option Nat) [g.toTree] [] [g.toTree.map fun c => (c, none)] :=
      Houses.ofMoved none g.toTree leavesAll_nil
    refine ⟨g.toTree.map fun c => (c, none), ?_, ?_, ?_⟩
    · rw [map_map]
      exact map_id' _
    · intro place
      cases place with
      | none => simpa [part, fromPosition] using hhouses.itemsMoved.symm
      | some i =>
        simpa [part, at?, fromPosition] using (hhouses.itemsKept (some i) (by simp)).symm
    · intro members hmem hne
      have hmoved := hhouses.whole members (by simpa using hmem) hne
      refine ⟨none, ?_⟩
      simpa [part, fromPosition] using hmoved
  | cons o rest ih =>
    cases h : o.nullSupplying with
    | true =>
      obtain ⟨homes, hhomes⟩ := ih (target + 1) g
      rw [fromPosition_cons_of_nullSupplying h]
      have hhouses : Houses (some 0) [] [homes.map later] [homes.map later] :=
        Houses.ofKept (by simpa using snd_ne_of_mem_leaves_map_later homes) leavesAll_nil
      refine ⟨homes.map later, hhomes.cons ?_ hhouses rfl (by simp)⟩
      rw [map_map]
      exact hhomes.erased
    | false =>
      obtain ⟨homes, hhomes⟩ := ih (target + 1) (splitFilter (s.belongsTo target) g).2
      rw [fromPosition_cons_of_not_nullSupplying h]
      have hkept : (homes.map later).map Prod.fst =
          (splitFilter (s.belongsTo target) g).2.toTree := by
        rw [map_map]
        exact hhomes.erased
      obtain ⟨w, herased, hhouses⟩ := exists_houses_splitFilter hkept
        (snd_ne_of_mem_leaves_map_later homes)
      refine ⟨w, hhomes.cons herased hhouses ?_ ?_⟩
      · split
        · next hempty => simp [leaves_of_isEmpty hempty]
        · simp
      · intro members hne hmem
        have hmem : Tree.group .or members ∈
            (splitFilter (s.belongsTo target) g).1.toTree.subtrees := by
          simpa using hmem
        split
        · next hempty => exact absurd hmem (not_mem_subtrees_of_isEmpty hempty hne)
        · exact hmem

/-! ## Nothing more to move -/

/-- What cannot be moved into a source cannot be moved into it later. -/
theorem isEmpty_splitFilter_fromPosition {p : Condition → Bool} (h : (splitFilter p g).1.isEmpty)
    (s : Scope) (target : Nat) (occurrences : List Occurrence) :
    (splitFilter p (fromPosition s target occurrences g).remaining).1.isEmpty := by
  induction occurrences generalizing target g with
  | nil => exact h
  | cons o rest ih =>
    cases hnull : o.nullSupplying with
    | true =>
      rw [fromPosition_cons_of_nullSupplying hnull]
      exact ih h (target + 1)
    | false =>
      rw [fromPosition_cons_of_not_nullSupplying hnull]
      exact ih (isEmpty_splitFilter_snd_of_isEmpty h _) (target + 1)

/-- **Nothing more can be moved out of what is left.** -/
theorem isEmpty_splitFilter_remaining {k : Nat} {occurrences : List Occurrence}
    (hk : occurrences[k]? = some o) (hnull : o.nullSupplying = false) (s : Scope) (target : Nat)
    (g : Filter) :
    (splitFilter (s.belongsTo (target + k))
      (fromPosition s target occurrences g).remaining).1.isEmpty := by
  induction occurrences generalizing target g k with
  | nil => simp at hk
  | cons first rest ih =>
    cases k with
    | zero =>
      obtain rfl : first = o := by simpa using hk
      rw [fromPosition_cons_of_not_nullSupplying hnull]
      exact isEmpty_splitFilter_fromPosition (isEmpty_splitFilter_snd _ g) s _ rest
    | succ k =>
      have hk : rest[k]? = some o := by simpa using hk
      rw [← Nat.add_assoc, Nat.add_right_comm]
      cases hfirst : first.nullSupplying with
      | true =>
        rw [fromPosition_cons_of_nullSupplying hfirst]
        exact ih hk (target + 1) g
      | false =>
        rw [fromPosition_cons_of_not_nullSupplying hfirst]
        exact ih hk (target + 1) _

/-! ## The plan of a request -/

/-- The plan of a request takes its filter apart. -/
structure IsMaximalPartition (s : Scope) (plan : Pushdown) : Prop where
  /-- Every condition is at one place, unchanged and in order, and no choice is torn apart. -/
  homes : ∃ homes, plan.Homes s.request.filter homes
  /-- A condition at a source is on a column of that source, and no outer join misses its rows. -/
  moved : ∀ i, ∀ c ∈ (plan.part (some i)).leaves,
    (trim c.column).isEmpty = false ∧ s.aggregates.names c.column = false ∧
      (∃ column, s.sources.resolveColumn c.column = some (i, column)) ∧
      ∃ o, s.sources.occurrences[i]? = some o ∧ o.nullSupplying = false
  /-- The weight of a source is the number of the conditions at it. -/
  weights : plan.weights =
    (List.range s.sources.occurrences.length).map fun i => (plan.part (some i)).leaves.length
  /-- Nothing that is left could still be moved. -/
  maximal : ∀ i o, s.sources.occurrences[i]? = some o → o.nullSupplying = false →
    (splitFilter (s.belongsTo i) plan.remaining).1.isEmpty = true
  /-- Of what is left and only joined by AND, no condition and no choice is wholly on columns of one
  source, unless an outer join misses rows of it. -/
  settled : ∀ i o, s.sources.occurrences[i]? = some o → o.nullSupplying = false →
    ∀ t ∈ plan.remaining.toTree.conjuncts, ∃ c ∈ t.leaves, s.belongsTo i c = false

/-- The weights of a plan are the numbers of conditions at its places. -/
theorem weights_eq (plan : Pushdown) :
    plan.weights =
      (List.range plan.pushed.length).map fun i => (plan.part (some i)).leaves.length := by
  refine List.ext_getElem (by simp [weights]) fun i hi _ => ?_
  have hi : i < plan.pushed.length := by simpa [weights] using hi
  simp only [weights, List.getElem_map, List.getElem_range, part, at?, List.getElem?_eq_getElem hi,
    Option.join_some]
  cases plan.pushed[i] <;> rfl

theorem isEmpty_splitFilter_ofScope {i : Nat} (hi : s.sources.occurrences[i]? = some o)
    (hnull : o.nullSupplying = false) :
    (splitFilter (s.belongsTo i) (ofScope s).remaining).1.isEmpty = true := by
  have hempty := isEmpty_splitFilter_remaining hi hnull s 0 s.request.filter
  rwa [Nat.zero_add] at hempty

/-- **A plan takes the filter of a request apart, and nothing more can be moved.** -/
theorem isMaximalPartition_ofScope (s : Scope) : IsMaximalPartition s (ofScope s) where
  homes := exists_homes_fromPosition s 0 s.sources.occurrences s.request.filter
  moved := by
    intro i c hc
    obtain ⟨h, hh⟩ : ∃ h, (ofScope s).at? i = some h := by
      cases hat : (ofScope s).at? i with
      | some h => exact ⟨h, rfl⟩
      | none => simp [part, hat, FilterGroup.leaves] at hc
    obtain ⟨ho, hleaves⟩ := of_at?_fromPosition hh
    have hbelongs := hleaves c (by simpa [part, hh] using hc)
    rw [Nat.zero_add] at hbelongs
    simp only [Scope.belongsTo, Bool.and_eq_true, Bool.not_eq_true', Option.any_eq_true,
      beq_iff_eq] at hbelongs
    obtain ⟨⟨hnames, hblank⟩, ⟨i, column⟩, hresolve, rfl⟩ := hbelongs
    exact ⟨hblank, hnames, ⟨column, hresolve⟩, ho⟩
  weights := by
    rw [weights_eq, ofScope, length_pushed_fromPosition]
  maximal := fun i o => isEmpty_splitFilter_ofScope
  settled := by
    intro i o hi hnull t ht
    have hstays := isEmpty_splitFilter_fst_iff.1 (isEmpty_splitFilter_ofScope hi hnull) t ht
    simpa using hstays

/-- Both members of the choice move to the sales, and nothing moves to the towns. -/
example : (ofScope shopSales).weights = [2, 1, 0] := by decide +kernel

end ReportSql.Pushdown
