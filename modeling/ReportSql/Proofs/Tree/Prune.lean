import ReportSql.Proofs.Tree.Part
import ReportSql.Proofs.Tree.Split

/-!
# Trees without leafless groups

A group without a leaf at any depth says nothing, and pruning with the identity takes every such
group out of a tree.  Splitting a filter and passing over its leaves do the same before and after.

## Main definitions

* `FilterGroup.pruned` — a filter without its leafless groups.
* `FilterGroup.pruned?` — the same, none if nothing is left.

## Main statements

* `Tree.traverseAll_pruneAll` — a pass over the leaves does not see leafless groups.
* `splitFilter_pruned_snd`, `splitFilter_pruned_fst` — neither does the splitting of a filter.
-/

namespace ReportSql

variable {α β γ : Type}

namespace Tree

/-! ## Pruning twice -/

section Compose

variable (f : α → Option β) (g : β → Option γ)

mutual

theorem bind_prune_prune : ∀ t : Tree α,
    (t.prune f).bind (prune g) = t.prune fun a => (f a).bind g
  | .leaf a => by cases h : f a <;> simp [h]
  | .group logic children => by
    rw [prune_group, prune_group, ← pruneAll_pruneAll children]
    cases pruneAll f children with
    | nil => simp
    | cons t ts => rw [List.isEmpty_cons, if_neg Bool.false_ne_true, Option.bind_some, prune_group]

theorem pruneAll_pruneAll : ∀ ts : List (Tree α),
    pruneAll g (pruneAll f ts) = pruneAll (fun a => (f a).bind g) ts
  | [] => by simp
  | t :: ts => by
    rw [pruneAll_cons, pruneAll_cons, ← bind_prune_prune t, ← pruneAll_pruneAll ts]
    cases t.prune f <;> simp

end

end Compose

theorem pruneAll_append (f : α → Option β) (ts us : List (Tree α)) :
    pruneAll f (ts ++ us) = pruneAll f ts ++ pruneAll f us := by
  induction ts with
  | nil => simp
  | cons t ts ih => simp [ih]

/-! ## Leafless groups -/

@[simp] theorem leavesAll_pruneAll_some (ts : List (Tree α)) :
    leavesAll (pruneAll some ts) = leavesAll ts := by
  rw [leavesAll_pruneAll, List.filterMap_some]

/-- An AND that is dropped when it has no members, less its leafless groups. -/
theorem pruneAll_dropEmpty (ts : List (Tree α)) :
    pruneAll some (if ts.isEmpty then [] else [.group .and ts]) =
      if (pruneAll some ts).isEmpty then [] else [.group .and (pruneAll some ts)] := by
  cases ts with
  | nil => simp
  | cons t ts =>
    rw [List.isEmpty_cons, if_neg Bool.false_ne_true, pruneAll_cons, prune_group]
    split <;> simp

section Split

variable (p : α → Bool)

/-- A group without its leafless groups is split as if it had been dropped when it is empty. -/
theorem splitMembers_toList_prune_group (logic : Logic) (children : List (Tree α)) :
    splitMembers p ((group logic children).prune some).toList =
      splitMember p (.group logic (pruneAll some children)) := by
  rw [prune_group]
  cases pruneAll some children with
  | nil =>
    cases logic with
    | and => simp [splitMember_and]
    | or => simp [splitMember_or]
  | cons t ts => simp

mutual

/-- What a member of an AND leaves on either side, less its leafless groups. -/
theorem splitMembers_toList_prune : ∀ t : Tree α,
    splitMembers p (t.prune some).toList =
      (pruneAll some (splitMember p t).1, pruneAll some (splitMember p t).2)
  | .leaf a => by
    rw [prune_leaf, splitMember_leaf]
    cases h : p a <;> simp [splitMember_leaf, h]
  | .group .and children => by
    rw [splitMembers_toList_prune_group, splitMember_and, splitMember_and, pruneAll_dropEmpty,
      pruneAll_dropEmpty, splitMembers_pruneAll children]
  | .group .or children => by
    rw [splitMembers_toList_prune_group, splitMember_or, splitMember_or, leavesAll_pruneAll_some]
    by_cases hleafless : pruneAll some children = []
    · -- without leaves the group counts as one that passes, and is taken out afterwards
      have hleaves := leavesAll_pruneAll_some children
      rw [hleafless, leavesAll_nil] at hleaves
      by_cases hempty : children = [] <;> simp [prune_group, hleafless, ← hleaves, hempty]
    · have hempty : children ≠ [] := by
        rintro rfl
        exact hleafless (pruneAll_nil some)
      by_cases hall : (leavesAll children).all p = true <;>
        simp [prune_group, hleafless, hempty, hall]

theorem splitMembers_pruneAll : ∀ ts : List (Tree α),
    splitMembers p (pruneAll some ts) =
      (pruneAll some (splitMembers p ts).1, pruneAll some (splitMembers p ts).2)
  | [] => by simp
  | t :: ts => by
    have happend : ∀ us vs : List (Tree α), splitMembers p (us ++ vs) =
        ((splitMembers p us).1 ++ (splitMembers p vs).1,
          (splitMembers p us).2 ++ (splitMembers p vs).2) := by
      intro us vs
      induction us with
      | nil => simp
      | cons u us ih => simp [ih]
    rw [pruneAll_cons, happend, splitMembers_toList_prune t, splitMembers_pruneAll ts,
      splitMembers_cons, pruneAll_append, pruneAll_append]

end

end Split

/-! ## Passes -/

section Traverse

variable {m : Type → Type} [Monad m] [LawfulMonad m] (f : α → m β)

mutual

/-- A pass over the leaves does not see leafless groups: it may be made before they are taken out or
afterwards. -/
theorem mapM_traverse_prune : ∀ t : Tree α,
    (t.prune some).mapM (traverse f) = prune some <$> t.traverse f
  | .leaf a => by
    rw [prune_leaf, Option.map_some, Option.mapM_some, traverse]
    simp
  | .group logic children => by
    have hgroup : prune some <$> (group logic children).traverse f =
        (fun us => if us.isEmpty then none else some (group logic us)) <$>
          traverseAll f (pruneAll some children) := by
      rw [traverseAll_pruneAll children, traverse]
      simp [prune_group]
    rw [hgroup, prune_group]
    cases pruneAll some children with
    | nil => simp [traverseAll]
    | cons t ts => simp [traverse, traverseAll]

theorem traverseAll_pruneAll : ∀ ts : List (Tree α),
    traverseAll f (pruneAll some ts) = pruneAll some <$> traverseAll f ts
  | [] => by simp [traverseAll]
  | t :: ts => by
    have hcons : pruneAll some <$> traverseAll f (t :: ts) = (do
        let kept ← prune some <$> t.traverse f
        let rest ← pruneAll some <$> traverseAll f ts
        return kept.toList ++ rest) := by simp [traverseAll]
    rw [hcons, ← mapM_traverse_prune t, ← traverseAll_pruneAll ts, pruneAll_cons]
    cases t.prune some with
    | none => simp
    | some u => simp [traverseAll]

end

end Traverse

end Tree

/-! ## Filters -/

namespace FilterGroup

/-- The filter without its leafless groups, though it keeps its own logic. -/
def pruned (g : FilterGroup α) : FilterGroup α := ⟨g.logic, Tree.pruneAll some g.children⟩

/-- The filter without its leafless groups, none if it has no leaf. -/
def pruned? (g : FilterGroup α) : Option (FilterGroup α) :=
  if g.pruned.isEmpty then none else some g.pruned

@[simp] theorem leaves_pruned (g : FilterGroup α) : g.pruned.leaves = g.leaves :=
  Tree.leavesAll_pruneAll_some g.children

/-- A filter without members has no leaf. -/
theorem bind_pruned? (g : FilterGroup α) :
    (if g.isEmpty then none else some g).bind pruned? = g.pruned? := by
  split
  · next hempty =>
    rw [isEmpty, List.isEmpty_iff] at hempty
    rw [pruned?, pruned, hempty, Tree.pruneAll_nil]
    rfl
  · rfl

theorem prune_toTree (g : FilterGroup α) : g.toTree.prune some = g.pruned?.map toTree := by
  rw [toTree, Tree.prune_group, pruned?]
  split
  · next h => rw [isEmpty, pruned, if_pos h, Option.map_none]
  · next h => rw [isEmpty, pruned, if_neg h, Option.map_some, toTree]

end FilterGroup

section Filter

variable (p : α → Bool)

/-- The members of an AND are split with their leafless groups or without. -/
theorem splitFilter_pruned_and (children : List (Tree α)) :
    splitFilter p (FilterGroup.pruned ⟨.and, children⟩) =
      ((splitFilter p ⟨.and, children⟩).1.pruned, (splitFilter p ⟨.and, children⟩).2.pruned) := by
  simp only [splitFilter, FilterGroup.pruned, Tree.splitMembers_pruneAll]

/-- An OR moves whole or stays whole, by its leaves, if it has any. -/
theorem splitFilter_pruned_or {children : List (Tree α)} (h : Tree.pruneAll some children ≠ []) :
    splitFilter p (FilterGroup.pruned ⟨.or, children⟩) =
      ((splitFilter p ⟨.or, children⟩).1.pruned, (splitFilter p ⟨.or, children⟩).2.pruned) := by
  have hempty : children ≠ [] := by
    rintro rfl
    exact h (Tree.pruneAll_nil some)
  simp only [splitFilter, FilterGroup.isEmpty, FilterGroup.leaves, FilterGroup.pruned,
    Tree.leavesAll_pruneAll_some, List.isEmpty_eq_false_iff.2 h, List.isEmpty_eq_false_iff.2 hempty]
  split <;> simp

/-- What stays of a filter without its leafless groups is what stays of the filter, without its
leafless groups. -/
theorem splitFilter_pruned_snd (g : FilterGroup α) :
    (splitFilter p g.pruned).2 = (splitFilter p g).2.pruned := by
  obtain ⟨logic, children⟩ := g
  cases logic with
  | and => rw [splitFilter_pruned_and]
  | or =>
    by_cases hleafless : Tree.pruneAll some children = []
    · have hkept : (splitFilter p ⟨.or, children⟩).2.pruned = ⟨.or, []⟩ := by
        simp only [splitFilter]
        split <;> simp [FilterGroup.pruned, hleafless]
      rw [hkept]
      simp [splitFilter, FilterGroup.pruned, hleafless, FilterGroup.isEmpty]
    · rw [splitFilter_pruned_or p hleafless]

/-- So is what moves, if anything does. -/
theorem splitFilter_pruned_fst (g : FilterGroup α) :
    (if (splitFilter p g.pruned).1.isEmpty then none else some (splitFilter p g.pruned).1) =
      (if (splitFilter p g).1.isEmpty then none else some (splitFilter p g).1).bind
        FilterGroup.pruned? := by
  rw [FilterGroup.bind_pruned?]
  obtain ⟨logic, children⟩ := g
  cases logic with
  | and =>
    rw [splitFilter_pruned_and]
    rfl
  | or =>
    by_cases hleafless : Tree.pruneAll some children = []
    · have hmoved : (splitFilter p ⟨.or, children⟩).1.pruned.isEmpty = true := by
        simp only [splitFilter]
        split <;> simp [FilterGroup.isEmpty, FilterGroup.pruned, hleafless]
      have hnone : (splitFilter p (FilterGroup.pruned ⟨.or, children⟩)).1.isEmpty = true := by
        simp [splitFilter, FilterGroup.pruned, hleafless, FilterGroup.isEmpty]
      rw [FilterGroup.pruned?, if_pos hnone, if_pos hmoved]
    · rw [splitFilter_pruned_or p hleafless]
      rfl

end Filter

end ReportSql
