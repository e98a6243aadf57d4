import ReportSql.Plan.Pushdown
import ReportSql.Proofs.Tree.Value

/-!
# Splitting a filter

Splitting a filter by a test on its leaves makes two filters of it.  Together they have the value of
the whole, and every leaf of the one that moves passes the test.  Nothing that could move stays: of
the leaves and the ORs that the filter joins by AND, those move whose leaves all pass.

## Main definitions

* `Tree.conjuncts` — what a tree joins by AND, at any depth.

## Main statements

* `value_splitFilter` — the value of a filter is that of its two parts joined by AND.
* `all_leaves_splitFilter_fst` — the leaves of the part that moves pass the test.
* `mem_leaves_of_splitFilter` — the leaves of both parts are leaves of the filter.
* `conjuncts_splitFilter` — what moves, and what stays.
* `isEmpty_splitFilter_fst_iff` — when nothing moves.
-/

namespace ReportSql

open ReportSql.Tree

variable {α : Type} (p : α → Bool)

/-! ## Conjuncts -/

namespace Tree

mutual

/-- The leaves of a tree and its ORs with members, as far as there are only ANDs around them. -/
def conjuncts : Tree α → List (Tree α)
  | .leaf a => [.leaf a]
  | .group .and children => conjunctsAll children
  | .group .or children => if children.isEmpty then [] else [.group .or children]

@[inherit_doc conjuncts] def conjunctsAll : List (Tree α) → List (Tree α)
  | [] => []
  | t :: ts => t.conjuncts ++ conjunctsAll ts

end

@[simp] theorem conjuncts_leaf (a : α) : (leaf a).conjuncts = [.leaf a] := by rw [conjuncts]

@[simp] theorem conjuncts_and (children : List (Tree α)) :
    (group .and children).conjuncts = conjunctsAll children := by rw [conjuncts]

@[simp] theorem conjuncts_or (children : List (Tree α)) :
    (group .or children).conjuncts =
      if children.isEmpty then [] else [.group .or children] := by rw [conjuncts]

@[simp] theorem conjunctsAll_nil : conjunctsAll ([] : List (Tree α)) = [] := by rw [conjunctsAll]

@[simp] theorem conjunctsAll_cons (t : Tree α) (ts : List (Tree α)) :
    conjunctsAll (t :: ts) = t.conjuncts ++ conjunctsAll ts := by rw [conjunctsAll]

@[simp] theorem conjunctsAll_append (ts us : List (Tree α)) :
    conjunctsAll (ts ++ us) = conjunctsAll ts ++ conjunctsAll us := by
  induction ts with
  | nil => simp
  | cons t ts ih => simp [ih]

mutual

/-- The leaves of a tree are those of its conjuncts. -/
theorem flatMap_leaves_conjuncts : ∀ t : Tree α, t.conjuncts.flatMap leaves = t.leaves
  | .leaf a => by simp
  | .group .or children => by cases children <;> simp
  | .group .and children => by
    rw [conjuncts_and, leaves_group]
    exact flatMap_leaves_conjunctsAll children

theorem flatMap_leaves_conjunctsAll :
    ∀ ts : List (Tree α), (conjunctsAll ts).flatMap leaves = leavesAll ts
  | [] => by simp
  | t :: ts => by
    rw [conjunctsAll_cons, List.flatMap_append, flatMap_leaves_conjuncts t,
      flatMap_leaves_conjunctsAll ts, leavesAll_cons]

end

/-- Dropping an AND without members loses no conjuncts. -/
theorem conjunctsAll_dropEmpty (ts : List (Tree α)) :
    conjunctsAll (if ts.isEmpty then [] else [.group .and ts]) = conjunctsAll ts := by
  cases ts with
  | nil => rfl
  | cons t ts => simp

end Tree

/-- The leaves of a filter are those of its conjuncts. -/
theorem FilterGroup.mem_leaves_iff {g : FilterGroup α} {a : α} :
    a ∈ g.leaves ↔ ∃ t ∈ g.toTree.conjuncts, a ∈ t.leaves := by
  rw [← leaves_toTree, ← flatMap_leaves_conjuncts, List.mem_flatMap]

/-! ## Equations

The recursion on members, one equation for each case of a member. -/

theorem splitMember_leaf (a : α) :
    splitMember p (.leaf a) = if p a then ([.leaf a], []) else ([], [.leaf a]) := by
  rw [splitMember]

theorem splitMember_or (children : List (Tree α)) :
    splitMember p (.group .or children) =
      if children.isEmpty then ([], [])
      else if (leavesAll children).all p then ([.group .or children], [])
      else ([], [.group .or children]) := by
  rw [splitMember]

theorem splitMember_and (children : List (Tree α)) :
    splitMember p (.group .and children) =
      (if (splitMembers p children).1.isEmpty then [] else
        [.group .and (splitMembers p children).1],
       if (splitMembers p children).2.isEmpty then [] else
        [.group .and (splitMembers p children).2]) := by
  rw [splitMember]

@[simp] theorem splitMembers_nil : splitMembers p ([] : List (Tree α)) = ([], []) := by
  rw [splitMembers]

@[simp] theorem splitMembers_cons (t : Tree α) (ts : List (Tree α)) :
    splitMembers p (t :: ts) =
      ((splitMember p t).1 ++ (splitMembers p ts).1,
        (splitMember p t).2 ++ (splitMembers p ts).2) := by
  rw [splitMembers]

/-- An OR at the root moves whole, if it has members and all its leaves pass the test, or it stays
whole. -/
theorem splitFilter_or (children : List (Tree α)) :
    splitFilter p ⟨.or, children⟩ =
      if children.isEmpty = false ∧ (leavesAll children).all p = true then
        (⟨.or, children⟩, ⟨.or, []⟩)
      else (⟨.and, []⟩, ⟨.or, children⟩) := by
  by_cases hempty : children.isEmpty
  · simp [splitFilter, FilterGroup.isEmpty, hempty]
  · simp [splitFilter, FilterGroup.isEmpty, FilterGroup.leaves, hempty]

/-! ## Values -/

/-- An AND that is dropped when it has no members has their value either way. -/
theorem valueAll?_dropEmpty (v : α → Truth) (ts : List (Tree α)) :
    valueAll? v .and (if ts.isEmpty then [] else [.group .and ts]) = valueAll? v .and ts := by
  cases ts with
  | nil => simp
  | cons t ts => rw [List.isEmpty_cons, if_neg Bool.false_ne_true]; simp

mutual

/-- What a member of an AND leaves on the two sides has its value. -/
theorem value?_splitMember (v : α → Truth) :
    ∀ t : Tree α,
      Logic.and.merge (valueAll? v .and (splitMember p t).1)
        (valueAll? v .and (splitMember p t).2) = t.value? v
  | .leaf a => by
    rw [splitMember_leaf]
    by_cases h : p a <;> simp [h]
  | .group .or children => by
    rw [splitMember_or]
    by_cases hempty : children.isEmpty
    · rw [List.isEmpty_iff] at hempty
      simp [hempty]
    · by_cases hall : (leavesAll children).all p <;> simp [hempty, hall]
  | .group .and children => by
    rw [splitMember_and, valueAll?_dropEmpty, valueAll?_dropEmpty, value?_group]
    exact valueAll?_splitMembers v children

/-- The members of an AND on the two sides have the value of the whole. -/
theorem valueAll?_splitMembers (v : α → Truth) :
    ∀ ts : List (Tree α),
      Logic.and.merge (valueAll? v .and (splitMembers p ts).1)
        (valueAll? v .and (splitMembers p ts).2) = valueAll? v .and ts
  | [] => by simp
  | t :: ts => by
    rw [splitMembers_cons, valueAll?_append, valueAll?_append, Logic.merge_and_merge_and_comm,
      value?_splitMember v t, valueAll?_splitMembers v ts, valueAll?_cons]

end

/-- **The value of a filter is that of its two parts joined by AND.** -/
theorem value_splitFilter (v : α → Truth) (g : FilterGroup α) :
    ((splitFilter p g).1.value v).and ((splitFilter p g).2.value v) = g.value v := by
  obtain ⟨logic, children⟩ := g
  unfold FilterGroup.value Tree.value FilterGroup.toTree
  cases logic with
  | and =>
    simp only [splitFilter, value?_group]
    rw [← Logic.getD_merge_and, valueAll?_splitMembers]
  | or =>
    simp only [splitFilter]
    split
    · simp
    · simp

/-! ## What moves -/

mutual

/-- The conjuncts of a member of an AND that pass the test move, and the others stay. -/
theorem conjunctsAll_splitMember :
    ∀ t : Tree α,
      conjunctsAll (splitMember p t).1 = t.conjuncts.filter (fun u => u.leaves.all p) ∧
        conjunctsAll (splitMember p t).2 = t.conjuncts.filter fun u => !u.leaves.all p
  | .leaf a => by
    rw [splitMember_leaf]
    by_cases h : p a <;> simp [h]
  | .group .or children => by
    rw [splitMember_or]
    by_cases hempty : children.isEmpty
    · simp [hempty]
    · by_cases hall : (leavesAll children).all p <;> simp [hempty, hall]
  | .group .and children => by
    rw [splitMember_and, conjunctsAll_dropEmpty, conjunctsAll_dropEmpty, conjuncts_and]
    exact conjunctsAll_splitMembers children

theorem conjunctsAll_splitMembers :
    ∀ ts : List (Tree α),
      conjunctsAll (splitMembers p ts).1 = (conjunctsAll ts).filter (fun u => u.leaves.all p) ∧
        conjunctsAll (splitMembers p ts).2 = (conjunctsAll ts).filter fun u => !u.leaves.all p
  | [] => by simp
  | t :: ts => by
    obtain ⟨hmoved, hkept⟩ := conjunctsAll_splitMember t
    obtain ⟨hmovedRest, hkeptRest⟩ := conjunctsAll_splitMembers ts
    rw [splitMembers_cons, conjunctsAll_append, conjunctsAll_append, conjunctsAll_cons,
      List.filter_append, List.filter_append, hmoved, hkept, hmovedRest, hkeptRest]
    exact ⟨rfl, rfl⟩

end

/-- **What moves out of a filter, and what stays.**  Of its conjuncts those move whose leaves all
pass the test. -/
theorem conjuncts_splitFilter (g : FilterGroup α) :
    (splitFilter p g).1.toTree.conjuncts = g.toTree.conjuncts.filter (fun t => t.leaves.all p) ∧
      (splitFilter p g).2.toTree.conjuncts =
        g.toTree.conjuncts.filter fun t => !t.leaves.all p := by
  obtain ⟨logic, children⟩ := g
  cases logic with
  | and =>
    simp only [FilterGroup.toTree, splitFilter, conjuncts_and]
    exact conjunctsAll_splitMembers p children
  | or =>
    rw [splitFilter_or]
    by_cases hempty : children.isEmpty
    · simp [FilterGroup.toTree, hempty]
    · by_cases hall : (leavesAll children).all p <;> simp [FilterGroup.toTree, hempty, hall]

mutual

/-- Nothing moves of a member of an AND if and only if none of its conjuncts passes the test. -/
theorem splitMember_fst_eq_nil_iff :
    ∀ t : Tree α, (splitMember p t).1 = [] ↔ ∀ u ∈ t.conjuncts, u.leaves.all p = false
  | .leaf a => by
    rw [splitMember_leaf]
    by_cases h : p a <;> simp [h]
  | .group .or children => by
    rw [splitMember_or, conjuncts_or]
    cases hempty : children.isEmpty with
    | true => simp
    | false => cases hall : (leavesAll children).all p <;> simpa using hall
  | .group .and children => by
    rw [splitMember_and, conjuncts_and, ← splitMembers_fst_eq_nil_iff children]
    cases (splitMembers p children).1 <;> simp

theorem splitMembers_fst_eq_nil_iff :
    ∀ ts : List (Tree α),
      (splitMembers p ts).1 = [] ↔ ∀ u ∈ conjunctsAll ts, u.leaves.all p = false
  | [] => by simp
  | t :: ts => by
    rw [splitMembers_cons, List.append_eq_nil_iff, conjunctsAll_cons, List.forall_mem_append,
      splitMember_fst_eq_nil_iff t, splitMembers_fst_eq_nil_iff ts]

end

variable {p}

/-- **Nothing moves out of a filter if and only if none of its conjuncts passes the test.** -/
theorem isEmpty_splitFilter_fst_iff {g : FilterGroup α} :
    (splitFilter p g).1.isEmpty = true ↔ ∀ t ∈ g.toTree.conjuncts, t.leaves.all p = false := by
  obtain ⟨logic, children⟩ := g
  cases logic with
  | and =>
    rw [FilterGroup.toTree, conjuncts_and, ← splitMembers_fst_eq_nil_iff, FilterGroup.isEmpty,
      List.isEmpty_iff]
    rfl
  | or =>
    rw [splitFilter_or, FilterGroup.toTree, conjuncts_or]
    cases hempty : children.isEmpty with
    | true => simp [FilterGroup.isEmpty]
    | false =>
      cases hall : (leavesAll children).all p <;>
        simpa [FilterGroup.isEmpty, hempty] using hall

/-- **The leaves of the part that moves pass the test.** -/
theorem all_leaves_splitFilter_fst (p : α → Bool) (g : FilterGroup α) :
    ∀ a ∈ (splitFilter p g).1.leaves, p a = true := by
  intro a ha
  obtain ⟨t, ht, ha⟩ := FilterGroup.mem_leaves_iff.1 ha
  rw [(conjuncts_splitFilter p g).1, List.mem_filter] at ht
  exact List.all_eq_true.1 ht.2 a ha

/-- **The two parts of a filter have its leaves alone.** -/
theorem mem_leaves_of_splitFilter (p : α → Bool) {g : FilterGroup α} {a : α}
    (h : a ∈ (splitFilter p g).1.leaves ∨ a ∈ (splitFilter p g).2.leaves) : a ∈ g.leaves := by
  obtain ⟨hmoved, hkept⟩ := conjuncts_splitFilter p g
  simp only [FilterGroup.mem_leaves_iff, hmoved, hkept, List.mem_filter] at h ⊢
  rcases h with ⟨t, ⟨ht, -⟩, ha⟩ | ⟨t, ⟨ht, -⟩, ha⟩
  · exact ⟨t, ht, ha⟩
  · exact ⟨t, ht, ha⟩

/-- **Nothing more moves out of what a filter has kept.** -/
theorem isEmpty_splitFilter_snd (p : α → Bool) (g : FilterGroup α) :
    (splitFilter p (splitFilter p g).2).1.isEmpty := by
  rw [isEmpty_splitFilter_fst_iff, (conjuncts_splitFilter p g).2]
  intro t ht
  simpa using (List.mem_filter.1 ht).2

/-- **Where a test moves nothing out of a filter, it moves nothing out of what another test leaves
of it.** -/
theorem isEmpty_splitFilter_snd_of_isEmpty {g : FilterGroup α} (h : (splitFilter p g).1.isEmpty)
    (q : α → Bool) : (splitFilter p (splitFilter q g).2).1.isEmpty := by
  rw [isEmpty_splitFilter_fst_iff] at h ⊢
  rw [(conjuncts_splitFilter q g).2]
  exact fun t ht => h t (List.mem_filter.1 ht).1

end ReportSql
