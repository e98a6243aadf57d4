import ReportSql.Proofs.Tree.Match
import ReportSql.Proofs.Tree.Split

/-!
# Leaves with homes

When a filter is split, every leaf goes to one of two sides.  Seen from the filter, each leaf gets a
home: the leaves with one home are those of one side, in order, and an OR group has one home with
all that stands in it.

## Main definitions

* `Tree.subtrees` — a tree with all the trees inside it.
* `Tree.itemsAt` — the items with one home.
* `Tree.Houses` — a tree with homes seen as what was moved and what was kept.

## Main statements

* `Tree.exists_houses_splitFilter` — homes of what is kept extend to homes of the whole filter.
-/

namespace ReportSql

variable {α β γ : Type}

namespace Tree

/-! ## Subtrees -/

mutual

/-- A tree with all the trees inside it. -/
def subtrees : Tree α → List (Tree α)
  | .leaf a => [.leaf a]
  | .group logic children => .group logic children :: subtreesAll children

@[inherit_doc subtrees] def subtreesAll : List (Tree α) → List (Tree α)
  | [] => []
  | t :: ts => t.subtrees ++ subtreesAll ts

end

@[simp] theorem subtrees_leaf (a : α) : (leaf a).subtrees = [leaf a] := by rw [subtrees]

@[simp] theorem subtrees_group (logic : Logic) (children : List (Tree α)) :
    (group logic children).subtrees = group logic children :: subtreesAll children := by
  rw [subtrees]

@[simp] theorem subtreesAll_nil : subtreesAll ([] : List (Tree α)) = [] := by rw [subtreesAll]

@[simp] theorem subtreesAll_cons (t : Tree α) (ts : List (Tree α)) :
    subtreesAll (t :: ts) = t.subtrees ++ subtreesAll ts := by rw [subtreesAll]

@[simp] theorem subtreesAll_append (ts us : List (Tree α)) :
    subtreesAll (ts ++ us) = subtreesAll ts ++ subtreesAll us := by
  induction ts with
  | nil => simp
  | cons t ts ih => simp [ih]

mutual

/-- The trees inside an image are the images of the trees inside. -/
theorem subtrees_map (f : α → β) : ∀ t : Tree α, (t.map f).subtrees = t.subtrees.map (map f)
  | .leaf a => by simp
  | .group logic children => by simp [subtreesAll_mapAll f children]

theorem subtreesAll_mapAll (f : α → β) :
    ∀ ts : List (Tree α), subtreesAll (mapAll f ts) = (subtreesAll ts).map (map f)
  | [] => by simp
  | t :: ts => by simp [subtrees_map f t, subtreesAll_mapAll f ts]

end

mutual

/-- The leaves of a tree inside are leaves of the tree. -/
theorem mem_leaves_of_mem_subtrees : ∀ {t u : Tree α} {a : α}, u ∈ t.subtrees → a ∈ u.leaves →
    a ∈ t.leaves
  | .leaf b, u, a, hu, ha => by
    obtain rfl : u = .leaf b := by simpa using hu
    exact ha
  | .group logic children, u, a, hu, ha => by
    rw [subtrees_group, List.mem_cons] at hu
    rcases hu with rfl | hu
    · exact ha
    · rw [leaves_group]
      exact mem_leavesAll_of_mem_subtreesAll hu ha

theorem mem_leavesAll_of_mem_subtreesAll : ∀ {ts : List (Tree α)} {u : Tree α} {a : α},
    u ∈ subtreesAll ts → a ∈ u.leaves → a ∈ leavesAll ts
  | [], u, a, hu, ha => by simp at hu
  | t :: ts, u, a, hu, ha => by
    rw [subtreesAll_cons, List.mem_append] at hu
    rw [leavesAll_cons, List.mem_append]
    exact hu.imp (mem_leaves_of_mem_subtrees · ha) (mem_leavesAll_of_mem_subtreesAll · ha)

end

theorem mapAll_eq_map (f : α → β) (ts : List (Tree α)) : mapAll f ts = ts.map (map f) := by
  induction ts with
  | nil => simp
  | cons t ts ih => simp [ih]

@[simp] theorem mapAll_eq_nil {f : α → β} {ts : List (Tree α)} : mapAll f ts = [] ↔ ts = [] := by
  rw [mapAll_eq_map, List.map_eq_nil_iff]

theorem mapAll_eq_singleton {f : α → β} {ts : List (Tree α)} {u : Tree β}
    (h : mapAll f ts = [u]) : ∃ t, ts = [t] ∧ t.map f = u := by
  rwa [mapAll_eq_map, List.map_eq_singleton_iff] at h

theorem mapAll_eq_append {f : α → β} {ts : List (Tree α)} {us vs : List (Tree β)}
    (h : mapAll f ts = us ++ vs) :
    ∃ ts₁ ts₂, ts = ts₁ ++ ts₂ ∧ mapAll f ts₁ = us ∧ mapAll f ts₂ = vs := by
  simpa only [mapAll_eq_map, List.map_eq_append_iff] using h

theorem map_eq_group {f : α → β} {t : Tree α} {logic : Logic} {children : List (Tree β)}
    (h : t.map f = group logic children) :
    ∃ members, t = group logic members ∧ mapAll f members = children := by
  cases t with
  | leaf a => simp at h
  | group logic' members =>
    rw [map_group, group.injEq] at h
    exact ⟨members, by rw [h.1], h.2⟩

mutual

/-- The image under the identity. -/
theorem map_id' : ∀ t : Tree α, t.map (fun a => a) = t
  | .leaf a => by simp
  | .group logic children => by simp [mapAll_id' children]

theorem mapAll_id' : ∀ ts : List (Tree α), mapAll (fun a => a) ts = ts
  | [] => by simp
  | t :: ts => by simp [map_id' t, mapAll_id' ts]

end

/-! ## Homes -/

/-- The items with one home, in order. -/
def itemsAt [DecidableEq β] (home : β) (xs : List (α × β)) : List α :=
  (xs.filter fun x => x.2 = home).map Prod.fst

section Houses

variable [DecidableEq β]

@[simp] theorem itemsAt_nil (home : β) : itemsAt home ([] : List (α × β)) = [] := rfl

@[simp] theorem itemsAt_append (home : β) (xs ys : List (α × β)) :
    itemsAt home (xs ++ ys) = itemsAt home xs ++ itemsAt home ys := by
  simp [itemsAt]

/-- All the items have one home. -/
theorem itemsAt_eq_map {home : β} {xs : List (α × β)} (h : ∀ x ∈ xs, x.2 = home) :
    itemsAt home xs = xs.map Prod.fst := by
  rw [itemsAt, List.filter_eq_self.2 (by simpa using h)]

/-- No item has the home. -/
theorem itemsAt_eq_nil {home : β} {xs : List (α × β)} (h : ∀ x ∈ xs, x.2 ≠ home) :
    itemsAt home xs = [] := by
  rw [itemsAt, List.filter_eq_nil_iff.2 (by simpa using h), List.map_nil]

/-- Trees with homes, seen as those that were moved to one home and those that were kept.  A choice
with members is moved or kept whole. -/
structure Houses (home : β) (moved : List (Tree α)) (kept ws : List (Tree (α × β))) : Prop where
  itemsMoved : itemsAt home (leavesAll ws) = leavesAll moved
  itemsKept : ∀ other, other ≠ home → itemsAt other (leavesAll ws) = itemsAt other (leavesAll kept)
  whole : ∀ children, group .or children ∈ subtreesAll ws → children ≠ [] →
    ((∀ x ∈ leavesAll children, x.2 = home) ∧
      group .or (mapAll Prod.fst children) ∈ subtreesAll moved) ∨
    group .or children ∈ subtreesAll kept

namespace Houses

variable {home : β} {moved moved' : List (Tree α)} {kept kept' ws ws' : List (Tree (α × β))}

theorem append (h : Houses home moved kept ws) (h' : Houses home moved' kept' ws') :
    Houses home (moved ++ moved') (kept ++ kept') (ws ++ ws') := by
  refine ⟨?_, ?_, ?_⟩
  · rw [leavesAll_append, leavesAll_append, itemsAt_append, h.itemsMoved, h'.itemsMoved]
  · intro other hother
    rw [leavesAll_append, leavesAll_append, itemsAt_append, itemsAt_append,
      h.itemsKept other hother, h'.itemsKept other hother]
  · intro children hmem hne
    simp only [subtreesAll_append, List.mem_append] at hmem ⊢
    rcases hmem with hmem | hmem
    · rcases h.whole children hmem hne with ⟨hhome, hmoved⟩ | hkept
      · exact .inl ⟨hhome, .inl hmoved⟩
      · exact .inr (.inl hkept)
    · rcases h'.whole children hmem hne with ⟨hhome, hmoved⟩ | hkept
      · exact .inl ⟨hhome, .inr hmoved⟩
      · exact .inr (.inr hkept)

/-- Members of an AND, seen with the AND around them.  It is no matter whether an AND stands around
what was moved and what was kept, as long as nothing is lost. -/
theorem and (h : Houses home moved kept ws)
    (hmoved : leavesAll moved' = leavesAll moved)
    (hsubmoved : subtreesAll moved ⊆ subtreesAll moved')
    (hkept : leavesAll kept' = leavesAll kept) (hsubkept : subtreesAll kept ⊆ subtreesAll kept') :
    Houses home moved' kept' [group .and ws] := by
  refine ⟨?_, ?_, ?_⟩
  · simpa [hmoved] using h.itemsMoved
  · intro other hother
    simpa [hkept] using h.itemsKept other hother
  · intro children hmem hne
    have hmem : group .or children ∈ subtreesAll ws := by simpa using hmem
    exact (h.whole children hmem hne).imp (And.imp_right (@hsubmoved _)) (@hsubkept _)

/-- A tree that is moved whole. -/
theorem ofMoved (home : β) (t : Tree α) (hkept : leavesAll kept = []) :
    Houses home [t] kept [t.map fun a => (a, home)] := by
  have hhome : ∀ x ∈ (t.map fun a => (a, home)).leaves, x.2 = home := by
    simp
  refine ⟨?_, ?_, ?_⟩
  · simp only [leavesAll_cons, leavesAll_nil, List.append_nil]
    rw [itemsAt_eq_map hhome, leaves_map, List.map_map]
    exact List.map_id' _
  · intro other hother
    rw [hkept, itemsAt_nil]
    refine itemsAt_eq_nil fun x hx heq => hother ?_
    rw [← heq]
    exact hhome x (by simpa using hx)
  · intro children hmem _
    have hmem : group .or children ∈ (t.map fun a => (a, home)).subtrees := by simpa using hmem
    refine .inl ⟨fun x hx => hhome x (mem_leaves_of_mem_subtrees hmem (by simpa using hx)), ?_⟩
    -- forgetting the homes of a subtree gives a subtree of the tree without homes
    have himage := List.mem_map_of_mem (f := map Prod.fst) hmem
    rw [← subtrees_map, map_map, map_group] at himage
    simpa [Function.comp_def, map_id'] using himage

/-- Trees that are kept as they are. -/
theorem ofKept (h : ∀ x ∈ leavesAll ws, x.2 ≠ home) (hmoved : leavesAll moved = []) :
    Houses home moved ws ws :=
  ⟨by rw [itemsAt_eq_nil h, hmoved], fun _ _ => rfl, fun _ hmem _ => .inr hmem⟩

end Houses

/-! ## Splitting -/

/-- Dropping a group without members loses no leaves. -/
theorem leavesAll_dropEmpty (logic : Logic) (ts : List (Tree α)) :
    leavesAll (if ts.isEmpty then [] else [.group logic ts]) = leavesAll ts := by
  cases ts with
  | nil => rfl
  | cons t ts => rw [List.isEmpty_cons, if_neg Bool.false_ne_true]; simp

/-- Dropping an AND without members loses no trees inside it. -/
theorem subtreesAll_subset_dropEmpty (logic : Logic) (ts : List (Tree α)) :
    subtreesAll ts ⊆ subtreesAll (if ts.isEmpty then [] else [group logic ts]) := by
  cases ts with
  | nil => simp
  | cons t ts => simp

variable {p : α → Bool} {home : β}

mutual

/-- Homes of what a member of an AND keeps extend to homes of the member. -/
theorem exists_houses_splitMember : ∀ {t : Tree α} {kept : List (Tree (α × β))},
    mapAll Prod.fst kept = (splitMember p t).2 → (∀ x ∈ leavesAll kept, x.2 ≠ home) →
    ∃ w : Tree (α × β), w.map Prod.fst = t ∧ Houses home (splitMember p t).1 kept [w]
  | .leaf a, kept, hkept, haway => by
    rw [splitMember_leaf] at hkept ⊢
    by_cases hp : p a
    · obtain rfl : kept = [] := by simpa [hp] using hkept
      exact ⟨leaf (a, home), by simp, by simpa [hp] using Houses.ofMoved home (leaf a) rfl⟩
    · obtain ⟨w, rfl, hw⟩ : ∃ w, kept = [w] ∧ w.map Prod.fst = leaf a :=
        mapAll_eq_singleton (by simpa [hp] using hkept)
      exact ⟨w, hw, by simpa [hp] using Houses.ofKept haway rfl⟩
  | .group .or children, kept, hkept, haway => by
    rw [splitMember_or] at hkept ⊢
    by_cases hempty : children.isEmpty
    · obtain rfl : kept = [] := by simpa [hempty] using hkept
      obtain rfl : children = [] := List.isEmpty_iff.1 hempty
      refine ⟨group .or [], by simp, ⟨rfl, fun _ _ => rfl, ?_⟩⟩
      intro children hmem hne
      have heq : children = [] := by simpa using hmem
      exact absurd heq hne
    · rw [if_neg hempty] at hkept ⊢
      by_cases hall : (leavesAll children).all p
      · rw [if_pos hall] at hkept ⊢
        obtain rfl : kept = [] := mapAll_eq_nil.1 hkept
        refine ⟨(group .or children).map fun a => (a, home), ?_, Houses.ofMoved home _ rfl⟩
        rw [map_map]
        exact map_id' _
      · rw [if_neg hall] at hkept ⊢
        obtain ⟨w, rfl, hw⟩ := mapAll_eq_singleton hkept
        exact ⟨w, hw, Houses.ofKept haway rfl⟩
  | .group .and children, kept, hkept, haway => by
    rw [splitMember_and] at hkept ⊢
    obtain ⟨members, hmembers, hleaves, hsub⟩ : ∃ members : List (Tree (α × β)),
        mapAll Prod.fst members = (splitMembers p children).2 ∧
          leavesAll kept = leavesAll members ∧ subtreesAll members ⊆ subtreesAll kept := by
      by_cases hnil : (splitMembers p children).2.isEmpty
      · obtain rfl : kept = [] := by simpa [hnil] using hkept
        exact ⟨[], (List.isEmpty_iff.1 hnil).symm, rfl, by simp⟩
      · obtain ⟨w, rfl, hw⟩ := mapAll_eq_singleton (hkept.trans (if_neg hnil))
        obtain ⟨members, rfl, hmembers⟩ := map_eq_group hw
        exact ⟨members, hmembers, by simp, by simp⟩
    rw [hleaves] at haway
    obtain ⟨ws, rfl, hws⟩ := exists_houses_splitMembers hmembers haway
    exact ⟨group .and ws, by simp, hws.and (leavesAll_dropEmpty _ _)
      (subtreesAll_subset_dropEmpty _ _) hleaves hsub⟩

/-- Homes of what the members of an AND keep extend to homes of the members. -/
theorem exists_houses_splitMembers : ∀ {ts : List (Tree α)} {kept : List (Tree (α × β))},
    mapAll Prod.fst kept = (splitMembers p ts).2 → (∀ x ∈ leavesAll kept, x.2 ≠ home) →
    ∃ ws : List (Tree (α × β)), mapAll Prod.fst ws = ts ∧
      Houses home (splitMembers p ts).1 kept ws
  | [], kept, hkept, haway => by
    obtain rfl : kept = [] := by simpa using hkept
    exact ⟨[], by simp, ⟨by simp, fun _ _ => rfl, by simp⟩⟩
  | t :: ts, kept, hkept, haway => by
    rw [splitMembers_cons] at hkept ⊢
    obtain ⟨first, rest, rfl, hfirst, hrest⟩ := mapAll_eq_append hkept
    simp only [leavesAll_append, List.mem_append] at haway
    obtain ⟨w, hw, hhouses⟩ := exists_houses_splitMember hfirst fun x hx => haway x (.inl hx)
    obtain ⟨ws, hws, hhousesRest⟩ := exists_houses_splitMembers hrest fun x hx => haway x (.inr hx)
    exact ⟨w :: ws, by rw [mapAll_cons, hw, hws], hhouses.append hhousesRest⟩

end

/-- **Homes of what is kept of a filter extend to homes of the whole filter.**  What moves gets the
given home. -/
theorem exists_houses_splitFilter {g : FilterGroup α} {kept : Tree (α × β)}
    (hkept : kept.map Prod.fst = (splitFilter p g).2.toTree)
    (haway : ∀ x ∈ kept.leaves, x.2 ≠ home) :
    ∃ w : Tree (α × β), w.map Prod.fst = g.toTree ∧
      Houses home [(splitFilter p g).1.toTree] [kept] [w] := by
  obtain ⟨logic, children⟩ := g
  cases logic with
  | and =>
    obtain ⟨members, rfl, hmembers⟩ := map_eq_group hkept
    rw [leaves_group] at haway
    obtain ⟨ws, hws, hhouses⟩ := exists_houses_splitMembers hmembers haway
    refine ⟨group .and ws, by rw [map_group, hws]; rfl, hhouses.and ?_ ?_ ?_ ?_⟩
    · simp [FilterGroup.toTree, splitFilter]
    · simp [FilterGroup.toTree, splitFilter]
    · simp
    · simp
  | or =>
    by_cases hmoves : children.isEmpty = false ∧ (leavesAll children).all p = true
    · rw [splitFilter_or, if_pos hmoves] at hkept ⊢
      refine ⟨(group .or children).map fun a => (a, home), ?_, Houses.ofMoved home _ ?_⟩
      · rw [map_map]
        exact map_id' _
      · obtain ⟨members, rfl, hmembers⟩ := map_eq_group hkept
        obtain rfl : members = [] := mapAll_eq_nil.1 hmembers
        simp
    · rw [splitFilter_or, if_neg hmoves] at hkept ⊢
      exact ⟨kept, hkept, Houses.ofKept (by simpa using haway) (by simp [FilterGroup.toTree])⟩

end Houses

end Tree

end ReportSql
