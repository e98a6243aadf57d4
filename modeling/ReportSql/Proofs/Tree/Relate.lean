import ReportSql.Proofs.Related
import ReportSql.Proofs.Tree.Part
import ReportSql.Proofs.Tree.Split

/-!
# Matching trees stay matching

What is done to two matching trees leaf by leaf makes matching trees of them: their leaves are
related, and pruning or splitting them by tests that agree gives parts that match.

## Main definitions

* `FilterGroup.Matches R` — two filters of one shape whose leaves are related.
* `Pushdown.Matches R` — matching filters moved into the same sources.

## Main statements

* `Tree.Matches.prune` — matching trees stay matching when they are pruned.
* `FilterGroup.Matches.splitFilter` — matching filters stay matching when they are split.
* `Pushdown.Matches.fromPosition` — matching filters are moved into the same sources.
-/

namespace ReportSql

variable {α β γ δ : Type} {R : α → β → Prop}

namespace Tree

/-! ## Members -/

theorem MatchesAll.append {ts ts' : List (Tree α)} {us us' : List (Tree β)}
    (h : MatchesAll R ts us) (h' : MatchesAll R ts' us') :
    MatchesAll R (ts ++ ts') (us ++ us') := by
  induction ts generalizing us with
  | nil =>
    obtain rfl := matchesAll_nil.1 h
    exact h'
  | cons t ts ih =>
    obtain ⟨u, us, rfl, hu, hus⟩ := matchesAll_cons.1 h
    exact matchesAll_cons.2 ⟨u, us ++ us', rfl, hu, ih hus⟩

theorem MatchesAll.length_eq {ts : List (Tree α)} {us : List (Tree β)}
    (h : MatchesAll R ts us) : ts.length = us.length := by
  induction ts generalizing us with
  | nil => rw [matchesAll_nil.1 h, List.length_nil, List.length_nil]
  | cons t ts ih =>
    obtain ⟨u, us, rfl, _, hus⟩ := matchesAll_cons.1 h
    rw [List.length_cons, List.length_cons, ih hus]

theorem MatchesAll.isEmpty_eq {ts : List (Tree α)} {us : List (Tree β)}
    (h : MatchesAll R ts us) : ts.isEmpty = us.isEmpty :=
  isEmpty_eq_of_length_eq h.length_eq

/-! ## Leaves -/

mutual

/-- The leaves of matching trees are related in order. -/
theorem Matches.leaves : ∀ {t : Tree α} {u : Tree β}, t.Matches R u →
    List.Forall₂ R t.leaves u.leaves
  | .leaf a, u, h => by
    obtain ⟨b, rfl, hab⟩ := matches_leaf.1 h
    rw [leaves_leaf, leaves_leaf]
    exact .cons hab .nil
  | .group logic children, u, h => by
    obtain ⟨children', rfl, hall⟩ := matches_group.1 h
    rw [leaves_group, leaves_group]
    exact MatchesAll.leavesAll hall

theorem MatchesAll.leavesAll : ∀ {ts : List (Tree α)} {us : List (Tree β)},
    MatchesAll R ts us → List.Forall₂ R (leavesAll ts) (leavesAll us)
  | [], us, h => by
    obtain rfl := matchesAll_nil.1 h
    rw [leavesAll_nil, leavesAll_nil]
    exact .nil
  | t :: ts, us, h => by
    obtain ⟨u, us, rfl, hu, hus⟩ := matchesAll_cons.1 h
    rw [leavesAll_cons, leavesAll_cons]
    exact List.rel_append (Matches.leaves hu) (MatchesAll.leavesAll hus)

end

/-! ## Pruning -/

section Prune

variable {S : γ → δ → Prop} {f : α → Option γ} {g : β → Option δ}

theorem MatchesAll.toList {x : Option (Tree γ)} {y : Option (Tree δ)}
    (h : Option.Rel (Matches S) x y) : MatchesAll S x.toList y.toList := by
  cases h with
  | some hmatch => exact matchesAll_cons.2 ⟨_, [], rfl, hmatch, matchesAll_nil.2 rfl⟩
  | none => exact matchesAll_nil.2 rfl

mutual

/-- **Matching trees stay matching when they are pruned** alike. -/
theorem Matches.prune (hfg : ∀ a b, R a b → Option.Rel S (f a) (g b)) :
    ∀ {t : Tree α} {u : Tree β}, t.Matches R u →
      Option.Rel (Matches S) (t.prune f) (u.prune g)
  | .leaf a, u, h => by
    obtain ⟨b, rfl, hab⟩ := matches_leaf.1 h
    rw [prune_leaf, prune_leaf]
    exact rel_map (fun c d hcd => matches_leaf.2 ⟨d, rfl, hcd⟩) (hfg a b hab)
  | .group logic children, u, h => by
    obtain ⟨children', rfl, hall⟩ := matches_group.1 h
    have hkept := MatchesAll.pruneAll hfg hall
    rw [prune_group, prune_group, hkept.isEmpty_eq]
    split
    · exact .none
    · exact .some (matches_group.2 ⟨_, rfl, hkept⟩)

theorem MatchesAll.pruneAll (hfg : ∀ a b, R a b → Option.Rel S (f a) (g b)) :
    ∀ {ts : List (Tree α)} {us : List (Tree β)}, MatchesAll R ts us →
      MatchesAll S (pruneAll f ts) (pruneAll g us)
  | [], us, h => by
    obtain rfl := matchesAll_nil.1 h
    rw [pruneAll_nil, pruneAll_nil]
    exact matchesAll_nil.2 rfl
  | t :: ts, us, h => by
    obtain ⟨u, us, rfl, hu, hus⟩ := matchesAll_cons.1 h
    rw [pruneAll_cons, pruneAll_cons]
    exact (MatchesAll.toList (Matches.prune hfg hu)).append (MatchesAll.pruneAll hfg hus)

end

end Prune

/-! ## Splitting -/

section Split

variable {p : α → Bool} {q : β → Bool}

/-- An AND that is dropped when it has no members is dropped alike. -/
theorem MatchesAll.dropEmpty {ts : List (Tree α)} {us : List (Tree β)} (h : MatchesAll R ts us) :
    MatchesAll R (if ts.isEmpty then [] else [.group .and ts])
      (if us.isEmpty then [] else [.group .and us]) := by
  rw [h.isEmpty_eq]
  split
  · exact matchesAll_nil.2 rfl
  · exact matchesAll_cons.2 ⟨_, [], rfl, matches_group.2 ⟨_, rfl, h⟩, matchesAll_nil.2 rfl⟩

mutual

theorem Matches.splitMember (hpq : ∀ a b, R a b → p a = q b) :
    ∀ {t : Tree α} {u : Tree β}, t.Matches R u →
      MatchesAll R (splitMember p t).1 (splitMember q u).1 ∧
        MatchesAll R (splitMember p t).2 (splitMember q u).2
  | .leaf a, u, h => by
    have hsingle : MatchesAll R [.leaf a] [u] :=
      matchesAll_cons.2 ⟨u, [], rfl, h, matchesAll_nil.2 rfl⟩
    obtain ⟨b, rfl, hab⟩ := matches_leaf.1 h
    rw [splitMember_leaf, splitMember_leaf, hpq a b hab]
    split
    · exact ⟨hsingle, matchesAll_nil.2 rfl⟩
    · exact ⟨matchesAll_nil.2 rfl, hsingle⟩
  | .group .or children, u, h => by
    have hsingle : MatchesAll R [.group .or children] [u] :=
      matchesAll_cons.2 ⟨u, [], rfl, h, matchesAll_nil.2 rfl⟩
    obtain ⟨children', rfl, hall⟩ := matches_group.1 h
    rw [splitMember_or, splitMember_or, hall.isEmpty_eq, all_eq_of_forall₂ hpq hall.leavesAll]
    split
    · exact ⟨matchesAll_nil.2 rfl, matchesAll_nil.2 rfl⟩
    · split
      · exact ⟨hsingle, matchesAll_nil.2 rfl⟩
      · exact ⟨matchesAll_nil.2 rfl, hsingle⟩
  | .group .and children, u, h => by
    obtain ⟨children', rfl, hall⟩ := matches_group.1 h
    obtain ⟨hpassed, hkept⟩ := MatchesAll.splitMembers hpq hall
    rw [splitMember_and, splitMember_and]
    exact ⟨hpassed.dropEmpty, hkept.dropEmpty⟩

theorem MatchesAll.splitMembers (hpq : ∀ a b, R a b → p a = q b) :
    ∀ {ts : List (Tree α)} {us : List (Tree β)}, MatchesAll R ts us →
      MatchesAll R (splitMembers p ts).1 (splitMembers q us).1 ∧
        MatchesAll R (splitMembers p ts).2 (splitMembers q us).2
  | [], us, h => by
    obtain rfl := matchesAll_nil.1 h
    rw [splitMembers_nil, splitMembers_nil]
    exact ⟨matchesAll_nil.2 rfl, matchesAll_nil.2 rfl⟩
  | t :: ts, us, h => by
    obtain ⟨u, us, rfl, hu, hus⟩ := matchesAll_cons.1 h
    obtain ⟨hfirst, hsecond⟩ := Matches.splitMember hpq hu
    obtain ⟨hpassed, hkept⟩ := MatchesAll.splitMembers hpq hus
    rw [splitMembers_cons, splitMembers_cons]
    exact ⟨hfirst.append hpassed, hsecond.append hkept⟩

end

end Split

end Tree

namespace FilterGroup

/-- Two filters of one shape whose leaves are related. -/
def Matches (R : α → β → Prop) (g : FilterGroup α) (h : FilterGroup β) : Prop :=
  g.logic = h.logic ∧ Tree.MatchesAll R g.children h.children

theorem Matches.toTree {g : FilterGroup α} {h : FilterGroup β} (hmatch : g.Matches R h) :
    g.toTree.Matches R h.toTree := by
  unfold FilterGroup.toTree
  rw [hmatch.1]
  exact Tree.matches_group.2 ⟨_, rfl, hmatch.2⟩

theorem Matches.leaves {g : FilterGroup α} {h : FilterGroup β} (hmatch : g.Matches R h) :
    List.Forall₂ R g.leaves h.leaves := hmatch.2.leavesAll

theorem Matches.isEmpty_eq {g : FilterGroup α} {h : FilterGroup β} (hmatch : g.Matches R h) :
    g.isEmpty = h.isEmpty := hmatch.2.isEmpty_eq

/-- **Matching filters stay matching when they are split** by tests that agree. -/
theorem Matches.splitFilter {p : α → Bool} {q : β → Bool} (hpq : ∀ a b, R a b → p a = q b)
    {g : FilterGroup α} {h : FilterGroup β} (hmatch : g.Matches R h) :
    (splitFilter p g).1.Matches R (splitFilter q h).1 ∧
      (splitFilter p g).2.Matches R (splitFilter q h).2 := by
  have hnone : Tree.MatchesAll R ([] : List (Tree α)) ([] : List (Tree β)) :=
    Tree.matchesAll_nil.2 rfl
  have hempty := hmatch.isEmpty_eq
  have hleaves := all_eq_of_forall₂ hpq hmatch.leaves
  obtain ⟨logic, children⟩ := g
  obtain ⟨_, children'⟩ := h
  obtain ⟨rfl, hall⟩ := hmatch
  cases logic with
  | and =>
    obtain ⟨hpassed, hkept⟩ := Tree.MatchesAll.splitMembers hpq hall
    exact ⟨⟨rfl, hpassed⟩, ⟨rfl, hkept⟩⟩
  | or =>
    simp only [ReportSql.splitFilter, hempty, hleaves]
    split
    · exact ⟨⟨rfl, hall⟩, ⟨rfl, hnone⟩⟩
    · exact ⟨⟨rfl, hnone⟩, ⟨rfl, hall⟩⟩

end FilterGroup

/-! ## Filters moved into sources -/

/-- Two plans that move matching filters into the same sources, and leave matching ones. -/
structure Pushdown.Matches (R : Condition → Condition → Prop) (plan plan' : Pushdown) : Prop where
  pushed : List.Forall₂ (Option.Rel (FilterGroup.Matches R)) plan.pushed plan'.pushed
  remaining : plan.remaining.Matches R plan'.remaining

namespace Pushdown.Matches

variable {R : Condition → Condition → Prop}

/-- **Matching filters are moved into the same sources** when related conditions belong to the same
sources. -/
theorem fromPosition {s s' : Scope} (h : ∀ i c c', R c c' → s.belongsTo i c = s'.belongsTo i c')
    (target : Nat) (occurrences : List Occurrence) {g g' : Filter} (hg : g.Matches R g') :
    (Pushdown.fromPosition s target occurrences g).Matches R
      (Pushdown.fromPosition s' target occurrences g') := by
  induction occurrences generalizing target g g' with
  | nil => exact ⟨.nil, hg⟩
  | cons o rest ih =>
    unfold Pushdown.fromPosition
    split
    · have hrest := ih (target + 1) hg
      exact ⟨.cons .none hrest.pushed, hrest.remaining⟩
    · obtain ⟨hmoved, hkept⟩ := hg.splitFilter (h target)
      have hrest := ih (target + 1) hkept
      refine ⟨.cons ?_ hrest.pushed, hrest.remaining⟩
      rw [hmoved.isEmpty_eq]
      split
      · exact .none
      · exact .some hmoved

variable {plan plan' : Pushdown}

theorem at? (h : plan.Matches R plan') (position : Nat) :
    Option.Rel (FilterGroup.Matches R) (plan.at? position) (plan'.at? position) :=
  rel_join (rel_getElem?_of_forall₂ h.pushed position)

/-- As many conditions are moved into each source. -/
theorem weights (h : plan.Matches R plan') : plan.weights = plan'.weights := by
  refine map_eq_of_forall₂ ?_ h.pushed
  rintro _ _ (hg | _)
  · exact hg.leaves.length_eq
  · rfl

end Pushdown.Matches

end ReportSql
