import ReportSql.Proofs.Routing.Built
import ReportSql.Proofs.Tree.Match
import ReportSql.Plan.Routing

/-!
# Routing as one pass

Routing a tree is one pass over its conditions once each of them carries whether it is promoted.
What is known of passes over trees then holds of routing.

## Main definitions

* `Scope.flagged` — every condition with whether it is promoted.

## Main statements

* `Scope.routeTree_eq_traverse` — routing a tree is a pass over its conditions.
* `Scope.matches_of_outcome_routeTree` — a tree that was routed leaf by leaf.
-/

namespace ReportSql

variable {α β : Type}

namespace Tree

variable {f : α → Traced β}

mutual

/-- A pass that succeeds has taken every leaf to its image. -/
theorem matches_of_outcome_traverse : ∀ {t : Tree α} {u : Tree β},
    (t.traverse f).outcome = .ok u → t.Matches (fun a b => (f a).outcome = .ok b) u
  | .leaf a, u, h => by
    rw [traverse] at h
    obtain ⟨b, hb, h⟩ := Traced.exists_of_outcome_bind h
    cases h
    exact matches_leaf.2 ⟨b, rfl, hb⟩
  | .group logic children, u, h => by
    rw [traverse] at h
    obtain ⟨us, hus, h⟩ := Traced.exists_of_outcome_bind h
    cases h
    exact matches_group.2 ⟨us, rfl, matchesAll_of_outcome_traverseAll hus⟩

theorem matchesAll_of_outcome_traverseAll : ∀ {ts : List (Tree α)} {us : List (Tree β)},
    (traverseAll f ts).outcome = .ok us → MatchesAll (fun a b => (f a).outcome = .ok b) ts us
  | [], us, h => by
    rw [traverseAll] at h
    cases h
    exact matchesAll_nil.2 rfl
  | t :: ts, us, h => by
    rw [traverseAll] at h
    obtain ⟨u, hu, h⟩ := Traced.exists_of_outcome_bind h
    obtain ⟨us, hus, h⟩ := Traced.exists_of_outcome_bind h
    cases h
    exact matchesAll_cons.2
      ⟨u, us, rfl, matches_of_outcome_traverse hu, matchesAll_of_outcome_traverseAll hus⟩

end

end Tree

namespace Scope

variable (s : Scope) (settings : Settings) (place : Place)

mutual

/-- Every condition of a tree with whether it is promoted. -/
def flagged (promoted : Bool) : Tree Condition → Tree (Bool × Condition)
  | .leaf c => .leaf (promoted, c)
  | .group logic children =>
    .group logic (flaggedAll (s.promotes place promoted logic children) children)

@[inherit_doc flagged] def flaggedAll (promoted : Bool) :
    List (Tree Condition) → List (Tree (Bool × Condition))
  | [] => []
  | t :: ts => flagged promoted t :: flaggedAll promoted ts

end

mutual

/-- **Routing a tree is a pass over its conditions.** -/
theorem routeTree_eq_traverse (promoted : Bool) : ∀ t : Tree Condition,
    s.routeTree settings place promoted t =
      (s.flagged place promoted t).traverse fun x => s.routeCondition settings place x.1 x.2
  | .leaf c => by rw [routeTree, flagged, Tree.traverse]
  | .group logic children => by
    rw [routeTree, flagged, Tree.traverse, routeTrees_eq_traverseAll]

theorem routeTrees_eq_traverseAll (promoted : Bool) : ∀ ts : List (Tree Condition),
    s.routeTrees settings place promoted ts =
      Tree.traverseAll (fun x => s.routeCondition settings place x.1 x.2)
        (s.flaggedAll place promoted ts)
  | [] => by rw [routeTrees, flaggedAll, Tree.traverseAll]
  | t :: ts => by
    rw [routeTrees, flaggedAll, Tree.traverseAll, routeTree_eq_traverse promoted t,
      routeTrees_eq_traverseAll promoted ts]

end

mutual

/-- The conditions are those of the tree. -/
theorem map_snd_flagged (promoted : Bool) : ∀ t : Tree Condition,
    (s.flagged place promoted t).map Prod.snd = t
  | .leaf c => by rw [flagged, Tree.map_leaf]
  | .group logic children => by rw [flagged, Tree.map_group, mapAll_snd_flaggedAll]

theorem mapAll_snd_flaggedAll (promoted : Bool) : ∀ ts : List (Tree Condition),
    Tree.mapAll Prod.snd (s.flaggedAll place promoted ts) = ts
  | [] => by rw [flaggedAll, Tree.mapAll_nil]
  | t :: ts => by
    rw [flaggedAll, Tree.mapAll_cons, map_snd_flagged promoted t, mapAll_snd_flaggedAll promoted ts]

end

variable {s} {settings} {place}

/-- **A tree that was routed has the conditions of the tree, each of them routed.** -/
theorem matches_of_outcome_routeTree {promoted : Bool} {t : Tree Condition}
    {u : Tree (Routed Hole)} (h : (s.routeTree settings place promoted t).outcome = .ok u) :
    t.Matches (fun c r => ∃ promoted, (s.routeCondition settings place promoted c).outcome = .ok r)
      u := by
  rw [routeTree_eq_traverse] at h
  have hmatch := Tree.matches_of_outcome_traverse h
  rw [← s.map_snd_flagged place promoted t]
  exact Tree.matches_map_iff.2 (hmatch.imp fun x r hr => ⟨x.1, hr⟩)

end Scope

end ReportSql
