import ReportSql.Proofs.Blind.Requests

/-!
# Plans that do not see values

Requests that differ in values alone have the same sources and outputs.  Their conditions go to the
same sources and clauses, so that their drafts differ in the values of their holes alone.

## Main definitions

* `Scope.Alike` — scopes whose requests differ in values alone.
* `Pushdown.Alike` — the same conditions moved into the same sources.

## Main statements

* `Scope.promotes_eq_of_matchesAll` — the members of matching groups are promoted alike.
* `Scope.Alike.routeFilter` — filters are routed alike.
* `Pushdown.Alike.ofScope` — the same conditions are moved.
* `Request.Alike.draft` — drafts differ in values alone.
-/

namespace ReportSql

open Text

/-! ## Matching filters -/

section Matching

variable {R : Condition → Condition → Prop}

/-- The members of matching groups are promoted alike when related conditions are on outputs
alike. -/
theorem Scope.promotes_eq_of_matchesAll {s s' : Scope}
    (h : ∀ c c', R c c' → s.isOnOutput c = s'.isOnOutput c') (place : Place) (promoted : Bool)
    (logic : Logic) {children children' : List (Tree Condition)}
    (hall : Tree.MatchesAll R children children') :
    s.promotes place promoted logic children = s'.promotes place promoted logic children' := by
  have hleaves := hall.leavesAll
  have hnot : ∀ c c' : Condition, R c c' → (!s.isOnOutput c) = !s'.isOnOutput c' :=
    fun c c' hc => by rw [h c c' hc]
  rw [promotes, promotes, mixes, mixes, any_eq_of_forall₂ h hleaves, any_eq_of_forall₂ hnot hleaves]

/-- Matching filters are choices alike. -/
theorem Scope.isChoice_eq_of_matches {g g' : Filter} (hg : g.Matches R g') :
    isChoice g = isChoice g' := by
  rw [isChoice, isChoice, hg.1, hg.2.length_eq]

end Matching

/-! ## Scopes -/

/-- Two scopes with the same sources and outputs, whose requests differ in values alone. -/
structure Scope.Alike (settings : Settings) (s s' : Scope) : Prop where
  request : s.request.Alike settings s'.request
  sources : s.sources = s'.sources
  aggregates : s.aggregates = s'.aggregates

namespace Scope.Alike

variable {settings : Settings} {s s' : Scope}

/-! ## Routing -/

theorem target (h : s.Alike settings s') (place : Place) (column : String) :
    s'.target settings place column = s.target settings place column := by
  unfold Scope.target
  rw [h.sources, h.aggregates]

theorem isOnOutput (h : s.Alike settings s') (c c' : Condition) (hc : c.Alike c') :
    s.isOnOutput c = s'.isOnOutput c' := by
  unfold Scope.isOnOutput
  rw [h.aggregates, hc.column]

theorem belongsTo (h : s.Alike settings s') (i : Nat) (c c' : Condition) (hc : c.Alike c') :
    s.belongsTo i c = s'.belongsTo i c' := by
  unfold Scope.belongsTo
  rw [h.aggregates, h.sources, hc.column]

/-- A condition goes to the same clause with every value. -/
theorem routeCondition (h : s.Alike settings s') {c c' : Condition} (hc : c.Alike c')
    (place : Place) (promoted : Bool) :
    Traced.Alike (Routed.Matches Hole.Alike) (s.routeCondition settings place promoted c)
      (s'.routeCondition settings place promoted c') := by
  unfold Scope.routeCondition
  rw [h.target, ← hc.column, h.request.valueKind hc]
  dsimp only
  cases s.target settings place c.column with
  | output o => exact hc.conditionPredicate.bind fun _ _ hp => .pure ⟨rfl, hp⟩
  | column ref => exact hc.conditionPredicate.bind fun _ _ hp => .pure ⟨rfl, hp⟩
  | unresolved => exact .report_bind _ (.pure ⟨rfl, .always⟩)

/-- The members of a group are promoted with every value. -/
theorem promotes (h : s.Alike settings s') (place : Place) (promoted : Bool) (logic : Logic)
    {children children' : List (Tree Condition)}
    (hall : Tree.MatchesAll Condition.Alike children children') :
    s.promotes place promoted logic children = s'.promotes place promoted logic children' :=
  Scope.promotes_eq_of_matchesAll h.isOnOutput place promoted logic hall

mutual

theorem routeTree (h : s.Alike settings s') (place : Place) :
    ∀ (t t' : Tree Condition) (promoted : Bool), t.Matches Condition.Alike t' →
      Traced.Alike (Tree.Matches (Routed.Matches Hole.Alike))
        (s.routeTree settings place promoted t) (s'.routeTree settings place promoted t')
  | .leaf c, t', promoted, ht => by
    obtain ⟨c', rfl, hc⟩ := Tree.matches_leaf.1 ht
    rw [Scope.routeTree, Scope.routeTree]
    exact (h.routeCondition hc place promoted).bind fun _ r hr =>
      .pure (Tree.matches_leaf.2 ⟨r, rfl, hr⟩)
  | .group logic children, t', promoted, ht => by
    obtain ⟨children', rfl, hall⟩ := Tree.matches_group.1 ht
    rw [Scope.routeTree, Scope.routeTree, h.promotes place promoted logic hall]
    exact (routeTrees h place children children' _ hall).bind fun _ us hus =>
      .pure (Tree.matches_group.2 ⟨us, rfl, hus⟩)

theorem routeTrees (h : s.Alike settings s') (place : Place) :
    ∀ (ts ts' : List (Tree Condition)) (promoted : Bool),
      Tree.MatchesAll Condition.Alike ts ts' →
        Traced.Alike (Tree.MatchesAll (Routed.Matches Hole.Alike))
          (s.routeTrees settings place promoted ts) (s'.routeTrees settings place promoted ts')
  | [], ts', promoted, hts => by
    obtain rfl := Tree.matchesAll_nil.1 hts
    rw [Scope.routeTrees, Scope.routeTrees]
    exact .pure (Tree.matchesAll_nil.2 rfl)
  | t :: ts, ts', promoted, hts => by
    obtain ⟨t', ts', rfl, ht, hrest⟩ := Tree.matchesAll_cons.1 hts
    rw [Scope.routeTrees, Scope.routeTrees]
    exact (routeTree h place t t' promoted ht).bind fun _ u hu =>
      (routeTrees h place ts ts' promoted hrest).bind fun _ us hus =>
        .pure (Tree.matchesAll_cons.2 ⟨u, us, rfl, hu, hus⟩)

end

/-- **Filters that differ in values alone are routed alike.** -/
theorem routeFilter (h : s.Alike settings s') (place : Place) {g g' : Filter}
    (hg : g.Matches Condition.Alike g') :
    Traced.Alike (Tree.Matches (Routed.Matches Hole.Alike)) (s.routeFilter settings place g)
      (s'.routeFilter settings place g') :=
  h.routeTree place g.toTree g'.toTree false hg.toTree

end Scope.Alike

/-! ## Filters moved into sources -/

/-- The same conditions moved into the same sources, but for the values of the conditions. -/
structure Pushdown.Alike (plan plan' : Pushdown) : Prop where
  pushed : List.Forall₂ (Option.Rel (FilterGroup.Matches Condition.Alike)) plan.pushed plan'.pushed
  remaining : plan.remaining.Matches Condition.Alike plan'.remaining

namespace Pushdown.Alike

variable {settings : Settings} {s s' : Scope}

/-- Matching filters moved into the same sources are the same filters but for their values. -/
theorem of_matches {plan plan' : Pushdown} (h : plan.Matches Condition.Alike plan') :
    plan.Alike plan' := ⟨h.pushed, h.remaining⟩

theorem toMatches {plan plan' : Pushdown} (h : plan.Alike plan') :
    plan.Matches Condition.Alike plan' := ⟨h.pushed, h.remaining⟩

/-- **The same conditions are moved into the same sources.** -/
theorem ofScope (h : s.Alike settings s') :
    (Pushdown.ofScope s).Alike (Pushdown.ofScope s') := by
  have hfilter : s.request.filter.Matches Condition.Alike s'.request.filter := by
    have hnone : FilterGroup.Matches Condition.Alike {} {} := ⟨rfl, Tree.matchesAll_nil.2 rfl⟩
    exact rel_getD h.request.filters hnone
  unfold Pushdown.ofScope
  rw [h.sources]
  exact of_matches (Pushdown.Matches.fromPosition h.belongsTo 0 s'.sources.occurrences hfilter)

variable {plan plan' : Pushdown}

theorem at? (h : plan.Alike plan') (position : Nat) :
    Option.Rel (FilterGroup.Matches Condition.Alike) (plan.at? position) (plan'.at? position) :=
  h.toMatches.at? position

/-- As many conditions are moved into each source. -/
theorem weights (h : plan.Alike plan') : plan.weights = plan'.weights := h.toMatches.weights

/-- What is reported about the filters moved is their number of conditions. -/
theorem events (h : plan.Alike plan') (occurrences : List Occurrence) :
    plan.events occurrences = plan'.events occurrences := by
  have hpushed := h.pushed
  unfold Pushdown.events
  generalize plan.pushed = gs at hpushed ⊢
  generalize plan'.pushed = gs' at hpushed ⊢
  induction hpushed generalizing occurrences with
  | nil => rfl
  | cons hg _ ih =>
    cases occurrences with
    | nil => rfl
    | cons o rest =>
      rw [List.zip_cons_cons, List.zip_cons_cons, List.filterMap_cons, List.filterMap_cons, ih rest]
      cases hg with
      | some hg =>
        have hcount := hg.leaves.length_eq
        simp only [Option.map_some, hcount]
      | none => rfl

end Pushdown.Alike

end ReportSql
