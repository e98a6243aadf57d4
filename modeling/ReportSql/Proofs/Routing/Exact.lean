import ReportSql.Proofs.Query.Parts
import ReportSql.Proofs.Routing.Placement

/-!
# Routing is exact

The clauses on rows and on groups that a filter is routed to say together what the filter says, and
every condition stands in one of them.  This needs that blank text names no output of an
aggregation: a condition on a blank column counts as one on an output when an OR is looked at, but
as one on nothing when it is routed, so the OR may be split between the clauses.

## Main definitions

* `Scope.RoutedExactly` — a routed filter whose clauses say what the filter says.

## Main statements

* `Scope.forall_routedExactly_iff` — every filter is routed exactly if and only if blank text names
  no output.
* `not_routedExactly_unnamedTotal` — a choice that is split when blank text names an output.
-/

namespace ReportSql

namespace Scope

variable (s : Scope) (settings : Settings)

/-- A routed filter whose two clauses say what the filter says, with every condition in one of them.
The truth of a condition goes with it into its clause, and a missing clause is true. -/
structure RoutedExactly (t : Tree Condition) (u : Tree (Routed Hole)) : Prop where
  placed : (t.inContext []).Matches (fun x r => s.RoutesTo settings x.1 x.2 r) u
  rows : (rowClause u).elim [] Tree.leaves =
    (u.leaves.filter fun r => !r.ofGroups).map Routed.predicate
  groups : (groupClause u).elim [] Tree.leaves =
    (u.leaves.filter Routed.ofGroups).map Routed.predicate
  value : ∀ w : Tree (Condition × Truth), w.map Prod.fst = t →
    ∃ w' : Tree (Routed Hole × Truth), w'.map Prod.fst = u ∧
      w.Matches (fun x y => x.2 = y.2) w' ∧
      rowClause u = (w'.part (fun y => y.1.ofGroups) false).map (Tree.map fun y => y.1.predicate) ∧
      groupClause u = (w'.part (fun y => y.1.ofGroups) true).map (Tree.map fun y => y.1.predicate) ∧
      (((w'.part (fun y => y.1.ofGroups) false).bind (Tree.value? Prod.snd)).getD .yes).and
        (((w'.part (fun y => y.1.ofGroups) true).bind (Tree.value? Prod.snd)).getD .yes) =
          w.value Prod.snd

variable {s} {settings}

/-! ## The sides of an OR -/

/-- A group is an OR with conditions of both kinds if it has a condition of either kind. -/
theorem isMixedOr_or_iff {children : List (Tree Condition)} :
    s.isMixedOr ⟨.or, children⟩ = true ↔
      (∃ c ∈ Tree.leavesAll children, (s.outputOf? c).isSome = true) ∧
        ∃ c ∈ Tree.leavesAll children, (s.outputOf? c).isSome = false := by
  simp only [isMixedOr, FilterGroup.leaves, decide_true, Bool.true_and, Bool.and_eq_true,
    List.any_eq_true, Option.isNone_iff_eq_none, Option.isSome_eq_false_iff]

/-- The conditions of an OR are routed to one clause. -/
theorem exists_side_of_or {above : List Filter} {children : List (Tree Condition)}
    {us : List (Tree (Routed Hole))}
    (h : Tree.MatchesAll (fun x r => s.RoutesTo settings x.1 x.2 r)
      (Tree.inContextAll (⟨.or, children⟩ :: above) children) us) :
    ∃ b, ∀ r ∈ Tree.leavesAll us, r.ofGroups = b := by
  by_cases hmixed : s.inMixedOr (⟨.or, children⟩ :: above) = true
  · refine ⟨true, fun r hr => ?_⟩
    obtain ⟨x, hx, hroutes⟩ := h.exists_left r hr
    obtain ⟨_, inner, heq, _⟩ := Tree.mem_leaves_inContextAll hx
    have habove : s.inMixedOr x.1 = true := by
      rw [heq, inMixedOr, List.any_append, Bool.or_eq_true]
      exact .inr hmixed
    rw [hroutes.ofGroups, habove, Bool.or_true]
  · have hgroup : ¬s.isMixedOr ⟨.or, children⟩ = true := fun hor =>
      hmixed (by simp [inMixedOr, hor])
    rw [isMixedOr_or_iff, Classical.not_and_iff_not_or_not] at hgroup
    rcases hgroup with hnone | hall
    · -- no condition of the OR is on an output, so no OR within it has conditions of both kinds
      refine ⟨false, fun r hr => ?_⟩
      obtain ⟨x, hx, hroutes⟩ := h.exists_left r hr
      obtain ⟨hleaf, inner, heq, hinner⟩ := Tree.mem_leaves_inContextAll hx
      have hout : ∀ c ∈ Tree.leavesAll children, (s.outputOf? c).isSome = false := fun c hc =>
        Bool.eq_false_iff.2 fun hsome => hnone ⟨c, hc, hsome⟩
      have habove : s.inMixedOr x.1 = false := by
        rw [Bool.eq_false_iff]
        intro hin
        rw [heq, inMixedOr, List.any_append, Bool.or_eq_true] at hin
        rcases hin with hin | hin
        · obtain ⟨g, hg, hor⟩ := List.any_eq_true.1 hin
          rw [isMixedOr, Bool.and_eq_true, Bool.and_eq_true] at hor
          obtain ⟨c, hc, hsome⟩ := List.any_eq_true.1 hor.1.2
          rw [hout c (hinner g hg c hc)] at hsome
          cases hsome
        · exact hmixed hin
      rw [hroutes.ofGroups, hout x.2 hleaf, habove, Bool.or_false]
    · refine ⟨true, fun r hr => ?_⟩
      obtain ⟨x, hx, hroutes⟩ := h.exists_left r hr
      obtain ⟨hleaf, _⟩ := Tree.mem_leaves_inContextAll hx
      have hsome : (s.outputOf? x.2).isSome = true := by
        cases houtput : (s.outputOf? x.2).isSome with
        | true => rfl
        | false => exact absurd ⟨x.2, hleaf, houtput⟩ hall
      rw [hroutes.ofGroups, hsome, Bool.true_or]

mutual

/-- A tree whose conditions have their clauses has no OR between the clauses. -/
theorem separable_of_routesTo : ∀ {t : Tree Condition} {above : List Filter}
    {u : Tree (Routed Hole)},
    (t.inContext above).Matches (fun x r => s.RoutesTo settings x.1 x.2 r) u →
      u.Separable Routed.ofGroups
  | .leaf c, above, u, h => by
    rw [Tree.inContext_leaf] at h
    obtain ⟨r, rfl, _⟩ := Tree.matches_leaf.1 h
    trivial
  | .group .and children, above, u, h => by
    rw [Tree.inContext_group] at h
    obtain ⟨us, rfl, hall⟩ := Tree.matches_group.1 h
    rw [Tree.Separable]
    exact separableAll_of_routesTo hall
  | .group .or children, above, u, h => by
    rw [Tree.inContext_group] at h
    obtain ⟨us, rfl, hall⟩ := Tree.matches_group.1 h
    rw [Tree.Separable]
    exact exists_side_of_or hall

theorem separableAll_of_routesTo : ∀ {ts : List (Tree Condition)} {above : List Filter}
    {us : List (Tree (Routed Hole))},
    Tree.MatchesAll (fun x r => s.RoutesTo settings x.1 x.2 r) (Tree.inContextAll above ts) us →
      Tree.SeparableAll Routed.ofGroups us
  | [], above, us, h => by
    rw [Tree.inContextAll_nil] at h
    obtain rfl := Tree.matchesAll_nil.1 h
    trivial
  | t :: ts, above, us, h => by
    rw [Tree.inContextAll_cons] at h
    obtain ⟨u, us', rfl, hu, hus⟩ := Tree.matchesAll_cons.1 h
    exact ⟨separable_of_routesTo hu, separableAll_of_routesTo hus⟩

end

/-! ## The clauses -/

/-- If every condition has its clause, the clauses say what the filter says. -/
theorem routedExactly_of_routesTo {t : Tree Condition} {u : Tree (Routed Hole)}
    (h : (t.inContext []).Matches (fun x r => s.RoutesTo settings x.1 x.2 r) u) :
    s.RoutedExactly settings t u := by
  refine ⟨h, clausePredicates_rowClause u, clausePredicates_groupClause u, ?_⟩
  rintro w rfl
  obtain ⟨w', rfl, hcarry⟩ := h.of_inContext.exists_carry
  have hmatch : w.Matches (fun x y => x.2 = y.2) w' := hcarry.imp fun _ _ hxy => hxy.2
  have hseparable := Tree.separable_of_map Prod.fst w' (separable_of_routesTo h)
  have hmerge := Tree.value?_part_merge_part Prod.snd w' hseparable
  refine ⟨w', rfl, hmatch, rowClause_map Prod.fst w', groupClause_map Prod.fst w', ?_⟩
  rw [← Logic.getD_merge_and, hmerge, ← hmatch.value?_eq]
  rfl

/-! ## Blank names -/

/-- A condition on a blank column is on nothing, and stands where the groups around it send it. -/
theorem outcome_routeCondition_of_blank {c : Condition}
    (hc : (Text.trim c.column).isEmpty = true) (place : Place) (promoted : Bool) :
    (s.routeCondition settings place promoted c).outcome = .ok ⟨promoted, .always⟩ := by
  have htarget : s.target settings place c.column = .unresolved := by
    unfold target
    rw [if_pos hc]
  unfold routeCondition
  rw [htarget]
  rfl

/-- A condition on a blank column. -/
def onBlank : Condition := ⟨"", .text, .isNull, .absent⟩

/-- A condition on some column. -/
def onColumn : Condition := ⟨"x", .text, .isNull, .absent⟩

/-- A choice between a condition on a blank column and another. -/
def blankOr : Filter := ⟨.or, [.leaf onBlank, .leaf onColumn]⟩

theorem isBuilt_of_mem_blankOr : ∀ c ∈ blankOr.leaves, c.IsBuilt := by
  intro c hc
  have hcases : c = onBlank ∨ c = onColumn := by
    simpa [blankOr, FilterGroup.leaves] using hc
  rcases hcases with rfl | rfl
  · exact ⟨"", .text, .isNull, none, rfl⟩
  · exact ⟨"x", .text, .isNull, none, rfl⟩

theorem isEmpty_trim_onBlank : (Text.trim onBlank.column).isEmpty = true := rfl

/-- The condition on a blank column should hold of groups if the other is on an output. -/
theorem isMixedOr_blankOr : s.isMixedOr blankOr = s.aggregates.names "x" := by
  have hblank : s.outputOf? onBlank = none := rfl
  have hcolumn : s.outputOf? onColumn = s.aggregates.get? "x" := rfl
  have hleaves : blankOr.leaves = [onBlank, onColumn] := rfl
  have hlogic : blankOr.logic = .or := rfl
  unfold isMixedOr AggregateIndex.names
  rw [hleaves, hlogic]
  simp [hblank, hcolumn]

/-- The condition on a blank column holds of groups if the other is on no output. -/
theorem promotes_blankOr (hblank : s.aggregates.names "" = true) :
    s.promotes .query false blankOr.logic blankOr.children = !s.aggregates.names "x" := by
  have honBlank : s.isOnOutput onBlank = true := hblank
  have honColumn : s.isOnOutput onColumn = s.aggregates.names "x" := rfl
  simp [promotes, blankOr, mixes, honBlank, honColumn]

/-- The first of the routed conditions is the one on a blank column. -/
theorem exists_of_outcome_blankOr (hblank : s.aggregates.names "" = true)
    {u : Tree (Routed Hole)} (hu : (s.routeFilter settings .query blankOr).outcome = .ok u) :
    ∃ us, u = .group .or (.leaf ⟨!s.aggregates.names "x", .always⟩ :: us) := by
  rw [routeFilter, FilterGroup.toTree, routeTree] at hu
  simp only [promotes_blankOr hblank] at hu
  obtain ⟨us, hus, hu⟩ := Traced.exists_of_outcome_bind hu
  rw [blankOr, routeTrees] at hus
  obtain ⟨first, hfirst, hus⟩ := Traced.exists_of_outcome_bind hus
  obtain ⟨rest, _, hus⟩ := Traced.exists_of_outcome_bind hus
  rw [routeTree] at hfirst
  obtain ⟨r, hr, hfirst⟩ := Traced.exists_of_outcome_bind hfirst
  rw [outcome_routeCondition_of_blank isEmpty_trim_onBlank] at hr
  cases hr
  cases hfirst
  cases hus
  cases hu
  exact ⟨rest, rfl⟩

/-- If blank text names an output, a choice between a condition on a blank column and another is not
routed exactly. -/
theorem not_routedExactly_blankOr (hblank : s.aggregates.names "" = true)
    {u : Tree (Routed Hole)} (hu : (s.routeFilter settings .query blankOr).outcome = .ok u) :
    ¬s.RoutedExactly settings blankOr.toTree u := by
  intro hexact
  obtain ⟨us, rfl⟩ := exists_of_outcome_blankOr hblank hu
  have hplaced := hexact.placed
  rw [FilterGroup.toTree, Tree.inContext_group] at hplaced
  obtain ⟨us', heq, hall⟩ := Tree.matches_group.1 hplaced
  cases heq
  rw [blankOr, Tree.inContextAll_cons, Tree.inContext_leaf] at hall
  obtain ⟨u, rest, heq, hfirst, _⟩ := Tree.matchesAll_cons.1 hall
  cases heq
  obtain ⟨r, heq, hroutes⟩ := Tree.matches_leaf.1 hfirst
  cases heq
  have houtput : (s.outputOf? onBlank).isSome = false := rfl
  have habove : s.inMixedOr [blankOr] = s.aggregates.names "x" := by
    rw [inMixedOr, List.any_cons, List.any_nil, Bool.or_false, isMixedOr_blankOr]
  have hside : (!s.aggregates.names "x") = s.aggregates.names "x" := by
    calc
      (!s.aggregates.names "x") = ((s.outputOf? onBlank).isSome || s.inMixedOr [blankOr]) :=
        hroutes.ofGroups
      _ = s.aggregates.names "x" := by rw [houtput, habove, Bool.false_or]
  cases hnames : s.aggregates.names "x" <;> rw [hnames] at hside <;> cases hside

variable (s) (settings)

/-- **Every filter of conditions that were built is routed exactly if and only if blank text names
no output** of an aggregation. -/
theorem forall_routedExactly_iff :
    (∀ g : Filter, (∀ c ∈ g.leaves, c.IsBuilt) →
      ∃ u, (s.routeFilter settings .query g).outcome = .ok u ∧
        s.RoutedExactly settings g.toTree u) ↔ s.aggregates.names "" = false := by
  constructor
  · intro h
    obtain ⟨u, hu, hexact⟩ := h blankOr isBuilt_of_mem_blankOr
    cases hblank : s.aggregates.names "" with
    | false => rfl
    | true => exact absurd hexact (not_routedExactly_blankOr hblank hu)
  · intro hblank g hbuilt
    have hleaves : ∀ c ∈ g.toTree.leaves, c.IsBuilt := by simpa using hbuilt
    obtain ⟨u, hu, hplaced⟩ := exists_routeTree settings hblank g.toTree [] hleaves
    exact ⟨u, hu, routedExactly_of_routesTo hplaced⟩

end Scope

/-! ## A split choice -/

/-- Settings under which an output whose name holds no usable character has an empty name. -/
def unnamedSettings : Settings := .ofCatalogs { fallbackName := "" } .empty .empty

/-- The sum of salaries under a name without a usable character. -/
def unnamedTotal : Scope where
  request := { dataset := "EMP" }
  sources := .ofBase "EMP"
  aggregates :=
    ({} : AggregateIndex).add unnamedSettings.options ⟨"SALARY", .sum, some "!"⟩
      (.qualified "EMP" "SALARY")

/-- A condition on nothing. -/
def onNothing : Condition := ⟨"", .text, .equal, .scalar (.text "x")⟩

/-- A condition on the sum. -/
def onTotal : Condition := ⟨"!", .number, .greater, .scalar (.int 5)⟩

/-- A choice between a condition on nothing and one on the sum. -/
def blankOrTotal : Filter := ⟨.or, [.leaf onNothing, .leaf onTotal]⟩

/-- The predicate of the condition on the sum. -/
def totalPredicate : Predicate Hole :=
  .compare (.aggregate .sum (.qualified "EMP" "SALARY")) .greater ⟨"p", .int 5⟩

/-- The choice is split between the clauses, so that both have to hold. -/
theorem not_routedExactly_unnamedTotal :
    (∀ c ∈ blankOrTotal.leaves, c.IsBuilt) ∧
      ∃ u, (unnamedTotal.routeFilter unnamedSettings .query blankOrTotal).outcome = .ok u ∧
        rowClause u = some (.group .or [.leaf .always]) ∧
        groupClause u = some (.group .or [.leaf totalPredicate]) ∧
        ¬unnamedTotal.RoutedExactly unnamedSettings blankOrTotal.toTree u := by
  refine ⟨?_, .group .or [.leaf ⟨false, .always⟩, .leaf ⟨true, totalPredicate⟩], rfl, rfl, rfl, ?_⟩
  · intro c hc
    have hcases : c = onNothing ∨ c = onTotal := by
      simpa [blankOrTotal, FilterGroup.leaves] using hc
    rcases hcases with rfl | rfl
    · exact ⟨"", .text, .equal, some (.text "x"), rfl⟩
    · exact ⟨"!", .number, .greater, some (.number (.int 5)), rfl⟩
  · -- a true and a false member make the choice true, but the false one stands in a clause alone
    intro hexact
    obtain ⟨w', hw', hmatch, _, _, hvalue⟩ :=
      hexact.value (.group .or [.leaf (onNothing, .yes), .leaf (onTotal, .no)]) rfl
    obtain ⟨_, rfl, hall⟩ := Tree.matches_group.1 hmatch
    obtain ⟨_, _, rfl, hfirst, hall⟩ := Tree.matchesAll_cons.1 hall
    obtain ⟨_, _, rfl, hsecond, hall⟩ := Tree.matchesAll_cons.1 hall
    obtain rfl := Tree.matchesAll_nil.1 hall
    obtain ⟨⟨first, _⟩, rfl, rfl⟩ := Tree.matches_leaf.1 hfirst
    obtain ⟨⟨second, _⟩, rfl, rfl⟩ := Tree.matches_leaf.1 hsecond
    simp only [Tree.map_group, Tree.mapAll_cons, Tree.mapAll_nil, Tree.map_leaf] at hw'
    cases hw'
    exact absurd hvalue (by decide)

end ReportSql
