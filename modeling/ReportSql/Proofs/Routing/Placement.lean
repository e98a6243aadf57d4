import ReportSql.Plan.Routing
import ReportSql.Proofs.Routing.Built
import ReportSql.Proofs.Tree.Match

/-!
# Where conditions stand

A condition on the output of an aggregation holds of groups, any other of rows, except within an OR
that has conditions of both kinds, all of which hold of groups.

## Main definitions

* `Scope.outputOf?`, `Scope.columnOf?` — what the column of a condition refers to.
* `Scope.inMixedOr` — whether a condition stands in an OR with conditions of both kinds.
* `Scope.RoutesTo` — the clause and the predicate that a condition is to have.

## Main statements

* `Scope.exists_routeTree` — routing a filter gives every condition its clause and its predicate, if
  blank text names no output.
-/

namespace ReportSql

open Text

namespace Scope

variable (s : Scope)

/-- The output that a condition is on.  A blank column names none. -/
def outputOf? (c : Condition) : Option AggregateOutput :=
  if (trim c.column).isEmpty then none else s.aggregates.get? c.column

/-- The column that a condition is on, if it is on no output.  A blank column names none. -/
def columnOf? (settings : Settings) (c : Condition) : Option ColumnRef :=
  if (trim c.column).isEmpty then none else s.sources.columnRef? settings c.column

/-- An OR with conditions on outputs and others, at any depth. -/
def isMixedOr (g : Filter) : Bool :=
  g.logic = .or && (g.leaves.any fun c => (s.outputOf? c).isSome) &&
    g.leaves.any fun c => (s.outputOf? c).isNone

/-- Whether one of the groups that a condition stands in is an OR with conditions of both kinds. -/
def inMixedOr (above : List Filter) : Bool := above.any s.isMixedOr

/-- The clause and the predicate that a condition is to have in the groups that it stands in.  In an
OR with conditions of both kinds a column stands for its greatest value. -/
structure RoutesTo (settings : Settings) (above : List Filter) (c : Condition)
    (r : Routed Hole) : Prop where
  ofGroups : r.ofGroups = ((s.outputOf? c).isSome || s.inMixedOr above)
  output : ∀ o, s.outputOf? c = some o →
    (conditionPredicate settings.options o.expression (s.request.valueKind c) c).outcome =
      .ok r.predicate
  column : ∀ ref, s.outputOf? c = none → s.columnOf? settings c = some ref →
    (conditionPredicate settings.options
      (if s.inMixedOr above then .aggregate .max ref else .column ref)
      (s.request.valueKind c) c).outcome = .ok r.predicate
  unresolved : s.outputOf? c = none → s.columnOf? settings c = none → r.predicate = .always

variable {s} {settings : Settings}

/-! ## Conditions -/

/-- In the outer query a condition is on an output, else on a column, else on nothing. -/
theorem target_query (c : Condition) :
    s.target settings .query c.column =
      match s.outputOf? c, s.columnOf? settings c with
      | some o, _ => .output o
      | none, some ref => .column ref
      | none, none => .unresolved := by
  unfold target outputOf? columnOf?
  split
  · rfl
  · cases s.aggregates.get? c.column with
    | some o => rfl
    | none => cases s.sources.columnRef? settings c.column <;> rfl

/-- A condition that was built is routed to its clause. -/
theorem exists_routeCondition {c : Condition} (hc : c.IsBuilt) (above : List Filter) :
    ∃ r, (s.routeCondition settings .query (s.inMixedOr above) c).outcome = .ok r ∧
      s.RoutesTo settings above c r := by
  unfold routeCondition
  rw [target_query]
  cases houtput : s.outputOf? c with
  | some o =>
    obtain ⟨p, hp⟩ := hc.exists_predicate settings.options o.expression (s.request.valueKind c)
    refine ⟨⟨true, p⟩, ?_, ⟨by simp [houtput], ?_, by simp [houtput], by simp [houtput]⟩⟩
    · simp only [Traced.outcome_bind_of_ok hp, Traced.outcome_pure]
    · intro o' ho'
      rw [houtput, Option.some_inj] at ho'
      subst ho'
      exact hp
  | none =>
    cases hcolumn : s.columnOf? settings c with
    | some ref =>
      obtain ⟨p, hp⟩ := hc.exists_predicate settings.options
        (if s.inMixedOr above then .aggregate .max ref else .column ref) (s.request.valueKind c)
      refine ⟨⟨s.inMixedOr above, p⟩, ?_,
        ⟨by simp [houtput], by simp [houtput], ?_, by simp [hcolumn]⟩⟩
      · simp only [Traced.outcome_bind_of_ok hp, Traced.outcome_pure]
      · intro ref' _ href'
        rw [hcolumn, Option.some_inj] at href'
        subst href'
        exact hp
    | none =>
      exact ⟨⟨s.inMixedOr above, .always⟩, rfl,
        ⟨by simp [houtput], by simp [houtput], by simp [hcolumn], fun _ _ => rfl⟩⟩

/-! ## Trees -/

/-- A blank column names what blank text names. -/
theorem names_of_isEmpty_trim {column : String} (h : (trim column).isEmpty = true) :
    s.aggregates.names column = s.aggregates.names "" := by
  have htrim : trim column = trim "" := String.isEmpty_iff.1 h
  unfold AggregateIndex.names AggregateIndex.get?
  rw [htrim]

/-- If blank text names no output, a condition is on an output when its column names one. -/
theorem isOnOutput_eq (hblank : s.aggregates.names "" = false) (c : Condition) :
    s.isOnOutput c = (s.outputOf? c).isSome := by
  unfold isOnOutput outputOf?
  split
  · next h => rw [names_of_isEmpty_trim h, hblank]; rfl
  · rfl

/-- If blank text names no output, the members of a group are promoted when an OR with conditions of
both kinds is among the groups that they stand in. -/
theorem promotes_eq (hblank : s.aggregates.names "" = false) (above : List Filter) (logic : Logic)
    (children : List (Tree Condition)) :
    s.promotes .query (s.inMixedOr above) logic children =
      s.inMixedOr (⟨logic, children⟩ :: above) := by
  have houtput : s.isOnOutput = fun c => (s.outputOf? c).isSome := funext (isOnOutput_eq hblank)
  have hmixed : s.isMixedOr ⟨logic, children⟩ =
      (decide (logic = .or) && s.mixes (Tree.leavesAll children)) := by
    simp only [isMixedOr, mixes, houtput, FilterGroup.leaves, Bool.and_assoc, Option.not_isSome]
  simp only [promotes, decide_true, Bool.true_and]
  rw [← hmixed, Bool.or_comm]
  rfl

variable (settings)

mutual

/-- **Routing gives every condition of a tree its clause and its predicate**, if blank text names no
output. -/
theorem exists_routeTree (hblank : s.aggregates.names "" = false) :
    ∀ (t : Tree Condition) (above : List Filter), (∀ c ∈ t.leaves, c.IsBuilt) →
      ∃ u, (s.routeTree settings .query (s.inMixedOr above) t).outcome = .ok u ∧
        (t.inContext above).Matches (fun x r => s.RoutesTo settings x.1 x.2 r) u
  | .leaf c, above, hbuilt => by
    obtain ⟨r, hr, hroutes⟩ := exists_routeCondition (hbuilt c (by simp)) above
    refine ⟨.leaf r, ?_, ?_⟩
    · rw [routeTree, Traced.outcome_bind_of_ok hr, Traced.outcome_pure]
    · rw [Tree.inContext_leaf]
      exact Tree.matches_leaf.2 ⟨r, rfl, hroutes⟩
  | .group logic children, above, hbuilt => by
    obtain ⟨us, hus, hmatches⟩ :=
      exists_routeTrees hblank children (⟨logic, children⟩ :: above) (by simpa using hbuilt)
    refine ⟨.group logic us, ?_, ?_⟩
    · rw [routeTree]
      simp only [promotes_eq hblank]
      rw [Traced.outcome_bind_of_ok hus, Traced.outcome_pure]
    · rw [Tree.inContext_group]
      exact Tree.matches_group.2 ⟨us, rfl, hmatches⟩

theorem exists_routeTrees (hblank : s.aggregates.names "" = false) :
    ∀ (ts : List (Tree Condition)) (above : List Filter),
      (∀ c ∈ Tree.leavesAll ts, c.IsBuilt) →
      ∃ us, (s.routeTrees settings .query (s.inMixedOr above) ts).outcome = .ok us ∧
        Tree.MatchesAll (fun x r => s.RoutesTo settings x.1 x.2 r) (Tree.inContextAll above ts) us
  | [], above, _ => by
    refine ⟨[], by rw [routeTrees, Traced.outcome_pure], ?_⟩
    rw [Tree.inContextAll_nil]
    exact Tree.matchesAll_nil.2 rfl
  | t :: ts, above, hbuilt => by
    obtain ⟨u, hu, hmatch⟩ := exists_routeTree hblank t above fun c hc =>
      hbuilt c (by simp [hc])
    obtain ⟨us, hus, hmatches⟩ := exists_routeTrees hblank ts above fun c hc =>
      hbuilt c (by simp [hc])
    refine ⟨u :: us, ?_, ?_⟩
    · rw [routeTrees, Traced.outcome_bind_of_ok hu, Traced.outcome_bind_of_ok hus,
        Traced.outcome_pure]
    · rw [Tree.inContextAll_cons]
      exact Tree.matchesAll_cons.2 ⟨u, us, rfl, hmatch, hmatches⟩

end

end Scope

end ReportSql
