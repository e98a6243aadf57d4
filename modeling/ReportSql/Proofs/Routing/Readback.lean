import ReportSql.Proofs.Query.Compiled
import ReportSql.Proofs.Token.Reading

/-!
# Clauses read back

The text of a clause, read by precedence, is the filter that it was made from: the conditions that
were routed to the clause, in order, joined as they are in the filter.  Groups without such a
condition are not in the text, and neither is the AND or OR of a group with one member.

## Main definitions

* `clauseTree` — the tree that the text of a clause should be read as.
* `Scope.ReadsBack` — a filter whose clauses are read back.

## Main statements

* `Scope.exists_readsBack` — the clauses of every filter are read back.
-/

namespace ReportSql

variable {s : Scope} {settings : Settings} {place : Place}
  {bound : List (Placeholder × BindValue)}

/-- The tree that the text of a clause should be read as: the part of a filter with the conditions
that are routed to the clause, each of them the tokens of its predicate. -/
def clauseTree (ofGroups : Bool) (w : Tree (Condition × Routed Placeholder)) :
    Option (Tree (List Token)) :=
  (w.part (fun x => x.2.ofGroups) ofGroups).map fun part =>
    (part.map fun x => tokensOf x.2.predicate.render).condense

/-- A filter, and the predicates that its conditions are routed to with their values bound.  Each
clause is read as the part of the filter whose conditions are routed to it. -/
structure Scope.ReadsBack (s : Scope) (settings : Settings) (place : Place)
    (bound : List (Placeholder × BindValue)) (t : Tree Condition) (v : Tree (Routed Placeholder))
    (w : Tree (Condition × Routed Placeholder)) : Prop where
  conditions : w.map Prod.fst = t
  predicates : w.map Prod.snd = v
  routed : ∀ x ∈ w.leaves, ∃ promoted r,
    (s.routeCondition settings place promoted x.1).outcome = .ok r ∧ r.Matches (Binds bound) x.2
  rows : (rowClause v).map (fun clause => readCondition (renderTree clause)) =
    (clauseTree false w).map some
  groups : (groupClause v).map (fun clause => readCondition (renderTree clause)) =
    (clauseTree true w).map some

/-- The text of one part of a tree of legible predicates is read as this part. -/
theorem map_readCondition_part (ho : settings.options.Unitary)
    {w : Tree (Condition × Routed Placeholder)}
    (h : ∀ x ∈ w.leaves, x.2.predicate.Legible settings.options) (b : Bool) :
    ((w.part (fun x => x.2.ofGroups) b).map (Tree.map fun x => x.2.predicate)).map
      (fun clause => readCondition (renderTree clause)) = (clauseTree b w).map some := by
  rw [clauseTree, Option.map_map, Option.map_map]
  cases hpart : w.part (fun x => x.2.ofGroups) b with
  | none => rfl
  | some part =>
    have hclause := Tree.map_prune (Tree.onSide (fun x => x.2.ofGroups) b)
      (fun x => x.2.predicate) w
    rw [Tree.part] at hpart
    rw [hpart, Option.map_some] at hclause
    have hfull := Tree.isFull_of_mem_prune _ w _ hclause.symm
    have hlegible : ∀ p ∈ (part.map fun x => x.2.predicate).leaves, p.Legible settings.options := by
      intro p hp
      rw [Tree.leaves_map, List.mem_map] at hp
      obtain ⟨x, hx, rfl⟩ := hp
      exact h x (Tree.mem_leaves_of_part hpart x hx)
    have hread := readCondition_renderTree ho hlegible hfull
    rw [Tree.map_map] at hread
    exact congrArg some hread

/-- A condition is routed to a predicate of the dialect. -/
theorem Scope.legible_of_routeCondition {promoted : Bool} {c : Condition} {r : Routed Hole}
    {q : Routed Placeholder} (h : (s.routeCondition settings place promoted c).outcome = .ok r)
    (hmatch : r.Matches (Binds bound) q) : q.predicate.Legible settings.options := by
  have hdrawn : r.predicate.DrawnFrom settings.options fun _ => True :=
    drawnFrom_of_routeCondition (fun _ _ _ => trivial) (fun _ _ => trivial) h
  exact (hdrawn.writtenOver hmatch.predicate).legible

/-- **The clauses of every filter are read back.**  The values of the filter are bound beside any
values that are bound already. -/
theorem Scope.exists_readsBack (ho : settings.options.Unitary) {promoted : Bool} {logic : Logic}
    {t : Tree Condition} {ts : List (Tree Condition)} {u : Tree (Routed Hole)}
    (hu : (s.routeTree settings place promoted (.group logic (t :: ts))).outcome = .ok u)
    (b : Bindings) :
    ∃ w, s.ReadsBack settings place ((u.traverse Routed.fill).run b).2.bound
      (.group logic (t :: ts)) ((u.traverse Routed.fill).run b).1 w := by
  obtain ⟨new, hbindings, -, hpost⟩ := Tree.numbers_traverse Routed.numbers_fill u b
  have hbound : new ⊆ ((u.traverse Routed.fill).run b).2.bound := by
    change new ⊆ (u.traverse Routed.fill b).2.bound
    rw [hbindings]
    exact List.subset_append_right _ _
  obtain ⟨hfilled, -⟩ := hpost _ hbound
  obtain ⟨w, hconditions, hpredicates, hrouted⟩ :=
    ((matches_of_outcome_routeTree hu).trans hfilled).exists_zip
  have hlegible : ∀ x ∈ w.leaves, x.2.predicate.Legible settings.options := by
    intro x hx
    obtain ⟨r, ⟨_, hr⟩, hmatch⟩ := hrouted x hx
    exact legible_of_routeCondition hr hmatch
  refine ⟨w, hconditions, hpredicates, ?routed, ?rows, ?groups⟩
  case routed =>
    intro x hx
    obtain ⟨r, ⟨promoted, hr⟩, hmatch⟩ := hrouted x hx
    exact ⟨promoted, r, hr, hmatch⟩
  case rows =>
    have hrows := map_readCondition_part ho hlegible false
    rwa [← rowClause_map Prod.snd, hpredicates] at hrows
  case groups =>
    have hgroups := map_readCondition_part ho hlegible true
    rwa [← groupClause_map Prod.snd, hpredicates] at hgroups

/-! ## A crowded filter -/

theorem unitary_default : ({} : Options).Unitary :=
  ⟨⟨⟨by decide +kernel, by decide +kernel, by decide +kernel⟩, by decide +kernel,
    by decide +kernel⟩, .word (by decide)⟩

/-- Settings without a catalog. -/
def bareSettings : Settings := .ofCatalog .empty

/-- The sum of salaries. -/
def salaryTotal : Scope where
  request := { dataset := "EMP" }
  sources := .ofBase "EMP"
  aggregates :=
    ({} : AggregateIndex).add bareSettings.options ⟨"SALARY", .sum, some "TOTAL"⟩
      (.qualified "EMP" "SALARY")

/-- A range of a column with a keyword and a parenthesis in its name, beside checks for empty text,
a choice between the sum and a column, and a group without conditions. -/
def crowdedFilter : Tree Condition :=
  .group .and [
    .group .or [
      .leaf ⟨"AGE) OR (1", .number, .between, .range (some (.int 1)) (some (.int 5))⟩,
      .leaf ⟨"NOTE", .text, .isEmpty, .absent⟩],
    .group .or [.group .and []],
    .group .or [
      .leaf ⟨"TOTAL", .number, .greater, .scalar (.int 9)⟩,
      .leaf ⟨"NOTE", .text, .isNotEmpty, .absent⟩]]

/-- The predicates of the crowded filter with their clauses. -/
def crowdedRouted : Tree (Routed Hole) :=
  .group .and [
    .group .or [
      .leaf ⟨false, .between (.column (.qualified "EMP" "AGE) OR (1")) ⟨"p", .int 1⟩ ⟨"p", .int 5⟩⟩,
      .leaf ⟨false, .isBlank (.column (.qualified "EMP" "NOTE"))⟩],
    .group .or [.group .and []],
    .group .or [
      .leaf ⟨true, .compare (.aggregate .sum (.qualified "EMP" "SALARY")) .greater ⟨"p", .int 9⟩⟩,
      .leaf ⟨true, .isNotBlank (.aggregate .max (.qualified "EMP" "NOTE"))⟩]]

theorem outcome_routeTree_crowdedFilter :
    (salaryTotal.routeTree bareSettings .query false crowdedFilter).outcome = .ok crowdedRouted :=
  rfl

/-- The clauses of the crowded filter are read back. -/
theorem exists_readsBack_crowdedFilter :
    (rowClause ((crowdedRouted.traverse Routed.fill).run {}).1).map renderTree =
        some ("((\"EMP\".\"AGE) OR (1\" BETWEEN :p_1 AND :p_2) OR " ++
          "((\"EMP\".\"NOTE\" IS NULL OR \"EMP\".\"NOTE\" = '')))") ∧
      ∃ w, salaryTotal.ReadsBack bareSettings .query
        ((crowdedRouted.traverse Routed.fill).run {}).2.bound crowdedFilter
        ((crowdedRouted.traverse Routed.fill).run {}).1 w :=
  ⟨by decide +kernel, Scope.exists_readsBack unitary_default outcome_routeTree_crowdedFilter {}⟩

end ReportSql
