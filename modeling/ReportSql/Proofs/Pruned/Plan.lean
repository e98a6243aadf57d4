import ReportSql.Compile
import ReportSql.Proofs.Routing.Flags
import ReportSql.Proofs.Tree.Prune

/-!
# Plans without leafless groups

A request whose filter has groups without conditions is planned like the request without these
groups: the same conditions are moved into the same sources, the joins stand in the same order, and
conditions are routed to the same clauses.

## Main definitions

* `Request.pruned`, `Scope.pruned` — a request and its scope without leafless groups.
* `Pushdown.pruned` — the filters moved into sources, and the one that is left, without leafless
  groups.

## Main statements

* `Scope.ofScope_pruned`, `Pushdown.weights_pruned` — the same conditions are moved.
* `Scope.mapM_routeFilter_pruned` — routing does not see leafless groups.
-/

namespace ReportSql

variable {α β : Type}

/-! ## Steps -/

namespace Traced

variable {γ : Type}

protected theorem bind_assoc (x : Traced α) (f : α → Traced β) (g : β → Traced γ) :
    x >>= f >>= g = x >>= fun a => f a >>= g := by
  cases hx : x.outcome with
  | error e =>
    rw [bind_of_error hx, bind_of_error hx]
    rfl
  | ok a =>
    rw [bind_of_ok hx, bind_of_ok hx]
    cases hf : (f a).outcome with
    | error e => rw [bind_of_error rfl, bind_of_error hf]
    | ok b => rw [bind_of_ok rfl, bind_of_ok hf, List.append_assoc]

instance : LawfulMonad Traced :=
  LawfulMonad.mk' Traced
    (fun x => by
      change x >>= (fun a => pure a) = x
      obtain ⟨events, outcome⟩ := x
      cases outcome with
      | error e => rfl
      | ok a => rw [bind_of_ok rfl, events_pure, List.append_nil, outcome_pure])
    (fun _ _ => rfl) Traced.bind_assoc

end Traced

/-! ## Requests -/

/-- The request without the leafless groups of its filter. -/
def Request.pruned (r : Request) : Request :=
  { r with filters? := r.filters?.map FilterGroup.pruned }

theorem Request.filter_pruned (r : Request) : r.pruned.filter = r.filter.pruned := by
  rw [filter, pruned, filter]
  cases r.filters? with
  | none => simp [FilterGroup.pruned]
  | some g => rfl

/-- Validity does not look at the filter. -/
theorem checked_pruned (r : Request) (needsSelection : Bool) :
    checked r.pruned needsSelection = checked r needsSelection := by
  have hdataset : r.pruned.dataset = r.dataset := rfl
  have hlimit : r.pruned.limit = r.limit := rfl
  have hjoins : r.pruned.joins = r.joins := rfl
  have hcolumns : r.pruned.columns = r.columns := rfl
  have haggregations : r.pruned.aggregations = r.aggregations := rfl
  rw [checked, checked, Request.validate, Request.validate, hdataset, hlimit, hjoins, hcolumns,
    haggregations]

/-- The scope of the request without leafless groups. -/
def Scope.pruned (s : Scope) : Scope := { s with request := s.request.pruned }

theorem Scope.ofRequest_pruned (settings : Settings) (r : Request) :
    Scope.ofRequest settings r.pruned = (Scope.ofRequest settings r).map Scope.pruned := by
  have hsources : SourcePlan.ofRequest r.pruned = SourcePlan.ofRequest r := rfl
  have haggregates : ∀ p, AggregateIndex.ofRequest settings r.pruned p =
      AggregateIndex.ofRequest settings r p := fun _ => rfl
  rw [Scope.ofRequest, Scope.ofRequest, hsources]
  cases SourcePlan.ofRequest r with
  | error e => rfl
  | ok p =>
    change (AggregateIndex.ofRequest settings r.pruned p >>= _) = Except.map _
      (AggregateIndex.ofRequest settings r p >>= _)
    rw [haggregates]
    cases AggregateIndex.ofRequest settings r p <;> rfl

/-! ## Moved filters -/

namespace Pushdown

/-- The plan of the filters without their leafless groups. -/
def pruned (plan : Pushdown) : Pushdown where
  pushed := plan.pushed.map fun g => g.bind FilterGroup.pruned?
  remaining := plan.remaining.pruned

theorem fromPosition_pruned (s : Scope) (target : Nat) (occurrences : List Occurrence)
    (g : Filter) :
    fromPosition s.pruned target occurrences g.pruned =
      (fromPosition s target occurrences g).pruned := by
  have hbelongs : s.pruned.belongsTo = s.belongsTo := rfl
  induction occurrences generalizing target g with
  | nil => rfl
  | cons o rest ih =>
    rw [fromPosition, fromPosition]
    split
    · rw [ih, pruned, pruned]
      simp
    · dsimp only
      rw [hbelongs, splitFilter_pruned_snd, ih, splitFilter_pruned_fst]
      rfl

/-- **The same filters are moved into the same sources**, less their leafless groups. -/
theorem ofScope_pruned (s : Scope) : ofScope s.pruned = (ofScope s).pruned := by
  have hfilter : s.pruned.request.filter = s.request.filter.pruned := s.request.filter_pruned
  rw [ofScope, ofScope, hfilter]
  exact fromPosition_pruned s 0 _ _

variable (plan : Pushdown)

theorem at?_pruned (position : Nat) :
    plan.pruned.at? position = (plan.at? position).bind FilterGroup.pruned? := by
  rw [at?, at?, pruned, List.getElem?_map]
  cases plan.pushed[position]? <;> rfl

/-- As many conditions are moved into each source. -/
theorem weights_pruned : plan.pruned.weights = plan.weights := by
  have hcount : ∀ g : Option Filter,
      ((g.bind FilterGroup.pruned?).map fun g => g.leaves.length).getD 0 =
        (g.map fun g => g.leaves.length).getD 0 := by
    intro g
    cases g with
    | none => rfl
    | some g =>
      rw [Option.bind_some, Option.map_some, Option.getD_some, FilterGroup.pruned?]
      split
      · next hempty =>
        rw [← g.leaves_pruned, FilterGroup.leaves, List.isEmpty_iff.1 hempty]
        simp
      · simp
  simp only [weights, pruned, List.map_map, Function.comp_def, hcount]

end Pushdown

/-! ## Routing -/

namespace Scope

variable (s : Scope) (settings : Settings) (place : Place)

/-- Whether the members of a group are promoted does not depend on its leafless groups. -/
theorem promotes_pruned (promoted : Bool) (logic : Logic) (children : List (Tree Condition)) :
    s.pruned.promotes place promoted logic (Tree.pruneAll some children) =
      s.promotes place promoted logic children := by
  rw [promotes, promotes, Tree.leavesAll_pruneAll_some]
  rfl

mutual

theorem map_flagged_prune (promoted : Bool) : ∀ t : Tree Condition,
    (t.prune some).map (s.pruned.flagged place promoted) =
      (s.flagged place promoted t).prune some
  | .leaf c => by simp [flagged]
  | .group logic children => by
    have hchildren := flaggedAll_pruneAll (s.promotes place promoted logic children) children
    rw [flagged, Tree.prune_group, Tree.prune_group, ← hchildren]
    cases hpruned : Tree.pruneAll some children with
    | nil => simp [flaggedAll]
    | cons t ts =>
      rw [← s.promotes_pruned, hpruned]
      simp [flagged, flaggedAll]

theorem flaggedAll_pruneAll (promoted : Bool) : ∀ ts : List (Tree Condition),
    s.pruned.flaggedAll place promoted (Tree.pruneAll some ts) =
      Tree.pruneAll some (s.flaggedAll place promoted ts)
  | [] => by simp [flaggedAll]
  | t :: ts => by
    rw [flaggedAll, Tree.pruneAll_cons, Tree.pruneAll_cons, ← map_flagged_prune promoted t,
      ← flaggedAll_pruneAll promoted ts]
    cases t.prune some with
    | none => rfl
    | some u => simp [flaggedAll]

end

theorem routeCondition_pruned :
    s.pruned.routeCondition settings place = s.routeCondition settings place := by
  funext promoted c
  have htarget : s.pruned.target settings place c.column = s.target settings place c.column := rfl
  have hkind : s.pruned.request.valueKind c = s.request.valueKind c := rfl
  rw [routeCondition, routeCondition, htarget, hkind]

/-- **Routing does not see leafless groups**: a tree may be routed before they are taken out or
afterwards. -/
theorem mapM_routeTree_prune (promoted : Bool) (t : Tree Condition) :
    (t.prune some).mapM (s.pruned.routeTree settings place promoted) =
      Tree.prune some <$> s.routeTree settings place promoted t := by
  rw [routeTree_eq_traverse, ← Tree.mapM_traverse_prune, ← map_flagged_prune]
  cases t.prune some with
  | none => rfl
  | some u => simp [routeTree_eq_traverse, routeCondition_pruned]

/-- So does the routing of a filter. -/
theorem mapM_routeFilter_pruned (g : Filter) :
    g.pruned?.mapM (s.pruned.routeFilter settings place) =
      Tree.prune some <$> s.routeFilter settings place g := by
  rw [routeFilter, ← mapM_routeTree_prune, FilterGroup.prune_toTree]
  cases g.pruned? with
  | none => rfl
  | some g' => rfl

/-! ## Columns and order -/

theorem selectedColumns_pruned (columns : List String) :
    s.pruned.selectedColumns settings columns = s.selectedColumns settings columns := by
  induction columns with
  | nil => rfl
  | cons column columns ih => rw [selectedColumns, selectedColumns, ih]; rfl

theorem orderBy_pruned (keys : List SortKey) :
    s.pruned.orderBy settings keys = s.orderBy settings keys := by
  have horder : ∀ key, s.pruned.orderOf settings key = s.orderOf settings key := by
    intro key
    have haggregates : s.pruned.aggregates = s.aggregates := rfl
    have hgrouped : s.pruned.request.isGrouped = s.request.isGrouped := rfl
    have hsort : s.pruned.isGroupedSort key = s.isGroupedSort key := rfl
    have hsources : s.pruned.sources = s.sources := rfl
    rw [orderOf, orderOf, haggregates, hgrouped, hsort, hsources]
  induction keys with
  | nil => rfl
  | cons key keys ih => rw [orderBy, orderBy, horder, ih]

end Scope

end ReportSql
