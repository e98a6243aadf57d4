import ReportSql.Proofs.Failure.Compile
import ReportSql.Proofs.Join.Partition
import ReportSql.Proofs.Query.Joined
import ReportSql.Proofs.Routing.Exact
import ReportSql.Proofs.Tree.Relate

/-!
# What a draft asks for

A filter is taken apart on its way into a draft: parts of it go into the sources, and the rest to
the clauses on rows and on groups.  When every condition carries a truth along, whatever truth that
is, the clauses of the draft together have the truth of the filter.

## Main definitions

* `Pushdown.deal` — a filter whose leaves carry anything, moved into the sources.
* `Draft.Labelled` — the clauses of a draft with the truths of the conditions.
* `Request.AsksFor` — the truth that the clauses of a request's draft have together.

## Main statements

* `Pushdown.value_deal` — the parts of a filter have its value.
* `Request.asksFor_iff` — the clauses of the draft have the truth of the filter.
-/

namespace ReportSql

open ReportSql.Tree

/-! ## Truths of many -/

namespace Truth

/-- The least of some truth values. -/
def all (τs : List Truth) : Truth := τs.foldr Truth.and .yes

@[simp] theorem all_nil : all [] = .yes := rfl

@[simp] theorem all_cons (τ : Truth) (τs : List Truth) : all (τ :: τs) = τ.and (all τs) := rfl

theorem all_perm {τs υs : List Truth} (h : τs.Perm υs) : all τs = all υs := by
  induction h with
  | nil => rfl
  | cons τ _ ih => rw [all_cons, all_cons, ih]
  | swap τ υ τs => rw [all_cons, all_cons, all_cons, all_cons, ← and_assoc, ← and_assoc, and_comm υ]
  | trans _ _ ih ih' => exact ih.trans ih'

end Truth

/-! ## Moving leaves of any kind -/

namespace Pushdown

variable {α : Type}

/-- The parts of a filter that move into the sources from a position on, and what is left of it,
when a test tells the leaves that belong to a source. -/
def deal (belongs : Nat → α → Bool) : Nat → List Occurrence → FilterGroup α →
    List (Option (FilterGroup α)) × FilterGroup α
  | _, [], w => ([], w)
  | target, o :: rest, w =>
    if o.nullSupplying then
      let (parts, left) := deal belongs (target + 1) rest w
      (none :: parts, left)
    else
      let (moved, kept) := splitFilter (belongs target) w
      let (parts, left) := deal belongs (target + 1) rest kept
      ((if moved.isEmpty then none else some moved) :: parts, left)

/-- Leaves that carry conditions move with the conditions. -/
theorem matches_deal {s : Scope} {R : α → Condition → Prop} {belongs : Nat → α → Bool}
    (hbelongs : ∀ i a c, R a c → belongs i a = s.belongsTo i c) (target : Nat)
    (occurrences : List Occurrence) {w : FilterGroup α} {g : Filter} (h : w.Matches R g) :
    List.Forall₂ (Option.Rel (FilterGroup.Matches R)) (deal belongs target occurrences w).1
        (fromPosition s target occurrences g).pushed ∧
      (deal belongs target occurrences w).2.Matches R
        (fromPosition s target occurrences g).remaining := by
  induction occurrences generalizing target w g with
  | nil => exact ⟨.nil, h⟩
  | cons o rest ih =>
    unfold deal fromPosition
    split
    · obtain ⟨hparts, hleft⟩ := ih (target + 1) h
      exact ⟨.cons .none hparts, hleft⟩
    · obtain ⟨hmoved, hkept⟩ := h.splitFilter (hbelongs target)
      obtain ⟨hparts, hleft⟩ := ih (target + 1) hkept
      refine ⟨.cons ?_ hparts, hleft⟩
      rw [hmoved.isEmpty_eq]
      split
      · exact .none
      · exact .some hmoved

/-- **The parts of a filter have its value**, joined by AND. -/
theorem value_deal (belongs : Nat → α → Bool) (v : α → Truth) (target : Nat)
    (occurrences : List Occurrence) (w : FilterGroup α) :
    (Truth.all ((deal belongs target occurrences w).1.map fun part =>
      part.elim .yes (FilterGroup.value v))).and
        ((deal belongs target occurrences w).2.value v) = w.value v := by
  induction occurrences generalizing target w with
  | nil => rfl
  | cons o rest ih =>
    unfold deal
    split
    · exact ih (target + 1) w
    · have hhead : (if (splitFilter (belongs target) w).1.isEmpty then none
          else some (splitFilter (belongs target) w).1).elim .yes (FilterGroup.value v) =
            (splitFilter (belongs target) w).1.value v := by
        split
        · next hempty => exact (FilterGroup.value_of_isEmpty hempty v).symm
        · rfl
      rw [List.map_cons, Truth.all_cons, hhead, Truth.and_assoc, ih, value_splitFilter]

end Pushdown

/-! ## Labelled clauses -/

/-- The truth of the clause on rows or on groups of a filter whose predicates are labelled; a
missing clause is true. -/
def clauseTruth (ofGroups : Bool) (u : Tree (Routed Hole × Truth)) : Truth :=
  ((u.part (fun y => y.1.ofGroups) ofGroups).bind (value? Prod.snd)).getD .yes

namespace Scope

variable {s : Scope} {settings : Settings} {place : Place}
  {w : FilterGroup (Condition × Truth)} {u : Tree (Routed Hole × Truth)}

/-- A filter whose conditions are labelled, and the predicates that they are routed to with the same
labels. -/
structure Carries (s : Scope) (settings : Settings) (place : Place)
    (w : FilterGroup (Condition × Truth)) (u : Tree (Routed Hole × Truth)) : Prop where
  routed : (s.routeTree settings place false (w.toTree.map Prod.fst)).outcome =
    .ok (u.map Prod.fst)
  labels : w.toTree.Matches (fun x y => x.2 = y.2) u

/-- Labels may be carried along wherever a filter is routed. -/
theorem exists_carries {v : Tree (Routed Hole)}
    (h : (s.routeTree settings place false (w.toTree.map Prod.fst)).outcome = .ok v) :
    ∃ u, u.map Prod.fst = v ∧ s.Carries settings place w u := by
  obtain ⟨u, rfl, hcarry⟩ := (matches_of_outcome_routeTree h).exists_carry
  exact ⟨u, rfl, h, hcarry.imp fun _ _ hxy => hxy.2⟩

mutual

/-- Within a source no condition is on an output, and none is promoted. -/
theorem ofGroups_of_routeTree_source : ∀ {t : Tree Condition} {v : Tree (Routed Hole)},
    (s.routeTree settings .source false t).outcome = .ok v → ∀ r ∈ v.leaves, r.ofGroups = false
  | .leaf c, v => by
    intro h
    rw [routeTree] at h
    obtain ⟨r, hr, h⟩ := Traced.exists_of_outcome_bind h
    cases h
    have hfalse : r.ofGroups = false := by
      unfold routeCondition at hr
      dsimp only at hr
      rcases target_cases s settings .source c.column with
        ⟨o, -, hplace, -⟩ | ⟨ref, htarget, -⟩ | htarget
      · cases hplace
      · rw [htarget] at hr
        obtain ⟨p, -, hr⟩ := Traced.exists_of_outcome_bind hr
        cases hr
        rfl
      · rw [htarget] at hr
        cases hr
        rfl
    simpa using hfalse
  | .group logic children, v => by
    intro h
    have hpromotes : s.promotes .source false logic children = false := by simp [promotes]
    rw [routeTree] at h
    simp only [hpromotes] at h
    obtain ⟨vs, hvs, h⟩ := Traced.exists_of_outcome_bind h
    cases h
    rw [leaves_group]
    exact ofGroups_of_routeTrees_source hvs

theorem ofGroups_of_routeTrees_source : ∀ {ts : List (Tree Condition)}
    {vs : List (Tree (Routed Hole))},
    (s.routeTrees settings .source false ts).outcome = .ok vs →
      ∀ r ∈ leavesAll vs, r.ofGroups = false
  | [], vs => by
    intro h
    rw [routeTrees] at h
    cases h
    simp
  | t :: ts, vs => by
    intro h
    rw [routeTrees] at h
    obtain ⟨v, hv, h⟩ := Traced.exists_of_outcome_bind h
    obtain ⟨vs, hvs, h⟩ := Traced.exists_of_outcome_bind h
    cases h
    rw [leavesAll_cons]
    intro r hr
    exact (List.mem_append.1 hr).elim (ofGroups_of_routeTree_source hv r)
      (ofGroups_of_routeTrees_source hvs r)

end

/-- Within a source the clause on rows has the truth of the filter. -/
theorem Carries.clauseTruth_source (h : s.Carries settings .source w u) :
    clauseTruth false u = w.value Prod.snd := by
  have hside : ∀ y ∈ u.leaves, y.1.ofGroups = false := fun y hy =>
    ofGroups_of_routeTree_source h.routed y.1 (by rw [leaves_map]; exact List.mem_map_of_mem hy)
  rw [clauseTruth, value?_part_of_forall Prod.snd u hside, ← h.labels.value?_eq]
  rfl

/-- In the outer query the two clauses have the truth of the filter. -/
theorem Carries.clauseTruth_query (h : s.Carries settings .query w u)
    (hblank : s.aggregates.names "" = false) (hbuilt : ∀ x ∈ w.leaves, x.1.IsBuilt) :
    (clauseTruth false u).and (clauseTruth true u) = w.value Prod.snd := by
  have hleaves : ∀ c ∈ (w.toTree.map Prod.fst).leaves, c.IsBuilt := by
    intro c hc
    rw [leaves_map, FilterGroup.leaves_toTree] at hc
    obtain ⟨x, hx, rfl⟩ := List.mem_map.1 hc
    exact hbuilt x hx
  obtain ⟨v, hv, hroutes⟩ := exists_routeTree settings hblank (w.toTree.map Prod.fst) [] hleaves
  have hv' : (s.routeTree settings .query false (w.toTree.map Prod.fst)).outcome = .ok v := hv
  rw [h.routed] at hv'
  cases hv'
  have hseparable := separable_of_map Prod.fst u (separable_of_routesTo hroutes)
  rw [clauseTruth, clauseTruth, ← Logic.getD_merge_and,
    value?_part_merge_part Prod.snd u hseparable, ← h.labels.value?_eq]
  rfl

/-- A part of a filter within a source, or none. -/
theorem elim_clauseTruth_source {part : Option (FilterGroup (Condition × Truth))}
    {u : Option (Tree (Routed Hole × Truth))}
    (h : Option.Rel (s.Carries settings .source) part u) :
    u.elim .yes (clauseTruth false) = part.elim .yes (FilterGroup.value Prod.snd) := by
  cases h with
  | none => rfl
  | some h => exact h.clauseTruth_source

/-- A part of a filter in the outer query, or none. -/
theorem elim_clauseTruth_query {part : Option (FilterGroup (Condition × Truth))}
    {u : Option (Tree (Routed Hole × Truth))}
    (h : Option.Rel (s.Carries settings .query) part u) (hblank : s.aggregates.names "" = false)
    (hbuilt : ∀ f, part = some f → ∀ x ∈ f.leaves, x.1.IsBuilt) :
    (u.elim .yes (clauseTruth false)).and (u.elim .yes (clauseTruth true)) =
      part.elim .yes (FilterGroup.value Prod.snd) := by
  cases h with
  | none => rfl
  | some h => exact h.clauseTruth_query hblank (hbuilt _ rfl)

/-- The parts of a filter with labelled conditions that move into the sources of a scope, and what
is left of it. -/
def labelledParts (s : Scope) (w : FilterGroup (Condition × Truth)) :
    List (Option (FilterGroup (Condition × Truth))) × FilterGroup (Condition × Truth) :=
  Pushdown.deal (fun i x => s.belongsTo i x.1) 0 s.sources.occurrences w

/-- The labelled part that moves into the source at a position. -/
def labelledPart? (s : Scope) (w : FilterGroup (Condition × Truth)) (i : Nat) :
    Option (FilterGroup (Condition × Truth)) := (s.labelledParts w).1[i]?.join

/-- The labelled part that is left for the outer query, if it has any members. -/
def labelledRest? (s : Scope) (w : FilterGroup (Condition × Truth)) :
    Option (FilterGroup (Condition × Truth)) :=
  if (s.labelledParts w).2.isEmpty then none else some (s.labelledParts w).2

end Scope

/-- The clause in a source of predicates that are labelled. -/
def sourceClause (u : Option (Tree (Routed Hole × Truth))) : Option (Tree (Predicate Hole)) :=
  u.bind fun u => rowClause (u.map Prod.fst)

/-- The clauses of a draft, each of them with labels: those in the sources, by position, and the two
of the outer query. -/
structure Draft.Labelled (settings : Settings) (s : Scope) (w : FilterGroup (Condition × Truth))
    (d : Draft) (inSources : Nat → Option (Tree (Routed Hole × Truth)))
    (outer : Option (Tree (Routed Hole × Truth))) : Prop where
  carriedIn : ∀ i, Option.Rel (s.Carries settings .source) (s.labelledPart? w i) (inSources i)
  carriedOut : Option.Rel (s.Carries settings .query) (s.labelledRest? w) outer
  base : d.base.pushed.map Pushed.tree = sourceClause (inSources 0)
  joins : List.Forall₂ (fun j clause =>
    clause.source.pushed.map Pushed.tree = sourceClause (inSources j.right)) s.sources.joins d.joins
  filter : d.filter = outer.map (Tree.map Prod.fst)

/-- The truth of the clauses in the sources, the base dataset first, and of the clauses on rows and
on groups. -/
def Scope.askedTruth (s : Scope) (inSources : Nat → Option (Tree (Routed Hole × Truth)))
    (outer : Option (Tree (Routed Hole × Truth))) : Truth :=
  (Truth.all ((0 :: s.sources.joins.map PlannedJoin.right).map fun i =>
      (inSources i).elim .yes (clauseTruth false))).and
    ((outer.elim .yes (clauseTruth false)).and (outer.elim .yes (clauseTruth true)))

/-- The truth that the clauses of the draft of a request have together, when the conditions of its
filter have the truths that they are labelled with. -/
def Request.AsksFor (r : Request) (settings : Settings) (w : FilterGroup (Condition × Truth))
    (τ : Truth) : Prop :=
  w.toTree.map Prod.fst = r.filter.toTree ∧
    ∃ s d inSources outer, s.PlannedFor settings r ∧
      (Draft.ofRequest settings r true).outcome = .ok d ∧
      d.Labelled settings s w inSources outer ∧ τ = s.askedTruth inSources outer

/-! ## Labels and filters -/

variable {s : Scope} {settings : Settings} {r : Request} {d : Draft}
  {w : FilterGroup (Condition × Truth)} {g : Filter}

/-- A filter whose leaves are labelled matches the filter without labels. -/
theorem FilterGroup.matches_fst_iff {α γ : Type} {w : FilterGroup (α × γ)} {g : FilterGroup α} :
    w.Matches (fun x a => x.1 = a) g ↔ w.toTree.map Prod.fst = g.toTree := by
  obtain ⟨logic, children⟩ := w
  obtain ⟨logic', children'⟩ := g
  have himage : MatchesAll (fun x a => x.1 = a) children children' ↔
      mapAll Prod.fst children = children' := by
    have hself : MatchesAll (fun a b => a = b) (mapAll Prod.fst children)
        (mapAll Prod.fst children) :=
      matchesAll_invImage_iff (f := fun a => a).2 rfl
    constructor
    · exact fun h => (matchesAll_mapAll_iff (R := Eq) (f := Prod.fst).2 h).eq
    · rintro rfl
      exact matchesAll_mapAll_iff.1 hself
  simp only [Matches, toTree, map_group, Tree.group.injEq, himage]

namespace Scope

/-- The labelled parts match those that are moved into the sources without labels. -/
theorem matches_labelledParts (h : w.toTree.map Prod.fst = g.toTree) :
    List.Forall₂ (Option.Rel (FilterGroup.Matches fun x c => x.1 = c)) (s.labelledParts w).1
        (Pushdown.fromPosition s 0 s.sources.occurrences g).pushed ∧
      (s.labelledParts w).2.Matches (fun x c => x.1 = c)
        (Pushdown.fromPosition s 0 s.sources.occurrences g).remaining := by
  have hbelongs : ∀ (i : Nat) (x : Condition × Truth) (c : Condition), x.1 = c →
      s.belongsTo i x.1 = s.belongsTo i c := by
    rintro i x _ rfl
    rfl
  exact Pushdown.matches_deal hbelongs 0 s.sources.occurrences (FilterGroup.matches_fst_iff.2 h)

/-- The labelled part at a position matches the part without labels. -/
theorem matches_labelledPart? (h : w.toTree.map Prod.fst = g.toTree) (i : Nat) :
    Option.Rel (FilterGroup.Matches fun x c => x.1 = c) (s.labelledPart? w i)
      ((Pushdown.fromPosition s 0 s.sources.occurrences g).at? i) :=
  rel_join (rel_getElem?_of_forall₂ (matches_labelledParts h).1 i)

/-- The conditions of the labelled parts are conditions of the filter. -/
theorem mem_leaves_of_labelledParts (h : w.toTree.map Prod.fst = g.toTree) :
    (∀ i part, s.labelledPart? w i = some part → ∀ x ∈ part.leaves, x.1 ∈ g.leaves) ∧
      ∀ x ∈ (s.labelledParts w).2.leaves, x.1 ∈ g.leaves := by
  have hleaf : ∀ {part : FilterGroup (Condition × Truth)} {f : Filter},
      part.Matches (fun x c => x.1 = c) f → ∀ x ∈ part.leaves, x.1 ∈ f.leaves := by
    intro part f hmatch x hx
    obtain ⟨c, hc, rfl⟩ := exists_of_forall₂ hmatch.leaves.flip x hx
    exact hc
  obtain ⟨hpushed, hremaining⟩ := s.mem_leaves_of_fromPosition 0 s.sources.occurrences g
  constructor
  · intro i part hpart x hx
    have hrel := matches_labelledPart? (s := s) h i
    rw [hpart] at hrel
    cases hplan : (Pushdown.fromPosition s 0 s.sources.occurrences g).at? i with
    | none =>
      rw [hplan] at hrel
      cases hrel
    | some f =>
      rw [hplan] at hrel
      cases hrel with
      | some hmatch => exact hpushed i f hplan x.1 (hleaf hmatch x hx)
  · intro x hx
    exact hremaining x.1 (hleaf (matches_labelledParts h).2 x hx)

end Scope

/-! ## The truth of a draft -/

/-- The labelled clauses of a draft have together the truth of the filter. -/
theorem Draft.Labelled.askedTruth_eq {inSources : Nat → Option (Tree (Routed Hole × Truth))}
    {outer : Option (Tree (Routed Hole × Truth))}
    (h : d.Labelled settings s w inSources outer) (hs : s.PlannedFor settings r)
    (hw : w.toTree.map Prod.fst = g.toTree) (hblank : s.aggregates.names "" = false)
    (hbuilt : ∀ c ∈ g.leaves, c.IsBuilt) :
    s.askedTruth inSources outer = w.value Prod.snd := by
  obtain ⟨-, hleft⟩ := Scope.mem_leaves_of_labelledParts (s := s) hw
  have hsource : ∀ i, (inSources i).elim .yes (clauseTruth false) =
      (s.labelledPart? w i).elim .yes (FilterGroup.value Prod.snd) := fun i =>
    Scope.elim_clauseTruth_source (h.carriedIn i)
  have houter : (outer.elim .yes (clauseTruth false)).and (outer.elim .yes (clauseTruth true)) =
      (s.labelledParts w).2.value Prod.snd := by
    rw [Scope.elim_clauseTruth_query h.carriedOut hblank ?built]
    case built =>
      intro f hf x hx
      unfold Scope.labelledRest? at hf
      split at hf
      · cases hf
      · cases hf
        exact hbuilt x.1 (hleft x hx)
    unfold Scope.labelledRest?
    split
    · next hempty => exact (FilterGroup.value_of_isEmpty hempty Prod.snd).symm
    · rfl
  have hlength : (s.labelledParts w).1.length = s.sources.occurrences.length := by
    rw [(Scope.matches_labelledParts hw).1.length_eq, Pushdown.length_pushed_fromPosition]
  have hparts : (List.range s.sources.occurrences.length).map (fun i =>
      (s.labelledPart? w i).elim .yes (FilterGroup.value Prod.snd)) =
        (s.labelledParts w).1.map fun part => part.elim .yes (FilterGroup.value Prod.snd) := by
    refine List.ext_getElem (by simp [hlength]) fun i hi hi' => ?_
    have hlt : i < (s.labelledParts w).1.length := by simpa using hi'
    simp [Scope.labelledPart?, hlt]
  unfold Scope.askedTruth
  simp only [hsource]
  rw [houter, Truth.all_perm (hs.positions_perm.map _), hparts]
  exact Pushdown.value_deal _ Prod.snd 0 s.sources.occurrences w

/-! ## Labels of a draft -/

namespace Scope

/-- Conditions belong to the same sources when the joins are put in order. -/
theorem belongsTo_arranged (planned : Scope) (i : Nat) :
    planned.arranged.belongsTo i = planned.belongsTo i := by
  funext c
  unfold belongsTo SourcePlan.resolveColumn SourcePlan.resolveQualifier arranged
  rw [SourcePlan.occurrences_reorder]

/-- The plan of a scope, seen from the scope with its joins in order. -/
theorem ofScope_eq_fromPosition_arranged (planned : Scope) :
    Pushdown.ofScope planned =
      Pushdown.fromPosition planned.arranged 0 planned.arranged.sources.occurrences
        planned.request.filter := by
  have hplans : ∀ (occurrences : List Occurrence) (target : Nat) (g : Filter),
      Pushdown.fromPosition planned target occurrences g =
        Pushdown.fromPosition planned.arranged target occurrences g := by
    intro occurrences
    induction occurrences with
    | nil => exact fun _ _ => rfl
    | cons o rest ih =>
      intro target g
      unfold Pushdown.fromPosition
      simp only [ih, belongsTo_arranged]
  have hoccurrences : planned.arranged.sources.occurrences = planned.sources.occurrences :=
    SourcePlan.occurrences_reorder _
  rw [Pushdown.ofScope, hplans, hoccurrences]

/-- The sources of joins are those of the occurrences that they bring in. -/
theorem forall₂_of_joinClauses {plan : Pushdown} {js : List PlannedJoin}
    {clauses : List (JoinClause Hole)}
    (h : (s.joinClauses settings plan js).outcome = .ok clauses) :
    List.Forall₂ (fun j clause =>
      (s.source settings (s.occurrence j.right) (plan.at? j.right)).outcome = .ok clause.source)
      js clauses := by
  induction js generalizing clauses with
  | nil =>
    cases h
    exact .nil
  | cons j js ih =>
    obtain ⟨clause, hclause, h⟩ := Traced.exists_of_outcome_bind h
    obtain ⟨rest, hrest, h⟩ := Traced.exists_of_outcome_bind h
    cases h
    obtain ⟨source, hsource, hclause⟩ := Traced.exists_of_outcome_bind hclause
    cases hclause
    exact .cons hsource (ih hrest)

/-- The clause in a source, when the filter that is moved into it carries labels. -/
theorem pushed_of_source {o : Occurrence} {g : Option Filter}
    {part : Option (FilterGroup (Condition × Truth))} {u : Option (Tree (Routed Hole × Truth))}
    {source : Source Hole} (h : (s.source settings o g).outcome = .ok source)
    (hpart : Option.Rel (FilterGroup.Matches fun x c => x.1 = c) part g)
    (hu : Option.Rel (s.Carries settings .source) part u) :
    source.pushed.map Pushed.tree = sourceClause u := by
  obtain ⟨_, -, h⟩ := Traced.exists_of_outcome_bind h
  obtain ⟨pushed, hpushed, h⟩ := Traced.exists_of_outcome_bind h
  cases h
  cases hpart with
  | none =>
    cases hu
    cases hpushed
    rfl
  | some hmatch =>
    cases hu with
    | some hcarries =>
      obtain ⟨v, hv, hpushed⟩ := Traced.exists_of_outcome_bind hpushed
      rw [routeFilter, ← FilterGroup.matches_fst_iff.1 hmatch, hcarries.routed] at hv
      cases hv
      cases hpushed
      simp [sourceClause, Function.comp_def]

/-- The filter of the outer query, when what is left for it carries labels. -/
theorem outerFilter_of_carries {g : Filter} {outer : Option (Tree (Routed Hole × Truth))}
    {filter : Option (Tree (Routed Hole))} (h : (s.outerFilter settings g).outcome = .ok filter)
    (hrest : (s.labelledParts w).2.Matches (fun x c => x.1 = c) g)
    (houter : Option.Rel (s.Carries settings .query) (s.labelledRest? w) outer) :
    filter = outer.map (Tree.map Prod.fst) := by
  unfold labelledRest? at houter
  unfold outerFilter at h
  rw [hrest.isEmpty_eq] at houter
  split at houter
  · next hempty =>
    rw [if_pos hempty] at h
    cases houter
    cases h
    rfl
  · next hempty =>
    rw [if_neg hempty] at h
    cases houter with
    | some hcarries =>
      obtain ⟨v, hv, h⟩ := Traced.exists_of_outcome_bind h
      rw [routeFilter, ← FilterGroup.matches_fst_iff.1 hrest, hcarries.routed] at hv
      cases hv
      cases h
      rfl

/-- Labels may be carried along by a part of a filter, if there is one. -/
theorem exists_rel_carries {place : Place} {part : Option (FilterGroup (Condition × Truth))}
    (hbuilt : ∀ f, part = some f → ∀ x ∈ f.leaves, x.1.IsBuilt) :
    ∃ u, Option.Rel (s.Carries settings place) part u := by
  cases part with
  | none => exact ⟨none, .none⟩
  | some f =>
    have hleaves : ∀ c ∈ (f.toTree.map Prod.fst).leaves, c.IsBuilt := by
      intro c hc
      rw [leaves_map, FilterGroup.leaves_toTree] at hc
      obtain ⟨x, hx, rfl⟩ := List.mem_map.1 hc
      exact hbuilt f rfl x hx
    obtain ⟨v, hv⟩ := exists_routeTree_of_isBuilt _ place false hleaves
    obtain ⟨u, -, hu⟩ := exists_carries hv
    exact ⟨some u, .some hu⟩

end Scope

/-- The clauses of a draft may be labelled by the conditions of the filter. -/
theorem Draft.exists_labelled (hd : (Draft.ofRequest settings r true).outcome = .ok d)
    (hw : w.toTree.map Prod.fst = r.filter.toTree) (hbuilt : ∀ c ∈ r.filter.leaves, c.IsBuilt) :
    ∃ s inSources outer, s.PlannedFor settings r ∧ d.Labelled settings s w inSources outer := by
  obtain ⟨planned, hplanned, hassembled⟩ := Draft.exists_assembled hd
  have hs : planned.arranged.PlannedFor settings r := ⟨planned, hplanned, rfl⟩
  obtain rfl : planned.request = r := hs.request_eq
  rw [planned.ofScope_eq_fromPosition_arranged] at hassembled
  obtain ⟨hmoved, hleft⟩ := Scope.mem_leaves_of_labelledParts (s := planned.arranged) hw
  have hsources : ∀ i, ∃ u, Option.Rel (planned.arranged.Carries settings .source)
      (planned.arranged.labelledPart? w i) u := fun i =>
    Scope.exists_rel_carries fun f hf x hx => hbuilt x.1 (hmoved i f hf x hx)
  obtain ⟨outer, houter⟩ : ∃ u, Option.Rel (planned.arranged.Carries settings .query)
      (planned.arranged.labelledRest? w) u := by
    refine Scope.exists_rel_carries fun f hf x hx => ?_
    unfold Scope.labelledRest? at hf
    split at hf
    · cases hf
    · cases hf
      exact hbuilt x.1 (hleft x hx)
  refine ⟨planned.arranged, fun i => (hsources i).choose, outer, hs, ?_, houter, ?_, ?_, ?_⟩
  · exact fun i => (hsources i).choose_spec
  · exact Scope.pushed_of_source hassembled.base (Scope.matches_labelledPart? hw 0)
      (hsources 0).choose_spec
  · exact (Scope.forall₂_of_joinClauses hassembled.joins).imp fun j clause hsource =>
      Scope.pushed_of_source hsource (Scope.matches_labelledPart? hw j.right)
        (hsources j.right).choose_spec
  · exact Scope.outerFilter_of_carries hassembled.filter (Scope.matches_labelledParts hw).2 houter

/-- **The clauses of a draft have the truth of the filter**, whatever the truths of its conditions
are, if blank text names no output. -/
theorem Request.asksFor_iff (hd : (Draft.ofRequest settings r true).outcome = .ok d)
    (hblank : ∀ s : Scope, s.PlannedFor settings r → s.aggregates.names "" = false)
    (hbuilt : ∀ c ∈ r.filter.leaves, c.IsBuilt) (hw : w.toTree.map Prod.fst = r.filter.toTree)
    (τ : Truth) : r.AsksFor settings w τ ↔ τ = w.value Prod.snd := by
  constructor
  · rintro ⟨-, s, _, inSources, outer, hs, -, hlabelled, rfl⟩
    exact hlabelled.askedTruth_eq hs hw (hblank s hs) hbuilt
  · rintro rfl
    obtain ⟨s, inSources, outer, hs, hlabelled⟩ := Draft.exists_labelled hd hw hbuilt
    exact ⟨hw, s, d, inSources, outer, hs, hd, hlabelled,
      (hlabelled.askedTruth_eq hs hw (hblank s hs) hbuilt).symm⟩

end ReportSql
