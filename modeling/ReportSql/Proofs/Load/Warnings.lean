import ReportSql.Proofs.Query.Joined

/-!
# Warnings

Of all that is reported while a request is compiled, only one thing is urgent: that a dataset of the
query is to be restricted to some loads though nothing is known of its loads.  Every other event of
a compilation tells of something that was expected.

## Main definitions

* `Traced.warnings` — the warnings among the events of a step.
* `loadWarnings` — the warnings about the loads of a dataset.

## Main statements

* `warnings_compile` — the warnings of a compilation, one joined occurrence after another.
-/

namespace ReportSql

/-! ## Warnings of steps -/

namespace Traced

variable {α β : Type} {x : Traced α} {f : α → Traced β}

/-- The warnings among the events of a step. -/
def warnings (x : Traced α) : List Event := x.events.filter fun e => e.level = .warn

theorem warnings_ofExcept (x : Except CompileError α) : (ofExcept x).warnings = [] := rfl

theorem warnings_reportAll (events : List Event) :
    (reportAll events).warnings = events.filter fun e => e.level = .warn := rfl

/-- Steps in order warn in order. -/
theorem warnings_bind_of_ok {a : α} (h : x.outcome = .ok a) :
    (x >>= f).warnings = x.warnings ++ (f a).warnings := by
  rw [bind_of_ok h]
  exact List.filter_append ..

/-- A step that ends in nothing warned of what it came to before. -/
theorem warnings_bind_of_error {e : CompileError} (h : x.outcome = .error e) :
    (x >>= f).warnings = x.warnings := by
  rw [bind_of_error h]
  rfl

/-- Only the first of two steps may warn. -/
theorem warnings_bind_of_silent (hf : ∀ a, (f a).warnings = []) :
    (x >>= f).warnings = x.warnings := by
  cases h : x.outcome with
  | ok a => rw [warnings_bind_of_ok h, hf a, List.append_nil]
  | error e => exact warnings_bind_of_error h

/-- If a sequence of steps comes to a result, its warnings are those of both. -/
theorem exists_warnings_of_bind {b : β} (h : (x >>= f).outcome = .ok b) :
    ∃ a, x.outcome = .ok a ∧ (f a).outcome = .ok b ∧
      (x >>= f).warnings = x.warnings ++ (f a).warnings := by
  obtain ⟨a, ha, hb⟩ := exists_of_outcome_bind h
  exact ⟨a, ha, hb, warnings_bind_of_ok ha⟩

end Traced

/-! ## Filters and orders -/

/-- What is reported about a list is no warning. -/
theorem filter_listEvents (options : Options) (column : String) (items : List Scalar) :
    (listEvents options column items).filter (fun e => e.level = .warn) = [] := by
  unfold listEvents
  split
  · rfl
  · split <;> rfl

theorem warnings_conditionPredicate (options : Options) (e : Expr) (kind : ValueKind)
    (c : Condition) : (conditionPredicate options e kind c).warnings = [] := by
  unfold conditionPredicate
  split
  · rfl
  · split
    · rfl
    · split <;> rfl
    · split
      · rw [Traced.warnings_bind_of_silent (fun _ => by split <;> rfl), Traced.warnings_reportAll]
        exact filter_listEvents ..
      · rfl
    · split <;> rfl

namespace Scope

variable {s : Scope} {settings : Settings}

theorem warnings_routeCondition (place : Place) (promoted : Bool) (c : Condition) :
    (s.routeCondition settings place promoted c).warnings = [] := by
  unfold routeCondition
  dsimp only
  split
  · rw [Traced.warnings_bind_of_silent fun _ => rfl]
    exact warnings_conditionPredicate ..
  · rw [Traced.warnings_bind_of_silent fun _ => rfl]
    exact warnings_conditionPredicate ..
  · rfl

mutual

theorem warnings_routeTree (place : Place) (promoted : Bool) : ∀ t : Tree Condition,
    (s.routeTree settings place promoted t).warnings = []
  | .leaf c => by
    rw [routeTree, Traced.warnings_bind_of_silent fun _ => rfl]
    exact warnings_routeCondition ..
  | .group logic children => by
    rw [routeTree, Traced.warnings_bind_of_silent fun _ => rfl]
    exact warnings_routeTrees place _ children

theorem warnings_routeTrees (place : Place) (promoted : Bool) : ∀ ts : List (Tree Condition),
    (s.routeTrees settings place promoted ts).warnings = []
  | [] => rfl
  | t :: ts => by
    have hrest : ∀ u, (s.routeTrees settings place promoted ts >>= fun us =>
        (pure (u :: us) : Traced (List (Tree (Routed Hole))))).warnings = [] := fun u => by
      rw [Traced.warnings_bind_of_silent fun _ => rfl]
      exact warnings_routeTrees place promoted ts
    rw [routeTrees, Traced.warnings_bind_of_silent hrest]
    exact warnings_routeTree place promoted t

end

theorem warnings_pushedClause (pushed : Option Filter) :
    (s.pushedClause settings pushed).warnings = [] := by
  cases pushed with
  | none => rfl
  | some g =>
    rw [pushedClause, Traced.warnings_bind_of_silent fun _ => rfl]
    exact warnings_routeTree ..

theorem warnings_outerFilter (g : Filter) : (s.outerFilter settings g).warnings = [] := by
  unfold outerFilter
  split
  · rfl
  · rw [Traced.warnings_bind_of_silent fun _ => rfl]
    exact warnings_routeTree ..

theorem warnings_orderOf (key : SortKey) : (s.orderOf settings key).warnings = [] := by
  unfold orderOf
  split
  · rfl
  · split
    · rfl
    · split <;> rfl

theorem warnings_orderBy (keys : List SortKey) : (s.orderBy settings keys).warnings = [] := by
  induction keys with
  | nil => rfl
  | cons key keys ih =>
    have hrest : ∀ order : Option (OrderKey × SortDirection),
        (s.orderBy settings keys >>= fun rest =>
          (pure (order.toList ++ rest) : Traced _)).warnings = [] := fun order => by
      rw [Traced.warnings_bind_of_silent fun _ => rfl, ih]
    rw [orderBy, Traced.warnings_bind_of_silent hrest]
    exact warnings_orderOf key

end Scope

/-- What is reported about the filters moved is no warning. -/
theorem Pushdown.filter_events (plan : Pushdown) (occurrences : List Occurrence) :
    (plan.events occurrences).filter (fun e => e.level = .warn) = [] := by
  rw [List.filter_eq_nil_iff]
  intro e he
  obtain ⟨⟨o, moved⟩, -, hmoved⟩ := List.mem_filterMap.1 he
  obtain ⟨g, -, rfl⟩ := Option.map_eq_some_iff.1 hmoved
  simp [Event.level]

/-! ## Sources -/

/-- The warnings about the loads of a dataset: some are asked for, and nothing is known of them. -/
def loadWarnings (settings : Settings) (r : Request) (dataset : String) : List Event :=
  if r.partitionValues dataset ≠ [] ∧ settings.partition? dataset = none then
    [.partitionUnknown dataset]
  else []

variable {settings : Settings} {r : Request} {s : Scope}

theorem warnings_loadTypePredicate (dataset : String) (spec : PartitionSpec) :
    (loadTypePredicate settings r dataset spec).warnings = [] := by
  unfold loadTypePredicate
  split
  · split <;> rfl
  · rfl

theorem warnings_loadPredicates (dataset : String) :
    (loadPredicates settings r dataset).warnings = loadWarnings settings r dataset := by
  unfold loadPredicates loadWarnings
  cases r.partitionValues dataset with
  | nil => rfl
  | cons v vs =>
    cases settings.partition? dataset with
    | none => rfl
    | some spec =>
      dsimp only
      rw [Traced.warnings_bind_of_silent fun _ => rfl, warnings_loadTypePredicate]
      rfl

namespace Scope

/-- The source of an occurrence warns of the loads of its dataset alone. -/
theorem warnings_source (o : Occurrence) (pushed : Option Filter) :
    (s.source settings o pushed).warnings = loadWarnings settings s.request o.dataset := by
  have hrest : ∀ load : List (Predicate Hole), (s.pushedClause settings pushed >>= fun pushed =>
      (pure ⟨settings.physicalTable o.dataset, o.name, load, pushed⟩ :
        Traced (Source Hole))).warnings = [] := fun load => by
    rw [Traced.warnings_bind_of_silent fun _ => rfl]
    exact warnings_pushedClause pushed
  rw [source, Traced.warnings_bind_of_silent hrest]
  exact warnings_loadPredicates o.dataset

/-- The clauses of joins warn of the loads of the occurrences that they bring in. -/
theorem warnings_joinClauses {pushdown : Pushdown} {js : List PlannedJoin}
    {clauses : List (JoinClause Hole)}
    (h : (s.joinClauses settings pushdown js).outcome = .ok clauses) :
    (s.joinClauses settings pushdown js).warnings =
      js.flatMap fun j => loadWarnings settings s.request (s.occurrence j.right).dataset := by
  induction js generalizing clauses with
  | nil => rfl
  | cons j js ih =>
    rw [joinClauses] at h ⊢
    obtain ⟨clause, -, h, hwarnings⟩ := Traced.exists_warnings_of_bind h
    obtain ⟨rest, hrest, -⟩ := Traced.exists_of_outcome_bind h
    rw [hwarnings, Traced.warnings_bind_of_silent fun _ => rfl, ih hrest, List.flatMap_cons,
      joinClause, Traced.warnings_bind_of_silent fun _ => rfl, warnings_source]

end Scope

/-! ## Drafts and queries -/

/-- A draft warns of the loads of the occurrences, in the order in which they are joined. -/
theorem Draft.warnings_ofRequest {paged : Bool} {d : Draft}
    (h : (Draft.ofRequest settings r paged).outcome = .ok d) (hs : s.PlannedFor settings r) :
    (Draft.ofRequest settings r paged).warnings =
      s.joined.flatMap fun o => loadWarnings settings r o.dataset := by
  obtain ⟨planned', hplanned', rfl⟩ := hs.exists_planned
  obtain rfl : planned'.request = r := hs.request_eq
  unfold Draft.ofRequest at h ⊢
  obtain ⟨planned, hplanned, h, hplan⟩ := Traced.exists_warnings_of_bind h
  obtain rfl : planned' = planned := Except.ok.inj (hplanned'.symm.trans hplanned)
  obtain ⟨_, -, h, hmoved⟩ := Traced.exists_warnings_of_bind h
  obtain ⟨base, -, h, hbase⟩ := Traced.exists_warnings_of_bind h
  obtain ⟨joins, hjoins, h, hjoined⟩ := Traced.exists_warnings_of_bind h
  obtain ⟨filter, -, h, hfilter⟩ := Traced.exists_warnings_of_bind h
  obtain ⟨refs, -, h, hrefs⟩ := Traced.exists_warnings_of_bind h
  -- whether the draft is ordered or not, its last step is silent
  have hlast : ∀ (keys : List SortKey) (k : List (OrderKey × SortDirection) → Draft),
      (if paged then planned'.arranged.orderBy settings keys >>= fun order => pure (k order)
        else pure [] >>= fun order => (pure (k order) : Traced Draft)).warnings = [] := by
    intro keys k
    split
    · rw [Traced.warnings_bind_of_silent fun _ => rfl, Scope.warnings_orderBy]
    · rfl
  rw [hplan, hmoved, hbase, hjoined, hfilter, hrefs, Traced.warnings_reportAll,
    Pushdown.filter_events, Scope.warnings_source, Scope.warnings_joinClauses hjoins,
    Scope.warnings_outerFilter, Traced.warnings_ofExcept, Traced.warnings_ofExcept,
    List.nil_append, List.nil_append, List.nil_append, List.nil_append]
  refine (congrArg (fun last => _ ++ (_ ++ last)) (hlast _ _)).trans ?_
  rw [List.append_nil, Scope.joined, List.flatMap_cons, List.flatMap_map]
  rfl

/-- **A compilation warns of the loads of the datasets in the query**, and of nothing else. -/
theorem warnings_compile {c : Compiled} (h : (compile settings r).outcome = .ok c)
    (hs : s.PlannedFor settings r) :
    (compile settings r).warnings =
      s.joined.flatMap fun o => loadWarnings settings r o.dataset := by
  unfold compile at h ⊢
  obtain ⟨_, -, h, hchecked⟩ := Traced.exists_warnings_of_bind h
  obtain ⟨d, hd, h, hdraft⟩ := Traced.exists_warnings_of_bind h
  have hcheck : (checked r true).warnings = [] := by
    unfold checked
    split <;> rfl
  have hfinish : ∀ (query : Query) (bindings : Bindings), (finish query bindings).warnings = [] :=
    fun _ _ => rfl
  rw [hchecked, hdraft, hcheck, Draft.warnings_ofRequest hd hs, List.nil_append]
  exact (congrArg (_ ++ ·) (hfinish _ _)).trans (List.append_nil _)

end ReportSql
