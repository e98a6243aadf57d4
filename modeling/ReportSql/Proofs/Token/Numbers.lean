import ReportSql.Proofs.Token.Placeholders

/-!
# Numbers of placeholders in query texts

The placeholders of a query are numbered source by source and then through the filter of the outer
query, before that filter is parted into a clause on rows and one on groups.  The text has the
clause on rows first.  So the numbers count up through the text exactly when no value of the filter
that goes into the clause on groups stands before one that goes into the clause on rows.

## Main definitions

* `counter?` — the number in the name of a placeholder.
* `Tree.RowsFirst` — a routed filter whose values on rows come before those on groups.

## Main statements

* `Request.CompilesTo.counters_ascend_iff` — when the numbers count up through the text.
* `exists_counters_totalThenGrade` — a query whose numbers do not.
-/

namespace ReportSql

variable {α β : Type}

/-! ## Numbers in names -/

/-- The number in the name of a placeholder, which follows its last underscore. -/
def counter? (name : String) : Option Nat :=
  (Text.cutLast '_' name.toList).map fun (_, digits) => Nat.ofDigitChars 10 digits 0

@[simp] theorem Placeholder.counter?_name (p : Placeholder) : counter? p.name = some p.number := by
  rw [counter?, Placeholder.name, Text.cutLast_number]
  simp

/-! ## Rows before groups -/

/-- The values of a routed filter that stand in the clause on rows come before those that stand in
the clause on groups. -/
def Tree.RowsFirst (t : Tree (Routed α)) : Prop :=
  t.leaves.Pairwise fun r r' => r.ofGroups → r.predicate.values ≠ [] → r'.predicate.values ≠ [] →
    r'.ofGroups

/-- The values of the clause on rows and then those of the clause on groups. -/
def clauseValues (rs : List (Routed α)) : List α :=
  (rs.filter fun r => !r.ofGroups).flatMap (fun r => r.predicate.values) ++
    (rs.filter Routed.ofGroups).flatMap fun r => r.predicate.values

theorem clauseValues_perm (rs : List (Routed α)) :
    (clauseValues rs).Perm (rs.flatMap fun r => r.predicate.values) := by
  rw [clauseValues, ← List.flatMap_append]
  exact (List.perm_append_comm.trans (List.filter_append_perm Routed.ofGroups rs)).flatMap_right _

/-- If the values on rows come first, parting a filter leaves the values in order. -/
theorem clauseValues_eq {rs : List (Routed α)}
    (h : rs.Pairwise fun r r' => r.ofGroups → r.predicate.values ≠ [] → r'.predicate.values ≠ [] →
      r'.ofGroups) : clauseValues rs = rs.flatMap fun r => r.predicate.values := by
  induction rs with
  | nil => rfl
  | cons r rs ih =>
    obtain ⟨hfirst, hrest⟩ := List.pairwise_cons.1 h
    rw [clauseValues] at ih
    cases hr : r.ofGroups with
    | false => simp [clauseValues, hr, ← ih hrest]
    | true =>
      by_cases hvalues : r.predicate.values = []
      · simp [clauseValues, hr, hvalues, ← ih hrest]
      · -- no value on rows follows
        have hnone :
            (rs.filter fun r => !r.ofGroups).flatMap (fun r => r.predicate.values) = [] := by
          rw [List.flatMap_eq_nil_iff]
          intro r' hr'
          rw [List.mem_filter] at hr'
          refine Classical.byContradiction fun hne => ?_
          have hgroups := hfirst r' hr'.1 hr hvalues hne
          simp [hgroups] at hr'
        simp [clauseValues, hr, hnone, ← ih hrest]

/-- **Values numbered in order are still in order after a filter is parted exactly when those on
rows come first.** -/
theorem map_clauseValues_eq_iff {number : α → Nat} {rs : List (Routed α)}
    (hsorted : ((rs.flatMap fun r => r.predicate.values).map number).Pairwise (· < ·)) :
    (clauseValues rs).map number = (rs.flatMap fun r => r.predicate.values).map number ↔
      rs.Pairwise fun r r' => r.ofGroups → r.predicate.values ≠ [] → r'.predicate.values ≠ [] →
        r'.ofGroups := by
  constructor
  · intro heq
    have hafter := hsorted
    rw [← heq, clauseValues, List.pairwise_map, List.pairwise_append] at hafter
    rw [List.pairwise_map, List.pairwise_flatMap] at hsorted
    refine hsorted.2.imp_of_mem ?_
    intro r r' hr hr' hbefore hgroups hvalues hvalues'
    obtain ⟨v, hv⟩ := List.exists_mem_of_ne_nil _ hvalues
    obtain ⟨v', hv'⟩ := List.exists_mem_of_ne_nil _ hvalues'
    -- on rows the later value would stand before the earlier one
    refine Classical.byContradiction fun hrows => ?_
    have hlt := hbefore v hv v' hv'
    have hgt : number v' < number v := by
      refine hafter.2.2 v' ?_ v ?_
      · exact List.mem_flatMap.2 ⟨r', List.mem_filter.2 ⟨hr', by simpa using hrows⟩, hv'⟩
      · exact List.mem_flatMap.2 ⟨r, List.mem_filter.2 ⟨hr, hgroups⟩, hv⟩
    exact absurd hgt (Nat.lt_asymm hlt)
  · intro h
    rw [clauseValues_eq h]

/-- Filters that match have their values in the same clauses. -/
theorem Tree.Matches.rowsFirst_iff {R : α → β → Prop} {t : Tree (Routed α)} {u : Tree (Routed β)}
    (h : t.Matches (Routed.Matches R) u) : t.RowsFirst ↔ u.RowsFirst := by
  have hsides : t.leaves.map (fun r => (r.ofGroups, r.predicate.values.isEmpty)) =
      u.leaves.map fun r => (r.ofGroups, r.predicate.values.isEmpty) :=
    map_eq_of_forall₂ (fun r r' hr => by
      rw [hr.ofGroups, isEmpty_eq_of_length_eq hr.predicate.values.length_eq]) h.leaves
  have hiff : ∀ {γ : Type} (v : Tree (Routed γ)), v.RowsFirst ↔
      (v.leaves.map fun r => (r.ofGroups, r.predicate.values.isEmpty)).Pairwise fun x y =>
        x.1 → x.2 = false → y.2 = false → y.1 := by
    intro γ v
    simp [RowsFirst, List.pairwise_map]
  rw [hiff, hiff, hsides]

/-! ## Compiled queries -/

/-- The values of the two clauses of a filter. -/
theorem flatMap_values_clauses (filter : Option (Tree (Routed α))) :
    (clausePredicates (filter.bind rowClause) ++
      clausePredicates (filter.bind groupClause)).flatMap Predicate.values =
        clauseValues (filter.elim [] Tree.leaves) := by
  cases filter with
  | none => rfl
  | some u =>
    simp only [Option.bind_some, Option.elim_some, clausePredicates_rowClause,
      clausePredicates_groupClause, clauseValues, List.flatMap_append, List.flatMap_map]

/-- The numbers of a draft count up through its query exactly when the values of its filter on rows
come first. -/
theorem Draft.numbers_ascend_iff (d : Draft) :
    (d.number.1.predicates.flatMap Predicate.values).map Placeholder.number =
        List.range' 1 (d.number.1.predicates.flatMap Predicate.values).length ↔
      ∀ tree, d.filter = some tree → tree.RowsFirst := by
  obtain ⟨bound, filter, hfilter, hrows, hgroups, hnumbers⟩ := d.exists_number_inOrder
  have hsources : d.number.1.sources.flatMap Source.values =
      (d.number.1.sources.flatMap Source.predicates).flatMap Predicate.values := by
    rw [List.flatMap_assoc]
    rfl
  have htext : d.number.1.predicates.flatMap Predicate.values =
      d.number.1.sources.flatMap Source.values ++ clauseValues (filter.elim [] Tree.leaves) := by
    rw [Select.predicates, List.append_assoc, List.flatMap_append, hrows, hgroups,
      flatMap_values_clauses, hsources]
  have hlength : (d.number.1.predicates.flatMap Predicate.values).length = bound.length := by
    have hnumbered := congrArg List.length hnumbers
    rw [List.length_map, List.length_append, List.length_range'] at hnumbered
    rw [htext, List.length_append, (clauseValues_perm _).length_eq, hnumbered]
  have hsorted : (((filter.elim [] Tree.leaves).flatMap fun r => r.predicate.values).map
      Placeholder.number).Pairwise (· < ·) := by
    have hall : (List.range' 1 bound.length).Pairwise (· < ·) := List.pairwise_lt_range'
    rw [← hnumbers, List.map_append] at hall
    exact (List.pairwise_append.1 hall).2.1
  rw [hlength, htext, ← hnumbers, List.map_append, List.map_append, List.append_cancel_left_eq,
    map_clauseValues_eq_iff hsorted]
  generalize d.filter = draft at hfilter
  cases hfilter with
  | none => simp
  | some hmatch =>
    simp only [Option.some.injEq, forall_eq']
    exact hmatch.rowsFirst_iff.symm

/-- The numbers that a lexer reads in the text of a compiled query are those of its draft. -/
theorem Request.CompilesTo.exists_counters {settings : Settings} {r : Request} {c : Compiled}
    (ho : settings.options.Unquoted) (h : r.CompilesTo settings c) :
    ∃ paged d ts, (Draft.ofRequest settings r paged).outcome = .ok d ∧
      lex c.text.toList = some ts ∧
      (placeholderNames ts).map counter? =
        ((d.number.1.predicates.flatMap Predicate.values).map Placeholder.number).map some := by
  obtain ⟨paged, d, q, hd, hq, rfl⟩ := h.exists_draft
  obtain ⟨s, -, hdrawn⟩ := Draft.exists_scope hd
  obtain ⟨bound, hquery, -, -, -⟩ := d.exists_number
  have hlegible := (hq.writtenFor (hdrawn.writtenFor hquery)).legible
  refine ⟨paged, d, q.tokens, hd, (Query.lexes_render ho.legible hlegible).eq, ?_⟩
  rw [Query.placeholderNames_tokens ho hlegible, hq.predicates_eq, List.map_map, List.map_map]
  exact List.map_congr_left fun p _ => p.counter?_name

/-- **The numbers of the placeholders count up through the text of a compiled query exactly when, in
the filter of the outer query, the values on rows come before those on groups.** -/
theorem Request.CompilesTo.counters_ascend_iff {settings : Settings} {r : Request} {c : Compiled}
    (ho : settings.options.Unquoted) (h : r.CompilesTo settings c) :
    ∃ planned filter ts, Scope.ofRequest settings r = .ok planned ∧
      (planned.arranged.outerFilter settings (Pushdown.ofScope planned).remaining).outcome =
        .ok filter ∧
      lex c.text.toList = some ts ∧
      ((placeholderNames ts).map counter? =
          (List.range' 1 (placeholderNames ts).length).map some ↔
        ∀ tree, filter = some tree → tree.RowsFirst) := by
  obtain ⟨paged, d, ts, hd, hts, hcounters⟩ := h.exists_counters ho
  obtain ⟨planned, hplanned, hassembled⟩ := Draft.exists_assembled hd
  refine ⟨planned, d.filter, ts, hplanned, hassembled.filter, hts, ?_⟩
  have hlength := congrArg List.length hcounters
  simp only [List.length_map] at hlength
  rw [hcounters, hlength, ← d.numbers_ascend_iff]
  exact (Option.some_injective Nat).list_map.eq_iff

/-! ## A filter on groups before one on rows -/

/-- The departments whose employees of one grade have salaries above a bound together.  The join may
miss employees, so no condition moves into a source. -/
def totalThenGrade : Request where
  dataset := "EMP"
  groupBy? := some ["DEPT.NAME"]
  aggregations? := some [⟨"SALARY", .sum, some "TOTAL"⟩]
  joins? := some [⟨"EMP", "DEPT", .right, [⟨"DEPT_ID", "ID"⟩]⟩]
  filters? := some ⟨.and,
    [.leaf ⟨"TOTAL", .number, .greater, .scalar (.int 5)⟩,
      .leaf ⟨"GRADE", .number, .equal, .scalar (.int 1)⟩]⟩

theorem Options.unquoted_default : ({} : Options).Unquoted := by
  have hunquoted : ∀ cs : List Char, (cs.all fun c => c != '"' && c != '\'' && c != ':') = true →
      ∀ c ∈ cs, c ≠ '"' ∧ c ≠ '\'' ∧ c ≠ ':' := by simp [and_assoc]
  exact ⟨hunquoted _ (by decide), hunquoted _ (by decide), hunquoted _ (by decide)⟩

theorem counters_ascend_iff_totalThenGrade :
    (Settings.ofCatalog .empty).options.Unquoted ∧
      ∃ c, totalThenGrade.CompilesTo (.ofCatalog .empty) c ∧
        ∃ planned filter ts, Scope.ofRequest (.ofCatalog .empty) totalThenGrade = .ok planned ∧
          (planned.arranged.outerFilter (.ofCatalog .empty)
            (Pushdown.ofScope planned).remaining).outcome = .ok filter ∧
          lex c.text.toList = some ts ∧
          ((placeholderNames ts).map counter? =
              (List.range' 1 (placeholderNames ts).length).map some ↔
            ∀ tree, filter = some tree → tree.RowsFirst) := by
  obtain ⟨c, hc⟩ : ∃ c, totalThenGrade.CompilesTo (.ofCatalog .empty) c :=
    Request.exists_compilesTo (by decide +kernel)
  exact ⟨Options.unquoted_default, c, hc, hc.counters_ascend_iff Options.unquoted_default⟩

/-- **The numbers do not count up**: the condition on groups is numbered first and comes last. -/
theorem exists_counters_totalThenGrade :
    ∃ c ts, totalThenGrade.CompilesTo (.ofCatalog .empty) c ∧ lex c.text.toList = some ts ∧
      (placeholderNames ts).map counter? = [some 2, some 1] := by
  obtain ⟨c, hc⟩ : ∃ c, totalThenGrade.CompilesTo (.ofCatalog .empty) c :=
    Request.exists_compilesTo (by decide +kernel)
  obtain ⟨paged, d, ts, hd, hts, hcounters⟩ := hc.exists_counters Options.unquoted_default
  have hnumbers : ∀ paged,
      (Draft.ofRequest (.ofCatalog .empty) totalThenGrade paged).outcome.toOption.map (fun d =>
        (d.number.1.predicates.flatMap Predicate.values).map Placeholder.number) =
          some [2, 1] := by decide +kernel
  have hpaged := hnumbers paged
  rw [hd, Except.toOption, Option.map_some, Option.some_inj] at hpaged
  exact ⟨c, ts, hc, hts, by rw [hcounters, hpaged]; rfl⟩

end ReportSql
