import ReportSql.Proofs.Routing.Asked
import ReportSql.Proofs.Tree.Position

/-!
# Conditions without a value

A condition whose value is missing becomes a predicate that is true of every row, wherever it
stands.  In an AND it may as well be left out.  In an OR it makes the whole OR true, so that the
other conditions of the OR restrict nothing.

## Main definitions

* `Condition.IsMissing` — a condition whose value is missing.
* `Request.SameRowsWithout` — a request that asks for the same rows with a condition and without it.

## Main statements

* `Request.sameRowsWithout_iff` — where a condition without a value may be left out.
* `not_sameRowsWithout_besideName` — a condition without a value that lets all rows through.
-/

namespace ReportSql

open ReportSql.Tree

/-! ## Missing values -/

/-- A condition whose value is missing: it has none though its operator compares with one, or it is
a range that is open on both sides. -/
def Condition.IsMissing (c : Condition) : Prop :=
  c.operator.isUnary = false ∧ c.value = .absent ∨
    c.operator = .between ∧ c.value = .range none none

section

variable {settings : Settings} {c : Condition}

/-- A condition whose value is missing is true of every row. -/
theorem Condition.IsMissing.outcome_conditionPredicate (h : c.IsMissing) (options : Options)
    (e : Expr) (kind : ValueKind) :
    (conditionPredicate options e kind c).outcome = .ok .always := by
  rcases h with ⟨hunary, hvalue⟩ | ⟨hbetween, hvalue⟩
  · have hnone : unaryPredicate? e kind c.operator = none := by
      cases hoperator : c.operator with
      | isNull | isNotNull | isEmpty | isNotEmpty =>
        rw [hoperator] at hunary
        cases hunary
      | _ => rfl
    rw [conditionPredicate, hnone, hvalue]
    rfl
  · rw [conditionPredicate, hbetween, hvalue]
    rfl

/-- So it is wherever it is routed to. -/
theorem Condition.IsMissing.exists_routeCondition (h : c.IsMissing) (s : Scope)
    (settings : Settings) (place : Place) (promoted : Bool) :
    ∃ ofGroups, (s.routeCondition settings place promoted c).outcome = .ok ⟨ofGroups, .always⟩ := by
  have hpredicate := h.outcome_conditionPredicate settings.options
  unfold Scope.routeCondition
  dsimp only
  split
  · exact ⟨true, by rw [Traced.outcome_bind_of_ok (hpredicate _ _)]; rfl⟩
  · exact ⟨promoted, by rw [Traced.outcome_bind_of_ok (hpredicate _ _)]; rfl⟩
  · exact ⟨promoted, rfl⟩

end

/-! ## Leaving a condition out -/

namespace Request

/-- A request with another filter. -/
def withFilter (r : Request) (g : Filter) : Request := { r with filters? := some g }

@[simp] theorem filter_withFilter (r : Request) (g : Filter) : (r.withFilter g).filter = g := rfl

/-- A request that asks for the same rows with a true condition at a place and with nothing there:
whatever the truths of the other conditions are, the clauses have one truth together. -/
def SameRowsWithout (settings : Settings) (r : Request) (p : Position Condition) (c : Condition) :
    Prop :=
  ∀ q : Position (Condition × Truth), q.map Prod.fst = p → ∃ τ, ∀ τ',
    ((r.withFilter (p.fill (some (.leaf c)))).AsksFor settings
        (q.fill (some (.leaf (c, .yes)))) τ' ↔ τ' = τ) ∧
      ((r.withFilter (p.fill none)).AsksFor settings (q.fill none) τ' ↔ τ' = τ)

variable {settings : Settings} {r : Request} {p : Position Condition} {c : Condition}

/-- Planning does not look at the filter. -/
theorem scope_withFilter {g : Filter} (g' : Filter) {s : Scope}
    (h : s.PlannedFor settings (r.withFilter g)) :
    ∃ s' : Scope, s'.PlannedFor settings (r.withFilter g') ∧ s'.aggregates = s.aggregates := by
  obtain ⟨sources, -, hsources, -, haggregates, -⟩ := h.exists_sources
  have hsources' : SourcePlan.ofRequest (r.withFilter g') = .ok sources := hsources
  have haggregates' : AggregateIndex.ofRequest settings (r.withFilter g') sources =
      .ok s.aggregates := haggregates
  refine ⟨_, ⟨⟨r.withFilter g', sources, s.aggregates⟩, ?_, rfl⟩, rfl⟩
  unfold Scope.ofRequest
  rw [hsources']
  change (AggregateIndex.ofRequest settings _ sources >>= _) = _
  rw [haggregates']
  rfl

/-- The checks on a request do not look at the filter, if its conditions were built. -/
theorem exists_compile_withFilter {g g' : Filter} {compiled : Compiled}
    (hbuilt : ∀ c ∈ g.leaves, c.IsBuilt) (hbuilt' : ∀ c ∈ g'.leaves, c.IsBuilt)
    (h : (compile settings (r.withFilter g)).outcome = .ok compiled) :
    ∃ compiled', (compile settings (r.withFilter g')).outcome = .ok compiled' := by
  have hguarded : Guarded (compile settings (r.withFilter g)).outcome (r.withFilter g).checks :=
    guarded_compile hbuilt
  have hguarded' : Guarded (compile settings (r.withFilter g')).outcome (r.withFilter g').checks :=
    guarded_compile hbuilt'
  exact hguarded'.exists_ok_iff.2 (hguarded.exists_ok_iff.1 ⟨compiled, h⟩)

/-- What is true asks for the same rows with and without it at a neutral place, and only there. -/
theorem sameRowsWithout_iff_isNeutral {compiled compiled' : Compiled}
    (hbuilt : ∀ c' ∈ (p.fill (some (.leaf c))).leaves, c'.IsBuilt)
    (hblank : ∀ s : Scope, s.PlannedFor settings (r.withFilter (p.fill (some (.leaf c)))) →
      s.aggregates.names "" = false)
    (hcompile : (compile settings (r.withFilter (p.fill (some (.leaf c))))).outcome =
      .ok compiled)
    (hcompile' : (compile settings (r.withFilter (p.fill none))).outcome = .ok compiled') :
    r.SameRowsWithout settings p c ↔ p.IsNeutral := by
  obtain ⟨d, hd, -⟩ := exists_draft_of_compile hcompile
  obtain ⟨d', hd', -⟩ := exists_draft_of_compile hcompile'
  have hbuilt' : ∀ c' ∈ (p.fill none).leaves, c'.IsBuilt := fun c' hc' =>
    hbuilt c' (p.mem_leaves_fill_of_none hc' _)
  have hblank' : ∀ s : Scope, s.PlannedFor settings (r.withFilter (p.fill none)) →
      s.aggregates.names "" = false := by
    intro s hs
    obtain ⟨s', hs', haggregates⟩ := scope_withFilter (p.fill (some (.leaf c))) hs
    rw [← haggregates]
    exact hblank s' hs'
  -- on either side the clauses have the truth of the filter
  have hwith : ∀ q : Position (Condition × Truth), q.map Prod.fst = p → ∀ τ,
      (r.withFilter (p.fill (some (.leaf c)))).AsksFor settings
          (q.fill (some (.leaf (c, .yes)))) τ ↔
        τ = (q.fill (some (.leaf (c, .yes)))).value Prod.snd := by
    rintro q rfl
    refine asksFor_iff hd hblank hbuilt ?_
    rw [filter_withFilter, ← q.toTree_fill_map]
    simp
  have hwithout : ∀ q : Position (Condition × Truth), q.map Prod.fst = p → ∀ τ,
      (r.withFilter (p.fill none)).AsksFor settings (q.fill none) τ ↔
        τ = (q.fill none).value Prod.snd := by
    rintro q rfl
    refine asksFor_iff hd' hblank' hbuilt' ?_
    rw [filter_withFilter, ← q.toTree_fill_map]
    rfl
  rw [← p.value_fill_eq_iff c]
  refine forall_congr' fun q => imp_congr_right fun hq => ?_
  simp only [hwith q hq, hwithout q hq]
  constructor
  · rintro ⟨τ, hτ⟩
    exact ((hτ _).1.1 rfl).trans ((hτ _).2.1 rfl).symm
  · exact fun hsame => ⟨_, fun τ' => ⟨Iff.rfl, by rw [hsame]⟩⟩

/-- **Where a condition without a value may be left out.**  If the request compiles, it compiles
without the condition too.  The condition is true of every row, and it asks for the same rows with
and without it if and only if the innermost group with other conditions is an AND, or there is none.
No output may have the name of blank text. -/
theorem sameRowsWithout_iff {compiled : Compiled} (hmissing : c.IsMissing)
    (hbuilt : ∀ c' ∈ (p.fill (some (.leaf c))).leaves, c'.IsBuilt)
    (hblank : ∀ s : Scope, s.PlannedFor settings (r.withFilter (p.fill (some (.leaf c)))) →
      s.aggregates.names "" = false)
    (hcompile : (compile settings (r.withFilter (p.fill (some (.leaf c))))).outcome =
      .ok compiled) :
    (∃ compiled', (compile settings (r.withFilter (p.fill none))).outcome = .ok compiled') ∧
      (∀ (s : Scope) (place : Place) (promoted : Bool), ∃ ofGroups,
        (s.routeCondition settings place promoted c).outcome = .ok ⟨ofGroups, .always⟩) ∧
      (r.SameRowsWithout settings p c ↔ p.IsNeutral) := by
  have hbuilt' : ∀ c' ∈ (p.fill none).leaves, c'.IsBuilt := fun c' hc' =>
    hbuilt c' (p.mem_leaves_fill_of_none hc' _)
  obtain ⟨compiled', hcompile'⟩ := exists_compile_withFilter hbuilt hbuilt' hcompile
  exact ⟨⟨compiled', hcompile'⟩, fun s => hmissing.exists_routeCondition s settings,
    sameRowsWithout_iff_isNeutral hbuilt hblank hcompile hcompile'⟩

end Request

/-! ## A grade that is not yet typed -/

/-- Employees by their numbers. -/
def employeeNumbers : Request where
  dataset := "EMP"
  columns? := some ["ID"]

/-- A grade above a limit that is missing. -/
def gradeAbove : Condition := ⟨"GRADE", .number, .greater, .absent⟩

/-- A name. -/
def nameIs : Condition := ⟨"NAME", .text, .equal, .scalar (.text "x")⟩

/-- The place after the name in a group. -/
def besideName (logic : Logic) : Position Condition := ⟨[], ⟨logic, [.leaf nameIs], []⟩⟩

theorem isBuilt_besideName (logic : Logic) :
    ∀ c ∈ ((besideName logic).fill (some (.leaf gradeAbove))).leaves, c.IsBuilt := by
  intro c hc
  have hcases : c = nameIs ∨ c = gradeAbove := by
    simpa [besideName, Position.fill, Frame.members, FilterGroup.leaves] using hc
  rcases hcases with rfl | rfl
  · exact ⟨"NAME", .text, .equal, some (.text "x"), rfl⟩
  · exact ⟨"GRADE", .number, .greater, none, rfl⟩

/-- Without aggregations no output has any name. -/
theorem names_employeeNumbers (settings : Settings) (g : Filter) :
    ∀ s : Scope, s.PlannedFor settings (employeeNumbers.withFilter g) →
      s.aggregates.names "" = false := by
  intro s hs
  obtain ⟨sources, -, -, -, haggregates, -⟩ := hs.exists_sources
  have hnone : AggregateIndex.ofRequest settings (employeeNumbers.withFilter g) sources =
      .ok {} := rfl
  rw [hnone, Except.ok.injEq] at haggregates
  rw [← haggregates]
  rfl

theorem exists_compile_besideName (logic : Logic) (x : Option (Tree Condition))
    (hx : x = some (.leaf gradeAbove) ∨ x = none) :
    ∃ compiled, (compile (.ofCatalog .empty)
      (employeeNumbers.withFilter ((besideName logic).fill x))).outcome = .ok compiled := by
  refine exists_compile ?_
  rcases hx with rfl | rfl <;> cases logic <;> decide +kernel

theorem isNeutral_besideName_iff (logic : Logic) :
    (besideName logic).IsNeutral ↔ logic = .and := by
  have hfind : (besideName logic).frames.find? Frame.isShared =
      some ⟨logic, [.leaf nameIs], []⟩ := rfl
  rw [Position.IsNeutral, hfind]
  simp

/-- Beside a name in an AND the grade may be left out. -/
theorem sameRowsWithout_besideName :
    (∃ compiled, (compile (.ofCatalog .empty) (employeeNumbers.withFilter
        ((besideName .and).fill none))).outcome = .ok compiled) ∧
      employeeNumbers.SameRowsWithout (.ofCatalog .empty) (besideName .and) gradeAbove := by
  obtain ⟨compiled, hcompiled⟩ := exists_compile_besideName .and _ (.inl rfl)
  obtain ⟨hwithout, -, hsame⟩ := Request.sameRowsWithout_iff (.inl ⟨rfl, rfl⟩)
    (isBuilt_besideName .and) (names_employeeNumbers _ _) hcompiled
  exact ⟨hwithout, hsame.2 ((isNeutral_besideName_iff .and).2 rfl)⟩

/-- **A condition without a value lets all rows through** where the others form an OR with it: it
stands in the query as true. -/
theorem not_sameRowsWithout_besideName :
    (compile (.ofCatalog .empty) (employeeNumbers.withFilter
        ((besideName .or).fill (some (.leaf gradeAbove))))).outcome.toOption =
      some ⟨"SELECT \"EMP\".\"ID\" AS \"EMP.ID\"\nFROM (SELECT * FROM \"EMP\" WHERE " ++
        "(UPPER(CAST(\"NAME\" AS VARCHAR2(4000))) = UPPER(:p_1)) OR (1=1)) \"EMP\"\n" ++
        "OFFSET 0 ROWS FETCH NEXT 100 ROWS ONLY", .ofList [("p_1", .text "X")]⟩ ∧
    (compile (.ofCatalog .empty) (employeeNumbers.withFilter
        ((besideName .or).fill none))).outcome.toOption =
      some ⟨"SELECT \"EMP\".\"ID\" AS \"EMP.ID\"\nFROM (SELECT * FROM \"EMP\" WHERE " ++
        "(UPPER(CAST(\"NAME\" AS VARCHAR2(4000))) = UPPER(:p_1))) \"EMP\"\n" ++
        "OFFSET 0 ROWS FETCH NEXT 100 ROWS ONLY", .ofList [("p_1", .text "X")]⟩ ∧
    gradeAbove.IsMissing ∧
    ¬employeeNumbers.SameRowsWithout (.ofCatalog .empty) (besideName .or) gradeAbove := by
  obtain ⟨compiled, hcompiled⟩ := exists_compile_besideName .or _ (.inl rfl)
  obtain ⟨compiled', hcompiled'⟩ := exists_compile_besideName .or _ (.inr rfl)
  have hneutral := Request.sameRowsWithout_iff_isNeutral (isBuilt_besideName .or)
    (names_employeeNumbers _ _) hcompiled hcompiled'
  rw [isNeutral_besideName_iff] at hneutral
  exact ⟨by decide +kernel, by decide +kernel, .inl ⟨rfl, rfl⟩, fun hsame =>
    absurd (hneutral.1 hsame) (by decide)⟩

end ReportSql
