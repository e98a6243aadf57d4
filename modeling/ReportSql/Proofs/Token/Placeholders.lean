import ReportSql.Proofs.Query.Compiled

/-!
# Placeholders of a query text

The placeholders that a lexer finds in the text of a compiled query are those that were numbered:
every one stands there once, and a value is bound to each and to nothing else.

## Main definitions

* `placeholderNames` — the names of the placeholders among some tokens.
* `Options.Unquoted` — options whose texts hold neither quotes nor colons.

## Main statements

* `Query.placeholderNames_tokens` — the placeholders of a query in the order of its text.
* `Request.CompilesTo.placeholderNames_nodup_and_keys` — they differ and are the names of the
  values.
-/

namespace ReportSql

/-- The name of a placeholder. -/
def Token.placeholder? : Token → Option String
  | .placeholder name => some name
  | _ => none

/-- The names of the placeholders among some tokens, in order. -/
def placeholderNames (ts : List Token) : List String := ts.filterMap Token.placeholder?

section Lists

variable (ts us : List Token)

@[simp] theorem placeholderNames_nil : placeholderNames [] = [] := rfl

@[simp] theorem placeholderNames_append :
    placeholderNames (ts ++ us) = placeholderNames ts ++ placeholderNames us :=
  List.filterMap_append

@[simp] theorem placeholderNames_word (name : String) :
    placeholderNames (.word name :: ts) = placeholderNames ts := rfl

@[simp] theorem placeholderNames_number (digits : String) :
    placeholderNames (.number digits :: ts) = placeholderNames ts := rfl

@[simp] theorem placeholderNames_quoted (name : String) :
    placeholderNames (.quoted name :: ts) = placeholderNames ts := rfl

@[simp] theorem placeholderNames_literal (text : String) :
    placeholderNames (.literal text :: ts) = placeholderNames ts := rfl

@[simp] theorem placeholderNames_symbol (c : Char) :
    placeholderNames (.symbol c :: ts) = placeholderNames ts := rfl

@[simp] theorem placeholderNames_placeholder (name : String) :
    placeholderNames (.placeholder name :: ts) = name :: placeholderNames ts := rfl

end Lists

/-- Between parts there may stand tokens without placeholders. -/
theorem placeholderNames_intercalate {k : List Token} (hk : placeholderNames k = [])
    (tss : List (List Token)) :
    placeholderNames (k.intercalate tss) = tss.flatMap placeholderNames := by
  induction tss with
  | nil => rfl
  | cons ts tss ih =>
    cases tss with
    | nil => simp [List.intercalate]
    | cons us tss =>
      rw [List.intercalate_cons_cons, placeholderNames_append, placeholderNames_append, hk, ih]
      simp

/-- Items without placeholders have none with a separator between them. -/
theorem placeholderNames_intercalate_map {α : Type} {k : List Token} (hk : placeholderNames k = [])
    {tokens : α → List Token} {as : List α} (h : ∀ a ∈ as, placeholderNames (tokens a) = []) :
    placeholderNames (k.intercalate (as.map tokens)) = [] := by
  rw [placeholderNames_intercalate hk, List.flatMap_map, List.flatMap_eq_nil_iff]
  exact h

/-! ## Options -/

/-- Options whose texts outside quotes hold neither quotes nor colons. -/
structure Options.Unquoted (options : Options) : Prop where
  textType : ∀ c ∈ options.textType.toList, c ≠ '"' ∧ c ≠ '\'' ∧ c ≠ ':'
  dayFunction : ∀ c ∈ options.dayFunction.toList, c ≠ '"' ∧ c ≠ '\'' ∧ c ≠ ':'
  performanceHint : ∀ c ∈ options.performanceHint.toList, c ≠ '"' ∧ c ≠ '\'' ∧ c ≠ ':'

/-- A lexer within a word or a number, or between tokens. -/
def LexState.isUnquoted : LexState → Bool
  | .blank | .word _ | .number _ => true
  | _ => false

/-- No token of a text without quotes and colons is a placeholder. -/
theorem LexState.run_of_unquoted {cs : List Char} (h : ∀ c ∈ cs, c ≠ '"' ∧ c ≠ '\'' ∧ c ≠ ':')
    {s : LexState} (hs : s.isUnquoted = true) :
    (s.run cs).2.isUnquoted = true ∧ placeholderNames (s.run cs).1 = [] := by
  induction cs generalizing s with
  | nil => exact ⟨hs, rfl⟩
  | cons c cs ih =>
    obtain ⟨hquote, happ, hcolon⟩ := h c (by simp)
    have hstart : (start c).2.isUnquoted = true ∧ placeholderNames (start c).1 = [] := by
      simp only [start, hquote, happ, hcolon, if_false]
      repeat' split
      all_goals exact ⟨rfl, rfl⟩
    have hstep : (s.step c).2.isUnquoted = true ∧ placeholderNames (s.step c).1 = [] := by
      cases s with
      | blank => exact hstart
      | word read =>
        simp only [step]
        split
        · exact ⟨rfl, rfl⟩
        · simpa [restart, pending?] using hstart
      | number read =>
        simp only [step]
        split
        · exact ⟨rfl, rfl⟩
        · simpa [restart, pending?] using hstart
      | _ => cases hs
    obtain ⟨hstate, hnames⟩ := ih (fun d hd => h d (by simp [hd])) hstep.1
    exact ⟨hstate, by simp [run, hstep.2, hnames]⟩

theorem lex_of_unquoted {s : String} (h : ∀ c ∈ s.toList, c ≠ '"' ∧ c ≠ '\'' ∧ c ≠ ':') :
    (lex s.toList).isSome = true ∧ placeholderNames (tokensOf s) = [] := by
  obtain ⟨hstate, hnames⟩ := LexState.run_of_unquoted h (s := .blank) rfl
  have hpending : ∀ t : LexState, t.isUnquoted = true →
      ∃ p, t.pending? = some p ∧ placeholderNames p = [] := by
    intro t ht
    cases t with
    | blank | word _ | number _ => exact ⟨_, rfl, rfl⟩
    | _ => cases ht
  obtain ⟨p, hp, hpnames⟩ := hpending _ hstate
  have hlex := lex_eq_some_iff.2 ⟨p, hp, rfl⟩
  exact ⟨by rw [hlex]; rfl, by simp [tokensOf, hlex, hnames, hpnames]⟩

theorem Options.Unquoted.legible {options : Options} (h : options.Unquoted) : options.Legible :=
  ⟨(lex_of_unquoted h.textType).1, (lex_of_unquoted h.dayFunction).1,
    (lex_of_unquoted h.performanceHint).1⟩

/-! ## Parts of queries -/

variable {options : Options}

@[simp] theorem ColumnRef.placeholderNames_tokens (ref : ColumnRef) :
    placeholderNames ref.tokens = [] := by
  cases ref <;> rfl

theorem Expr.placeholderNames_tokens (ho : options.Unquoted) {e : Expr} (h : e.Suits options) :
    placeholderNames e.tokens = [] := by
  induction e with
  | column ref => exact ref.placeholderNames_tokens
  | aggregate function ref => cases function <;> simp [tokens, aggregateTokens]
  | countRows => rfl
  | castText type e ih =>
    obtain ⟨rfl, he⟩ := h
    simp [tokens, ih he, (lex_of_unquoted ho.textType).2]
  | day function e ih =>
    obtain ⟨rfl, he⟩ := h
    simp [tokens, ih he, (lex_of_unquoted ho.dayFunction).2]
  | upper e ih | numberText e ih | momentText e ih => simp [tokens, ih h]

theorem Comparison.placeholderNames_tokens (c : Comparison) : placeholderNames c.tokens = [] := by
  cases c <;> rfl

/-- The placeholders of a predicate. -/
theorem Predicate.placeholderNames_tokens (ho : options.Unquoted) {p : Predicate Placeholder}
    (h : p.Legible options) : placeholderNames p.tokens = p.values.map Placeholder.name := by
  have he : ∀ e ∈ p.exprs, placeholderNames e.tokens = [] := fun e he =>
    e.placeholderNames_tokens ho (h.suits e he)
  cases p with
  | always | never => rfl
  | isNull e | isNotNull e | isBlank e | isNotBlank e =>
    simp [tokens, values, he e (by simp [exprs])]
  | compare e c q | compareUpper e c q =>
    simp [tokens, values, he e (by simp [exprs]), c.placeholderNames_tokens, Placeholder.token]
  | like negated e q =>
    cases negated <;> simp [tokens, values, he e (by simp [exprs]), Placeholder.token]
  | between e low high => simp [tokens, values, he e (by simp [exprs]), Placeholder.token]
  | among negated e qs =>
    have hlist : placeholderNames ([Token.symbol ','].intercalate (qs.map fun q => [q.token])) =
        qs.map Placeholder.name := by
      rw [placeholderNames_intercalate rfl, List.flatMap_map, List.map_eq_flatMap]
      rfl
    cases negated <;> simp [tokens, values, he e (by simp [exprs]), hlist]

mutual

/-- The placeholders of a tree of predicates. -/
theorem placeholderNames_treeTokens (ho : options.Unquoted) :
    ∀ t : Tree (Predicate Placeholder), (∀ p ∈ t.leaves, p.Legible options) →
      placeholderNames (treeTokens t) = (t.leaves.flatMap Predicate.values).map Placeholder.name
  | .leaf p, h => by
    simp [p.placeholderNames_tokens ho (h p (by simp))]
  | .group logic children, h => by
    rw [treeTokens_group, placeholderNames_intercalate rfl, Tree.leaves_group]
    exact placeholderNames_memberTokens ho children (by simpa using h)

theorem placeholderNames_memberTokens (ho : options.Unquoted) :
    ∀ ts : List (Tree (Predicate Placeholder)), (∀ p ∈ Tree.leavesAll ts, p.Legible options) →
      (memberTokens ts).flatMap placeholderNames =
        ((Tree.leavesAll ts).flatMap Predicate.values).map Placeholder.name
  | [], _ => by simp
  | t :: ts, h => by
    have ht := placeholderNames_treeTokens ho t fun p hp => h p (by simp [hp])
    have hts := placeholderNames_memberTokens ho ts fun p hp => h p (by simp [hp])
    simp [ht, hts]

end

@[simp] theorem placeholderNames_identifierTokens (name : String) :
    placeholderNames (identifierTokens name) = [] := by
  unfold identifierTokens
  split <;> rfl

namespace Source

variable {s : Source Placeholder}

theorem placeholderNames_restrictionTokens (ho : options.Unquoted)
    (h : ∀ p ∈ s.predicates, p.Legible options) :
    placeholderNames s.restrictionTokens = s.values.map Placeholder.name := by
  have hload : (s.load.map Predicate.tokens).flatMap placeholderNames =
      (s.load.flatMap Predicate.values).map Placeholder.name := by
    rw [List.flatMap_map, List.map_flatMap]
    exact List.flatMap_congr fun p hp =>
      p.placeholderNames_tokens ho (h p (by simp [predicates, hp]))
  rw [restrictionTokens, placeholderNames_intercalate rfl, conjunctTokens, List.flatMap_append,
    hload, values, predicates, List.flatMap_append, List.map_append]
  congr 1
  cases hpushed : s.pushed with
  | none => rfl
  | some p =>
    have htree := placeholderNames_treeTokens ho p.tree fun q hq =>
      h q (by simp [predicates, clausePredicates, hpushed, hq])
    dsimp only
    split <;> simp [htree, clausePredicates]

/-- The placeholders of a source. -/
theorem placeholderNames_tokens (ho : options.Unquoted)
    (h : ∀ p ∈ s.predicates, p.Legible options) :
    placeholderNames s.tokens = s.values.map Placeholder.name := by
  have hwhere := placeholderNames_restrictionTokens ho h
  unfold tokens
  split
  · next hempty =>
    -- without conjuncts there are no predicates
    have hconjuncts : s.conjunctTokens = [] := by
      have hlength := (lexes_conjuncts ho.legible h).length_eq
      rw [List.isEmpty_iff.1 hempty] at hlength
      exact List.eq_nil_of_length_eq_zero hlength.symm
    rw [restrictionTokens, hconjuncts] at hwhere
    simpa using hwhere
  · simp [derivedTokens, hwhere]

end Source

theorem JoinClause.placeholderNames_tokens (ho : options.Unquoted) {j : JoinClause Placeholder}
    (h : ∀ p ∈ j.source.predicates, p.Legible options) :
    placeholderNames j.tokens = j.source.values.map Placeholder.name := by
  have hkind : placeholderNames j.kind.tokens = [] := by cases j.kind <;> rfl
  have hpairs : placeholderNames ([.word "AND"].intercalate (j.pairs.map pairTokens)) = [] :=
    placeholderNames_intercalate_map rfl fun pair _ => by simp [pairTokens]
  simp [tokens, hkind, hpairs, Source.placeholderNames_tokens ho h]

theorem SelectItem.placeholderNames_tokens (ho : options.Unquoted) {i : SelectItem}
    (h : i.expression.Suits options) : placeholderNames i.tokens = [] := by
  have hlabel : placeholderNames [i.label.token] = [] := by cases i.label <;> rfl
  simp [tokens, hlabel, Expr.placeholderNames_tokens ho h]

theorem placeholderNames_orderTokens (key : OrderKey × SortDirection) :
    placeholderNames (orderTokens key) = [] := by
  obtain ⟨key, direction⟩ := key
  cases key <;> simp [orderTokens, OrderKey.tokens]

/-! ## Queries -/

namespace Select

variable {s : Select Placeholder}

theorem placeholderNames_itemsTokens (ho : options.Unquoted) (h : s.Legible options) :
    placeholderNames s.itemsTokens = [] := by
  have hitems : placeholderNames ([Token.symbol ','].intercalate (s.items.map SelectItem.tokens)) =
      [] :=
    placeholderNames_intercalate_map rfl fun i hi =>
      SelectItem.placeholderNames_tokens ho (h.items i hi)
  unfold itemsTokens
  cases hhint : s.hint with
  | none => simp [hitems]
  | some hint =>
    obtain rfl := h.hint hint (by simp [hhint])
    simp [hitems, (lex_of_unquoted ho.performanceHint).2]

theorem placeholderNames_sourceTokens (ho : options.Unquoted) (h : s.Legible options) :
    s.sourceTokens.flatMap placeholderNames =
      (s.sources.flatMap Source.values).map Placeholder.name := by
  have hbase := Source.placeholderNames_tokens ho (h.source (List.mem_cons_self ..))
  have hjoins : (s.joins.map JoinClause.tokens).flatMap placeholderNames =
      ((s.joins.map JoinClause.source).flatMap Source.values).map Placeholder.name := by
    rw [List.flatMap_map, List.flatMap_map, List.map_flatMap]
    exact List.flatMap_congr fun j hj => JoinClause.placeholderNames_tokens ho (h.joinSource hj)
  simp [sourceTokens, sources, hbase, hjoins]

theorem placeholderNames_filterTokens (ho : options.Unquoted) (keyword : String)
    {clause : Option (Tree (Predicate Placeholder))}
    (h : ∀ p ∈ clausePredicates clause, p.Legible options) :
    (filterTokens keyword clause).flatMap placeholderNames =
      ((clausePredicates clause).flatMap Predicate.values).map Placeholder.name := by
  cases clause with
  | none => rfl
  | some tree =>
    simpa [filterTokens, clausePredicates] using placeholderNames_treeTokens ho tree h

theorem placeholderNames_groupTokens (s : Select Placeholder) :
    s.groupTokens.flatMap placeholderNames = [] := by
  have hrefs : placeholderNames ([Token.symbol ','].intercalate (s.groupBy.map ColumnRef.tokens)) =
      [] :=
    placeholderNames_intercalate_map rfl fun ref _ => ref.placeholderNames_tokens
  unfold groupTokens
  split <;> simp [hrefs]

theorem placeholderNames_orderByTokens (s : Select Placeholder) :
    s.orderByTokens.flatMap placeholderNames = [] := by
  have hkeys : placeholderNames ([Token.symbol ','].intercalate (s.orderBy.map orderTokens)) =
      [] :=
    placeholderNames_intercalate_map rfl fun key _ => placeholderNames_orderTokens key
  unfold orderByTokens
  split <;> simp [hkeys]

theorem placeholderNames_pagingTokens (s : Select Placeholder) :
    s.pagingTokens.flatMap placeholderNames = [] := by
  unfold pagingTokens
  split <;> simp

/-- The placeholders of a query for rows, in the order of its text. -/
theorem placeholderNames_tokens (ho : options.Unquoted) (h : s.Legible options) :
    placeholderNames s.tokens =
      (s.predicates.flatMap Predicate.values).map Placeholder.name := by
  have hsources : s.sources.flatMap Source.values =
      (s.sources.flatMap Source.predicates).flatMap Predicate.values := by
    rw [List.flatMap_assoc]
    rfl
  rw [tokens, placeholderNames_intercalate rfl, lineTokens]
  simp only [List.flatMap_append, List.flatMap_cons, placeholderNames_itemsTokens ho h,
    placeholderNames_sourceTokens ho h, placeholderNames_filterTokens ho _ h.rowFilter,
    placeholderNames_filterTokens ho _ h.groupFilter, placeholderNames_groupTokens,
    placeholderNames_orderByTokens, placeholderNames_pagingTokens, List.nil_append,
    List.append_nil, predicates, List.map_append, hsources]

end Select

/-- **The placeholders of a query in the order of its text.** -/
theorem Query.placeholderNames_tokens (ho : options.Unquoted) {q : Query}
    (h : q.select.Legible options) :
    placeholderNames q.tokens =
      (q.select.predicates.flatMap Predicate.values).map Placeholder.name := by
  cases q with
  | rows s => exact Select.placeholderNames_tokens ho h
  | countOf s =>
    simpa [tokens, select] using Select.placeholderNames_tokens ho h

/-! ## Compiled queries -/

/-- **Every placeholder of a compiled query stands in its text once, and the placeholders are the
names of the values.**  The texts of the options hold neither quotes nor colons, so that no
placeholder can come from them. -/
theorem Request.CompilesTo.placeholderNames_nodup_and_keys {settings : Settings} {r : Request}
    {c : Compiled} (ho : settings.options.Unquoted) (h : r.CompilesTo settings c) :
    ∃ ts, lex c.text.toList = some ts ∧ (placeholderNames ts).Nodup ∧
      ∀ name, name ∈ placeholderNames ts ↔ name ∈ c.values.keys := by
  obtain ⟨s, bound, q, -, hwritten, hspells⟩ := h.exists_query
  have hlegible := hwritten.legible
  have hnames := Query.placeholderNames_tokens ho hlegible
  have hperm := hspells.perm.map Placeholder.name
  rw [← hnames, List.map_map] at hperm
  refine ⟨q.tokens, ?_, hperm.nodup_iff.1 hspells.nodup, fun name => ?_⟩
  · rw [hspells.text]
    exact (Query.lexes_render ho.legible hlegible).eq
  · rw [hspells.values, Dict.mem_keys_ofList, List.map_map, ← hperm.mem_iff]
    rfl

theorem placeholderNames_nodup_and_keys_craftedPairs :
    craftedSettings.options.Unquoted ∧
      ∃ c, craftedPairs.CompilesTo craftedSettings c ∧
        ∃ ts, lex c.text.toList = some ts ∧ (placeholderNames ts).Nodup ∧
          ∀ name, name ∈ placeholderNames ts ↔ name ∈ c.values.keys := by
  have hunquoted : ∀ cs : List Char, (cs.all fun c => c != '"' && c != '\'' && c != ':') = true →
      ∀ c ∈ cs, c ≠ '"' ∧ c ≠ '\'' ∧ c ≠ ':' := by simp [and_assoc]
  have ho : craftedSettings.options.Unquoted :=
    ⟨hunquoted _ (by decide), hunquoted _ (by decide), hunquoted _ (by decide)⟩
  obtain ⟨c, hc⟩ := exists_compilesTo_craftedPairs
  exact ⟨ho, c, hc, hc.placeholderNames_nodup_and_keys ho⟩

end ReportSql
