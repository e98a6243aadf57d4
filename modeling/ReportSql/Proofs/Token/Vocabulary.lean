import ReportSql.Proofs.Query.Joined

/-!
# The vocabulary of query text

Under the default options the text of a query consists of fixed words, numbers, literals and
symbols, of the numbers of the page, of placeholders that are names, and of names between quotes.
The names between quotes are those of the request and the catalog, whatever characters they hold,
and no other token depends on them.

## Main definitions

* `Token.isFixed` — the tokens that stand for nothing of a request.
* `Token.IsExpected` — the tokens that the text of a request may consist of.
* `Scope.Quotes` — the names that are quoted for a scope.

## Main statements

* `Query.allExpected_tokens` — the tokens of a query are expected.
* `Request.CompilesTo.isExpected_tokens` — the tokens of a compiled query are expected.
-/

namespace ReportSql

open Text

/-! ## Fixed tokens -/

/-- The words of query text outside quotes. -/
def fixedWords : List String :=
  ["SELECT", "INMEMORY", "AS", "FROM", "INNER", "LEFT", "RIGHT", "FULL", "OUTER", "JOIN", "ON",
    "WHERE", "GROUP", "BY", "HAVING", "ORDER", "ASC", "DESC", "OFFSET", "ROWS", "FETCH", "NEXT",
    "ONLY", "sub", "COUNT", "DISTINCT", "SUM", "AVG", "MIN", "MAX", "CAST", "VARCHAR2", "TRUNC",
    "UPPER", "TO_CHAR", "IS", "NOT", "NULL", "AND", "OR", "LIKE", "IN", "BETWEEN"]

/-- The literals of query text. -/
def fixedLiterals : List String :=
  ["", "TM", "NLS_NUMERIC_CHARACTERS='. '", "YYYY-MM-DD HH24:MI:SS"]

/-- The symbols of query text. -/
def fixedSymbols : List Char := ['(', ')', ',', '.', '=', '!', '<', '>', '*', '/', '+']

/-- A token that stands for nothing of a request. -/
def Token.isFixed : Token → Bool
  | .word name => fixedWords.contains name
  | .number digits => ["0", "1", "4000"].contains digits
  | .literal text => fixedLiterals.contains text
  | .symbol c => fixedSymbols.contains c
  | .placeholder _ | .quoted _ => false

/-- A token that the text of a request may consist of, beside quoted names of some kind. -/
inductive Token.IsExpected (r : Request) (quotes : String → Prop) : Token → Prop where
  | fixed {t : Token} (h : t.isFixed = true) : t.IsExpected r quotes
  | offset : (Token.number r.offset.repr).IsExpected r quotes
  | limit : (Token.number r.limit.repr).IsExpected r quotes
  | placeholder {name : String} (h : isName name.toList = true) :
      (Token.placeholder name).IsExpected r quotes
  | quoted {name : String} (h : quotes name) : (Token.quoted name).IsExpected r quotes

/-- Tokens that the text of a request may consist of. -/
def AllExpected (r : Request) (quotes : String → Prop) (ts : List Token) : Prop :=
  ∀ t ∈ ts, t.IsExpected r quotes

namespace AllExpected

variable {r : Request} {quotes : String → Prop} {ts us : List Token}

theorem nil : AllExpected r quotes [] := by simp [AllExpected]

theorem fixed (h : ts.all Token.isFixed = true) : AllExpected r quotes ts :=
  fun t ht => .fixed (List.all_eq_true.1 h t ht)

theorem append (hts : AllExpected r quotes ts) (hus : AllExpected r quotes us) :
    AllExpected r quotes (ts ++ us) := by
  intro t ht
  rcases List.mem_append.1 ht with ht | ht
  · exact hts t ht
  · exact hus t ht

theorem intercalate {k : List Token} (hk : AllExpected r quotes k) {tss : List (List Token)}
    (h : ∀ ts ∈ tss, AllExpected r quotes ts) : AllExpected r quotes (k.intercalate tss) :=
  intercalate_induction nil (fun _ _ => append) hk h

theorem quoted {name : String} (h : quotes name) : AllExpected r quotes [.quoted name] := by
  simpa [AllExpected] using Token.IsExpected.quoted h

theorem placeholder {name : String} (h : isName name.toList = true) :
    AllExpected r quotes [.placeholder name] := by
  simpa [AllExpected] using Token.IsExpected.placeholder h

theorem dotted {qualifier column : String} (hqualifier : quotes qualifier)
    (hcolumn : quotes column) :
    AllExpected r quotes [.quoted qualifier, .symbol '.', .quoted column] := by
  have hdot : AllExpected r quotes [.symbol '.'] := .fixed (by decide)
  exact ((quoted hqualifier).append hdot).append (quoted hcolumn)

/-- Items between commas. -/
theorem separated {α : Type} {tokens : α → List Token} {as : List α}
    (h : ∀ a ∈ as, AllExpected r quotes (tokens a)) :
    AllExpected r quotes ([.symbol ','].intercalate (as.map tokens)) :=
  intercalate (fixed (by decide)) (List.forall_mem_map.2 h)

/-- Conditions joined by AND. -/
theorem conjoined {tss : List (List Token)} (h : ∀ ts ∈ tss, AllExpected r quotes ts) :
    AllExpected r quotes ([.word "AND"].intercalate tss) :=
  intercalate (fixed (by decide)) h

/-- What fixed tokens follow. -/
theorem followed (h : AllExpected r quotes ts) {after : List Token}
    (hafter : after.all Token.isFixed = true) : AllExpected r quotes (ts ++ after) :=
  h.append (fixed hafter)

/-- Expected tokens around fixed ones. -/
theorem around (h : AllExpected r quotes ts) {middle : List Token}
    (hmiddle : middle.all Token.isFixed = true) (h' : AllExpected r quotes us) :
    AllExpected r quotes (ts ++ middle ++ us) :=
  (h.followed hmiddle).append h'

/-- What stands between fixed tokens. -/
theorem between (h : AllExpected r quotes ts) {before after : List Token}
    (hbefore : before.all Token.isFixed = true) (hafter : after.all Token.isFixed = true) :
    AllExpected r quotes (before ++ ts ++ after) :=
  ((fixed hbefore).append h).followed hafter

end AllExpected

/-! ## Predicates -/

section Parts

variable {r : Request} {quotes : String → Prop} {options : Options} {names : ColumnRef → Prop}

theorem isFixed_textType : (tokensOf ({} : Options).textType).all Token.isFixed = true := by
  decide +kernel

theorem isFixed_dayFunction : (tokensOf ({} : Options).dayFunction).all Token.isFixed = true := by
  decide +kernel

theorem isFixed_performanceHint :
    (tokensOf ({} : Options).performanceHint).all Token.isFixed = true := by
  decide +kernel

theorem legible_default : ({} : Options).Legible :=
  ⟨by decide +kernel, by decide +kernel, by decide +kernel⟩

theorem Comparison.isFixed_tokens (c : Comparison) : c.tokens.all Token.isFixed = true := by
  cases c <;> decide

theorem allExpected_placeholders {ps : List Placeholder}
    (h : ∀ p ∈ ps, isName p.name.toList = true) :
    AllExpected r quotes ([.symbol ','].intercalate (ps.map fun p => [p.token])) :=
  .separated fun p hp => .placeholder (h p hp)

variable (ho : options = {}) (hnames : ∀ ref, names ref → AllExpected r quotes ref.tokens)
include ho hnames

/-- An expression over columns whose names are quoted. -/
theorem Expr.allExpected_tokens {e : Expr} (h : e.DrawnFrom options names) :
    AllExpected r quotes e.tokens := by
  subst ho
  obtain ⟨hsuits, hcolumn⟩ := h
  induction e with
  | column ref => exact hnames ref (hcolumn ref rfl)
  | aggregate function ref =>
    have href := hnames ref (hcolumn ref rfl)
    cases function <;> exact href.between (by decide) (by decide)
  | countRows => exact .fixed (by decide)
  | castText type e ih =>
    obtain ⟨rfl, he⟩ := hsuits
    have he := ih he hcolumn
    exact ((he.between (by decide) (by decide)).followed isFixed_textType).followed (by decide)
  | day function e ih =>
    obtain ⟨rfl, he⟩ := hsuits
    have he := ih he hcolumn
    exact ((AllExpected.fixed isFixed_dayFunction).around (by decide) he).followed (by decide)
  | upper e ih | numberText e ih | momentText e ih =>
    exact (ih hsuits hcolumn).between (by decide) (by decide)

/-- A predicate over columns whose names are quoted. -/
theorem Predicate.allExpected_tokens {p : Predicate Placeholder} (h : p.WrittenOver options names) :
    AllExpected r quotes p.tokens := by
  obtain ⟨hexprs, hnamed⟩ := h
  have he : ∀ e ∈ p.exprs, AllExpected r quotes e.tokens := fun e he =>
    Expr.allExpected_tokens ho hnames (hexprs e he)
  have hvalue : ∀ q ∈ p.values, AllExpected r quotes [q.token] := fun q hq =>
    .placeholder (hnamed q hq)
  cases p with
  | always | never => exact .fixed (by decide)
  | isNull e | isNotNull e => exact (he e (by simp [exprs])).followed (by decide)
  | isBlank e | isNotBlank e =>
    have hexpr := he e (by simp [exprs])
    exact ((hexpr.between (by decide) (by decide)).append hexpr).followed (by decide)
  | compare e c q =>
    have hexpr := he e (by simp [exprs])
    have hq := hvalue q (by simp [values])
    exact (hexpr.followed c.isFixed_tokens).append hq
  | compareUpper e c q =>
    have hexpr := he e (by simp [exprs])
    have hq := hvalue q (by simp [values])
    exact (((hexpr.between (by decide) (by decide)).followed c.isFixed_tokens).around (by decide)
      hq).followed (by decide)
  | like negated e q =>
    have hexpr := he e (by simp [exprs])
    have hq := hvalue q (by simp [values])
    cases negated <;>
      exact (((hexpr.between (by decide) (by decide)).followed (by decide)).around (by decide)
        hq).followed (by decide)
  | between e low high =>
    have hexpr := he e (by simp [exprs])
    have hlow := hvalue low (by simp [values])
    have hhigh := hvalue high (by simp [values])
    exact (hexpr.around (by decide) hlow).around (by decide) hhigh
  | among negated e qs =>
    have hexpr := he e (by simp [exprs])
    have hlist : AllExpected r quotes ([.symbol ','].intercalate (qs.map fun q => [q.token])) :=
      allExpected_placeholders hnamed
    cases negated <;>
      exact (hexpr.around (by decide) hlist).followed (by decide)

omit ho hnames

mutual

/-- A tree of predicates over columns whose names are quoted. -/
theorem allExpected_treeTokens (ho : options = {})
    (hnames : ∀ ref, names ref → AllExpected r quotes ref.tokens) :
    ∀ t : Tree (Predicate Placeholder), (∀ p ∈ t.leaves, p.WrittenOver options names) →
      AllExpected r quotes (treeTokens t)
  | .leaf p, h => by
    rw [treeTokens_leaf]
    exact Predicate.allExpected_tokens ho hnames (h p (by simp))
  | .group logic children, h => by
    have hlogic : [logic.token].all Token.isFixed = true := by cases logic <;> decide
    rw [treeTokens_group]
    have hmembers := allExpected_memberTokens ho hnames children (by simpa using h)
    exact .intercalate (.fixed hlogic) hmembers

theorem allExpected_memberTokens (ho : options = {})
    (hnames : ∀ ref, names ref → AllExpected r quotes ref.tokens) :
    ∀ ts : List (Tree (Predicate Placeholder)),
      (∀ p ∈ Tree.leavesAll ts, p.WrittenOver options names) →
        ∀ us ∈ memberTokens ts, AllExpected r quotes us
  | [], _ => by simp
  | t :: ts, h => by
    have ht := allExpected_treeTokens ho hnames t fun p hp => h p (by simp [hp])
    have hts := allExpected_memberTokens ho hnames ts fun p hp => h p (by simp [hp])
    rw [memberTokens_cons, List.forall_mem_cons]
    exact ⟨ht.between (by decide) (by decide), hts⟩

end

end Parts

/-! ## Names between quotes -/

/-- The parts of a name around its last dot, or the whole name when it has none. -/
def nameParts (name : String) : List String :=
  match qualifierAndColumn name with
  | some (qualifier, column) => [qualifier, column]
  | none => [name]

namespace Scope

/-- The columns of an occurrence that a scope reads: those that a reference stands for, those that a
join compares, and those of the loads of its dataset. -/
inductive Reads (settings : Settings) (s : Scope) : Occurrence → String → Prop where
  | reference {reference column : String} {i : Nat} {o : Occurrence}
      (hreference : reference ∈ s.request.references)
      (hcolumn : s.sources.resolveColumn reference = some (i, column))
      (ho : s.sources.occurrences[i]? = some o) : Reads settings s o column
  | left {j : PlannedJoin} {pair : JoinPair} (hj : j ∈ s.sources.joins)
      (hpair : pair ∈ j.spec.pairs) :
      Reads settings s (s.occurrence j.left) (lastSegment (trim pair.left))
  | right {j : PlannedJoin} {pair : JoinPair} (hj : j ∈ s.sources.joins)
      (hpair : pair ∈ j.spec.pairs) :
      Reads settings s (s.occurrence j.right) (lastSegment (trim pair.right))
  | load {o : Occurrence} {spec : PartitionSpec} {column : String} (ho : o ∈ s.joined)
      (hspec : settings.partition? o.dataset = some spec)
      (hcolumn : column = spec.loadIdColumn ∨ spec.loadTypeColumn = some column) :
      Reads settings s o column

/-- The names that are quoted for a scope: in upper case the parts of the tables of its occurrences,
the names of these, the columns that it reads and the names of its outputs, and as they are the
labels of the other output columns. -/
inductive Quotes (settings : Settings) (s : Scope) : String → Prop where
  | table {o : Occurrence} (ho : o ∈ s.joined) {part : String}
      (hpart : part ∈ nameParts (settings.physicalTable o.dataset)) : Quotes settings s (upper part)
  | occurrence {o : Occurrence} (ho : o ∈ s.joined) : Quotes settings s (upper o.name)
  | column {o : Occurrence} {column : String} (h : s.Reads settings o column) :
      Quotes settings s (upper (settings.physicalColumn o.dataset column))
  | output {o : AggregateOutput} (ho : o ∈ s.aggregates.outputs) : Quotes settings s (upper o.name)
  | label {name : String} (h : name ∈ s.labels) : Quotes settings s name
  | countLabel : Quotes settings s countLabel

end Scope

section Written

variable {settings : Settings} {r : Request} {s : Scope} {bound : List (Placeholder × BindValue)}

theorem allExpected_qualified {o : Occurrence} {column : String} (ho : o ∈ s.joined)
    (h : s.Reads settings o column) :
    AllExpected r (s.Quotes settings)
      (ColumnRef.qualified o.name (settings.physicalColumn o.dataset column)).tokens :=
  .dotted (.occurrence ho) (.column h)

theorem allExpected_bare {o : Occurrence} {column : String} (h : s.Reads settings o column) :
    AllExpected r (s.Quotes settings)
      (ColumnRef.bare (settings.physicalColumn o.dataset column)).tokens :=
  .quoted (.column h)

/-- A column of the request, qualified or bare. -/
theorem allExpected_isColumn (hs : s.PlannedFor settings r) {ref : ColumnRef}
    (h : s.IsColumn settings ref) :
    AllExpected r (s.Quotes settings) ref.tokens ∧
      AllExpected r (s.Quotes settings) ref.unqualified.tokens := by
  obtain ⟨reference, hreference, i, column, o, hcolumn, ho, rfl⟩ := h.exists_occurrence
  have hmem := hs.mem_joined (List.mem_of_getElem? ho)
  have hreads : s.Reads settings o column := .reference hreference hcolumn ho
  exact ⟨allExpected_qualified hmem hreads, allExpected_bare hreads⟩

theorem allExpected_identifierTokens {name : String} {quotes : String → Prop}
    (h : ∀ part ∈ nameParts name, quotes (upper part)) :
    AllExpected r quotes (identifierTokens name) := by
  unfold nameParts at h
  unfold identifierTokens
  cases hparts : qualifierAndColumn name with
  | none =>
    rw [hparts] at h
    exact .quoted (h name (by simp))
  | some parts =>
    rw [hparts] at h
    exact .dotted (h parts.1 (by simp)) (h parts.2 (by simp))

/-- The source of an occurrence. -/
theorem Source.WrittenFor.allExpected_tokens (ho : settings.options = {})
    (hs : s.PlannedFor settings r) {o : Occurrence} (hmem : o ∈ s.joined)
    {source : Source Placeholder} (h : source.WrittenFor settings s bound o) :
    AllExpected r (s.Quotes settings) source.tokens := by
  have htable : AllExpected r (s.Quotes settings) (identifierTokens source.table) := by
    rw [h.table]
    exact allExpected_identifierTokens fun part hpart => .table hmem hpart
  have hname : AllExpected r (s.Quotes settings) [.quoted (upper source.name)] := by
    rw [h.name]
    exact .quoted (.occurrence hmem)
  have hrestriction : AllExpected r (s.Quotes settings) source.restrictionTokens := by
    refine .conjoined (forall_conjunctTokens ?_ ?_ fun _ hts => hts.between (by decide) (by decide))
    · intro p hp
      refine p.allExpected_tokens ho ?_ (h.writtenOver_load p hp)
      rintro ref ⟨spec, column, hspec, hcolumn, rfl⟩
      exact allExpected_bare (.load hmem hspec hcolumn)
    · intro p hp
      refine allExpected_treeTokens ho ?_ p.tree (h.pushed p hp).1
      rintro ref ⟨column, hcolumn, rfl⟩
      exact (allExpected_isColumn hs hcolumn).2
  unfold tokens
  split
  · exact (htable.append .nil).append hname
  · exact ((htable.between (by decide) (by decide)).append hrestriction).around (by decide) hname

theorem JoinClause.WrittenFor.allExpected_tokens (ho : settings.options = {})
    (hs : s.PlannedFor settings r) {j : PlannedJoin} (hj : j ∈ s.sources.joins)
    {clause : JoinClause Placeholder} (h : clause.WrittenFor settings s bound j) :
    AllExpected r (s.Quotes settings) clause.tokens := by
  have hleft := hs.left_mem_joined hj
  have hright := Scope.right_mem_joined hj
  have hsource := h.source.allExpected_tokens ho hs hright
  have hpairs : AllExpected r (s.Quotes settings)
      ([.word "AND"].intercalate (clause.pairs.map pairTokens)) := by
    refine .conjoined fun ts hts => ?_
    rw [h.pairs, List.map_map, List.mem_map] at hts
    obtain ⟨pair, hpair, rfl⟩ := hts
    exact (allExpected_qualified hleft (.left hj hpair)).around (by decide)
      (allExpected_qualified hright (.right hj hpair))
  have hkind : clause.kind.tokens.all Token.isFixed = true := by cases clause.kind <;> decide
  exact ((AllExpected.fixed hkind).around (by decide) hsource).around (by decide) hpairs

namespace Select.WrittenFor

variable {q : Select Placeholder}

theorem allExpected_itemsTokens (ho : settings.options = {}) (hs : s.PlannedFor settings r)
    (h : q.WrittenFor settings s bound) : AllExpected r (s.Quotes settings) q.itemsTokens := by
  have hitems : AllExpected r (s.Quotes settings)
      ([Token.symbol ','].intercalate (q.items.map SelectItem.tokens)) := by
    refine .separated fun i hi => ?_
    obtain ⟨hexpression, hlabel⟩ := h.items i hi
    have he := i.expression.allExpected_tokens ho (fun _ href => (allExpected_isColumn hs href).1)
      hexpression
    have hl : AllExpected r (s.Quotes settings) [i.label.token] := by
      rcases hlabel with hlabel | hlabel
      · cases hname : i.label with
        | verbatim name =>
          rw [hname] at hlabel
          exact .quoted (.label hlabel)
        | folded name =>
          rw [hname] at hlabel
          obtain ⟨o, ho, rfl⟩ := hlabel
          exact .quoted (.output ho)
      · rw [hlabel]
        exact .quoted .countLabel
    exact he.around (by decide) hl
  unfold itemsTokens
  cases hhint : q.hint with
  | none => exact (AllExpected.fixed (by decide)).append hitems
  | some hint =>
    have hfixed : (tokensOf hint).all Token.isFixed = true := by
      rw [h.hint hint hhint, ho]
      exact isFixed_performanceHint
    exact (((AllExpected.fixed (by decide)).followed hfixed).append .nil).append hitems

theorem allExpected_sourceTokens (ho : settings.options = {}) (hs : s.PlannedFor settings r)
    (h : q.WrittenFor settings s bound) :
    ∀ ts ∈ q.sourceTokens, AllExpected r (s.Quotes settings) ts := by
  have hbase := h.base.allExpected_tokens ho hs List.mem_cons_self
  rw [sourceTokens, List.forall_mem_cons]
  refine ⟨(AllExpected.fixed (by decide)).append hbase, fun ts hts => ?_⟩
  obtain ⟨clause, hclause, rfl⟩ := List.mem_map.1 hts
  obtain ⟨j, hj, hwritten⟩ := exists_of_forall₂ h.joins clause hclause
  exact hwritten.allExpected_tokens ho hs hj

theorem allExpected_filterTokens (ho : settings.options = {}) (hs : s.PlannedFor settings r)
    {keyword : String} (hkeyword : Token.isFixed (.word keyword) = true)
    {clause : Option (Tree (Predicate Placeholder))}
    (hclause : ∀ p ∈ clausePredicates clause,
      p.WrittenOver settings.options (s.IsColumn settings)) :
    ∀ ts ∈ filterTokens keyword clause, AllExpected r (s.Quotes settings) ts := by
  cases clause with
  | none => simp [filterTokens]
  | some tree =>
    have htree := allExpected_treeTokens ho (fun _ href => (allExpected_isColumn hs href).1) tree
      hclause
    have hword : AllExpected r (s.Quotes settings) [.word keyword] := .fixed (by simp [hkeyword])
    intro ts hts
    rw [List.mem_singleton.1 hts]
    exact (hword.append .nil).append htree

theorem allExpected_groupTokens (hs : s.PlannedFor settings r)
    (h : q.WrittenFor settings s bound) :
    ∀ ts ∈ q.groupTokens, AllExpected r (s.Quotes settings) ts := by
  have hrefs : AllExpected r (s.Quotes settings)
      ([Token.symbol ','].intercalate (q.groupBy.map ColumnRef.tokens)) :=
    .separated fun ref href => (allExpected_isColumn hs (h.groupBy ref href)).1
  intro ts hts
  unfold groupTokens at hts
  split at hts
  · cases hts
  · rw [List.mem_singleton.1 hts]
    exact (AllExpected.fixed (by decide)).append hrefs

theorem allExpected_orderByTokens (hs : s.PlannedFor settings r)
    (h : q.WrittenFor settings s bound) :
    ∀ ts ∈ q.orderByTokens, AllExpected r (s.Quotes settings) ts := by
  have hkeys : AllExpected r (s.Quotes settings)
      ([Token.symbol ','].intercalate (q.orderBy.map orderTokens)) := by
    refine .separated fun (key, direction) hkey => ?_
    have hdirection : AllExpected r (s.Quotes settings) [.word direction.keyword] :=
      .fixed (by cases direction <;> decide)
    have horder := h.orderBy _ hkey
    cases key with
    | column ref => exact ((allExpected_isColumn hs horder).1.append .nil).append hdirection
    | output name =>
      obtain ⟨o, ho, rfl⟩ := horder
      exact ((AllExpected.quoted (.output ho)).append .nil).append hdirection
  intro ts hts
  unfold orderByTokens at hts
  split at hts
  · cases hts
  · rw [List.mem_singleton.1 hts]
    exact (AllExpected.fixed (by decide)).append hkeys

theorem allExpected_pagingTokens (hs : s.PlannedFor settings r)
    (h : q.WrittenFor settings s bound) :
    ∀ ts ∈ q.pagingTokens, AllExpected r (s.Quotes settings) ts := by
  intro ts hts
  unfold pagingTokens at hts
  cases hpaging : q.paging with
  | none => simp [hpaging] at hts
  | some p =>
    rw [hpaging] at hts
    rw [List.mem_singleton.1 hts, h.paging p hpaging, hs.request_eq]
    have hoffset : AllExpected r (s.Quotes settings) [.number r.offset.repr] := by
      simpa [AllExpected] using Token.IsExpected.offset
    have hlimit : AllExpected r (s.Quotes settings) [.number r.limit.repr] := by
      simpa [AllExpected] using Token.IsExpected.limit
    exact ((hoffset.between (by decide) (by decide)).append hlimit).followed (by decide)

/-- The tokens of a query for rows are expected. -/
theorem allExpected_tokens (ho : settings.options = {}) (hs : s.PlannedFor settings r)
    (h : q.WrittenFor settings s bound) : AllExpected r (s.Quotes settings) q.tokens := by
  refine AllExpected.intercalate .nil fun ts hts => ?_
  simp only [lineTokens, List.mem_append, List.mem_cons] at hts
  rcases hts with (((((rfl | hts) | hts) | hts) | hts) | hts) | hts
  · exact h.allExpected_itemsTokens ho hs
  · exact h.allExpected_sourceTokens ho hs ts hts
  · exact allExpected_filterTokens ho hs (by decide) h.rowFilter ts hts
  · exact h.allExpected_groupTokens hs ts hts
  · exact allExpected_filterTokens ho hs (by decide) h.groupFilter ts hts
  · exact h.allExpected_orderByTokens hs ts hts
  · exact h.allExpected_pagingTokens hs ts hts

end Select.WrittenFor

/-- **The tokens of a query are expected.** -/
theorem Query.allExpected_tokens (ho : settings.options = {}) (hs : s.PlannedFor settings r)
    {q : Query} (h : q.select.WrittenFor settings s bound) :
    AllExpected r (s.Quotes settings) q.tokens := by
  cases q with
  | rows q => exact Select.WrittenFor.allExpected_tokens ho hs h
  | countOf q =>
    have hselect := Select.WrittenFor.allExpected_tokens ho hs h
    have hlabel : AllExpected r (s.Quotes settings) [.quoted countLabel] := .quoted .countLabel
    exact (((hlabel.between (by decide) (by decide)).append hselect).followed (by decide))

end Written

/-! ## Compiled queries -/

/-- **No name leaves its quotes.**  Under the default options the text of a compiled query can be
cut into tokens, and whatever characters the names of the request and the catalog hold, the tokens
are the fixed ones, the numbers of the page, placeholders that are names, and these names between
quotes. -/
theorem Request.CompilesTo.isExpected_tokens {settings : Settings} {r : Request} {c : Compiled}
    (ho : settings.options = {}) (h : r.CompilesTo settings c) :
    ∃ (s : Scope) (ts : List Token), s.PlannedFor settings r ∧ lex c.text.toList = some ts ∧
      ∀ t ∈ ts, t.IsExpected r (s.Quotes settings) := by
  obtain ⟨s, bound, q, hs, hwritten, hspells⟩ := h.exists_query
  have hlegible : settings.options.Legible := by
    rw [ho]
    exact legible_default
  refine ⟨s, q.tokens, hs, ?_, q.allExpected_tokens ho hs hwritten⟩
  rw [hspells.text]
  exact (Query.lexes_render hlegible hwritten.legible).eq

theorem isExpected_tokens_craftedPairs :
    craftedSettings.options = {} ∧
      ∃ c, craftedPairs.CompilesTo craftedSettings c ∧
        ∃ (s : Scope) (ts : List Token), s.PlannedFor craftedSettings craftedPairs ∧
          lex c.text.toList = some ts ∧
            ∀ t ∈ ts, t.IsExpected craftedPairs (s.Quotes craftedSettings) := by
  obtain ⟨c, hc⟩ := exists_compilesTo_craftedPairs
  exact ⟨rfl, c, hc, hc.isExpected_tokens rfl⟩

end ReportSql
