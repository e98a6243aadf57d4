import ReportSql.Proofs.Token.Predicate

/-!
# Tokens of statements

The tokens of the clauses of a query and of whole queries, and that the text of a query has these
tokens.

## Main definitions

* `Source.tokens`, `Select.tokens`, `Query.tokens` — the tokens of sources and queries.
* `Select.Legible` — queries of a dialect with placeholders that are names.

## Main statements

* `Query.lexes_render` — the text of a query has its tokens.
-/

namespace ReportSql

open Text

variable {options : Options}

/-! ## Joined tokens -/

/-- What holds of no tokens, and of tokens one after another if of both, holds of tokens with a
separator between them. -/
theorem intercalate_induction {motive : List Token → Prop} (nil : motive [])
    (append : ∀ ts us, motive ts → motive us → motive (ts ++ us)) {k : List Token}
    (hk : motive k) {tss : List (List Token)} (h : ∀ ts ∈ tss, motive ts) :
    motive (k.intercalate tss) := by
  induction tss with
  | nil => exact nil
  | cons ts tss ih =>
    have hts := h ts (by simp)
    have htss := ih fun us hus => h us (by simp [hus])
    cases tss with
    | nil => simpa [List.intercalate] using hts
    | cons us tss =>
      rw [List.intercalate_cons_cons]
      exact append _ _ (append _ _ hts hk) htss

/-! ## Sources -/

/-- The tokens of a name of one or two parts. -/
def identifierTokens (name : String) : List Token :=
  match qualifierAndColumn name with
  | some (qualifier, column) => [.quoted (upper qualifier), .symbol '.', .quoted (upper column)]
  | none => [.quoted (upper name)]

theorem lexes_quoteIdentifier (name : String) :
    Lexes (quoteIdentifier name) (identifierTokens name) := by
  unfold quoteIdentifier identifierTokens
  cases qualifierAndColumn name with
  | some parts => exact (lexes_quotePart parts.1).around "." [.symbol '.'] (lexes_quotePart parts.2)
  | none => exact lexes_quotePart name

namespace Source

/-- The tokens of the conjuncts of a source's restriction. -/
def conjunctTokens (s : Source Placeholder) : List (List Token) :=
  s.load.map Predicate.tokens ++
    match s.pushed with
    | none => []
    | some p =>
      if p.isChoice && !s.load.isEmpty then [[.symbol '('] ++ treeTokens p.tree ++ [.symbol ')']]
      else [treeTokens p.tree]

/-- The tokens of the restriction of a source. -/
def restrictionTokens (s : Source Placeholder) : List Token :=
  [.word "AND"].intercalate s.conjunctTokens

/-- The tokens of a table under a name that is restricted to some rows. -/
def derivedTokens (table : String) (restriction : List Token) (name : String) : List Token :=
  [.symbol '(', .word "SELECT", .symbol '*', .word "FROM"] ++ identifierTokens table ++
    [.word "WHERE"] ++ restriction ++ [.symbol ')'] ++ [.quoted (upper name)]

/-- The tokens of a source. -/
def tokens (s : Source Placeholder) : List Token :=
  if s.conjuncts.isEmpty then identifierTokens s.table ++ [] ++ [.quoted (upper s.name)]
  else derivedTokens s.table s.restrictionTokens s.name

variable {s : Source Placeholder}

/-- What holds of the conditions on loads and of what is moved into a source, with or without
parentheses, holds of every conjunct. -/
theorem forall_conjunctTokens {motive : List Token → Prop}
    (hload : ∀ p ∈ s.load, motive p.tokens)
    (hpushed : ∀ p, s.pushed = some p → motive (treeTokens p.tree))
    (henclosed : ∀ ts, motive ts → motive ([Token.symbol '('] ++ ts ++ [Token.symbol ')'])) :
    ∀ ts ∈ s.conjunctTokens, motive ts := by
  intro ts hts
  rw [conjunctTokens, List.mem_append] at hts
  rcases hts with hts | hts
  · obtain ⟨p, hp, rfl⟩ := List.mem_map.1 hts
    exact hload p hp
  · cases hp : s.pushed with
    | none => simp [hp] at hts
    | some p =>
      rw [hp] at hts
      dsimp only at hts
      split at hts
      · rw [List.mem_singleton.1 hts]
        exact henclosed _ (hpushed p hp)
      · rw [List.mem_singleton.1 hts]
        exact hpushed p hp

theorem lexes_conjuncts (ho : options.Legible) (h : ∀ p ∈ s.predicates, p.Legible options) :
    List.Forall₂ Lexes s.conjuncts s.conjunctTokens := by
  have hload : List.Forall₂ Lexes (s.load.map Predicate.render) (s.load.map Predicate.tokens) :=
    Lexes.forall₂_map fun p hp => p.lexes_render ho (h p (by simp [predicates, hp]))
  unfold conjuncts conjunctTokens
  refine List.rel_append hload ?_
  cases hpushed : s.pushed with
  | none => exact .nil
  | some p =>
    have htree := lexes_renderTree ho p.tree fun q hq =>
      h q (by simp [predicates, clausePredicates, hpushed, hq])
    dsimp only
    split
    · exact .cons ((htree.prefixed "(" [.symbol '(']).suffixed ")" [.symbol ')']) .nil
    · exact .cons htree .nil

/-- The text of a source has its tokens. -/
theorem lexes_render (ho : options.Legible) (h : ∀ p ∈ s.predicates, p.Legible options) :
    Lexes s.render s.tokens := by
  have htable := lexes_quoteIdentifier s.table
  have hname := lexes_quotePart s.name
  unfold render tokens
  by_cases hempty : s.conjuncts.isEmpty
  · rw [if_pos hempty, if_pos hempty]
    exact htable.around " " [] hname
  · rw [if_neg hempty, if_neg hempty]
    have hwhere := Lexes.intercalate (lexes_conjuncts ho h) " AND " [.word "AND"]
    have hfrom := htable.prefixed "(SELECT * FROM "
      [.symbol '(', .word "SELECT", .symbol '*', .word "FROM"]
    exact (hfrom.around " WHERE " [.word "WHERE"] hwhere).around ") " [.symbol ')'] hname

end Source

/-! ## Joins -/

/-- The tokens of the keyword of a kind of join. -/
def JoinKind.tokens : JoinKind → List Token
  | .inner => [.word "INNER"]
  | .left => [.word "LEFT"]
  | .right => [.word "RIGHT"]
  | .outer => [.word "FULL", .word "OUTER"]

theorem JoinKind.lexes_keyword (kind : JoinKind) : Lexes kind.keyword kind.tokens := by
  cases kind <;> exact ⟨rfl⟩

namespace JoinClause

/-- The tokens of a pair of columns that are equal. -/
def pairTokens (pair : ColumnRef × ColumnRef) : List Token :=
  pair.1.tokens ++ [.symbol '='] ++ pair.2.tokens

/-- The tokens of a join. -/
def tokens (j : JoinClause Placeholder) : List Token :=
  j.kind.tokens ++ [.word "JOIN"] ++ j.source.tokens ++ [.word "ON"] ++
    [.word "AND"].intercalate (j.pairs.map pairTokens)

theorem lexes_render (ho : options.Legible) {j : JoinClause Placeholder}
    (h : ∀ p ∈ j.source.predicates, p.Legible options) : Lexes j.render j.tokens := by
  have hpairs : List.Forall₂ Lexes
      (j.pairs.map fun pair => pair.1.render ++ " = " ++ pair.2.render)
      (j.pairs.map pairTokens) :=
    Lexes.forall₂_map fun pair _ =>
      pair.1.lexes_render.around " = " [.symbol '='] pair.2.lexes_render
  have hjoin := j.kind.lexes_keyword.around " JOIN " [.word "JOIN"] (Source.lexes_render ho h)
  exact hjoin.around " ON " [.word "ON"] (Lexes.intercalate hpairs " AND " [.word "AND"])

end JoinClause

/-! ## Outputs and order -/

/-- The token of a label. -/
def Label.token : Label → Token
  | .verbatim name => .quoted name
  | .folded name => .quoted (upper name)

theorem Label.lexes_render (label : Label) : Lexes label.render [label.token] := by
  cases label with
  | verbatim name => exact lexes_quoteLabel name
  | folded name => exact lexes_quotePart name

namespace SelectItem

/-- The tokens of an output column. -/
def tokens (i : SelectItem) : List Token := i.expression.tokens ++ [.word "AS"] ++ [i.label.token]

theorem lexes_render (ho : options.Legible) {i : SelectItem} (h : i.expression.Suits options) :
    Lexes i.render i.tokens :=
  (i.expression.lexes_render ho h).around " AS " [.word "AS"] i.label.lexes_render

end SelectItem

/-- The tokens of an order without its direction. -/
def OrderKey.tokens : OrderKey → List Token
  | .column ref => ref.tokens
  | .output name => [.quoted (upper name)]

theorem OrderKey.lexes_render (key : OrderKey) : Lexes key.render key.tokens := by
  cases key with
  | column ref => exact ref.lexes_render
  | output name => exact lexes_quotePart name

/-- The tokens of an order with its direction. -/
def orderTokens (key : OrderKey × SortDirection) : List Token :=
  key.1.tokens ++ [] ++ [.word key.2.keyword]

theorem lexes_order (key : OrderKey × SortDirection) :
    Lexes (key.1.render ++ " " ++ key.2.keyword) (orderTokens key) := by
  have hdirection : Lexes key.2.keyword [.word key.2.keyword] := by
    cases key.2 <;> exact ⟨rfl⟩
  exact key.1.lexes_render.around " " [] hdirection

/-! ## Queries -/

namespace Select

variable (s : Select Placeholder)

/-- The tokens of the line of the output columns. -/
def itemsTokens : List Token :=
  let items := [Token.symbol ','].intercalate (s.items.map SelectItem.tokens)
  match s.hint with
  | some hint => [.word "SELECT"] ++ tokensOf hint ++ [] ++ items
  | none => [.word "SELECT"] ++ items

/-- The tokens of the lines of the sources. -/
def sourceTokens : List (List Token) :=
  ([.word "FROM"] ++ s.base.tokens) :: s.joins.map JoinClause.tokens

/-- The tokens of the line of a filter. -/
def filterTokens (keyword : String) : Option (Tree (Predicate Placeholder)) → List (List Token)
  | none => []
  | some tree => [[.word keyword] ++ [] ++ treeTokens tree]

/-- The tokens of the line of the grouping. -/
def groupTokens : List (List Token) :=
  if s.groupBy.isEmpty then []
  else
    [[.word "GROUP", .word "BY"] ++
      [Token.symbol ','].intercalate (s.groupBy.map ColumnRef.tokens)]

/-- The tokens of the line of the order. -/
def orderByTokens : List (List Token) :=
  if s.orderBy.isEmpty then []
  else [[.word "ORDER", .word "BY"] ++ [Token.symbol ','].intercalate (s.orderBy.map orderTokens)]

/-- The tokens of the line of the page. -/
def pagingTokens : List (List Token) :=
  match s.paging with
  | none => []
  | some p =>
    [[.word "OFFSET"] ++ [.number p.offset.repr] ++ [.word "ROWS", .word "FETCH", .word "NEXT"] ++
      [.number p.limit.repr] ++ [.word "ROWS", .word "ONLY"]]

/-- The tokens of the lines of a query, in order. -/
def lineTokens : List (List Token) :=
  s.itemsTokens :: s.sourceTokens ++ filterTokens "WHERE" s.rowFilter ++ s.groupTokens ++
    filterTokens "HAVING" s.groupFilter ++ s.orderByTokens ++ s.pagingTokens

/-- The tokens of a query. -/
def tokens : List Token := [].intercalate s.lineTokens

/-- A query of a dialect with placeholders that are names. -/
structure Legible (options : Options) (s : Select Placeholder) : Prop where
  hint : ∀ hint ∈ s.hint, hint = options.performanceHint
  items : ∀ i ∈ s.items, i.expression.Suits options
  predicates : ∀ p ∈ s.predicates, p.Legible options

variable {s}

namespace Legible

/-- The predicates of a source of a query. -/
theorem source (h : s.Legible options) {source : Source Placeholder} (hs : source ∈ s.sources) :
    ∀ p ∈ source.predicates, p.Legible options := by
  intro p hp
  have hmem := List.mem_flatMap.2 ⟨source, hs, hp⟩
  exact h.predicates p (by simp [Select.predicates, hmem])

/-- The predicates of the source of a join. -/
theorem joinSource (h : s.Legible options) {j : JoinClause Placeholder} (hj : j ∈ s.joins) :
    ∀ p ∈ j.source.predicates, p.Legible options := by
  refine h.source ?_
  simp only [sources, List.mem_cons, List.mem_map]
  exact .inr ⟨j, hj, rfl⟩

/-- The predicates of the clause on rows. -/
theorem rowFilter (h : s.Legible options) :
    ∀ p ∈ clausePredicates s.rowFilter, p.Legible options :=
  fun p hp => h.predicates p (by simp [Select.predicates, hp])

/-- The predicates of the clause on groups. -/
theorem groupFilter (h : s.Legible options) :
    ∀ p ∈ clausePredicates s.groupFilter, p.Legible options :=
  fun p hp => h.predicates p (by simp [Select.predicates, hp])

end Legible

theorem lexes_itemsLine (ho : options.Legible) (h : s.Legible options) :
    Lexes s.itemsLine s.itemsTokens := by
  have hparts := Lexes.forall₂_map fun i hi => SelectItem.lexes_render ho (h.items i hi)
  have hitems := Lexes.intercalate hparts ", " [.symbol ',']
  unfold itemsLine itemsTokens
  cases hhint : s.hint with
  | none => exact hitems.prefixed "SELECT " [.word "SELECT"]
  | some hint =>
    obtain rfl := h.hint hint (by simp [hhint])
    have hselect := (lexes_tokensOf ho.performanceHint).prefixed "SELECT " [.word "SELECT"]
    exact hselect.around " " [] hitems

theorem lexes_sourceLines (ho : options.Legible) (h : s.Legible options) :
    List.Forall₂ Lexes s.sourceLines s.sourceTokens := by
  have hbase := Source.lexes_render ho (h.source (List.mem_cons_self ..))
  have hjoins := Lexes.forall₂_map fun j hj => JoinClause.lexes_render ho (h.joinSource hj)
  exact .cons (hbase.prefixed "FROM " [.word "FROM"]) hjoins

theorem lexes_filterLines (ho : options.Legible) {keyword : String}
    (hkeyword : Lexes keyword [.word keyword]) {clause : Option (Tree (Predicate Placeholder))}
    (h : ∀ p ∈ clausePredicates clause, p.Legible options) :
    List.Forall₂ Lexes (filterLines keyword clause) (filterTokens keyword clause) := by
  cases clause with
  | none => exact .nil
  | some tree =>
    exact .cons (hkeyword.around " " [] (lexes_renderTree ho tree h)) .nil

theorem lexes_groupLines (s : Select Placeholder) :
    List.Forall₂ Lexes s.groupLines s.groupTokens := by
  have hparts := Lexes.forall₂_map fun ref (_ : ref ∈ s.groupBy) => ref.lexes_render
  have hrefs := Lexes.intercalate hparts ", " [.symbol ',']
  unfold groupLines groupTokens
  split
  · exact .nil
  · exact .cons (hrefs.prefixed "GROUP BY " [.word "GROUP", .word "BY"]) .nil

theorem lexes_orderLines (s : Select Placeholder) :
    List.Forall₂ Lexes s.orderLines s.orderByTokens := by
  have hparts := Lexes.forall₂_map fun key (_ : key ∈ s.orderBy) => lexes_order key
  have hkeys := Lexes.intercalate hparts ", " [.symbol ',']
  unfold orderLines orderByTokens
  split
  · exact .nil
  · exact .cons (hkeys.prefixed "ORDER BY " [.word "ORDER", .word "BY"]) .nil

theorem lexes_pagingLines (s : Select Placeholder) :
    List.Forall₂ Lexes s.pagingLines s.pagingTokens := by
  unfold pagingLines pagingTokens
  cases s.paging with
  | none => exact .nil
  | some p =>
    have hoffset := (lexes_repr p.offset).prefixed "OFFSET " [.word "OFFSET"]
    have hlimit := hoffset.around " ROWS FETCH NEXT "
      [.word "ROWS", .word "FETCH", .word "NEXT"] (lexes_repr p.limit)
    exact .cons (hlimit.suffixed " ROWS ONLY" [.word "ROWS", .word "ONLY"]) .nil

/-- The text of a query for rows has its tokens. -/
theorem lexes_render (ho : options.Legible) (h : s.Legible options) :
    Lexes s.render s.tokens := by
  have hwhere : List.Forall₂ Lexes (filterLines "WHERE" s.rowFilter)
      (filterTokens "WHERE" s.rowFilter) := lexes_filterLines ho ⟨rfl⟩ h.rowFilter
  have hhaving : List.Forall₂ Lexes (filterLines "HAVING" s.groupFilter)
      (filterTokens "HAVING" s.groupFilter) := lexes_filterLines ho ⟨rfl⟩ h.groupFilter
  have hlines : List.Forall₂ Lexes s.lines s.lineTokens := by
    have hfrom := List.Forall₂.cons (lexes_itemsLine ho h) (lexes_sourceLines ho h)
    have hgrouped := List.rel_append (List.rel_append hfrom hwhere) (lexes_groupLines s)
    have hordered := List.rel_append (List.rel_append hgrouped hhaving) (lexes_orderLines s)
    exact List.rel_append hordered (lexes_pagingLines s)
  exact Lexes.intercalate hlines "\n" []

end Select

namespace Query

/-- The tokens of a query for rows or for their number. -/
def tokens : Query → List Token
  | .rows s => s.tokens
  | .countOf s =>
    [.word "SELECT", .word "COUNT", .symbol '(', .symbol '*', .symbol ')', .word "AS"] ++
      [.quoted countLabel] ++ [.word "FROM", .symbol '('] ++ s.tokens ++
      [.symbol ')', .word "sub"]

/-- **The text of a query has its tokens.** -/
theorem lexes_render (ho : options.Legible) {q : Query} (h : q.select.Legible options) :
    Lexes q.render q.tokens := by
  cases q with
  | rows s => exact Select.lexes_render ho h
  | countOf s =>
    have hcount := (lexes_quoteLabel countLabel).prefixed "SELECT COUNT(*) AS "
      [.word "SELECT", .word "COUNT", .symbol '(', .symbol '*', .symbol ')', .word "AS"]
    have hfrom := hcount.around " FROM (\n" [.word "FROM", .symbol '('] (Select.lexes_render ho h)
    exact hfrom.suffixed "\n) sub" [.symbol ')', .word "sub"]

end Query

end ReportSql
