import ReportSql.Proofs.Query.Parts
import ReportSql.Proofs.Token.Lexer

/-!
# Tokens of predicates

The tokens of columns, expressions, predicates and trees of predicates, and that their texts have
these tokens.

## Main definitions

* `Expr.tokens`, `Predicate.tokens`, `treeTokens` — the tokens of expressions, predicates and trees.
* `Options.Legible` — options whose texts close every quote.
* `Predicate.Legible` — predicates of a dialect with placeholders that are names.

## Main statements

* `Expr.lexes_render`, `Predicate.lexes_render`, `lexes_renderTree` — texts have their tokens.
-/

namespace ReportSql

open Text

/-! ## Columns and expressions -/

namespace ColumnRef

/-- The tokens of a column. -/
def tokens : ColumnRef → List Token
  | .bare column => [.quoted (upper column)]
  | .qualified source column => [.quoted (upper source), .symbol '.', .quoted (upper column)]

theorem lexes_render (ref : ColumnRef) : Lexes ref.render ref.tokens := by
  cases ref with
  | bare column => exact lexes_quotePart column
  | qualified source column =>
    exact (lexes_quotePart source).around "." [.symbol '.'] (lexes_quotePart column)

end ColumnRef

/-- Options whose texts outside quotes close every quote that they open. -/
structure Options.Legible (options : Options) : Prop where
  textType : (lex options.textType.toList).isSome = true
  dayFunction : (lex options.dayFunction.toList).isSome = true
  performanceHint : (lex options.performanceHint.toList).isSome = true

namespace Expr

/-- The tokens of an aggregate of a column. -/
def aggregateTokens (function : AggregateFunction) (ref : ColumnRef) : List Token :=
  match function with
  | .distinctCount =>
    [.word "COUNT", .symbol '(', .word "DISTINCT"] ++ ref.tokens ++ [.symbol ')']
  | f => [.word f.keyword] ++ [.symbol '('] ++ ref.tokens ++ [.symbol ')']

/-- The tokens of an expression. -/
def tokens : Expr → List Token
  | .column ref => ref.tokens
  | .aggregate function ref => aggregateTokens function ref
  | .countRows => [.word "COUNT", .symbol '(', .symbol '*', .symbol ')']
  | .castText type e =>
    [.word "CAST", .symbol '('] ++ e.tokens ++ [.word "AS"] ++ tokensOf type ++ [.symbol ')']
  | .day function e => tokensOf function ++ [.symbol '('] ++ e.tokens ++ [.symbol ')']
  | .upper e => [.word "UPPER", .symbol '('] ++ e.tokens ++ [.symbol ')']
  | .numberText e =>
    [.word "TO_CHAR", .symbol '('] ++ e.tokens ++
      [.symbol ',', .literal "TM", .symbol ',', .literal "NLS_NUMERIC_CHARACTERS='. '", .symbol ')']
  | .momentText e =>
    [.word "TO_CHAR", .symbol '('] ++ e.tokens ++
      [.symbol ',', .literal "YYYY-MM-DD HH24:MI:SS", .symbol ')']

theorem lexes_renderAggregate (function : AggregateFunction) (ref : ColumnRef) :
    Lexes (renderAggregate function ref) (aggregateTokens function ref) := by
  have hcall : ∀ f : AggregateFunction, Lexes (f.keyword ++ "(" ++ ref.render ++ ")")
      ([Token.word f.keyword] ++ [Token.symbol '('] ++ ref.tokens ++ [Token.symbol ')']) := by
    intro f
    have hkeyword : Lexes f.keyword [.word f.keyword] := by cases f <;> exact ⟨rfl⟩
    exact (hkeyword.around "(" [.symbol '('] ref.lexes_render).suffixed ")" [.symbol ')']
  cases function with
  | distinctCount =>
    have hopen := ref.lexes_render.prefixed "COUNT(DISTINCT "
      [.word "COUNT", .symbol '(', .word "DISTINCT"]
    exact hopen.suffixed ")" [.symbol ')']
  | _ => exact hcall _

/-- **The text of an expression has its tokens.** -/
theorem lexes_render {options : Options} (ho : options.Legible) {e : Expr}
    (h : e.Suits options) : Lexes e.render e.tokens := by
  induction e with
  | column ref => exact ref.lexes_render
  | aggregate function ref => exact lexes_renderAggregate function ref
  | countRows => exact ⟨rfl⟩
  | castText type e ih =>
    obtain ⟨rfl, he⟩ := h
    have hopen := (ih he).prefixed "CAST(" [.word "CAST", .symbol '(']
    have htype := hopen.around " AS " [.word "AS"] (lexes_tokensOf ho.textType)
    exact htype.suffixed ")" [.symbol ')']
  | day function e ih =>
    obtain ⟨rfl, he⟩ := h
    have hcall := (lexes_tokensOf ho.dayFunction).around "(" [.symbol '('] (ih he)
    exact hcall.suffixed ")" [.symbol ')']
  | upper e ih =>
    have hopen := (ih h).prefixed "UPPER(" [.word "UPPER", .symbol '(']
    exact hopen.suffixed ")" [.symbol ')']
  | numberText e ih =>
    have hopen := (ih h).prefixed "TO_CHAR(" [.word "TO_CHAR", .symbol '(']
    exact hopen.suffixed ", 'TM', 'NLS_NUMERIC_CHARACTERS=''. ''')"
      [.symbol ',', .literal "TM", .symbol ',', .literal "NLS_NUMERIC_CHARACTERS='. '", .symbol ')']
  | momentText e ih =>
    have hopen := (ih h).prefixed "TO_CHAR(" [.word "TO_CHAR", .symbol '(']
    exact hopen.suffixed ", 'YYYY-MM-DD HH24:MI:SS')"
      [.symbol ',', .literal "YYYY-MM-DD HH24:MI:SS", .symbol ')']

end Expr

/-! ## Predicates -/

namespace Comparison

/-- The tokens of the symbol of a comparison. -/
def tokens : Comparison → List Token
  | .equal => [.symbol '=']
  | .notEqual => [.symbol '!', .symbol '=']
  | .greater => [.symbol '>']
  | .atLeast => [.symbol '>', .symbol '=']
  | .less => [.symbol '<']
  | .atMost => [.symbol '<', .symbol '=']

theorem lexes_symbol (c : Comparison) : Lexes c.symbol c.tokens := by
  cases c <;> exact ⟨rfl⟩

end Comparison

/-- A placeholder as a token. -/
def Placeholder.token (p : Placeholder) : Token := .placeholder p.name

namespace Predicate

/-- The tokens of a predicate. -/
def tokens : Predicate Placeholder → List Token
  | .always => [.number "1", .symbol '=', .number "1"]
  | .never => [.number "1", .symbol '=', .number "0"]
  | .isNull e => e.tokens ++ [.word "IS", .word "NULL"]
  | .isNotNull e => e.tokens ++ [.word "IS", .word "NOT", .word "NULL"]
  | .isBlank e =>
    [.symbol '('] ++ e.tokens ++ [.word "IS", .word "NULL", .word "OR"] ++ e.tokens ++
      [.symbol '=', .literal "", .symbol ')']
  | .isNotBlank e =>
    [.symbol '('] ++ e.tokens ++ [.word "IS", .word "NOT", .word "NULL", .word "AND"] ++
      e.tokens ++ [.symbol '!', .symbol '=', .literal "", .symbol ')']
  | .compare e c p => e.tokens ++ c.tokens ++ [p.token]
  | .compareUpper e c p =>
    [.word "UPPER", .symbol '('] ++ e.tokens ++ [.symbol ')'] ++ c.tokens ++
      [.word "UPPER", .symbol '('] ++ [p.token] ++ [.symbol ')']
  | .like negated e p =>
    [.word "UPPER", .symbol '('] ++ e.tokens ++ [.symbol ')'] ++
      (if negated then [.word "NOT", .word "LIKE"] else [.word "LIKE"]) ++
      [.word "UPPER", .symbol '('] ++ [p.token] ++ [.symbol ')']
  | .between e low high =>
    e.tokens ++ [.word "BETWEEN"] ++ [low.token] ++ [.word "AND"] ++ [high.token]
  | .among negated e ps =>
    e.tokens ++
      (if negated then [.word "NOT", .word "IN", .symbol '('] else [.word "IN", .symbol '(']) ++
      [Token.symbol ','].intercalate (ps.map fun p => [p.token]) ++ [.symbol ')']

/-- A predicate of a dialect whose placeholders are names. -/
structure Legible (options : Options) (p : Predicate Placeholder) : Prop where
  suits : ∀ e ∈ p.exprs, e.Suits options
  names : ∀ q ∈ p.values, isName q.name.toList = true

theorem lexes_placeholders {ps : List Placeholder}
    (h : ∀ p ∈ ps, isName p.name.toList = true) :
    Lexes (", ".intercalate (ps.map Placeholder.render))
      ([Token.symbol ','].intercalate (ps.map fun p => [p.token])) := by
  have hparts := Lexes.forall₂_map fun p hp => lexes_placeholder (h p hp)
  exact Lexes.intercalate hparts ", " [.symbol ',']

/-- **The text of a predicate has its tokens.** -/
theorem lexes_render {options : Options} (ho : options.Legible) {p : Predicate Placeholder}
    (h : p.Legible options) : Lexes p.render p.tokens := by
  obtain ⟨hsuits, hnames⟩ := h
  have he : ∀ e ∈ p.exprs, Lexes e.render e.tokens := fun e he => e.lexes_render ho (hsuits e he)
  have hp : ∀ q ∈ p.values, Lexes q.render [q.token] := fun q hq => lexes_placeholder (hnames q hq)
  cases p with
  | always | never => exact ⟨rfl⟩
  | isNull e =>
    exact (he e (by simp [exprs])).suffixed " IS NULL" [.word "IS", .word "NULL"]
  | isNotNull e =>
    exact (he e (by simp [exprs])).suffixed " IS NOT NULL" [.word "IS", .word "NOT", .word "NULL"]
  | isBlank e =>
    have he := he e (by simp [exprs])
    have hopen := he.prefixed "(" [.symbol '(']
    have hboth := hopen.around " IS NULL OR " [.word "IS", .word "NULL", .word "OR"] he
    exact hboth.suffixed " = '')" [.symbol '=', .literal "", .symbol ')']
  | isNotBlank e =>
    have he := he e (by simp [exprs])
    have hopen := he.prefixed "(" [.symbol '(']
    have hboth := hopen.around " IS NOT NULL AND "
      [.word "IS", .word "NOT", .word "NULL", .word "AND"] he
    exact hboth.suffixed " != '')" [.symbol '!', .symbol '=', .literal "", .symbol ')']
  | compare e c q =>
    have hsymbol := (he e (by simp [exprs])).around " " [] c.lexes_symbol
    have hright := hsymbol.around " " [] (hp q (by simp [values]))
    rw [List.append_nil, List.append_nil] at hright
    exact hright
  | compareUpper e c q =>
    have hleft := (he e (by simp [exprs])).prefixed "UPPER(" [.word "UPPER", .symbol '(']
    have hsymbol := hleft.around ") " [.symbol ')'] c.lexes_symbol
    have hright := hsymbol.around " UPPER(" [.word "UPPER", .symbol '('] (hp q (by simp [values]))
    exact hright.suffixed ")" [.symbol ')']
  | like negated e q =>
    have hleft := (he e (by simp [exprs])).prefixed "UPPER(" [.word "UPPER", .symbol '(']
    have hclosed := hleft.suffixed ")" [.symbol ')']
    have hlike : Lexes
        ("UPPER(" ++ e.render ++ ")" ++ (if negated then " NOT LIKE " else " LIKE "))
        ([Token.word "UPPER", .symbol '('] ++ e.tokens ++ [Token.symbol ')'] ++
          if negated then [Token.word "NOT", .word "LIKE"] else [Token.word "LIKE"]) := by
      cases negated with
      | true => exact hclosed.suffixed " NOT LIKE " [.word "NOT", .word "LIKE"]
      | false => exact hclosed.suffixed " LIKE " [.word "LIKE"]
    have hend : endsPlain (if negated then " NOT LIKE " else " LIKE ") = true := by
      cases negated <;> rfl
    have hopen : Lexes "UPPER(" [.word "UPPER", .symbol '('] := ⟨rfl⟩
    have hupper := hlike.append_of_endsPlain (Lexes.endsPlain_append hend) hopen
    have hpattern := hupper.append_of_endsPlain (Lexes.endsPlain_append rfl)
      (hp q (by simp [values]))
    exact hpattern.suffixed ")" [.symbol ')']
  | between e low high =>
    have hlow := (he e (by simp [exprs])).around " BETWEEN " [.word "BETWEEN"]
      (hp low (by simp [values]))
    exact hlow.around " AND " [.word "AND"] (hp high (by simp [values]))
  | among negated e qs =>
    have hexpr := he e (by simp [exprs])
    have hlist := lexes_placeholders hnames
    cases negated with
    | true =>
      have hin := hexpr.around " NOT IN (" [.word "NOT", .word "IN", .symbol '('] hlist
      exact hin.suffixed ")" [.symbol ')']
    | false =>
      have hin := hexpr.around " IN (" [.word "IN", .symbol '('] hlist
      exact hin.suffixed ")" [.symbol ')']

end Predicate

/-! ## Trees of predicates -/

/-- The keyword of a logic as a token. -/
def Logic.token (logic : Logic) : Token := .word logic.keyword

mutual

/-- The tokens of a tree of predicates. -/
def treeTokens : Tree (Predicate Placeholder) → List Token
  | .leaf p => p.tokens
  | .group logic children => [logic.token].intercalate (memberTokens children)

/-- The tokens of the members of a group. -/
def memberTokens : List (Tree (Predicate Placeholder)) → List (List Token)
  | [] => []
  | t :: ts => ([.symbol '('] ++ treeTokens t ++ [.symbol ')']) :: memberTokens ts

end

@[simp] theorem treeTokens_leaf (p : Predicate Placeholder) : treeTokens (.leaf p) = p.tokens := by
  rw [treeTokens]

@[simp] theorem treeTokens_group (logic : Logic) (children : List (Tree (Predicate Placeholder))) :
    treeTokens (.group logic children) = [logic.token].intercalate (memberTokens children) := by
  rw [treeTokens]

@[simp] theorem memberTokens_nil : memberTokens [] = [] := by rw [memberTokens]

@[simp] theorem memberTokens_cons (t : Tree (Predicate Placeholder))
    (ts : List (Tree (Predicate Placeholder))) :
    memberTokens (t :: ts) =
      ([Token.symbol '('] ++ treeTokens t ++ [Token.symbol ')']) :: memberTokens ts := by
  rw [memberTokens]

/-- Texts joined by a logic have the tokens of each, with its keyword between. -/
theorem lexes_logic (logic : Logic) {parts : List String} {tss : List (List Token)}
    (h : List.Forall₂ Lexes parts tss) :
    Lexes ((" " ++ logic.keyword ++ " ").intercalate parts) ([logic.token].intercalate tss) := by
  cases logic with
  | and => exact Lexes.intercalate h " AND " [.word "AND"]
  | or => exact Lexes.intercalate h " OR " [.word "OR"]

variable {options : Options}

mutual

/-- **The text of a tree of predicates has its tokens.** -/
theorem lexes_renderTree (ho : options.Legible) : ∀ t : Tree (Predicate Placeholder),
    (∀ p ∈ t.leaves, p.Legible options) → Lexes (renderTree t) (treeTokens t)
  | .leaf p, h => by
    rw [renderTree, treeTokens_leaf]
    exact p.lexes_render ho (h p (by simp))
  | .group logic children, h => by
    rw [renderTree, treeTokens_group]
    exact lexes_logic logic (lexes_renderMembers ho children (by simpa using h))

theorem lexes_renderMembers (ho : options.Legible) : ∀ ts : List (Tree (Predicate Placeholder)),
    (∀ p ∈ Tree.leavesAll ts, p.Legible options) →
      List.Forall₂ Lexes (renderMembers ts) (memberTokens ts)
  | [], _ => by
    rw [renderMembers, memberTokens_nil]
    exact .nil
  | t :: ts, h => by
    have ht := lexes_renderTree ho t fun p hp => h p (by simp [hp])
    have hts := lexes_renderMembers ho ts fun p hp => h p (by simp [hp])
    rw [renderMembers, memberTokens_cons]
    exact .cons ((ht.prefixed "(" [.symbol '(']).suffixed ")" [.symbol ')']) hts

end

end ReportSql
