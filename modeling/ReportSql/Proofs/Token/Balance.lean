import ReportSql.Proofs.Token.Precedence

/-!
# Units of conditions

The texts of expressions, predicates and trees close every parenthesis that they open, and a
predicate is one unit to a reader of AND and OR: its own AND or OR stands between parentheses or
belongs to a BETWEEN.

## Main definitions

* `Options.Closed` — options whose texts close what they open.
* `Options.Unitary` — options whose texts are besides units of a condition.

## Main statements

* `balanced_treeTokens` — the text of a tree closes what it opens.
* `Predicate.solid_tokens` — the text of a predicate is one unit.
-/

namespace ReportSql

open Text

variable {options : Options}

/-! ## Balanced texts -/

/-- Options whose texts outside quotes close every quote and every parenthesis that they open. -/
structure Options.Closed (options : Options) : Prop where
  legible : options.Legible
  textType : Balanced (tokensOf options.textType)
  dayFunction : Balanced (tokensOf options.dayFunction)

theorem ColumnRef.balanced_tokens (ref : ColumnRef) : Balanced ref.tokens := by
  cases ref <;> rfl

theorem Expr.balanced_tokens (ho : options.Closed) {e : Expr} (h : e.Suits options) :
    Balanced e.tokens := by
  induction e with
  | column ref => exact ref.balanced_tokens
  | aggregate function ref => cases ref <;> cases function <;> rfl
  | countRows => rfl
  | castText type e ih =>
    obtain ⟨rfl, he⟩ := h
    simp [Balanced, tokens, depthAfter_append, depthAfter, (ih he).depthAfter_eq,
      ho.textType.depthAfter_eq]
  | day function e ih =>
    obtain ⟨rfl, he⟩ := h
    simp [Balanced, tokens, depthAfter_append, depthAfter, (ih he).depthAfter_eq,
      ho.dayFunction.depthAfter_eq]
  | upper e ih | numberText e ih | momentText e ih =>
    simp [Balanced, tokens, depthAfter_append, depthAfter, (ih h).depthAfter_eq]

theorem Comparison.balanced_tokens (c : Comparison) : Balanced c.tokens := by
  cases c <;> rfl

theorem balanced_placeholders (names : List String) :
    Balanced ([.symbol ','].intercalate (names.map fun name => [.placeholder name])) := by
  have hcomma : Balanced [.symbol ','] := rfl
  refine hcomma.intercalate fun ts hts => ?_
  obtain ⟨name, -, rfl⟩ := List.mem_map.1 hts
  rfl

theorem Placeholder.balanced_tokens (ps : List Placeholder) :
    Balanced ([.symbol ','].intercalate (ps.map fun p => [p.token])) := by
  have hnames := balanced_placeholders (ps.map Placeholder.name)
  rwa [List.map_map] at hnames

theorem Predicate.balanced_tokens (ho : options.Closed) {p : Predicate Placeholder}
    (h : p.Legible options) : Balanced p.tokens := by
  have he : ∀ e ∈ p.exprs, ∀ d, depthAfter d e.tokens = some d := fun e he =>
    (e.balanced_tokens ho (h.suits e he)).depthAfter_eq
  cases p with
  | always | never => rfl
  | isNull e | isNotNull e | isBlank e | isNotBlank e =>
    simp [Balanced, tokens, depthAfter_append, depthAfter, he e (by simp [exprs])]
  | compare e c q | compareUpper e c q =>
    simp [Balanced, tokens, depthAfter_append, depthAfter, he e (by simp [exprs]),
      c.balanced_tokens.depthAfter_eq, Placeholder.token]
  | like negated e q =>
    cases negated <;>
      simp [Balanced, tokens, depthAfter_append, depthAfter, he e (by simp [exprs]),
        Placeholder.token]
  | between e low high =>
    simp [Balanced, tokens, depthAfter_append, depthAfter, he e (by simp [exprs]),
      Placeholder.token]
  | among negated e qs =>
    have hlist := Placeholder.balanced_tokens qs
    cases negated <;>
      simp [Balanced, tokens, depthAfter_append, depthAfter, he e (by simp [exprs]),
        hlist.depthAfter_eq]

mutual

theorem balanced_treeTokens (ho : options.Closed) : ∀ t : Tree (Predicate Placeholder),
    (∀ p ∈ t.leaves, p.Legible options) → Balanced (treeTokens t)
  | .leaf p, h => by
    rw [treeTokens_leaf]
    exact p.balanced_tokens ho (h p (by simp))
  | .group logic children, h => by
    have hlogic : Balanced [logic.token] := by cases logic <;> rfl
    rw [treeTokens_group]
    exact hlogic.intercalate (balanced_memberTokens ho children (by simpa using h))

theorem balanced_memberTokens (ho : options.Closed) : ∀ ts : List (Tree (Predicate Placeholder)),
    (∀ p ∈ Tree.leavesAll ts, p.Legible options) → ∀ us ∈ memberTokens ts, Balanced us
  | [], _ => by simp
  | t :: ts, h => by
    have ht := balanced_treeTokens ho t fun p hp => h p (by simp [hp])
    have hts := balanced_memberTokens ho ts fun p hp => h p (by simp [hp])
    rw [memberTokens_cons, List.forall_mem_cons]
    exact ⟨ht.enclosed, hts⟩

end

theorem length_memberTokens (ts : List (Tree (Predicate Placeholder))) :
    (memberTokens ts).length = ts.length := by
  induction ts with
  | nil => simp
  | cons t ts ih => simp [ih]

/-- The members of a group are units. -/
theorem solid_memberTokens (ho : options.Closed) {ts : List (Tree (Predicate Placeholder))}
    (h : ∀ p ∈ Tree.leavesAll ts, p.Legible options) : ∀ us ∈ memberTokens ts, Solid us := by
  induction ts with
  | nil => simp
  | cons t ts ih =>
    have ht := balanced_treeTokens ho t fun p hp => h p (by simp [hp])
    rw [memberTokens_cons, List.forall_mem_cons]
    exact ⟨ht.solid, ih fun p hp => h p (by simp [hp])⟩

/-! ## Units -/

/-- Options whose texts outside quotes close what they open, and whose day function is named without
an AND or OR of its own. -/
structure Options.Unitary (options : Options) : Prop extends options.Closed where
  solidDayFunction : Solid (tokensOf options.dayFunction)

namespace Solid

/-- A word is one unit unless conditions are joined by it or reach beyond it. -/
theorem word {name : String} (h : name ∉ ["AND", "OR", "BETWEEN"]) : Solid [.word name] := by
  simp only [List.mem_cons, List.not_mem_nil, or_false, not_or] at h
  obtain ⟨hand, hor, hbetween⟩ := h
  refine .singleton (fun n => ?_) fun logic => ?_
  · simp [Nesting.next, hand, hbetween]
  · cases logic <;> simp [Logic.token, Logic.keyword, hand, hor]

theorem number (digits : String) : Solid [.number digits] :=
  .singleton (fun _ => rfl) fun logic => by cases logic <;> simp [Logic.token]

theorem quoted (name : String) : Solid [.quoted name] :=
  .singleton (fun _ => rfl) fun logic => by cases logic <;> simp [Logic.token]

theorem placeholder (name : String) : Solid [.placeholder name] :=
  .singleton (fun _ => rfl) fun logic => by cases logic <;> simp [Logic.token]

theorem literal (text : String) : Solid [.literal text] :=
  .singleton (fun _ => rfl) fun logic => by cases logic <;> simp [Logic.token]

/-- A symbol is one unit unless it is a parenthesis. -/
theorem symbol {c : Char} (h : c ∉ ['(', ')']) : Solid [.symbol c] := by
  simp only [List.mem_cons, List.not_mem_nil, or_false, not_or] at h
  refine .singleton (fun n => ?_) fun logic => by cases logic <;> simp [Logic.token]
  simp [Nesting.next, h]

theorem equals : Solid [.symbol '='] := symbol (by decide)

/-- A name and what follows it between parentheses are one unit. -/
theorem call {ts us : List Token} (hts : Solid ts) (hus : Balanced us) :
    Solid (ts ++ ([Token.symbol '('] ++ us ++ [Token.symbol ')'])) := hts.append hus.solid

/-- A range is one unit: its AND belongs to its BETWEEN. -/
theorem range (low high : Placeholder) :
    Solid [.word "BETWEEN", low.token, .word "AND", high.token] := by
  intro logic rest
  cases logic <;> simp [partsFrom, Nesting.joins, Nesting.next, Logic.token, Logic.keyword,
    Placeholder.token, Function.comp_def]

end Solid

theorem ColumnRef.solid_tokens (ref : ColumnRef) : Solid ref.tokens := by
  cases ref with
  | bare column => exact .quoted _
  | qualified source column =>
    exact ((Solid.quoted _).append (.symbol (by decide))).append (.quoted _)

/-- **The text of an expression is one unit.** -/
theorem Expr.solid_tokens (ho : options.Unitary) {e : Expr} (h : e.Suits options) :
    Solid e.tokens := by
  have hcall : ∀ name : String, name ∉ ["AND", "OR", "BETWEEN"] → ∀ {ts : List Token},
      Balanced ts → Solid ([Token.word name, .symbol '('] ++ ts ++ [Token.symbol ')']) := by
    intro name hname ts hts
    simpa using (Solid.word hname).call hts
  cases e with
  | column ref => exact ref.solid_tokens
  | aggregate function ref =>
    cases function with
    | distinctCount =>
      have hword : Balanced [.word "DISTINCT"] := rfl
      have hinside := hword.append ref.balanced_tokens
      simpa [tokens, aggregateTokens] using hcall "COUNT" (by decide) hinside
    | _ => simpa [tokens, aggregateTokens] using hcall _ (by decide) ref.balanced_tokens
  | countRows =>
    have hstar : Balanced [.symbol '*'] := rfl
    exact hcall "COUNT" (by decide) hstar
  | castText type e =>
    obtain ⟨rfl, he⟩ := h
    have has : Balanced [.word "AS"] := rfl
    have hinside := ((e.balanced_tokens ho.toClosed he).append has).append ho.textType
    simpa [tokens] using hcall "CAST" (by decide) hinside
  | day function e =>
    obtain ⟨rfl, he⟩ := h
    simpa [tokens] using ho.solidDayFunction.call (e.balanced_tokens ho.toClosed he)
  | upper e => exact hcall "UPPER" (by decide) (e.balanced_tokens ho.toClosed h)
  | numberText e =>
    have hformat : Balanced [.symbol ',', .literal "TM", .symbol ',',
      .literal "NLS_NUMERIC_CHARACTERS='. '"] := rfl
    have hinside := (e.balanced_tokens ho.toClosed h).append hformat
    simpa [tokens] using hcall "TO_CHAR" (by decide) hinside
  | momentText e =>
    have hformat : Balanced [.symbol ',', .literal "YYYY-MM-DD HH24:MI:SS"] := rfl
    have hinside := (e.balanced_tokens ho.toClosed h).append hformat
    simpa [tokens] using hcall "TO_CHAR" (by decide) hinside

theorem Comparison.solid_tokens (c : Comparison) : Solid c.tokens := by
  cases c with
  | equal => exact .equals
  | greater | less => exact .symbol (by decide)
  | notEqual | atLeast | atMost =>
    exact (Solid.symbol (by decide)).append .equals

/-- **The text of a predicate is one unit.** -/
theorem Predicate.solid_tokens (ho : options.Unitary) {p : Predicate Placeholder}
    (h : p.Legible options) : Solid p.tokens := by
  have he : ∀ e ∈ p.exprs, Solid e.tokens := fun e he => e.solid_tokens ho (h.suits e he)
  have hb : ∀ e ∈ p.exprs, Balanced e.tokens := fun e he =>
    e.balanced_tokens ho.toClosed (h.suits e he)
  have his : Solid [.word "IS"] := .word (by decide)
  have hnot : Solid [.word "NOT"] := .word (by decide)
  have hnull : Solid [.word "NULL"] := .word (by decide)
  have hupper : ∀ {ts : List Token}, Balanced ts →
      Solid ([Token.word "UPPER"] ++ ([Token.symbol '('] ++ ts ++ [Token.symbol ')'])) :=
    Solid.call (.word (by decide))
  cases p with
  | always | never => exact ((Solid.number "1").append .equals).append (.number _)
  | isNull e => exact (he e (by simp [exprs])).append (his.append hnull)
  | isNotNull e => exact (he e (by simp [exprs])).append (his.append (hnot.append hnull))
  | isBlank e =>
    have hnull : Balanced [.word "IS", .word "NULL", .word "OR"] := rfl
    have hempty : Balanced [.symbol '=', .literal ""] := rfl
    have hb := hb e (by simp [exprs])
    simpa [tokens] using ((hb.append hnull).append (hb.append hempty)).solid
  | isNotBlank e =>
    have hnull : Balanced [.word "IS", .word "NOT", .word "NULL", .word "AND"] := rfl
    have hempty : Balanced [.symbol '!', .symbol '=', .literal ""] := rfl
    have hb := hb e (by simp [exprs])
    simpa [tokens] using ((hb.append hnull).append (hb.append hempty)).solid
  | compare e c q => exact ((he e (by simp [exprs])).append c.solid_tokens).append (.placeholder _)
  | compareUpper e c q =>
    have hleft := (hupper (hb e (by simp [exprs]))).append c.solid_tokens
    have hvalue : Balanced [q.token] := rfl
    simpa [tokens] using hleft.append (hupper hvalue)
  | like negated e q =>
    have hlike : Solid [.word "LIKE"] := .word (by decide)
    have hleft := hupper (hb e (by simp [exprs]))
    have hvalue : Balanced [q.token] := rfl
    have hright := hupper hvalue
    cases negated with
    | true => simpa [tokens] using hleft.append ((hnot.append hlike).append hright)
    | false => simpa [tokens] using hleft.append (hlike.append hright)
  | between e low high => simpa [tokens] using (he e (by simp [exprs])).append (.range low high)
  | among negated e qs =>
    have hin : Solid [.word "IN"] := .word (by decide)
    have hlist := Placeholder.balanced_tokens qs
    have hexpr := he e (by simp [exprs])
    cases negated with
    | true => simpa [tokens] using (hexpr.append (hnot.append hin)).call hlist
    | false => simpa [tokens] using (hexpr.append hin).call hlist

end ReportSql
