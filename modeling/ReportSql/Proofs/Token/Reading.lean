import ReportSql.Proofs.Token.Balance
import ReportSql.Proofs.Tree.Part

/-!
# Reading conditions back

A condition in query text is read as a tree: what stands between parentheses is read by itself, AND
binds tighter than OR, and a predicate is a leaf.  A check for empty text is a leaf too, although it
stands between parentheses and has an AND or OR of its own.

## Main definitions

* `Tree.condense` — a tree without groups of one member.
* `IsEmptyCheck` — the inside of a check for empty text.
* `treeOf`, `readCondition` — the tree that tokens, or a text, are read as.

## Main statements

* `treeOf_treeTokens` — the tokens of a tree of predicates are read as this tree.
* `readCondition_renderTree` — so is its text.
-/

namespace ReportSql

variable {α β : Type}

/-! ## Groups of one member -/

namespace Tree

/-- Some trees joined by a logic, which a single one does not need. -/
def join (logic : Logic) : List (Tree α) → Tree α
  | [t] => t
  | ts => .group logic ts

@[simp] theorem join_singleton (logic : Logic) (t : Tree α) : join logic [t] = t := rfl

mutual

/-- The tree in which every group of one member is this member: with nothing to join, the text of
such a group has no AND or OR. -/
def condense : Tree α → Tree α
  | .leaf a => .leaf a
  | .group logic children => join logic (condenseAll children)

@[inherit_doc condense] def condenseAll : List (Tree α) → List (Tree α)
  | [] => []
  | t :: ts => t.condense :: condenseAll ts

end

@[simp] theorem condense_leaf (a : α) : (leaf a).condense = leaf a := by rw [condense]

@[simp] theorem condense_group (logic : Logic) (children : List (Tree α)) :
    (group logic children).condense = join logic (condenseAll children) := by rw [condense]

@[simp] theorem condenseAll_nil : condenseAll ([] : List (Tree α)) = [] := by rw [condenseAll]

@[simp] theorem condenseAll_cons (t : Tree α) (ts : List (Tree α)) :
    condenseAll (t :: ts) = t.condense :: condenseAll ts := by rw [condenseAll]

mutual

/-- Whether every group of a tree has a member. -/
def IsFull : Tree α → Prop
  | .leaf _ => True
  | .group _ children => children ≠ [] ∧ AreFull children

@[inherit_doc IsFull] def AreFull : List (Tree α) → Prop
  | [] => True
  | t :: ts => t.IsFull ∧ AreFull ts

end

section Prune

variable (f : α → Option β)

mutual

/-- Pruning leaves no group without a member. -/
theorem isFull_of_mem_prune : ∀ t : Tree α, ∀ u ∈ t.prune f, u.IsFull
  | .leaf a, u, hu => by
    obtain ⟨b, -, rfl⟩ := Option.map_eq_some_iff.1 ((prune_leaf f a).symm.trans hu)
    trivial
  | .group logic children, u, hu => by
    rw [prune_group] at hu
    split at hu
    · cases hu
    · next hne =>
      obtain rfl := Option.some_inj.1 hu
      exact ⟨by simpa using hne, areFull_pruneAll children⟩

theorem areFull_pruneAll : ∀ ts : List (Tree α), AreFull (pruneAll f ts)
  | [] => by
    rw [pruneAll_nil]
    trivial
  | t :: ts => by
    rw [pruneAll_cons]
    cases h : t.prune f with
    | none => exact areFull_pruneAll ts
    | some u => exact ⟨isFull_of_mem_prune t u h, areFull_pruneAll ts⟩

end

end Prune

end Tree

/-! ## Reading -/

/-- The tokens between two parentheses that enclose all the others. -/
def inside? (ts : List Token) : Option (List Token) :=
  let inner := ts.tail.dropLast
  if Balanced inner ∧ [.symbol '('] ++ inner ++ [.symbol ')'] = ts then some inner else none

theorem inside?_eq_some_iff {ts us : List Token} :
    inside? ts = some us ↔ Balanced us ∧ [Token.symbol '('] ++ us ++ [Token.symbol ')'] = ts := by
  constructor
  · intro h
    rw [inside?, Option.ite_none_right_eq_some, Option.some_inj] at h
    obtain ⟨hinner, rfl⟩ := h
    exact hinner
  · rintro ⟨hus, rfl⟩
    have hinner : ([Token.symbol '('] ++ us ++ [Token.symbol ')']).tail.dropLast = us := by simp
    rw [inside?, hinner, if_pos ⟨hus, rfl⟩]

/-- Two conditions, joined by a logic, that ask different things of one expression. -/
def AsksTwice (logic : Logic) (first second ts : List Token) : Prop :=
  ∃ e, parts logic ts = [e ++ first, e ++ second]

instance (logic : Logic) (first second ts : List Token) :
    Decidable (AsksTwice logic first second ts) :=
  let head := (parts logic ts).headD []
  let e := head.take (head.length - first.length)
  decidable_of_iff (parts logic ts = [e ++ first, e ++ second]) <| by
    refine ⟨fun h => ⟨e, h⟩, fun ⟨e', h⟩ => ?_⟩
    have he : e = e' := by simp [e, head, h]
    rw [he, h]

/-- The inside of a check for empty text: an expression is null or empty, or it is neither. -/
def IsEmptyCheck (ts : List Token) : Prop :=
  AsksTwice .or [.word "IS", .word "NULL"] [.symbol '=', .literal ""] ts ∨
    AsksTwice .and [.word "IS", .word "NOT", .word "NULL"]
      [.symbol '!', .symbol '=', .literal ""] ts

instance (ts : List Token) : Decidable (IsEmptyCheck ts) :=
  inferInstanceAs (Decidable (_ ∨ _))

theorem length_le_of_mem_partsFrom {logic : Logic} {n : Nesting} {ts us : List Token}
    (h : us ∈ partsFrom logic n ts) : us.length ≤ ts.length := by
  induction ts generalizing n us with
  | nil => simp_all [partsFrom]
  | cons t ts ih =>
    rw [partsFrom] at h
    split at h
    · rcases List.mem_cons.1 h with rfl | h
      · simp
      · exact Nat.le_trans (ih h) (by simp)
    · cases hrest : partsFrom logic (n.next t) ts with
      | nil => simp [hrest] at h
      | cons vs vss =>
        rw [hrest, List.modifyHead_cons] at h
        rcases List.mem_cons.1 h with rfl | h
        · have hvs := ih (hrest ▸ List.mem_cons_self)
          simpa using hvs
        · have hus := ih (hrest ▸ List.mem_cons_of_mem _ h)
          exact Nat.le_trans hus (by simp)

theorem length_of_inside? {ts us : List Token} (h : inside? ts = some us) :
    ts.length = us.length + 2 := by
  obtain ⟨-, rfl⟩ := inside?_eq_some_iff.1 h
  simp

mutual

/-- The tree that a condition is read as, its leaves the tokens of predicates: alternatives, each of
them a conjunction of units. -/
def treeOf (ts : List Token) : Tree (List Token) :=
  .join .or ((parts .or ts).attach.map fun ⟨alternative, _⟩ =>
    .join .and ((parts .and alternative).attach.map fun ⟨unit, _⟩ => treeOfUnit unit))
termination_by (ts.length, 1)
decreasing_by
  have hunit := length_le_of_mem_partsFrom ‹unit ∈ parts .and alternative›
  have halternative := length_le_of_mem_partsFrom ‹alternative ∈ parts .or ts›
  simp only [Prod.lex_def]
  omega

/-- The tree that one unit of a condition is read as: what is between its parentheses, or the unit
itself as a predicate. -/
def treeOfUnit (ts : List Token) : Tree (List Token) :=
  match _ : inside? ts with
  | some inner => if IsEmptyCheck inner then .leaf ts else treeOf inner
  | none => .leaf ts
termination_by (ts.length, 0)
decreasing_by
  have hlength := length_of_inside? ‹inside? ts = some inner›
  simp only [Prod.lex_def]
  omega

end

/-- The tree that the text of a condition is read as, if every quote is closed in it. -/
def readCondition (s : String) : Option (Tree (List Token)) := (lex s.toList).map treeOf

theorem treeOf_eq (ts : List Token) :
    treeOf ts = .join .or ((parts .or ts).map fun alternative =>
      .join .and ((parts .and alternative).map treeOfUnit)) := by
  rw [treeOf]
  simp

/-! ## Units -/

theorem treeOfUnit_of_inside? {ts us : List Token} (h : inside? ts = some us) :
    treeOfUnit ts = if IsEmptyCheck us then .leaf ts else treeOf us := by
  rw [treeOfUnit]
  split
  · next us' hus' =>
    obtain rfl : us' = us := Option.some_inj.1 (hus'.symm.trans h)
    rfl
  · next hnone =>
    rw [hnone] at h
    cases h

theorem treeOfUnit_of_inside?_eq_none {ts : List Token} (h : inside? ts = none) :
    treeOfUnit ts = .leaf ts := by
  rw [treeOfUnit]
  split
  · next hsome =>
    rw [hsome] at h
    cases h
  · rfl

/-- What closes its parentheses before its end is not enclosed as a whole. -/
theorem inside?_append_eq_none {ts us : List Token} (hts : Balanced ts) (hne : ts ≠ [])
    (hus : us ≠ []) : inside? (ts ++ us) = none := by
  rw [Option.eq_none_iff_forall_ne_some]
  intro inner hinner
  obtain ⟨hbalanced, heq⟩ := inside?_eq_some_iff.1 hinner
  obtain ⟨t, ts, rfl⟩ := List.exists_cons_of_ne_nil hne
  rw [← List.dropLast_append_getLast hus, List.append_assoc, List.singleton_append,
    List.cons_append, List.cons.injEq, ← List.append_assoc] at heq
  obtain ⟨rfl, heq⟩ := heq
  obtain ⟨rfl, -⟩ := List.append_inj' heq rfl
  -- the first parenthesis is closed before the end, so what follows it closes one too many
  rw [Balanced, depthAfter_append] at hbalanced
  cases hdepth : depthAfter 0 ts with
  | none => simp [hdepth] at hbalanced
  | some d =>
    have hopen : depthAfter 1 ts = some 0 := hts
    rw [depthAfter_add hdepth 1] at hopen
    cases hopen

theorem Expr.tokens_ne_nil (e : Expr) : e.tokens ≠ [] := by
  cases e with
  | column ref => cases ref <;> simp [tokens, ColumnRef.tokens]
  | aggregate function ref => cases function <;> simp [tokens, aggregateTokens]
  | _ => simp [tokens]

namespace Predicate

variable {options : Options} {p : Predicate Placeholder}

/-- A predicate closes its parentheses before its end, or it is a check for empty text. -/
theorem inside?_tokens_eq_none (ho : options.Closed) (h : p.Legible options)
    (hblank : ∀ e, p ≠ .isBlank e) (hnotBlank : ∀ e, p ≠ .isNotBlank e) :
    inside? p.tokens = none := by
  have hb : ∀ e ∈ p.exprs, Balanced e.tokens := fun e he =>
    e.balanced_tokens ho (h.suits e he)
  have happend : ∃ ts us, ts ++ us = p.tokens ∧ Balanced ts ∧ ts ≠ [] ∧ us ≠ [] := by
    cases p with
    | always | never =>
      exact ⟨[.number "1"], [.symbol '=', .number _], rfl, rfl, by simp, by simp⟩
    | isBlank e => exact absurd rfl (hblank e)
    | isNotBlank e => exact absurd rfl (hnotBlank e)
    | isNull e | isNotNull e =>
      exact ⟨e.tokens, _, rfl, hb e (by simp [exprs]), e.tokens_ne_nil, by simp⟩
    | compare e c q =>
      have hleft := (hb e (by simp [exprs])).append c.balanced_tokens
      exact ⟨_, [q.token], rfl, hleft, by simp [e.tokens_ne_nil], by simp⟩
    | compareUpper e c q | like negated e q =>
      exact ⟨[.word "UPPER"], _, rfl, rfl, by simp, by simp⟩
    | between e low high =>
      have hlow : Balanced [.word "BETWEEN", low.token, .word "AND"] := rfl
      have hleft := (hb e (by simp [exprs])).append hlow
      exact ⟨_, [high.token], by simp [tokens], hleft, by simp, by simp⟩
    | among negated e qs =>
      have hlist : (if negated then [Token.word "NOT", .word "IN", .symbol '(']
          else [Token.word "IN", .symbol '(']) ++ ([Token.symbol ','].intercalate
            (qs.map fun q => [q.token]) ++ [Token.symbol ')']) ≠ [] := by simp
      exact ⟨e.tokens, _, by simp [tokens], hb e (by simp [exprs]), e.tokens_ne_nil, hlist⟩
  obtain ⟨ts, us, htokens, hts, hne, hus⟩ := happend
  rw [← htokens]
  exact inside?_append_eq_none hts hne hus

/-- Two conditions on one expression, between parentheses, are read as a leaf if they are a check
for empty text. -/
theorem treeOfUnit_check (logic : Logic) {e first second : List Token} (he : Solid e)
    (hfirst : Solid first) (hsecond : Solid second) (hb : Balanced e) (hb₁ : Balanced first)
    (hb₂ : Balanced second) (hcheck : ∀ ts, AsksTwice logic first second ts → IsEmptyCheck ts) :
    treeOfUnit ([Token.symbol '('] ++ [logic.token].intercalate [e ++ first, e ++ second] ++
      [Token.symbol ')']) = .leaf ([Token.symbol '('] ++
        [logic.token].intercalate [e ++ first, e ++ second] ++ [Token.symbol ')']) := by
  have hsolid : ∀ ts ∈ [e ++ first, e ++ second], Solid ts := by
    simp [he.append hfirst, he.append hsecond]
  have hbalanced : ∀ ts ∈ [e ++ first, e ++ second], Balanced ts := by
    simp [hb.append hb₁, hb.append hb₂]
  have hlogic : Balanced [logic.token] := by cases logic <;> rfl
  have hparts := parts_intercalate logic (by simp) hsolid
  have hinside := inside?_eq_some_iff.2 ⟨hlogic.intercalate hbalanced, rfl⟩
  rw [treeOfUnit_of_inside? hinside, if_pos (hcheck _ ⟨e, hparts⟩)]

/-- **A predicate is read as a leaf.** -/
theorem treeOfUnit_tokens (ho : options.Unitary) (h : p.Legible options) :
    treeOfUnit p.tokens = .leaf p.tokens := by
  have he : ∀ e ∈ p.exprs, Solid e.tokens := fun e he => e.solid_tokens ho (h.suits e he)
  have hb : ∀ e ∈ p.exprs, Balanced e.tokens := fun e he =>
    e.balanced_tokens ho.toClosed (h.suits e he)
  have his : Solid [.word "IS"] := .word (by decide)
  have hnull : Solid [.word "NULL"] := .word (by decide)
  have hempty : Solid [.symbol '=', .literal ""] := Solid.equals.append (.literal "")
  by_cases hblank : ∃ e, p = .isBlank e
  · obtain ⟨e, rfl⟩ := hblank
    have hcheck := treeOfUnit_check .or (he e (by simp [exprs])) (his.append hnull) hempty
      (hb e (by simp [exprs])) rfl rfl fun _ => .inl
    simpa [tokens, List.intercalate, Logic.token, Logic.keyword] using hcheck
  by_cases hnotBlank : ∃ e, p = .isNotBlank e
  · obtain ⟨e, rfl⟩ := hnotBlank
    have hnot : Solid [.word "NOT"] := .word (by decide)
    have hdiffers : Solid [.symbol '!', .symbol '='] := (Solid.symbol (by decide)).append .equals
    have hcheck := treeOfUnit_check .and (he e (by simp [exprs]))
      (his.append (hnot.append hnull)) (hdiffers.append (.literal ""))
      (hb e (by simp [exprs])) rfl rfl fun _ => .inr
    simpa [tokens, List.intercalate, Logic.token, Logic.keyword] using hcheck
  have hinside := inside?_tokens_eq_none ho.toClosed h (fun e he => hblank ⟨e, he⟩)
    fun e he => hnotBlank ⟨e, he⟩
  exact treeOfUnit_of_inside?_eq_none hinside

end Predicate

/-! ## Trees -/

variable {options : Options}

/-- The text of a tree is one unit to a reader of a logic, or it is joined from the members of a
group. -/
theorem parts_treeTokens (ho : options.Unitary) {t : Tree (Predicate Placeholder)}
    (h : ∀ p ∈ t.leaves, p.Legible options) (hfull : t.IsFull) (logic : Logic) :
    parts logic (treeTokens t) = [treeTokens t] ∨
      ∃ children, parts logic (treeTokens t) = memberTokens children := by
  cases t with
  | leaf p =>
    have hsolid := p.solid_tokens ho (h p (by simp))
    rw [treeTokens_leaf]
    exact .inl (hsolid.parts_eq logic)
  | group logic' children =>
    have hmembers := solid_memberTokens ho.toClosed (by simpa using h)
    rw [treeTokens_group]
    by_cases heq : logic = logic'
    · have hne : memberTokens children ≠ [] := by
        simpa [← List.length_eq_zero_iff, length_memberTokens] using hfull.1
      rw [heq]
      exact .inr ⟨children, parts_intercalate logic' hne hmembers⟩
    · exact .inl (parts_intercalate_of_ne heq hmembers)

/-- The members of a group stand between parentheses, so they are no conditions that end with a
word. -/
theorem not_asksTwice_treeTokens (ho : options.Unitary) {t : Tree (Predicate Placeholder)}
    (h : ∀ p ∈ t.leaves, p.Legible options) (hfull : t.IsFull) (logic : Logic)
    (first : List Token) (name : String) (second : List Token) :
    ¬AsksTwice logic (first ++ [Token.word name]) second (treeTokens t) := by
  rintro ⟨e, he⟩
  rcases parts_treeTokens ho h hfull logic with hparts | ⟨children, hparts⟩
  · rw [hparts] at he
    simp at he
  · rw [hparts] at he
    cases children with
    | nil => simp at he
    | cons t ts =>
      rw [memberTokens_cons, List.cons.injEq, ← List.append_assoc] at he
      have hlast := (List.append_inj' he.1 rfl).2
      cases hlast

theorem not_isEmptyCheck_treeTokens (ho : options.Unitary) {t : Tree (Predicate Placeholder)}
    (h : ∀ p ∈ t.leaves, p.Legible options) (hfull : t.IsFull) : ¬IsEmptyCheck (treeTokens t) := by
  rintro (hcheck | hcheck)
  · exact not_asksTwice_treeTokens ho h hfull .or [.word "IS"] "NULL" _ hcheck
  · exact not_asksTwice_treeTokens ho h hfull .and [.word "IS", .word "NOT"] "NULL" _ hcheck

/-- Some units joined by a logic are read as the trees of each, joined by the logic. -/
theorem treeOf_intercalate (logic : Logic) {tss : List (List Token)} (hne : tss ≠ [])
    (h : ∀ ts ∈ tss, Solid ts) :
    treeOf ([logic.token].intercalate tss) = .join logic (tss.map treeOfUnit) := by
  rw [treeOf_eq]
  cases logic with
  | and =>
    rw [parts_intercalate_of_ne (by decide) h, List.map_singleton, parts_intercalate .and hne h]
    rfl
  | or =>
    rw [parts_intercalate .or hne h]
    congr 1
    refine List.map_congr_left fun ts hts => ?_
    rw [(h ts hts).parts_eq .and]
    rfl

mutual

/-- **The tokens of a tree of predicates are read as this tree**, less its groups of one member. -/
theorem treeOf_treeTokens (ho : options.Unitary) : ∀ t : Tree (Predicate Placeholder),
    (∀ p ∈ t.leaves, p.Legible options) → t.IsFull →
      treeOf (treeTokens t) = (t.map Predicate.tokens).condense
  | .leaf p, h, _ => by
    have hp := h p (by simp)
    have hsolid : ∀ ts ∈ [p.tokens], Solid ts := by simpa using p.solid_tokens ho hp
    have hunit := treeOf_intercalate .and (by simp) hsolid
    rw [treeTokens_leaf, Tree.map_leaf, Tree.condense_leaf, ← p.treeOfUnit_tokens ho hp]
    simpa [List.intercalate] using hunit
  | .group logic children, h, hfull => by
    have hlegible : ∀ p ∈ Tree.leavesAll children, p.Legible options := by simpa using h
    have hne : memberTokens children ≠ [] := by
      simpa [← List.length_eq_zero_iff, length_memberTokens] using hfull.1
    have hmembers := solid_memberTokens ho.toClosed hlegible
    rw [treeTokens_group, treeOf_intercalate logic hne hmembers,
      map_treeOfUnit_memberTokens ho children hlegible hfull.2, Tree.map_group, Tree.condense_group]

theorem map_treeOfUnit_memberTokens (ho : options.Unitary) :
    ∀ ts : List (Tree (Predicate Placeholder)), (∀ p ∈ Tree.leavesAll ts, p.Legible options) →
      Tree.AreFull ts →
        (memberTokens ts).map treeOfUnit = Tree.condenseAll (Tree.mapAll Predicate.tokens ts)
  | [], _, _ => by simp
  | t :: ts, h, hfull => by
    have ht : ∀ p ∈ t.leaves, p.Legible options := fun p hp => h p (by simp [hp])
    have hts : ∀ p ∈ Tree.leavesAll ts, p.Legible options := fun p hp => h p (by simp [hp])
    have hinside := inside?_eq_some_iff.2 ⟨balanced_treeTokens ho.toClosed t ht, rfl⟩
    have hunit := treeOfUnit_of_inside? hinside
    rw [if_neg (not_isEmptyCheck_treeTokens ho ht hfull.1)] at hunit
    rw [memberTokens_cons, List.map_cons, hunit, treeOf_treeTokens ho t ht hfull.1,
      map_treeOfUnit_memberTokens ho ts hts hfull.2, Tree.mapAll_cons, Tree.condenseAll_cons]

end

/-- **The text of a tree of predicates is read as this tree**, less its groups of one member. -/
theorem readCondition_renderTree (ho : options.Unitary) {t : Tree (Predicate Placeholder)}
    (h : ∀ p ∈ t.leaves, p.Legible options) (hfull : t.IsFull) :
    readCondition (renderTree t) = some (t.map fun p => tokensOf p.render).condense := by
  have htokens : t.map Predicate.tokens = t.map fun p => tokensOf p.render :=
    Tree.map_congr_left fun p hp => (p.lexes_render ho.legible (h p hp)).tokensOf_eq.symm
  rw [readCondition, (lexes_renderTree ho.legible t h).eq, Option.map_some,
    treeOf_treeTokens ho t h hfull, htokens]

end ReportSql
