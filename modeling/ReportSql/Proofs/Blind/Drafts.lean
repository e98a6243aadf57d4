import ReportSql.Compile
import ReportSql.Proofs.Blind.Steps
import ReportSql.Proofs.Tree.Relate

/-!
# Drafts that differ in values

Two drafts that differ in the values of their holes alone have the same query when their
placeholders are numbered, and the same placeholders are bound.

## Main definitions

* `Predicate.Matches R`, `Routed.Matches R`, `Source.Matches R`, `JoinClause.Matches R` — parts of
  queries that differ in values alone, which are related.
* `Draft.Alike` — drafts that differ in the values of their holes alone.

## Main statements

* `Tree.Matches.runsAlike_traverse` — matching trees are numbered alike.
* `Draft.Alike.number_fst`, `Draft.Alike.number_snd` — the same query and the same placeholders.
-/

namespace ReportSql

variable {α β γ : Type}

/-! ## Parts of queries -/

/-- Two predicates that differ in values alone, which are related. -/
inductive Predicate.Matches (R : α → β → Prop) : Predicate α → Predicate β → Prop
  | always : Matches R .always .always
  | never : Matches R .never .never
  | isNull (e : Expr) : Matches R (.isNull e) (.isNull e)
  | isNotNull (e : Expr) : Matches R (.isNotNull e) (.isNotNull e)
  | isBlank (e : Expr) : Matches R (.isBlank e) (.isBlank e)
  | isNotBlank (e : Expr) : Matches R (.isNotBlank e) (.isNotBlank e)
  | compare (e : Expr) (c : Comparison) {a : α} {b : β} (h : R a b) :
      Matches R (.compare e c a) (.compare e c b)
  | compareUpper (e : Expr) (c : Comparison) {a : α} {b : β} (h : R a b) :
      Matches R (.compareUpper e c a) (.compareUpper e c b)
  | like (negated : Bool) (e : Expr) {a : α} {b : β} (h : R a b) :
      Matches R (.like negated e a) (.like negated e b)
  | between (e : Expr) {a a' : α} {b b' : β} (hlow : R a b) (hhigh : R a' b') :
      Matches R (.between e a a') (.between e b b')
  | among (negated : Bool) (e : Expr) {as : List α} {bs : List β} (h : List.Forall₂ R as bs) :
      Matches R (.among negated e as) (.among negated e bs)

theorem Predicate.Matches.refl {R : α → α → Prop} (hR : ∀ a, R a a) (p : Predicate α) :
    p.Matches R p := by
  cases p with
  | always => exact .always
  | never => exact .never
  | isNull e => exact .isNull e
  | isNotNull e => exact .isNotNull e
  | isBlank e => exact .isBlank e
  | isNotBlank e => exact .isNotBlank e
  | compare e c a => exact .compare e c (hR a)
  | compareUpper e c a => exact .compareUpper e c (hR a)
  | like negated e a => exact .like negated e (hR a)
  | between e low high => exact .between e (hR low) (hR high)
  | among negated e as => exact .among negated e (List.forall₂_same.2 fun a _ => hR a)

/-- Two predicates of one clause that differ in values alone. -/
structure Routed.Matches (R : α → β → Prop) (r : Routed α) (r' : Routed β) : Prop where
  ofGroups : r.ofGroups = r'.ofGroups
  predicate : r.predicate.Matches R r'.predicate

/-- Two filters of a source that differ in values alone. -/
structure Pushed.Matches (R : α → β → Prop) (p : Pushed α) (p' : Pushed β) : Prop where
  tree : p.tree.Matches (Predicate.Matches R) p'.tree
  isChoice : p.isChoice = p'.isChoice

/-- Two sources that differ in values alone. -/
structure Source.Matches (R : α → β → Prop) (s : Source α) (s' : Source β) : Prop where
  table : s.table = s'.table
  name : s.name = s'.name
  load : List.Forall₂ (Predicate.Matches R) s.load s'.load
  pushed : Option.Rel (Pushed.Matches R) s.pushed s'.pushed

/-- Two joins that differ in values alone. -/
structure JoinClause.Matches (R : α → β → Prop) (j : JoinClause α) (j' : JoinClause β) : Prop where
  kind : j.kind = j'.kind
  source : j.source.Matches R j'.source
  pairs : j.pairs = j'.pairs

/-! ## Numbering trees -/

section RunsAlike

variable {δ : Type} {B : Bindings → Bindings → Prop} {R : α → β → Prop} {S : γ → δ → Prop}
  {f : α → StateM Bindings γ} {g : β → StateM Bindings δ}

mutual

/-- **Matching trees are numbered alike** when their leaves are. -/
theorem Tree.Matches.runsAlike_traverse (hfg : ∀ a b, R a b → RunsAlike B S (f a) (g b)) :
    ∀ {t : Tree α} {u : Tree β}, t.Matches R u →
      RunsAlike B (Tree.Matches S) (t.traverse f) (u.traverse g)
  | .leaf a, u, h => by
    obtain ⟨b, rfl, hab⟩ := Tree.matches_leaf.1 h
    rw [Tree.traverse, Tree.traverse]
    exact (hfg a b hab).bind fun _ d hcd => .pure (Tree.matches_leaf.2 ⟨d, rfl, hcd⟩)
  | .group logic children, u, h => by
    obtain ⟨children', rfl, hall⟩ := Tree.matches_group.1 h
    rw [Tree.traverse, Tree.traverse]
    exact (Tree.MatchesAll.runsAlike_traverseAll hfg hall).bind fun _ us hus =>
      .pure (Tree.matches_group.2 ⟨us, rfl, hus⟩)

theorem Tree.MatchesAll.runsAlike_traverseAll (hfg : ∀ a b, R a b → RunsAlike B S (f a) (g b)) :
    ∀ {ts : List (Tree α)} {us : List (Tree β)}, Tree.MatchesAll R ts us →
      RunsAlike B (Tree.MatchesAll S) (Tree.traverseAll f ts) (Tree.traverseAll g us)
  | [], us, h => by
    obtain rfl := Tree.matchesAll_nil.1 h
    rw [Tree.traverseAll, Tree.traverseAll]
    exact .pure (Tree.matchesAll_nil.2 rfl)
  | t :: ts, us, h => by
    obtain ⟨u, us, rfl, hu, hus⟩ := Tree.matchesAll_cons.1 h
    rw [Tree.traverseAll, Tree.traverseAll]
    exact (Tree.Matches.runsAlike_traverse hfg hu).bind fun _ v hv =>
      (Tree.MatchesAll.runsAlike_traverseAll hfg hus).bind fun _ vs hvs =>
        .pure (Tree.matchesAll_cons.2 ⟨v, vs, rfl, hv, hvs⟩)

end

end RunsAlike

/-! ## Numbering in lockstep -/

section Traverse

variable {R : α → β → Prop} {f : α → StateM Bindings γ} {g : β → StateM Bindings γ}

theorem Predicate.Matches.traverse (hfg : ∀ a b, R a b → Lockstep (f a) (g b)) {p : Predicate α}
    {p' : Predicate β} (h : p.Matches R p') : Lockstep (p.traverse f) (p'.traverse g) := by
  cases h with
  | always | never | isNull e | isNotNull e | isBlank e | isNotBlank e => exact .pure _
  | compare e c h => exact (hfg _ _ h).bind fun _ => .pure _
  | compareUpper e c h => exact (hfg _ _ h).bind fun _ => .pure _
  | like negated e h => exact (hfg _ _ h).bind fun _ => .pure _
  | between e hlow hhigh => exact (hfg _ _ hlow).bind fun _ => (hfg _ _ hhigh).bind fun _ => .pure _
  | among negated e h => exact (Lockstep.mapM hfg h).bind fun _ => .pure _

theorem Tree.Matches.traverse (hfg : ∀ a b, R a b → Lockstep (f a) (g b)) {t : Tree α}
    {u : Tree β} (h : t.Matches R u) : Lockstep (t.traverse f) (u.traverse g) := by
  intro b b' hb
  obtain ⟨hresult, hbindings⟩ := h.runsAlike_traverse hfg b b' hb
  exact ⟨hresult.eq, hbindings⟩

theorem Routed.Matches.traverse (hfg : ∀ a b, R a b → Lockstep (f a) (g b)) {r : Routed α}
    {r' : Routed β} (h : r.Matches R r') :
    Lockstep (do return (⟨r.ofGroups, ← r.predicate.traverse f⟩ : Routed γ))
      (do return ⟨r'.ofGroups, ← r'.predicate.traverse g⟩) := by
  rw [h.ofGroups]
  exact (h.predicate.traverse hfg).bind fun _ => .pure _

theorem Source.Matches.traverse (hfg : ∀ a b, R a b → Lockstep (f a) (g b)) {s : Source α}
    {s' : Source β} (h : s.Matches R s') : Lockstep (s.traverse f) (s'.traverse g) := by
  have hpredicate : ∀ (p : Predicate α) (p' : Predicate β), p.Matches R p' →
      Lockstep (p.traverse f) (p'.traverse g) := fun _ _ => Predicate.Matches.traverse hfg
  obtain ⟨table, name, load, pushed⟩ := s
  obtain ⟨_, _, load', pushed'⟩ := s'
  obtain ⟨rfl, rfl, hload, hpushed⟩ := h
  refine (Lockstep.mapM hpredicate hload).bind fun _ => ?_
  cases hpushed with
  | none => exact .pure _
  | @some p p' hp =>
    obtain ⟨tree, isChoice⟩ := p
    obtain ⟨tree', _⟩ := p'
    obtain ⟨htree, rfl⟩ := hp
    exact (htree.traverse hpredicate).bind fun _ => .pure _

theorem JoinClause.Matches.traverse (hfg : ∀ a b, R a b → Lockstep (f a) (g b))
    {j : JoinClause α} {j' : JoinClause β} (h : j.Matches R j') :
    Lockstep (j.traverse f) (j'.traverse g) := by
  obtain ⟨kind, source, pairs⟩ := j
  obtain ⟨_, source', _⟩ := j'
  obtain ⟨rfl, hsource, rfl⟩ := h
  exact (hsource.traverse hfg).bind fun _ => .pure _

end Traverse

/-! ## Drafts -/

/-- Two holes whose placeholders are to have the same stem. -/
def Hole.Alike (h h' : Hole) : Prop := h.stem = h'.stem

theorem Hole.Alike.refl (h : Hole) : h.Alike h := rfl

theorem Hole.Alike.fill {h h' : Hole} (hstem : h.Alike h') :
    Lockstep (Draft.fill h) (Draft.fill h') := by
  intro b b' hb
  unfold Draft.fill
  rw [hstem]
  exact hb.bind h'.stem h.value h'.value

/-- Two drafts that differ in the values of their holes alone. -/
structure Draft.Alike (d d' : Draft) : Prop where
  hint : d.hint = d'.hint
  items : d.items = d'.items
  base : d.base.Matches Hole.Alike d'.base
  joins : List.Forall₂ (JoinClause.Matches Hole.Alike) d.joins d'.joins
  filter : Option.Rel (Tree.Matches (Routed.Matches Hole.Alike)) d.filter d'.filter
  groupBy : d.groupBy = d'.groupBy
  orderBy : d.orderBy = d'.orderBy
  paging : d.paging = d'.paging

namespace Draft.Alike

/-- The placeholders of drafts that differ in values alone are numbered in lockstep. -/
theorem numbered {d d' : Draft} (h : d.Alike d') : Lockstep d.numbered d'.numbered := by
  have hfill : ∀ h h' : Hole, h.Alike h' → Lockstep (fill h) (fill h') := fun _ _ => Hole.Alike.fill
  have hjoin : ∀ j j' : JoinClause Hole, j.Matches Hole.Alike j' →
      Lockstep (j.traverse fill) (j'.traverse fill) := fun _ _ => JoinClause.Matches.traverse hfill
  have hroute : ∀ r r' : Routed Hole, r.Matches Hole.Alike r' →
      Lockstep (do return (⟨r.ofGroups, ← r.predicate.traverse fill⟩ : Routed Placeholder))
        (do return ⟨r'.ofGroups, ← r'.predicate.traverse fill⟩) :=
    fun _ _ => Routed.Matches.traverse hfill
  have htree : ∀ t t' : Tree (Routed Hole), t.Matches (Routed.Matches Hole.Alike) t' →
      Lockstep
        (t.traverse fun r => do
          return (⟨r.ofGroups, ← r.predicate.traverse fill⟩ : Routed Placeholder))
        (t'.traverse fun r => do return ⟨r.ofGroups, ← r.predicate.traverse fill⟩) :=
    fun _ _ => Tree.Matches.traverse hroute
  unfold Draft.numbered
  rw [h.hint, h.items, h.groupBy, h.orderBy, h.paging]
  refine (h.base.traverse hfill).bind fun _ => ?_
  refine (Lockstep.mapM hjoin h.joins).bind fun _ => ?_
  refine (Lockstep.mapM_option htree h.filter).bind fun _ => ?_
  exact .pure _

/-- **Drafts that differ in values alone have the same query.** -/
theorem number_fst {d d' : Draft} (h : d.Alike d') : d.number.1 = d'.number.1 :=
  (h.numbered {} {} (.refl {})).1

/-- **Drafts that differ in values alone have the same placeholders.** -/
theorem number_snd {d d' : Draft} (h : d.Alike d') : d.number.2.Alike d'.number.2 :=
  (h.numbered {} {} (.refl {})).2

end Draft.Alike

end ReportSql
