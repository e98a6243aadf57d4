import Mathlib.Data.List.Nodup
import ReportSql.Proofs.Blind.Drafts
import ReportSql.Proofs.Query.Parts

/-!
# Numbering placeholders

Numbering the placeholders of a draft binds the value of every hole to a placeholder that takes its
place.  The placeholders are numbered one after another, so no two have one name.

## Main definitions

* `Binds bound h p` — a placeholder is bound to the value of a hole and has its stem.
* `Numbers m post` — a numbering gives out the next numbers, and its result satisfies `post`.
* `Draft.NumberedAs` — a query that a draft becomes.

## Main statements

* `Draft.numbers_numbered` — what numbering makes of a draft.
* `Placeholder.nodup_names` — placeholders with different numbers have different names.
-/

namespace ReportSql

variable {α β γ : Type}

/-- A placeholder is among those bound, with the value of a hole, and has its stem. -/
structure Binds (bound : List (Placeholder × BindValue)) (h : Hole) (p : Placeholder) : Prop where
  stem : p.stem = h.stem
  mem : (p, h.value) ∈ bound

/-- A numbering binds values to new placeholders that have the next numbers in order, and its result
satisfies `post` of these placeholders wherever they are bound. -/
def Numbers (m : StateM Bindings α)
    (post : (Hole → Placeholder → Prop) → List Placeholder → α → Prop) : Prop :=
  ∀ b : Bindings, ∃ new : List (Placeholder × BindValue),
    (m b).2 = ⟨b.issued + new.length, b.bound ++ new⟩ ∧
    new.map (fun e => e.1.number) = List.range' (b.issued + 1) new.length ∧
    ∀ bound, new ⊆ bound → post (Binds bound) (new.map Prod.fst) (m b).1

namespace Numbers

variable {post : (Hole → Placeholder → Prop) → List Placeholder → α → Prop}
  {post' : (Hole → Placeholder → Prop) → List Placeholder → β → Prop}

theorem pure {a : α} (h : ∀ R, post R [] a) : Numbers (Pure.pure a) post := by
  intro b
  exact ⟨[], by rw [List.append_nil]; rfl, rfl, fun bound _ => h (Binds bound)⟩

theorem imp {m : StateM Bindings α}
    {post' : (Hole → Placeholder → Prop) → List Placeholder → α → Prop} (h : Numbers m post)
    (himp : ∀ R ps a, post R ps a → post' R ps a) : Numbers m post' := by
  intro b
  obtain ⟨new, hbindings, hnumbers, hpost⟩ := h b
  exact ⟨new, hbindings, hnumbers, fun bound hbound => himp _ _ _ (hpost bound hbound)⟩

/-- **A sequence of numberings numbers the placeholders of both.** -/
theorem bind {m : StateM Bindings α} {f : α → StateM Bindings β} (h : Numbers m post)
    (hf : ∀ a, Numbers (f a) fun R qs y => ∀ ps, post R ps a → post' R (ps ++ qs) y) :
    Numbers (m >>= f) post' := by
  intro b
  obtain ⟨first, hfirst, hnumbers, hpost⟩ := h b
  obtain ⟨second, hsecond, hnumbers', hpost'⟩ := hf (m b).1 (m b).2
  refine ⟨first ++ second, ?_, ?_, ?_⟩
  · change (f (m b).1 (m b).2).2 = _
    rw [hsecond, hfirst]
    simp [Nat.add_assoc]
  · rw [hfirst] at hnumbers'
    dsimp only at hnumbers'
    rw [List.map_append, hnumbers, hnumbers', List.length_append, ← List.range'_append]
    congr 2
    omega
  · intro bound hbound
    rw [List.append_subset] at hbound
    rw [List.map_append]
    exact hpost' bound hbound.2 _ (hpost bound hbound.1)

/-- A numbering and a step on its result alone. -/
theorem map {m : StateM Bindings α} {g : α → β} (h : Numbers m post)
    (hg : ∀ R ps a, post R ps a → post' R ps (g a)) :
    Numbers (m >>= fun a => Pure.pure (g a)) post' := by
  refine h.bind fun a => .pure fun R ps hps => ?_
  rw [List.append_nil]
  exact hg R ps a hps

/-- Numberings of the items of a list, one after another. -/
theorem mapM {S : (Hole → Placeholder → Prop) → α → β → Prop} {values : β → List Placeholder}
    {f : α → StateM Bindings β}
    (hf : ∀ a, Numbers (f a) fun R ps b => S R a b ∧ ps = values b) (as : List α) :
    Numbers (as.mapM f) fun R ps bs => List.Forall₂ (S R) as bs ∧ ps = bs.flatMap values := by
  induction as with
  | nil =>
    rw [List.mapM_nil]
    exact .pure fun R => ⟨.nil, rfl⟩
  | cons a as ih =>
    rw [List.mapM_cons]
    refine (hf a).bind fun b => ih.map fun R qs bs hbs ps hps => ?_
    exact ⟨.cons hps.1 hbs.1, by rw [hps.2, hbs.2, List.flatMap_cons]⟩

end Numbers

/-! ## Parts of drafts -/

/-- A hole becomes the next placeholder. -/
theorem numbers_fill (h : Hole) : Numbers (Draft.fill h) fun R ps p => R h p ∧ ps = [p] := by
  intro b
  refine ⟨[(⟨h.stem, b.issued + 1⟩, h.value)], rfl, rfl, fun bound hbound => ?_⟩
  exact ⟨⟨rfl, hbound (List.mem_singleton.2 rfl)⟩, rfl⟩

theorem Predicate.numbers_traverse (p : Predicate Hole) :
    Numbers (p.traverse Draft.fill) fun R ps q => p.Matches R q ∧ ps = q.values := by
  cases p with
  | always => exact .pure fun R => ⟨.always, rfl⟩
  | never => exact .pure fun R => ⟨.never, rfl⟩
  | isNull e => exact .pure fun R => ⟨.isNull e, rfl⟩
  | isNotNull e => exact .pure fun R => ⟨.isNotNull e, rfl⟩
  | isBlank e => exact .pure fun R => ⟨.isBlank e, rfl⟩
  | isNotBlank e => exact .pure fun R => ⟨.isNotBlank e, rfl⟩
  | compare e c h =>
    exact (numbers_fill h).map fun R ps q hq => ⟨.compare e c hq.1, hq.2⟩
  | compareUpper e c h =>
    exact (numbers_fill h).map fun R ps q hq => ⟨.compareUpper e c hq.1, hq.2⟩
  | like negated e h =>
    exact (numbers_fill h).map fun R ps q hq => ⟨.like negated e hq.1, hq.2⟩
  | between e low high =>
    refine (numbers_fill low).bind fun q => (numbers_fill high).map fun R qs q' hq' ps hq => ?_
    exact ⟨.between e hq.1 hq'.1, by rw [hq.2, hq'.2]; rfl⟩
  | among negated e hs =>
    refine (Numbers.mapM numbers_fill hs).map fun R ps qs hqs => ?_
    exact ⟨.among negated e hqs.1, by rw [hqs.2, List.flatMap_singleton']; rfl⟩

section Trees

variable {S : (Hole → Placeholder → Prop) → α → β → Prop} {values : β → List Placeholder}
  {f : α → StateM Bindings β}

mutual

theorem Tree.numbers_traverse (hf : ∀ a, Numbers (f a) fun R ps b => S R a b ∧ ps = values b) :
    ∀ t : Tree α, Numbers (t.traverse f) fun R ps u =>
      t.Matches (S R) u ∧ ps = u.leaves.flatMap values
  | .leaf a => by
    rw [Tree.traverse]
    refine (hf a).map fun R ps b hb => ⟨Tree.matches_leaf.2 ⟨b, rfl, hb.1⟩, ?_⟩
    simpa using hb.2
  | .group logic children => by
    rw [Tree.traverse]
    refine (Tree.numbers_traverseAll hf children).map fun R ps us hus => ?_
    exact ⟨Tree.matches_group.2 ⟨us, rfl, hus.1⟩, by simpa using hus.2⟩

theorem Tree.numbers_traverseAll
    (hf : ∀ a, Numbers (f a) fun R ps b => S R a b ∧ ps = values b) :
    ∀ ts : List (Tree α), Numbers (Tree.traverseAll f ts) fun R ps us =>
      Tree.MatchesAll (S R) ts us ∧ ps = (Tree.leavesAll us).flatMap values
  | [] => by
    rw [Tree.traverseAll]
    exact .pure fun R => ⟨Tree.matchesAll_nil.2 rfl, by simp⟩
  | t :: ts => by
    rw [Tree.traverseAll]
    refine (Tree.numbers_traverse hf t).bind fun u =>
      (Tree.numbers_traverseAll hf ts).map fun R qs us hus ps hu => ?_
    exact ⟨Tree.matchesAll_cons.2 ⟨u, us, rfl, hu.1, hus.1⟩, by simp [hu.2, hus.2]⟩

end

end Trees

/-- The placeholders of a source, in order. -/
def Source.values (s : Source α) : List α := s.predicates.flatMap Predicate.values

theorem Source.numbers_traverse (s : Source Hole) :
    Numbers (s.traverse Draft.fill) fun R ps s' => s.Matches R s' ∧ ps = s'.values := by
  obtain ⟨table, name, load, pushed⟩ := s
  refine (Numbers.mapM Predicate.numbers_traverse load).bind fun load' => ?_
  cases pushed with
  | none =>
    refine .pure fun R ps hload => ⟨⟨rfl, rfl, hload.1, .none⟩, ?_⟩
    simp [hload.2, values, predicates, clausePredicates]
  | some p =>
    refine (Tree.numbers_traverse Predicate.numbers_traverse p.tree).map
      fun R qs tree htree ps hload => ⟨⟨rfl, rfl, hload.1, .some ⟨htree.1, rfl⟩⟩, ?_⟩
    simp [hload.2, htree.2, values, predicates, clausePredicates]

theorem JoinClause.numbers_traverse (j : JoinClause Hole) :
    Numbers (j.traverse Draft.fill) fun R ps j' => j.Matches R j' ∧ ps = j'.source.values :=
  j.source.numbers_traverse.map fun _ _ _ hsource => ⟨⟨rfl, hsource.1, rfl⟩, hsource.2⟩

/-- A predicate with its clause, the placeholders in the places of its holes. -/
def Routed.fill (r : Routed Hole) : StateM Bindings (Routed Placeholder) := do
  return { ofGroups := r.ofGroups, predicate := ← r.predicate.traverse Draft.fill }

theorem Routed.numbers_fill (r : Routed Hole) :
    Numbers r.fill fun R ps r' => r.Matches R r' ∧ ps = r'.predicate.values :=
  r.predicate.numbers_traverse.map fun _ _ _ hp => ⟨⟨rfl, hp.1⟩, hp.2⟩

/-! ## Drafts -/

/-- A query that a draft becomes when placeholders take the places of its holes. -/
structure Draft.NumberedAs (R : Hole → Placeholder → Prop) (d : Draft) (s : Select Placeholder) :
    Prop where
  hint : s.hint = d.hint
  items : s.items = d.items
  base : d.base.Matches R s.base
  joins : List.Forall₂ (JoinClause.Matches R) d.joins s.joins
  filter : ∃ filter, Option.Rel (Tree.Matches (Routed.Matches R)) d.filter filter ∧
    s.rowFilter = filter.bind rowClause ∧ s.groupFilter = filter.bind groupClause
  groupBy : s.groupBy = d.groupBy
  orderBy : s.orderBy = d.orderBy
  paging : s.paging = d.paging

/-- **What numbering makes of a draft, in the order of its numbers.**  First come the placeholders
of the sources, then those of the filter as it stands before it is parted into clauses. -/
theorem Draft.numbers_inOrder (d : Draft) :
    Numbers d.numbered fun R ps s => d.NumberedAs R s ∧
      ∃ filter, Option.Rel (Tree.Matches (Routed.Matches R)) d.filter filter ∧
        s.rowFilter = filter.bind rowClause ∧ s.groupFilter = filter.bind groupClause ∧
        ps = s.sources.flatMap Source.values ++
          (filter.elim [] Tree.leaves).flatMap fun r => r.predicate.values := by
  have hfilter : Numbers (d.filter.mapM (Tree.traverse Routed.fill))
      fun R ps filter => Option.Rel (Tree.Matches (Routed.Matches R)) d.filter filter ∧
        ps = (filter.elim [] Tree.leaves).flatMap fun r => r.predicate.values := by
    cases d.filter with
    | none => exact .pure fun R => ⟨.none, rfl⟩
    | some tree =>
      exact (Tree.numbers_traverse Routed.numbers_fill tree).map fun R ps u hu => ⟨.some hu.1, hu.2⟩
  refine d.base.numbers_traverse.bind fun base => ?_
  refine (Numbers.mapM JoinClause.numbers_traverse d.joins).bind fun joins => ?_
  refine hfilter.map fun R us filter hfilter qs hjoins ps hbase => ?_
  refine ⟨⟨rfl, rfl, hbase.1, hjoins.1, ⟨filter, hfilter.1, rfl, rfl⟩, rfl, rfl, rfl⟩,
    filter, hfilter.1, rfl, rfl, ?_⟩
  rw [hbase.2, hjoins.2, hfilter.2, ← List.append_assoc, Select.sources, List.flatMap_cons,
    List.flatMap_map]

/-- **What numbering makes of a draft.**  Its placeholders are those of the query, although the
clauses on rows and on groups need not have theirs in order. -/
theorem Draft.numbers_numbered (d : Draft) :
    Numbers d.numbered fun R ps s =>
      d.NumberedAs R s ∧ ps.Perm (s.predicates.flatMap Predicate.values) := by
  refine d.numbers_inOrder.imp fun R ps s ⟨hs, filter, _, hrows, hgroups, hps⟩ => ⟨hs, ?_⟩
  have hsources : s.sources.flatMap Source.values =
      (s.sources.flatMap Source.predicates).flatMap Predicate.values := by
    rw [List.flatMap_assoc]
    rfl
  have hclauses : ((filter.elim [] Tree.leaves).flatMap fun r => r.predicate.values).Perm
      ((clausePredicates s.rowFilter ++ clausePredicates s.groupFilter).flatMap
        Predicate.values) := by
    rw [hrows, hgroups]
    cases filter with
    | none => exact .nil
    | some u =>
      have hperm := (clausePredicates_perm u).symm.flatMap_right Predicate.values
      rwa [List.flatMap_map] at hperm
  rw [hps, hsources, Select.predicates, List.append_assoc, List.flatMap_append]
  exact hclauses.append_left _

/-! ## Names -/

/-- The stem and the number of a placeholder can be read off its name. -/
theorem Placeholder.eq_of_name_eq {p q : Placeholder} (h : p.name = q.name) : p = q := by
  obtain ⟨stem, n⟩ := p
  obtain ⟨stem', n'⟩ := q
  obtain ⟨rfl, rfl⟩ := Text.append_number_inj h
  rfl

/-- **Placeholders with different numbers have different names.** -/
theorem Placeholder.nodup_names {ps : List Placeholder}
    (h : (ps.map Placeholder.number).Nodup) : (ps.map Placeholder.name).Nodup := by
  have hps : ps.Nodup := List.Nodup.of_map Placeholder.number h
  exact List.Nodup.map (fun _ _ => Placeholder.eq_of_name_eq) hps

/-- Values that are bound under consecutive numbers are bound under different names. -/
theorem nodup_names_of_range' {bound : List (Placeholder × BindValue)} {start count : Nat}
    (h : bound.map (fun e => e.1.number) = List.range' start count) :
    (bound.map fun e => e.1.name).Nodup := by
  have hnodup : ((bound.map Prod.fst).map Placeholder.number).Nodup := by
    rw [List.map_map]
    exact h ▸ List.nodup_range'
  have hnames := Placeholder.nodup_names hnodup
  rwa [List.map_map] at hnames

/-! ## The query of a draft -/

/-- The values of a draft are bound under different names. -/
theorem Draft.nodup_names (d : Draft) : (d.number.2.bound.map fun e => e.1.name).Nodup := by
  obtain ⟨bound, hbindings, hnumbers, -⟩ := d.numbers_numbered {}
  have hbound : d.number.2.bound = bound := congrArg Bindings.bound hbindings
  rw [hbound]
  exact nodup_names_of_range' hnumbers

/-- **The query of a draft and its values.**  Every hole has a placeholder of its own in the query,
the names of the placeholders differ, and they are the names under which the values are found. -/
theorem Draft.exists_number (d : Draft) :
    ∃ bound : List (Placeholder × BindValue),
      d.NumberedAs (Binds bound) d.number.1 ∧
      (bound.map Prod.fst).Perm (d.number.1.predicates.flatMap Predicate.values) ∧
      (bound.map fun e => e.1.name).Nodup ∧
      d.number.2.toDict = Dict.ofList (bound.map fun e => (e.1.name, e.2)) := by
  obtain ⟨bound, hbindings, hnumbers, hpost⟩ := d.numbers_numbered {}
  obtain ⟨hquery, hperm⟩ := hpost bound (List.Subset.refl bound)
  refine ⟨bound, hquery, hperm, nodup_names_of_range' hnumbers, ?_⟩
  change (Bindings.toDict (d.numbered {}).2) = _
  rw [hbindings]
  rfl

/-- **The numbers of a query.**  The placeholders of the sources are numbered first, then those of
the filter as it stands before it is parted into clauses. -/
theorem Draft.exists_number_inOrder (d : Draft) :
    ∃ (bound : List (Placeholder × BindValue)) (filter : Option (Tree (Routed Placeholder))),
      Option.Rel (Tree.Matches (Routed.Matches (Binds bound))) d.filter filter ∧
      d.number.1.rowFilter = filter.bind rowClause ∧
      d.number.1.groupFilter = filter.bind groupClause ∧
      (d.number.1.sources.flatMap Source.values ++
        (filter.elim [] Tree.leaves).flatMap fun r => r.predicate.values).map Placeholder.number =
          List.range' 1 bound.length := by
  obtain ⟨bound, -, hnumbers, hpost⟩ := d.numbers_inOrder {}
  obtain ⟨-, filter, hfilter, hrows, hgroups, hps⟩ := hpost bound (List.Subset.refl bound)
  refine ⟨bound, filter, hfilter, hrows, hgroups, ?_⟩
  change ((d.numbered {}).1.sources.flatMap Source.values ++ _).map _ = _
  rw [← hps, List.map_map]
  exact hnumbers

end ReportSql
