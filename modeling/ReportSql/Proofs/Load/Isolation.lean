import ReportSql.Proofs.Query.Joined
import ReportSql.Proofs.Token.Balance

/-!
# Isolation of loads

Wherever a dataset occurs in a query, its source is restricted to the loads that the request allows.
The restriction is a conjunction of its own: what is moved into the source is read as further
conjuncts, and never as an alternative to the loads.

## Main definitions

* `loadIdTokens`, `loadTypeTokens` — the conditions on loads.
* `IsolatesLoads` — a restriction that reads only the allowed loads of a dataset.
* `Source.IsIsolated` — a source of a query that reads only the allowed loads of its dataset.

## Main statements

* `Source.WrittenFor.exists_units` — what is moved into a source is read as further conjuncts.
* `Request.CompilesTo.isIsolated_sources` — every source of a compiled query is isolated.
-/

namespace ReportSql

open Text

variable {settings : Settings} {r : Request} {c : Compiled} {s : Scope} {o : Occurrence}
  {bound : List (Placeholder × BindValue)} {options : Options}

/-! ## Conditions on loads -/

/-- The condition that a column is one of the values of some placeholders. -/
def loadIdTokens (column : String) : List String → List Token
  | [name] => [.quoted (upper column), .symbol '=', .placeholder name]
  | names =>
    [.quoted (upper column), .word "IN"] ++
      ([.symbol '('] ++ [.symbol ','].intercalate (names.map fun name => [.placeholder name]) ++
        [.symbol ')'])

/-- The condition that a column, in upper case, is the value of a placeholder. -/
def loadTypeTokens (column name : String) : List Token :=
  [.word "UPPER"] ++ ([.symbol '('] ++ [.quoted (upper column)] ++ [.symbol ')']) ++
    [.symbol '=', .placeholder name]

theorem solid_loadIdTokens (column : String) (names : List String) :
    Solid (loadIdTokens column names) := by
  have hin : Solid [.word "IN"] := .singleton (fun _ => rfl) fun logic => by cases logic <;> decide
  have hlist := balanced_placeholders names
  unfold loadIdTokens
  split
  · next name => exact ((Solid.quoted _).append .equals).append (.placeholder name)
  · exact ((Solid.quoted _).append hin).append hlist.solid

theorem solid_loadTypeTokens (column name : String) : Solid (loadTypeTokens column name) := by
  have hupper : Solid [.word "UPPER"] :=
    .singleton (fun _ => rfl) fun logic => by cases logic <;> decide
  have hcolumn : Balanced [.quoted (upper column)] := rfl
  exact (hupper.append hcolumn.solid).append (Solid.equals.append (.placeholder name))

/-! ## Predicates of loads -/

@[simp] theorem values_loadIdPredicate (column : String) (holes : List Hole) :
    (loadIdPredicate column holes).values = holes := by
  unfold loadIdPredicate
  split <;> rfl

/-- The predicate of some holes becomes a condition on load identifiers. -/
theorem tokens_of_matches_loadIdPredicate {R : Hole → Placeholder → Prop} {column : String}
    {holes : List Hole} {q : Predicate Placeholder}
    (h : (loadIdPredicate column holes).Matches R q) :
    q.tokens = loadIdTokens column (q.values.map Placeholder.name) := by
  match holes, h with
  | [], .among _ _ hs =>
    cases hs
    rfl
  | [hole], .compare _ _ hp => rfl
  | hole :: hole' :: holes, .among _ _ hs =>
    cases hs with
    | cons _ hs =>
      cases hs with
      | cons _ _ =>
        simp [Predicate.tokens, Predicate.values, Expr.tokens, ColumnRef.tokens, loadIdTokens,
          Placeholder.token, Function.comp_def]

/-- The condition on load identifiers that the predicate of some holes becomes. -/
theorem exists_loadIdTokens {R : Hole → Placeholder → Prop} {column : String} {holes : List Hole}
    {q : Predicate Placeholder} (h : (loadIdPredicate column holes).Matches R q) :
    ∃ ps, List.Forall₂ R holes ps ∧ q.tokens = loadIdTokens column (ps.map Placeholder.name) :=
  ⟨q.values, by simpa using h.values, tokens_of_matches_loadIdPredicate h⟩

/-- The condition on the load type that the predicate of a dataset becomes. -/
theorem exists_loadTypeTokens {R : Hole → Placeholder → Prop} {column : String} {hole : Hole}
    {q : Predicate Placeholder}
    (h : (Predicate.compare (.upper (.column (.bare column))) .equal hole).Matches R q) :
    ∃ p, R hole p ∧ q.tokens = loadTypeTokens column p.name := by
  cases h with
  | compare _ _ hp => exact ⟨_, hp, rfl⟩

/-- Predicates whose texts are units, the condition on load identifiers among them and the one on
the load type if one applies. -/
structure ReadsLoads (settings : Settings) (r : Request) (R : Hole → Placeholder → Prop)
    (dataset : String) (spec : PartitionSpec) (load : List (Predicate Placeholder)) : Prop where
  solid : ∀ p ∈ load, Solid p.tokens
  loadId : ∃ ps, List.Forall₂ R (loadHoles r dataset spec) ps ∧
    loadIdTokens (settings.physicalColumn dataset spec.loadIdColumn) (ps.map Placeholder.name) ∈
      load.map Predicate.tokens
  loadType : ∀ loadType column, r.loadType? = some loadType → spec.loadTypeColumn = some column →
    spec.supports loadType = true →
      ∃ p, R ⟨"lt_" ++ nameToken dataset, .text (upper loadType)⟩ p ∧
        loadTypeTokens (settings.physicalColumn dataset column) p.name ∈ load.map Predicate.tokens

theorem readsLoads_of_matches {R : Hole → Placeholder → Prop} {dataset : String}
    {spec : PartitionSpec} {load : List (Predicate Placeholder)}
    (h : List.Forall₂ (Predicate.Matches R)
      (loadIdPredicate (settings.physicalColumn dataset spec.loadIdColumn)
        (loadHoles r dataset spec) :: loadTypeConjunct settings r dataset spec) load) :
    ReadsLoads settings r R dataset spec load := by
  cases h with
  | @cons _ q _ qs hq hqs =>
    obtain ⟨ps, hps, htokens⟩ := exists_loadIdTokens hq
    refine ⟨?_, ⟨ps, hps, by simp [htokens]⟩, ?_⟩
    · intro p hp
      rcases List.mem_cons.1 hp with rfl | hp
      · rw [htokens]
        exact solid_loadIdTokens _ _
      · obtain ⟨p', hp', hmatch⟩ := exists_of_forall₂ hqs p hp
        obtain ⟨loadType, column, -, -, -, rfl⟩ := mem_loadTypeConjunct.1 hp'
        obtain ⟨v, -, hv⟩ := exists_loadTypeTokens hmatch
        rw [hv]
        exact solid_loadTypeTokens _ _
    · intro loadType column hloadType hcolumn hsupports
      obtain ⟨q', hq', hmatch⟩ := exists_of_forall₂ hqs.flip _
        (mem_loadTypeConjunct.2 ⟨loadType, column, hloadType, hcolumn, hsupports, rfl⟩)
      obtain ⟨p, hp, hp'⟩ := exists_loadTypeTokens hmatch
      exact ⟨p, hp, hp' ▸ List.mem_map_of_mem (List.mem_cons_of_mem _ hq')⟩

/-! ## Restrictions of sources -/

/-- The members of a group that is read as a conjunction are units. -/
theorem exists_units {tss : List (List Token)} (h : ∀ ts ∈ tss, Solid ts) :
    ∃ units, units ≠ [] ∧ (∀ ts ∈ units, Solid ts) ∧
      [.word "AND"].intercalate units = [.word "AND"].intercalate tss := by
  cases tss with
  | nil => exact ⟨[[]], by simp, by simpa using Solid.nil, rfl⟩
  | cons ts tss => exact ⟨ts :: tss, by simp, h, rfl⟩

/-- A group of at most one member is read the same under either logic. -/
theorem intercalate_eq_of_length_le_one {k k' : List Token} {tss : List (List Token)}
    (h : tss.length ≤ 1) : k.intercalate tss = k'.intercalate tss := by
  match tss, h with
  | [], _ => rfl
  | [ts], _ => simp [List.intercalate]

namespace Source

variable {source : Source Placeholder}

theorem balanced_restrictionTokens (ho : options.Closed)
    (h : ∀ p ∈ source.predicates, p.Legible options) : Balanced source.restrictionTokens := by
  have hand : Balanced [.word "AND"] := rfl
  refine hand.intercalate (forall_conjunctTokens ?_ ?_ fun _ => Balanced.enclosed)
  · intro p hp
    exact p.balanced_tokens ho (h p (by simp [predicates, hp]))
  · intro p hp
    exact balanced_treeTokens ho p.tree fun q hq =>
      h q (by simp [predicates, clausePredicates, hp, hq])

/-- **What is moved into a source is read as further conjuncts beside its loads.**  A choice is put
between parentheses, and the members of any other group are conjuncts. -/
theorem WrittenFor.exists_units (ho : settings.options.Closed)
    (h : source.WrittenFor settings s bound o) (hload : source.load ≠ []) :
    ∃ units, (∀ ts ∈ units, Solid ts) ∧
      source.restrictionTokens =
        [.word "AND"].intercalate (source.load.map Predicate.tokens ++ units) := by
  unfold restrictionTokens conjunctTokens
  cases hpushed : source.pushed with
  | none => exact ⟨[], by simp, rfl⟩
  | some p =>
    obtain ⟨hleaves, logic, children, htree, hchoice⟩ := h.pushed p hpushed
    have hlegible : ∀ q ∈ p.tree.leaves, q.Legible settings.options :=
      fun q hq => (hleaves q hq).legible
    have hnonempty : source.load.isEmpty = false := by simpa using hload
    rw [hnonempty]
    dsimp only
    by_cases hp : p.isChoice = true
    · refine ⟨[[Token.symbol '('] ++ treeTokens p.tree ++ [Token.symbol ')']], ?_, by simp [hp]⟩
      intro ts hts
      rw [List.mem_singleton.1 hts]
      exact (balanced_treeTokens ho p.tree hlegible).solid
    · rw [htree] at hlegible
      have hmembers : ∀ ts ∈ memberTokens children, Solid ts :=
        solid_memberTokens ho (by simpa using hlegible)
      obtain ⟨units, hne, hsolid, hunits⟩ := ReportSql.exists_units hmembers
      -- an OR that is not marked as a choice has one member, so no OR stands in its text
      have hlogic : [logic.token].intercalate (memberTokens children) =
          [.word "AND"].intercalate (memberTokens children) := by
        cases logic with
        | and => rfl
        | or =>
          refine intercalate_eq_of_length_le_one ?_
          rw [length_memberTokens]
          by_contra hlength
          exact hp (hchoice rfl (by omega))
      refine ⟨units, hsolid, ?_⟩
      rw [← intercalate_append_singleton _ hne, hunits, ← hlogic, htree, treeTokens_group]
      simp [hp]

/-- The tokens of a restricted source. -/
theorem tokens_of_load (h : source.load ≠ []) :
    source.tokens = derivedTokens source.table source.restrictionTokens source.name := by
  have hconjuncts : source.conjuncts.isEmpty = false := by simp [conjuncts, h]
  simp [tokens, hconjuncts]

end Source

/-- A restriction that reads only the loads that a request allows for a dataset.  It is a
conjunction, and its conjuncts ask for one of the allowed load identifiers and, if the request names
a type of loads that the dataset has, for this type. -/
structure IsolatesLoads (settings : Settings) (r : Request) (c : Compiled) (dataset : String)
    (spec : PartitionSpec) (restriction : List Token) : Prop where
  balanced : Balanced restriction
  conjunction : parts .or restriction = [restriction]
  loadId : ∃ names,
    loadIdTokens (settings.physicalColumn dataset spec.loadIdColumn) names ∈
      parts .and restriction ∧
    List.Forall₂ (fun name v =>
        c.values.get? name = some ((r.loadIdKind dataset spec.loadIdColumn).coerce v))
      names (r.partitionValues dataset)
  loadType : ∀ loadType column, r.loadType? = some loadType → spec.loadTypeColumn = some column →
    spec.supports loadType = true →
      ∃ name, loadTypeTokens (settings.physicalColumn dataset column) name ∈
          parts .and restriction ∧
        c.values.get? name = some (.text (upper loadType))

/-- The value of a hole is found under the name of its placeholder. -/
theorem Compiled.Spells.get?_of_binds {q : Query} (h : c.Spells bound q) {hole : Hole}
    {p : Placeholder} (hp : Binds bound hole p) : c.values.get? p.name = some hole.value := by
  have hmem : (p.name, hole.value) ∈ bound.map fun e => (e.1.name, e.2) :=
    List.mem_map.2 ⟨_, hp.mem, rfl⟩
  have hnodup : ((bound.map fun e => (e.1.name, e.2)).map Prod.fst).Nodup := by
    rw [List.map_map]
    exact h.nodup
  rw [h.values]
  exact Dict.get?_ofList_of_mem hnodup hmem

/-- **The source of a dataset with allowed loads reads only these.** -/
theorem Source.WrittenFor.isolatesLoads (ho : settings.options.Closed) {q : Query}
    (hc : c.Spells bound q) (hrequest : s.request = r) {source : Source Placeholder}
    (h : source.WrittenFor settings s bound o)
    (hlegible : ∀ p ∈ source.predicates, p.Legible settings.options) {spec : PartitionSpec}
    (hvalues : r.partitionValues o.dataset ≠ [])
    (hspec : settings.partition? o.dataset = some spec) :
    source.tokens =
        derivedTokens (settings.physicalTable o.dataset) source.restrictionTokens o.name ∧
      IsolatesLoads settings r c o.dataset spec source.restrictionTokens := by
  obtain ⟨load, hload, hmatch⟩ := h.load
  rw [hrequest, loadPredicates_of_spec hvalues hspec] at hload
  cases hload
  have hreads := readsLoads_of_matches hmatch
  have hne : source.load ≠ [] := by
    intro hnil
    rw [hnil] at hmatch
    cases hmatch
  obtain ⟨units, hunits, hrestriction⟩ := h.exists_units ho hne
  have hsolid : ∀ ts ∈ source.load.map Predicate.tokens ++ units, Solid ts := by
    simpa [or_imp, forall_and] using And.intro hreads.solid hunits
  have hparts : parts .and source.restrictionTokens =
      source.load.map Predicate.tokens ++ units := by
    rw [hrestriction]
    exact parts_intercalate .and (by simp [hne]) hsolid
  have hmem : ∀ ts ∈ source.load.map Predicate.tokens,
      ts ∈ parts .and source.restrictionTokens := by
    intro ts hts
    rw [hparts]
    exact List.mem_append_left _ hts
  refine ⟨?_, source.balanced_restrictionTokens ho hlegible, ?_, ?_, ?_⟩
  · rw [Source.tokens_of_load hne, h.table, h.name]
  · rw [hrestriction]
    exact parts_intercalate_of_ne (by decide : Logic.or ≠ .and) hsolid
  · obtain ⟨ps, hps, hid⟩ := hreads.loadId
    refine ⟨ps.map Placeholder.name, hmem _ hid, ?_⟩
    rw [loadHoles, List.forall₂_map_left_iff] at hps
    rw [List.forall₂_map_left_iff]
    exact (hps.imp fun _ _ hp => hc.get?_of_binds hp).flip
  · intro loadType column hloadType hcolumn hsupports
    obtain ⟨p, hp, htype⟩ := hreads.loadType loadType column hloadType hcolumn hsupports
    exact ⟨p.name, hmem _ htype, hc.get?_of_binds hp⟩

/-! ## Compiled queries -/

theorem infix_intercalate {k ts : List Token} {tss : List (List Token)} (h : ts ∈ tss) :
    ts <:+: k.intercalate tss := by
  induction tss with
  | nil => cases h
  | cons us tss ih =>
    cases tss with
    | nil =>
      rw [List.mem_singleton.1 h]
      simp [List.intercalate]
    | cons vs tss =>
      rw [List.intercalate_cons_cons]
      rcases List.mem_cons.1 h with rfl | h
      · exact ((List.prefix_append ts k).trans (List.prefix_append _ _)).isInfix
      · exact (ih h).trans (List.suffix_append _ _).isInfix

/-- The tokens of a source stand together in those of its query. -/
theorem Query.infix_tokens {q : Query} {source : Source Placeholder}
    (h : source ∈ q.select.sources) : source.tokens <:+: q.tokens := by
  have hselect : ∀ s : Select Placeholder, source ∈ s.sources → source.tokens <:+: s.tokens := by
    intro s hs
    rw [Select.sources, List.mem_cons, List.mem_map] at hs
    rcases hs with rfl | ⟨j, hj, rfl⟩
    · have hline : [Token.word "FROM"] ++ s.base.tokens ∈ s.lineTokens := by
        simp [Select.lineTokens, Select.sourceTokens]
      exact (List.suffix_append _ _).isInfix.trans (infix_intercalate hline)
    · have hline : j.tokens ∈ s.lineTokens := by
        have hmem : j.tokens ∈ s.joins.map JoinClause.tokens := List.mem_map_of_mem hj
        simp [Select.lineTokens, Select.sourceTokens, hmem]
      refine List.IsInfix.trans ?_ (infix_intercalate hline)
      exact ⟨j.kind.tokens ++ [Token.word "JOIN"],
        [Token.word "ON"] ++ [Token.word "AND"].intercalate (j.pairs.map JoinClause.pairTokens),
        by simp [JoinClause.tokens]⟩
  cases q with
  | rows s => exact hselect s h
  | countOf s =>
    refine (hselect s h).trans ⟨_, [.symbol ')', .word "sub"], rfl⟩

/-- A source that stands in a query and that, for a dataset with a partition and with allowed load
identifiers, is a restriction of its table to rows of these loads. -/
structure Source.IsIsolated (settings : Settings) (r : Request) (c : Compiled) (q : Query)
    (o : Occurrence) (source : Source Placeholder) : Prop where
  stands : source.tokens <:+: q.tokens
  restricted : ∀ spec, r.partitionValues o.dataset ≠ [] →
    settings.partition? o.dataset = some spec →
      ∃ restriction,
        source.tokens =
          derivedTokens (settings.physicalTable o.dataset) restriction o.name ∧
        IsolatesLoads settings r c o.dataset spec restriction ∧
        ∀ v, readTruth v restriction = .yes →
          ∀ condition ∈ parts .and restriction, v condition = .yes

/-- **A request reads only the loads that it allows.**  The sources of a compiled query are the
occurrences of datasets in the order of the joins, and every one is isolated, whatever else is moved
into it.  The texts of the options close what they open, so that none of them reaches beyond its
condition. -/
theorem Request.CompilesTo.isIsolated_sources (ho : settings.options.Closed)
    (h : r.CompilesTo settings c) :
    ∃ (p : SourcePlan) (q : Query) (os : List Occurrence), SourcePlan.ofRequest r = .ok p ∧
      lex c.text.toList = some q.tokens ∧ os.Perm p.occurrences ∧
      List.Forall₂ (Source.IsIsolated settings r c q) os q.select.sources := by
  obtain ⟨s, bound, q, hs, hwritten, hspells⟩ := h.exists_query
  obtain ⟨p, hp, -, hperm⟩ := hs.joined_perm
  have hlegible := hwritten.legible
  refine ⟨p, q, s.joined, hp, ?_, hperm, ?_⟩
  · rw [hspells.text]
    exact (Query.lexes_render ho.legible hlegible).eq
  · have hjoined := hwritten.forall₂_joined
    rw [List.forall₂_iff_get] at hjoined ⊢
    refine ⟨hjoined.1, fun i hi hi' => ?_⟩
    have hmem : q.select.sources.get ⟨i, hi'⟩ ∈ q.select.sources := List.get_mem _ _
    refine ⟨Query.infix_tokens hmem, fun spec hvalues hspec => ?_⟩
    obtain ⟨htokens, hisolates⟩ := (hjoined.2 i hi hi').isolatesLoads ho hspells hs.request_eq
      (hlegible.source hmem) hvalues hspec
    exact ⟨_, htokens, hisolates, fun v => eq_yes_of_readTruth hisolates.conjunction⟩

/-- Both occurrences of a dataset that is joined with itself are isolated. -/
theorem isIsolated_sources_craftedPairs :
    craftedSettings.options.Closed ∧
      ∃ c, craftedPairs.CompilesTo craftedSettings c ∧
        ∃ q : Query, lex c.text.toList = some q.tokens ∧ q.select.sources.length = 2 ∧
          ∀ source ∈ q.select.sources, ∃ restriction name,
            source.tokens = Source.derivedTokens
              (craftedSettings.physicalTable craftedPairs.dataset) restriction name ∧
            IsolatesLoads craftedSettings craftedPairs c craftedPairs.dataset
              ⟨"LOAD_ID", some "LOAD_TYPE", some ["FULL"]⟩ restriction := by
  have ho : craftedSettings.options.Closed :=
    ⟨⟨by decide +kernel, by decide +kernel, by decide +kernel⟩, by decide +kernel,
      by decide +kernel⟩
  obtain ⟨c, hc⟩ := exists_compilesTo_craftedPairs
  obtain ⟨p, q, os, hp, hlex, hperm, hsources⟩ := hc.isIsolated_sources ho
  have hdatasets : p.occurrences.map Occurrence.dataset =
      [craftedPairs.dataset, craftedPairs.dataset] := by
    have hplan : (SourcePlan.ofRequest craftedPairs).toOption.map
        (fun p => p.occurrences.map Occurrence.dataset) =
          some [craftedPairs.dataset, craftedPairs.dataset] := by decide +kernel
    rw [hp] at hplan
    exact Option.some.inj hplan
  refine ⟨ho, c, hc, q, hlex, ?_, fun source hsource => ?_⟩
  · have hlength := congrArg List.length hdatasets
    rw [List.length_map, ← hperm.length_eq, hsources.length_eq] at hlength
    exact hlength
  · obtain ⟨o, hmem, hisolated⟩ := exists_of_forall₂ hsources source hsource
    have ho' : o.dataset ∈ p.occurrences.map Occurrence.dataset :=
      List.mem_map_of_mem (hperm.subset hmem)
    rw [hdatasets] at ho'
    have hdataset : o.dataset = craftedPairs.dataset := by simpa using ho'
    obtain ⟨restriction, htokens, hisolates, -⟩ := hisolated.restricted
      ⟨"LOAD_ID", some "LOAD_TYPE", some ["FULL"]⟩ (by rw [hdataset]; decide +kernel)
      (by rw [hdataset]; rfl)
    rw [hdataset] at htokens hisolates
    exact ⟨restriction, o.name, htokens, hisolates⟩

end ReportSql
