import ReportSql.Proofs.Load.Isolation
import ReportSql.Proofs.Load.Warnings

/-!
# Load identifiers that are heeded

A request names datasets and the loads that it allows of each.  What it names is looked up from the
datasets of the query, so a name is heeded only if some dataset of the query comes to it: then a
source is restricted to these loads, or a warning says that nothing is known of them.

## Main definitions

* `Source.ReadsOnly` — a source that reads only some loads of its dataset.
* `Request.Heeds` — a request whose query or whose warnings tell of the loads under a name.

## Main statements

* `Request.heeds_iff` — which of the allowed loads are heeded.
* `not_heeds_misspelled` — loads that nothing tells of.
-/

namespace ReportSql

open Text

variable {settings : Settings} {r : Request} {c : Compiled} {s : Scope}
  {bound : List (Placeholder × BindValue)} {loads : List Scalar}

/-! ## Restricted sources -/

/-- A source of a query that reads only some loads of its dataset: by one of its conditions the load
identifier is a value that one of these is bound as. -/
def Source.ReadsOnly (settings : Settings) (r : Request) (c : Compiled) (dataset : String)
    (loads : List Scalar) (source : Source Placeholder) : Prop :=
  ∃ spec, settings.partition? dataset = some spec ∧ ∃ p ∈ source.load,
    p.tokens = loadIdTokens (settings.physicalColumn dataset spec.loadIdColumn)
      (p.values.map Placeholder.name) ∧
    p.values.map (fun q => c.values.get? q.name) =
      (loads.map (r.loadIdKind dataset spec.loadIdColumn).coerce).map some

/-- Loads that are bound as those that a request allows for a dataset, if it has a partition. -/
def Request.BindsAlike (settings : Settings) (r : Request) (dataset : String)
    (loads : List Scalar) : Prop :=
  ∀ spec, settings.partition? dataset = some spec →
    (r.partitionValues dataset).map (r.loadIdKind dataset spec.loadIdColumn).coerce =
      loads.map (r.loadIdKind dataset spec.loadIdColumn).coerce

theorem loadIdTokens_ne_loadTypeTokens {column column' name : String} {names : List String} :
    loadIdTokens column names ≠ loadTypeTokens column' name := by
  unfold loadIdTokens
  split <;> simp [loadTypeTokens]

/-- The values under the names of the placeholders for load identifiers. -/
theorem Compiled.Spells.get?_of_loadHoles {q : Query} (h : c.Spells bound q) {dataset : String}
    {spec : PartitionSpec} {ps : List Placeholder}
    (hps : List.Forall₂ (Binds bound) (loadHoles r dataset spec) ps) :
    ps.map (fun p => c.values.get? p.name) =
      ((r.partitionValues dataset).map (r.loadIdKind dataset spec.loadIdColumn).coerce).map
        some := by
  have hvalues := map_eq_of_forall₂ (R := Binds bound) (f := fun hole => some hole.value)
    (g := fun p => c.values.get? p.name) (fun _ _ hp => (h.get?_of_binds hp).symm) hps
  rw [← hvalues, loadHoles, List.map_map, List.map_map]
  rfl

/-- **The loads that a source reads** are those that the request allows for its dataset. -/
theorem Source.WrittenFor.readsOnly_iff {q : Query} (hc : c.Spells bound q)
    (hrequest : s.request = r) {o : Occurrence} {source : Source Placeholder}
    (h : source.WrittenFor settings s bound o) :
    source.ReadsOnly settings r c o.dataset loads ↔
      (settings.partition? o.dataset).isSome = true ∧ r.partitionValues o.dataset ≠ [] ∧
        r.BindsAlike settings o.dataset loads := by
  obtain ⟨load, hload, hmatch⟩ := h.load
  rw [hrequest] at hload
  constructor
  · rintro ⟨spec, hspec, p, hp, htokens, hvalues⟩
    have hne : r.partitionValues o.dataset ≠ [] := by
      intro hnil
      rw [loadPredicates_eq_nil (.inl hnil)] at hload
      cases hload
      rw [List.forall₂_nil_left_iff.1 hmatch] at hp
      cases hp
    rw [loadPredicates_of_spec hne hspec] at hload
    cases hload
    obtain ⟨p', hp', hpp⟩ := exists_of_forall₂ hmatch p hp
    rcases List.mem_cons.1 hp' with rfl | hp'
    · have hholes : List.Forall₂ (Binds bound) (loadHoles r o.dataset spec) p.values := by
        simpa using hpp.values
      refine ⟨by simp [hspec], hne, fun spec' hspec' => ?_⟩
      cases hspec.symm.trans hspec'
      rw [hc.get?_of_loadHoles hholes] at hvalues
      exact List.map_injective_iff.2 (Option.some_injective _) hvalues
    · -- the condition on the load type is no condition on load identifiers
      obtain ⟨loadType, column, -, -, -, rfl⟩ := mem_loadTypeConjunct.1 hp'
      obtain ⟨v, -, hv⟩ := exists_loadTypeTokens hpp
      exact absurd (htokens.symm.trans hv) loadIdTokens_ne_loadTypeTokens
  · rintro ⟨hsome, hne, halike⟩
    obtain ⟨spec, hspec⟩ := Option.isSome_iff_exists.1 hsome
    rw [loadPredicates_of_spec hne hspec] at hload
    cases hload
    obtain ⟨p, ps, hp, -, hsource⟩ := List.forall₂_cons_left_iff.1 hmatch
    have hholes : List.Forall₂ (Binds bound) (loadHoles r o.dataset spec) p.values := by
      simpa using hp.values
    refine ⟨spec, hspec, p, by simp [hsource], tokens_of_matches_loadIdPredicate hp, ?_⟩
    rw [hc.get?_of_loadHoles hholes, halike spec hspec]

/-! ## Names of datasets -/

namespace Request

/-- Some loads restrict a source of a compiled query whose dataset has a name in any case. -/
def Restricts (settings : Settings) (r : Request) (c : Compiled) (name : String)
    (loads : List Scalar) : Prop :=
  ∃ (s : Scope) (d : Draft), s.PlannedFor settings r ∧
    (Draft.ofRequest settings r true).outcome = .ok d ∧
    c = ⟨(Query.rows d.number.1).render, d.number.2.toDict⟩ ∧
    ∃ (o : Occurrence) (source : Source Placeholder),
      (o, source) ∈ s.joined.zip d.number.1.sources ∧ sameFolded name o.dataset = true ∧
        source.ReadsOnly settings r c o.dataset loads

/-- A warning is about a dataset that has a name in any case. -/
def WarnsOf (settings : Settings) (r : Request) (name : String) : Prop :=
  ∃ e ∈ (compile settings r).warnings, ∃ dataset, ("dataset", dataset) ∈ e.fields ∧
    sameFolded name dataset = true

/-- Loads under a name that are not left aside in silence: they restrict a source of the query, or a
warning is about the name. -/
def Heeds (settings : Settings) (r : Request) (c : Compiled) (name : String)
    (loads : List Scalar) : Prop :=
  r.Restricts settings c name loads ∨ r.WarnsOf settings name

end Request

theorem mem_loadWarnings {e : Event} {dataset : String} :
    e ∈ loadWarnings settings r dataset ↔
      (r.partitionValues dataset ≠ [] ∧ settings.partition? dataset = none) ∧
        e = .partitionUnknown dataset := by
  unfold loadWarnings
  split <;> simp_all

namespace Request

variable {name : String}

/-- Loads restrict a source where they are bound as those that are looked up for a dataset. -/
theorem restricts_iff (h : (compile settings r).outcome = .ok c) :
    r.Restricts settings c name loads ↔
      ∃ dataset ∈ r.datasets, sameFolded name dataset = true ∧
        (settings.partition? dataset).isSome = true ∧ r.partitionValues dataset ≠ [] ∧
          r.BindsAlike settings dataset loads := by
  obtain ⟨d, hd, rfl⟩ := exists_draft_of_compile h
  obtain ⟨s, bound, hs, hwritten, hspells⟩ := Draft.exists_written hd
  have hc := hspells (.rows d.number.1) (.inl rfl)
  have hsources := hwritten.forall₂_joined
  have hreads : ∀ (o : Occurrence) (source : Source Placeholder),
      (o, source) ∈ s.joined.zip d.number.1.sources →
        (source.ReadsOnly settings r ⟨(Query.rows d.number.1).render, d.number.2.toDict⟩ o.dataset
          loads ↔ (settings.partition? o.dataset).isSome = true ∧
            r.partitionValues o.dataset ≠ [] ∧ r.BindsAlike settings o.dataset loads) :=
    fun _ _ hmem => (List.forall₂_zip hsources hmem).readsOnly_iff hc hs.request_eq
  rw [← hs.exists_joined_iff]
  constructor
  · -- a request has one scope and one draft
    rintro ⟨s', d', hs', hd', -, o, source, hmem, hname, hsource⟩
    obtain rfl := hs.unique hs'
    obtain rfl : d = d' := Except.ok.inj (hd.symm.trans hd')
    exact ⟨o, (List.of_mem_zip hmem).1, hname, (hreads o source hmem).1 hsource⟩
  · rintro ⟨o, ho, hname, hloads⟩
    obtain ⟨i, hi, rfl⟩ := List.getElem_of_mem ho
    have hi' : i < d.number.1.sources.length := hsources.length_eq ▸ hi
    have hmem : (s.joined[i], d.number.1.sources[i]) ∈ s.joined.zip d.number.1.sources := by
      rw [← List.getElem_zip (h := by simp [hi, hi'])]
      exact List.getElem_mem _
    exact ⟨s, d, hs, hd, rfl, _, _, hmem, hname, (hreads _ _ hmem).2 hloads⟩

/-- A warning is about a name where loads are looked up for a dataset without a partition. -/
theorem warnsOf_iff (h : (compile settings r).outcome = .ok c) :
    r.WarnsOf settings name ↔
      ∃ dataset ∈ r.datasets, sameFolded name dataset = true ∧
        settings.partition? dataset = none ∧ r.partitionValues dataset ≠ [] := by
  obtain ⟨d, hd, -⟩ := exists_draft_of_compile h
  obtain ⟨s, hs, -⟩ := Draft.exists_scope hd
  rw [WarnsOf, warnings_compile h hs, ← hs.exists_joined_iff]
  constructor
  · rintro ⟨e, he, dataset, hfield, hname⟩
    obtain ⟨o, ho, he⟩ := List.mem_flatMap.1 he
    obtain ⟨⟨hvalues, hnone⟩, rfl⟩ := mem_loadWarnings.1 he
    obtain rfl : dataset = o.dataset := by simpa [Event.fields] using hfield
    exact ⟨o, ho, hname, hnone, hvalues⟩
  · rintro ⟨o, ho, hname, hnone, hvalues⟩
    exact ⟨.partitionUnknown o.dataset,
      List.mem_flatMap.2 ⟨o, ho, mem_loadWarnings.2 ⟨⟨hvalues, hnone⟩, rfl⟩⟩, o.dataset,
      List.mem_singleton.2 rfl, hname⟩

/-- Loads are heeded where they are looked up, or bound as those that are. -/
theorem heeds_iff_exists (h : (compile settings r).outcome = .ok c) :
    r.Heeds settings c name loads ↔
      ∃ dataset ∈ r.datasets, sameFolded name dataset = true ∧ r.partitionValues dataset ≠ [] ∧
        r.BindsAlike settings dataset loads := by
  rw [Heeds, restricts_iff h, warnsOf_iff h]
  constructor
  · rintro (⟨dataset, hmem, hname, -, hvalues, halike⟩ | ⟨dataset, hmem, hname, hnone, hvalues⟩)
    · exact ⟨dataset, hmem, hname, hvalues, halike⟩
    · exact ⟨dataset, hmem, hname, hvalues, fun spec hspec => by simp [hnone] at hspec⟩
  · rintro ⟨dataset, hmem, hname, hvalues, halike⟩
    cases hspec : settings.partition? dataset with
    | none => exact .inr ⟨dataset, hmem, hname, hspec, hvalues⟩
    | some spec => exact .inl ⟨dataset, hmem, hname, by simp [hspec], hvalues, halike⟩

/-- What a request names by a dataset's own name is looked up for it. -/
theorem partitionValues_of_get? {filters : Dict (List Scalar)}
    (hfilters : r.partitionFilters? = some filters) (hentry : filters.get? name = some loads) :
    r.partitionValues name = loads := by
  rw [partitionValues, hfilters]
  dsimp only
  rw [hentry, Option.some_or, Option.getD_some]

/-- **Which of the allowed loads are heeded.**  Loads under a name restrict a source of the query or
are warned of if and only if the name is, in any case of its ASCII letters, that of a dataset of the
query for which some loads are looked up, which if it has a partition are bound as these.  So it is
with the loads under a dataset's own name. -/
theorem heeds_iff {filters : Dict (List Scalar)} (h : (compile settings r).outcome = .ok c)
    (hfilters : r.partitionFilters? = some filters) (hentry : filters.get? name = some loads)
    (hloads : loads ≠ []) :
    (r.Heeds settings c name loads ↔
      ∃ dataset ∈ r.datasets, sameFolded name dataset = true ∧ r.partitionValues dataset ≠ [] ∧
        r.BindsAlike settings dataset loads) ∧
      (name ∈ r.datasets → r.Heeds settings c name loads) := by
  refine ⟨heeds_iff_exists h, fun hmem => (heeds_iff_exists h).2 ⟨name, hmem, ?_, ?_, ?_⟩⟩
  · exact sameFolded_self name
  · rwa [partitionValues_of_get? hfilters hentry]
  · intro spec _
    rw [partitionValues_of_get? hfilters hentry]

end Request

/-! ## Employees of a month -/

/-- Settings in which the loads of employees are known. -/
def monthlySettings : Settings :=
  .ofCatalog (Catalog.empty.withPartition "EMP" { loadIdColumn := "LOAD_ID" })

/-- Employees and their departments, with the loads that are allowed under some names. -/
def monthlyEmployees (allowed : List (String × List Scalar)) : Request where
  dataset := "EMP"
  columns? := some ["ID"]
  joins? := some [⟨"EMP", "DEPT", .inner, [⟨"DEPT_ID", "ID"⟩]⟩]
  partitionFilters? := some (.ofList allowed)

/-- A month of employees is heeded in any case of their name, and so are the loads of departments,
of which nothing is known. -/
theorem heeds_monthlyEmployees :
    ∃ c, (compile monthlySettings
        (monthlyEmployees [("emp", [.int 202601]), ("DEPT", [.int 5])])).outcome = .ok c ∧
      (monthlyEmployees [("emp", [.int 202601]), ("DEPT", [.int 5])]).Heeds monthlySettings c
        "emp" [.int 202601] ∧
      (monthlyEmployees [("emp", [.int 202601]), ("DEPT", [.int 5])]).Heeds monthlySettings c
        "DEPT" [.int 5] := by
  obtain ⟨c, hc⟩ : ∃ c, (compile monthlySettings
      (monthlyEmployees [("emp", [.int 202601]), ("DEPT", [.int 5])])).outcome = .ok c :=
    exists_compile (by decide +kernel)
  have hvalues : (monthlyEmployees [("emp", [.int 202601]), ("DEPT", [.int 5])]).partitionValues
      "EMP" = [.int 202601] := by decide +kernel
  refine ⟨c, hc, ?_, ?_⟩
  · refine (Request.heeds_iff hc rfl (by decide +kernel) (by simp)).1.2
      ⟨"EMP", by decide +kernel, by decide +kernel, by simp [hvalues], fun spec _ => ?_⟩
    rw [hvalues]
  · exact (Request.heeds_iff hc rfl (by decide +kernel) (by simp)).2 (by decide +kernel)

/-- **Loads that nothing tells of.**  Where the name of a dataset is misspelled, the query reads all
loads, and no warning is given. -/
theorem not_heeds_misspelled :
    (compile monthlySettings (monthlyEmployees [("EMPS", [.int 202601])])).outcome.toOption =
        some ⟨"SELECT \"EMP\".\"ID\" AS \"EMP.ID\"\nFROM \"EMP\" \"EMP\"\n" ++
          "INNER JOIN \"DEPT\" \"DEPT\" ON \"EMP\".\"DEPT_ID\" = \"DEPT\".\"ID\"\n" ++
          "OFFSET 0 ROWS FETCH NEXT 100 ROWS ONLY", .empty⟩ ∧
      (compile monthlySettings (monthlyEmployees [("EMPS", [.int 202601])])).warnings = [] ∧
      ∀ c, (compile monthlySettings (monthlyEmployees [("EMPS", [.int 202601])])).outcome = .ok c →
        ¬(monthlyEmployees [("EMPS", [.int 202601])]).Heeds monthlySettings c "EMPS"
          [.int 202601] := by
  refine ⟨by decide +kernel, by decide +kernel, fun c hc hheeds => ?_⟩
  obtain ⟨dataset, hmem, hname, -⟩ := (Request.heeds_iff_exists hc).1 hheeds
  have hdatasets : (monthlyEmployees [("EMPS", [.int 202601])]).datasets = ["EMP", "DEPT"] := rfl
  rw [hdatasets] at hmem
  have hnone : ∀ dataset ∈ ["EMP", "DEPT"], sameFolded "EMPS" dataset = false := by decide +kernel
  simp [hnone dataset hmem] at hname

end ReportSql
