import ReportSql.Proofs.Delivered.Documents
import ReportSql.Proofs.Delivered.Places
import ReportSql.Service

/-!
# Queries that are delivered with null values

A query is delivered as JSON, its values under the names of their placeholders.  A value is
delivered as `null` where the request compares numbers with a text that spells an infinite number or
a NaN, and nowhere else: the rows are then compared with NULL.

## Main definitions

* `Catalog.CompilesText` — the queries that a text is compiled to.
* `Compiled.DeliversNull` — a query with a value that is delivered as `null`.
* `Request.BindsNonFinite` — a request with a text that becomes such a value.

## Main statements

* `Request.CompilesTo.deliversNull_iff` — the requests whose queries are delivered with such a
  value.
* `deliversNull_iff_bindsNonFinite` — the texts, also as a service answers them.
-/

namespace ReportSql

variable {settings : Settings} {r : Request} {q : Compiled}

/-! ## Deliveries -/

/-- A query that a text is compiled to with a catalog: for one page of its rows, or for their
number. -/
def Catalog.CompilesText (c : Catalog) (text : String) (q : Compiled) : Prop :=
  (compileText c text).outcome = .ok q ∨ (compileCountText c text).outcome = .ok q

/-- A query with a value that is delivered as `null`. -/
def Compiled.DeliversNull (q : Compiled) : Prop :=
  ∃ params name, q.toJson = .object [("sql", .text q.text), ("params", .object params)] ∧
    (name, Json.null) ∈ params

theorem Compiled.deliversNull_iff_exists : q.DeliversNull ↔ ∃ e ∈ q.values.entries, e.2.IsNull := by
  constructor
  · rintro ⟨params, name, hjson, hmem⟩
    cases hjson
    obtain ⟨e, he, hnull⟩ := List.mem_map.1 hmem
    exact ⟨e, he, congrArg Prod.snd hnull⟩
  · rintro ⟨e, he, hnull⟩
    refine ⟨_, e.1, rfl, List.mem_map.2 ⟨e, he, ?_⟩⟩
    rw [show e.2.toJson = .null from hnull]

/-- A request with a text that becomes an infinite number or a NaN: a condition on numbers compares
with it, or it is an allowed load identifier of a dataset whose identifiers are numbers. -/
def Request.BindsNonFinite (settings : Settings) (r : Request) : Prop :=
  (∃ s, Scope.ofRequest settings r = .ok s ∧
    ∃ c ∈ r.filter.leaves, s.ComparesNonFinite settings .query c) ∨
  ∃ dataset ∈ r.datasets, r.LoadsNonFinite settings dataset

/-! ## Requests -/

/-- **The requests whose queries are delivered with a value that is `null`.** -/
theorem Request.CompilesTo.deliversNull_iff (hr : r.IsStable) (h : r.CompilesTo settings q) :
    q.DeliversNull ↔ r.BindsNonFinite settings := by
  obtain ⟨paged, d, query, hd, -, rfl⟩ := h.exists_draft
  obtain ⟨planned, hplanned, hassembled⟩ := Draft.exists_assembled hd
  have hs : planned.arranged.PlannedFor settings r := ⟨planned, hplanned, rfl⟩
  obtain rfl : planned.request = r := hs.request_eq
  rw [Compiled.deliversNull_iff_exists, d.exists_mem_toDict_iff,
    hassembled.exists_isNull_iff hr hs, BindsNonFinite]
  simp only [hplanned, Except.ok.injEq, exists_eq_left']

/-! ## Texts -/

/-- A text that is compiled is that of a request. -/
theorem Catalog.CompilesText.exists_request {c : Catalog} {text : String}
    (h : c.CompilesText text q) :
    ∃ r, readRequest text = .ok r ∧ r.CompilesTo (.ofCatalog c) q := by
  unfold CompilesText compileText compileCountText at h
  cases hread : readRequest text with
  | ok r =>
    rw [hread] at h
    exact ⟨r, rfl, h⟩
  | error fault =>
    rw [hread] at h
    rcases h with h | h <;> cases h

/-- A service answers with the query that the text is compiled to with its catalog. -/
theorem Service.exists_compilesText {service : Service} {files : Files} {asked : Asked}
    {text out : String} (h : (service.answer files asked text).1 = .ok out) :
    ∃ q, (service.snapshot files).1.CompilesText text q ∧ out = q.toJson.render := by
  unfold answer at h
  unfold Catalog.CompilesText compileText compileCountText
  cases hread : readRequest text with
  | error fault =>
    rw [hread] at h
    cases h
  | ok r =>
    rw [hread] at h
    dsimp only at h ⊢
    cases asked with
    | rows =>
      split at h
      · next q hq =>
        cases h
        exact ⟨q, .inl hq, rfl⟩
      · cases h
    | count =>
      split at h
      · next q hq =>
        cases h
        exact ⟨q, .inr hq, rfl⟩
      · cases h

/-- **When a value is delivered as `null`.**  The query of a text, compiled with a catalog or by a
service, is delivered with such a value if and only if a condition of the request compares numbers
with a text that spells an infinite number or a NaN, or such a text is a load identifier that the
request allows. -/
theorem deliversNull_iff_bindsNonFinite (text : String) :
    (∀ (c : Catalog) (q : Compiled), c.CompilesText text q →
      ∃ r, readRequest text = .ok r ∧ (q.DeliversNull ↔ r.BindsNonFinite (.ofCatalog c))) ∧
    ∀ (service : Service) (files : Files) (asked : Asked) (out : String),
      (service.answer files asked text).1 = .ok out →
        ∃ (q : Compiled) (r : Request), out = q.toJson.render ∧ readRequest text = .ok r ∧
          (q.DeliversNull ↔ r.BindsNonFinite (.ofCatalog (service.snapshot files).1)) := by
  have hcatalog : ∀ (c : Catalog) (q : Compiled), c.CompilesText text q →
      ∃ r, readRequest text = .ok r ∧ (q.DeliversNull ↔ r.BindsNonFinite (.ofCatalog c)) := by
    intro c q h
    obtain ⟨r, hread, hcompiles⟩ := h.exists_request
    exact ⟨r, hread, hcompiles.deliversNull_iff (Request.isStable_of_readRequest hread)⟩
  refine ⟨hcatalog, fun service files asked out h => ?_⟩
  obtain ⟨q, hq, hout⟩ := Service.exists_compilesText h
  obtain ⟨r, hread, hiff⟩ := hcatalog _ q hq
  exact ⟨q, r, hout, hread, hiff⟩

/-- The text of a request for the employees whose grade is above a number, which is given as
text. -/
def gradeRequest (grade : String) : String :=
  "\x7b\"dataset\":\"EMP\",\"columns\":[\"ID\"],\"filters\":\x7b\"logic\":\"AND\"," ++
    "\"conditions\":[\x7b\"column\":\"GRADE\",\"datatype\":\"number\",\"operator\":\"gt\"," ++
    "\"value\":\"" ++ grade ++ "\"\x7d]\x7d\x7d"

theorem exists_compilesText {c : Catalog} {text : String} {entries : List (String × BindValue)}
    (h : ((compileText c text).outcome.toOption.map fun q => q.values.entries) = some entries) :
    ∃ q, c.CompilesText text q ∧ q.values.entries = entries := by
  cases houtcome : (compileText c text).outcome with
  | ok q =>
    rw [houtcome] at h
    exact ⟨q, .inl houtcome, Option.some.inj h⟩
  | error e =>
    rw [houtcome] at h
    cases h

theorem values_gradeRequest_nan :
    ((compileText .empty (gradeRequest "nan")).outcome.toOption.map fun q => q.values.entries) =
      some [("p_1", .float .nan)] := by
  decide +kernel

/-- A grade that is a number is delivered, and one that is none is delivered as `null`, also by a
service. -/
theorem deliversNull_gradeRequest :
    (∃ q r, Catalog.empty.CompilesText (gradeRequest "12") q ∧
      readRequest (gradeRequest "12") = .ok r ∧
        ¬r.BindsNonFinite (.ofCatalog .empty) ∧ ¬q.DeliversNull) ∧
    ∃ r, readRequest (gradeRequest "nan") = .ok r ∧ r.BindsNonFinite (.ofCatalog .empty) ∧
      ∃ q : Compiled, q.DeliversNull ∧
        ((Service.fixed .empty).answer .empty .rows (gradeRequest "nan")).1 =
          .ok q.toJson.render := by
  constructor
  · have hvalues : ((compileText .empty (gradeRequest "12")).outcome.toOption.map fun q =>
        q.values.entries) = some [("p_1", .int 12)] := by decide +kernel
    obtain ⟨q, hq, hentries⟩ := exists_compilesText hvalues
    obtain ⟨r, hread, hiff⟩ := (deliversNull_iff_bindsNonFinite (gradeRequest "12")).1 .empty q hq
    have hvalue : ¬q.DeliversNull := by
      rw [Compiled.deliversNull_iff_exists, hentries]
      simp
    exact ⟨q, r, hq, hread, fun hbinds => hvalue (hiff.2 hbinds), hvalue⟩
  · obtain ⟨q, hq, hentries⟩ := exists_compilesText values_gradeRequest_nan
    obtain ⟨r, hread, hiff⟩ := (deliversNull_iff_bindsNonFinite (gradeRequest "nan")).1 .empty q hq
    have hvalue : q.DeliversNull := by
      rw [Compiled.deliversNull_iff_exists, hentries]
      exact ⟨_, List.mem_singleton_self _, rfl⟩
    have hbinds := hiff.1 hvalue
    obtain ⟨out, hout⟩ : ∃ out,
        ((Service.fixed .empty).answer .empty .rows (gradeRequest "nan")).1 = .ok out := by
      have hsome : ((Service.fixed .empty).answer .empty .rows
          (gradeRequest "nan")).1.toOption.isSome = true := by decide +kernel
      cases houtcome : ((Service.fixed .empty).answer .empty .rows (gradeRequest "nan")).1 with
      | ok out => exact ⟨out, rfl⟩
      | error e =>
        rw [houtcome] at hsome
        cases hsome
    obtain ⟨q', r', rfl, hread', hiff'⟩ :=
      (deliversNull_iff_bindsNonFinite (gradeRequest "nan")).2 (.fixed .empty) .empty .rows out hout
    obtain rfl : r' = r := Except.ok.inj (hread'.symm.trans hread)
    exact ⟨r', hread, hbinds, q', hiff'.2 hbinds, hout⟩

/-- **Not every query is delivered without a value that is `null`.** -/
theorem not_isDelivered_gradeRequest_nan :
    ¬∀ (c : Catalog) (text : String) (q : Compiled), c.CompilesText text q → ¬q.DeliversNull := by
  intro h
  obtain ⟨q, hq, hentries⟩ := exists_compilesText values_gradeRequest_nan
  refine h _ _ q hq ?_
  rw [Compiled.deliversNull_iff_exists, hentries]
  exact ⟨_, List.mem_singleton_self _, rfl⟩

end ReportSql
