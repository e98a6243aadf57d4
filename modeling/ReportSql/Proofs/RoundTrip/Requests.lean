import ReportSql.Proofs.RoundTrip.Conditions
import ReportSql.Request.Reading

/-!
# Requests that are written and read

A request that was read from a JSON value is read back from what it is written as, and so is every
filter and every condition.

## Main statements

* `readsBack_filter` — a filter of stable conditions is read back.
* `Request.IsStable.readsBack` — a request with stable parts is read back.
* `readsBack_of_isHeld` — what was read is read back.
-/

namespace ReportSql

/-! ## Filters -/

theorem Logic.lookup_choices (l : Logic) : Logic.choices.lookup l.keyword = some l := by
  cases l <;> decide

theorem treesToJson_eq_map (ts : List (Tree Condition)) : treesToJson ts = ts.map treeToJson := by
  induction ts with
  | nil => rw [treesToJson, List.map_nil]
  | cons t ts ih => rw [treesToJson, ih, List.map_cons]

/-- A group in the order of its keys. -/
theorem sorted_groupJson (logic : Logic) (members : List Json) :
    (Json.object [("logic", .text logic.keyword), ("conditions", .array members)]).sorted =
      .object
        [("conditions", .array (members.map Json.sorted)), ("logic", .text logic.keyword)] := by
  simp [Json.sorted, Json.sortedEntries, insertEntry, -String.lt_iff_ltb]

mutual

/-- A member of a group is read from its value. -/
theorem readMember_sorted : ∀ {t : Tree Condition}, (∀ c ∈ t.leaves, c.IsStable) →
    readMember (treeToJson t).sorted = .ok t
  | .leaf c, h => by
    have hread := ((h c (by simp)).readsBack .value).1
    have hcolumn : Json.hasKey [("column", Json.text c.column), ("datatype", .text c.datatype.name),
        ("operator", .text c.operator.name), ("value", c.value.toJson)] "column" = true := by
      simp [Json.hasKey]
    rw [treeToJson, c.sorted_toJson, Condition.toJson, readMember, if_pos hcolumn]
    rw [Condition.toJson] at hread
    rw [hread]
    rfl
  | .group logic children, h => by
    have hchildren : readMembers ((treesToJson children).map Json.sorted) = .ok children :=
      readMembers_sorted (by simpa using h)
    have hlogic : readChoice .value Logic.choices (Json.text logic.keyword).document = .ok logic :=
      (readsBack_choice logic.lookup_choices).1
    rw [treeToJson, sorted_groupJson, readMember]
    simp [Json.hasKey, readMemberGroup, hchildren, hlogic, bind, Except.bind]
    rfl

/-- The members of a group are read from their values. -/
theorem readMembers_sorted : ∀ {ts : List (Tree Condition)},
    (∀ c ∈ Tree.leavesAll ts, c.IsStable) →
      readMembers ((treesToJson ts).map Json.sorted) = .ok ts
  | [], _ => by rw [treesToJson, List.map_nil, readMembers]
  | t :: ts, h => by
    rw [Tree.leavesAll_cons, List.forall_mem_append] at h
    rw [treesToJson, List.map_cons, readMembers, readMember_sorted h.1, readMembers_sorted h.2]
    rfl

end

/-- A member of a group at the root of a document is read back. -/
theorem readsBack_member {t : Tree Condition} (h : ∀ c ∈ t.leaves, c.IsStable) :
    ReadsBack (fun d => readAny d >>= readMember) (treeToJson t) t := by
  have hread := readMember_sorted h
  refine ⟨?_, ?_⟩ <;> simpa [Json.sorted_sorted, ok_bind] using hread

/-- **A filter of stable conditions is read back.** -/
theorem readsBack_filter {g : Filter} (h : ∀ c ∈ g.leaves, c.IsStable) :
    ReadsBack readGroup (filterToJson g) g := by
  have hlogic : readChoice .text Logic.choices (Json.text g.logic.keyword).document = .ok g.logic :=
    (readsBack_choice g.logic.lookup_choices).1
  have hmembers : ReadsBack (readList fun d => readAny d >>= readMember)
      (.array (treesToJson g.children)) g.children := by
    rw [treesToJson_eq_map]
    refine readsBack_list fun t ht => readsBack_member fun c hc => h c ?_
    exact Tree.mem_leavesAll.2 ⟨t, ht, hc⟩
  obtain ⟨hwritten, hsorted⟩ := hmembers
  rw [Json.sorted_array] at hsorted
  constructor
  · simp [filterToJson, FilterGroup.toTree, treeToJson, readGroup, readRecord_object, readFields,
      groupFields, RecordField.of, RecordField.answersTo, hlogic, hwritten, ok_map, ok_bind]
  · simp [filterToJson, FilterGroup.toTree, treeToJson, sorted_groupJson, readGroup,
      readRecord_object, readFields, groupFields, RecordField.of, RecordField.answersTo, hlogic,
      hsorted, ok_map, ok_bind]

/-! ## Parts of requests -/

theorem JoinPair.readsBack (p : JoinPair) : ReadsBack JoinPair.read p.toJson p := by
  have hsorted : p.toJson.sorted = p.toJson := by
    simp [toJson, Json.sorted, Json.sortedEntries, insertEntry, -String.lt_iff_ltb]
  refine readsBack_of_sorted hsorted ?_
  simp [toJson, JoinPair.read, readRecord_object, readFields, RecordField.of,
    RecordField.answersTo, (readsBack_text _).1, ok_map, ok_bind]

theorem JoinKind.lookup_choices (k : JoinKind) : JoinKind.choices.lookup k.name = some k := by
  cases k <;> decide

theorem Join.readsBack (j : Join) : ReadsBack Join.read j.toJson j := by
  have hkind : readChoice .text JoinKind.choices (Json.text j.kind.name).document = .ok j.kind :=
    (readsBack_choice j.kind.lookup_choices).1
  obtain ⟨hwritten, hsorted⟩ : ReadsBack (readList JoinPair.read) (.ofList JoinPair.toJson j.pairs)
      j.pairs := readsBack_list fun p _ => p.readsBack
  constructor
  · simp [toJson, Join.read, readRecord_object, readFields, RecordField.of, RecordField.answersTo,
      (readsBack_text _).1, hkind, hwritten, ok_map, ok_bind]
  · simp [toJson, Json.sorted, Json.sortedEntries, insertEntry, -String.lt_iff_ltb, Join.read,
      readRecord_object, readFields, RecordField.of, RecordField.answersTo, (readsBack_text _).1,
      hkind, hsorted, ok_map, ok_bind]

theorem AggregateFunction.lookup_choices (f : AggregateFunction) :
    AggregateFunction.choices.lookup f.name = some f := by
  cases f <;> decide

/-- A text that may be missing is read back. -/
theorem readsBack_optionalText (o : Option String) :
    ReadsBack (readOptional readText) (.ofOption .text o) o :=
  readsBack_optional (by simp) fun s _ => readsBack_text s

theorem Aggregation.readsBack (a : Aggregation) : ReadsBack Aggregation.read a.toJson a := by
  have hfunction : readChoice .text AggregateFunction.choices
      (Json.text a.function.name).document = .ok a.function :=
    (readsBack_choice a.function.lookup_choices).1
  obtain ⟨hwritten, hsorted⟩ := readsBack_optionalText a.outputName
  constructor
  · simp [toJson, Aggregation.read, readRecord_object, readFields, RecordField.of,
      RecordField.answersTo, (readsBack_text _).1, hfunction, hwritten, ok_map, ok_bind]
  · simp [toJson, Json.sorted, Json.sortedEntries, insertEntry, -String.lt_iff_ltb,
      Aggregation.read, readRecord_object, readFields, RecordField.of, RecordField.answersTo,
      (readsBack_text _).1, hfunction, hsorted, ok_map, ok_bind]

theorem SortDirection.lookup_choices (d : SortDirection) :
    SortDirection.choices.lookup d.keyword = some d := by
  cases d <;> decide

theorem SortKey.readsBack (k : SortKey) : ReadsBack SortKey.read k.toJson k := by
  have hdirection : readChoice .text SortDirection.choices
      (Json.text k.direction.keyword).document = .ok k.direction :=
    (readsBack_choice k.direction.lookup_choices).1
  have hsorted : k.toJson.sorted = k.toJson := by
    simp [toJson, Json.sorted, Json.sortedEntries, insertEntry, -String.lt_iff_ltb]
  refine readsBack_of_sorted hsorted ?_
  simp [toJson, SortKey.read, readRecord_object, readFields, RecordField.of,
    RecordField.answersTo, (readsBack_text _).1, hdirection, ok_map, ok_bind]

theorem ColumnMetadata.readsBack (m : ColumnMetadata) :
    ReadsBack ColumnMetadata.read m.toJson m := by
  obtain ⟨hdata, hdata'⟩ := readsBack_optionalText m.dataType
  obtain ⟨hbase, hbase'⟩ := readsBack_optionalText m.baseType
  constructor
  · simp [toJson, ColumnMetadata.read, readRecord_object, readFields, RecordField.of,
      RecordField.answersTo, hdata, hbase, ok_map, ok_bind]
  · simp [toJson, Json.sorted, Json.sortedEntries, insertEntry, -String.lt_iff_ltb,
      ColumnMetadata.read, readRecord_object, readFields, RecordField.of, RecordField.answersTo,
      hdata', hbase', ok_map, ok_bind]

/-! ## Requests -/

/-- A request whose conditions are stable, whose scalars can be written and whose whole numbers have
64 bits. -/
structure Request.IsStable (r : Request) : Prop where
  filters : ∀ g ∈ r.filters?, ∀ c ∈ FilterGroup.leaves g, c.IsStable
  partitionFilters : ∀ d ∈ r.partitionFilters?, ∀ e ∈ Dict.entries d, ∀ s ∈ e.2, Scalar.IsWritable s
  limit : r.limit < Nat.pow 2 64
  offset : r.offset < Nat.pow 2 64

/-- **A request with stable parts is read back.** -/
theorem Request.IsStable.readsBack {r : Request} (h : r.IsStable) :
    ReadsBack Request.read r.toJson r := by
  have htexts : ∀ o : Option (List String),
      ReadsBack (readOptional (readList readText)) (.ofOption (.ofList .text) o) o := fun o =>
    readsBack_optional (by simp [Json.ofList]) fun names _ =>
      readsBack_list fun s _ => readsBack_text s
  obtain ⟨hdataset, -⟩ := readsBack_text r.dataset
  obtain ⟨hcolumns, hcolumns'⟩ := htexts r.columns?
  obtain ⟨hjoins, hjoins'⟩ : ReadsBack (readOptional (readList Join.read))
      (.ofOption (.ofList Join.toJson) r.joins?) r.joins? :=
    readsBack_optional (by simp [Json.ofList]) fun _ _ => readsBack_list fun j _ => j.readsBack
  obtain ⟨hfilters, hfilters'⟩ : ReadsBack (readOptional readGroup)
      (.ofOption filterToJson r.filters?) r.filters? :=
    readsBack_optional (by simp [filterToJson, FilterGroup.toTree, treeToJson])
      fun g hg => readsBack_filter (h.filters g hg)
  obtain ⟨hgroupBy, hgroupBy'⟩ := htexts r.groupBy?
  obtain ⟨haggregations, haggregations'⟩ : ReadsBack (readOptional (readList Aggregation.read))
      (.ofOption (.ofList Aggregation.toJson) r.aggregations?) r.aggregations? :=
    readsBack_optional (by simp [Json.ofList]) fun _ _ => readsBack_list fun a _ => a.readsBack
  obtain ⟨hsorting, hsorting'⟩ : ReadsBack (readOptional (readList SortKey.read))
      (.ofOption (.ofList SortKey.toJson) r.sorting?) r.sorting? :=
    readsBack_optional (by simp [Json.ofList]) fun _ _ => readsBack_list fun k _ => k.readsBack
  obtain ⟨hmetadata, hmetadata'⟩ : ReadsBack (readOptional (readDict ColumnMetadata.read))
      (.ofOption (.ofDict ColumnMetadata.toJson) r.columnMetadata?) r.columnMetadata? :=
    readsBack_optional (by simp [Json.ofDict]) fun _ _ => readsBack_dict fun e _ => e.2.readsBack
  obtain ⟨hpartitions, hpartitions'⟩ : ReadsBack (readOptional (readDict (readList Scalar.read)))
      (.ofOption (.ofDict (.ofList Scalar.toJson)) r.partitionFilters?) r.partitionFilters? :=
    readsBack_optional (by simp [Json.ofDict]) fun d hd => readsBack_dict fun e he =>
      readsBack_list fun s hs => readsBack_scalar (h.partitionFilters d hd e he s hs)
  obtain ⟨hloadType, hloadType'⟩ := readsBack_optionalText r.partitionLoadType?
  obtain ⟨hlimit, hlimit'⟩ := readsBack_natural h.limit
  obtain ⟨hoffset, hoffset'⟩ := readsBack_natural h.offset
  obtain ⟨hhints, -⟩ := readsBack_flag r.useHints
  constructor
  · simp [toJson, Request.read, fields, readRecord_object, readFields, RecordField.of,
      RecordField.answersTo, ofDataset, hdataset, hcolumns, hjoins, hfilters, hgroupBy,
      haggregations, hsorting, hmetadata, hpartitions, hloadType, hlimit, hoffset, hhints, ok_map,
      ok_bind]
  · simp [toJson, Json.sorted, Json.sortedEntries, insertEntry, -String.lt_iff_ltb, Request.read,
      fields, readRecord_object, readFields, RecordField.of, RecordField.answersTo, ofDataset,
      hdataset, hcolumns', hjoins', hfilters', hgroupBy', haggregations', hsorting', hmetadata',
      hpartitions', hloadType', hlimit', hoffset', hhints, ok_map, ok_bind]

/-- A filter that is read has stable conditions. -/
theorem isStable_of_readGroup {d : Document} {g : Filter} (hd : d.IsHeld)
    (h : readGroup d = .ok g) : ∀ c ∈ g.leaves, c.IsStable := by
  have hread : ReadFrom Json.IsHeld Condition.IsStable :=
    ⟨fun _ => Json.isHeld_array.1, fun _ => Json.isHeld_object.1,
      fun _ _ hv => Condition.isStable_of_read hv.document⟩
  exact hread.readGroup (fun _ _ hd => hd.of_value?) (fun _ hd _ => hd.of_mem_children) hd h

/-- **A request that is read is stable.** -/
theorem Request.isStable_of_read {d : Document} {r : Request} (hd : d.IsHeld)
    (h : Request.read d = .ok r) : r.IsStable := by
  have hblank : (ofDataset "").IsStable :=
    ⟨by simp [ofDataset], by simp [ofDataset], by decide, by decide⟩
  refine of_readRecord (Q := Document.IsHeld) hblank ?_ (fun _ => hd.of_mem_children) h
  intro f hf d r r' hd hr hput
  simp only [fields, List.mem_cons, List.not_mem_nil, or_false] at hf
  rcases hf with rfl | rfl | rfl | rfl | rfl | rfl | rfl | rfl | rfl | rfl | rfl | rfl | rfl
  case inr.inr.inr.inl =>
    obtain ⟨filters?, hfilters, rfl⟩ := exists_of_map hput
    refine ⟨?_, hr.partitionFilters, hr.limit, hr.offset⟩
    rintro g rfl
    exact isStable_of_readGroup hd (eq_ok_of_readOptional hfilters)
  case inr.inr.inr.inr.inr.inr.inr.inr.inl =>
    obtain ⟨partitionFilters?, hpartitions, rfl⟩ := exists_of_map hput
    refine ⟨hr.filters, ?_, hr.limit, hr.offset⟩
    rintro values rfl e he s hs
    obtain ⟨child, hchild, hread⟩ := exists_of_readDict (eq_ok_of_readOptional hpartitions) e he
    obtain ⟨item, hitem, hscalar⟩ := exists_of_readList hread s hs
    exact Scalar.isWritable_of_read ((hd.of_mem_children hchild).of_mem_children hitem) hscalar
  case inr.inr.inr.inr.inr.inr.inr.inr.inr.inr.inl =>
    obtain ⟨limit, hlimit, rfl⟩ := exists_of_map hput
    exact ⟨hr.filters, hr.partitionFilters, lt_of_readNatural hd hlimit, hr.offset⟩
  case inr.inr.inr.inr.inr.inr.inr.inr.inr.inr.inr.inl =>
    obtain ⟨offset, hoffset, rfl⟩ := exists_of_map hput
    exact ⟨hr.filters, hr.partitionFilters, hr.limit, lt_of_readNatural hd hoffset⟩
  -- the other fields leave these parts as they are
  all_goals
    obtain ⟨_, -, rfl⟩ := exists_of_map hput
    exact ⟨hr.filters, hr.partitionFilters, hr.limit, hr.offset⟩

/-! ## What was read -/

/-- **What was read is read back.**  A request, a filter or a condition that was read from a JSON
value, and a condition that was built with one, is read from what it is written as. -/
theorem readsBack_of_isHeld {v : Json} (hv : v.IsHeld) :
    (∀ r, Request.read v.document = .ok r → ReadsBack Request.read r.toJson r) ∧
      (∀ g, readGroup v.document = .ok g → ReadsBack readGroup (filterToJson g) g) ∧
      (∀ origin c, Condition.read origin v.document = .ok c →
        ∀ origin', ReadsBack (Condition.read origin') c.toJson c) ∧
      ∀ column datatype operator value c, (value = none ∨ value = some v) →
        Condition.build column datatype operator value = .ok c →
          ∀ origin, ReadsBack (Condition.read origin) c.toJson c := by
  refine ⟨fun r hr => ?request, fun g hg => ?filter, fun origin c hc => ?condition,
    fun column datatype operator value c hvalue hc => ?built⟩
  case request => exact (Request.isStable_of_read hv.document hr).readsBack
  case filter => exact readsBack_filter (isStable_of_readGroup hv.document hg)
  case condition => exact (Condition.isStable_of_read hv.document hc).readsBack
  case built =>
    have hheld : ∀ w ∈ value, w.IsHeld := by
      rcases hvalue with rfl | rfl
      · simp
      · rintro w ⟨⟩
        exact hv
    exact (Condition.isStable_of_build hheld hc).readsBack

/-- A request that leaves much to its reader: other names of fields, blank bounds, a list in one
text, and a whole number that is too large for a sign. -/
def looseOrders : Json :=
  .object
    [("dataset", .text "orders"),
      ("aggregations", .array
        [.object [("source_column", .text "price"), ("function", .text "sum"),
          ("output_alias", .null)]]),
      ("filters", .object
        [("logic", .text "or"),
          ("conditions", .array
            [.object [("operator", .text "eq"), ("column", .text "id"),
                ("datatype", .text "number"), ("value", .number (.natural (Nat.pow 2 63)))],
              .object
                [("conditions", .array
                  [.object [("column", .text "day"), ("datatype", .text "date"),
                      ("operator", .text "between"), ("value", .array [.text "", .null])],
                    .object [("column", .text "kind"), ("operator", .text "in"),
                      ("value", .text "a, b,,c")]])]])]),
      ("limit", .number (.int 10))]

theorem readsBack_looseOrders :
    looseOrders.IsHeld ∧ ∃ r, Request.read looseOrders.document = .ok r ∧
      ReadsBack Request.read r.toJson r := by
  have hv : looseOrders.IsHeld := by
    simp [looseOrders, Json.IsHeld, Json.AreHeld, Json.EntriesAreHeld, JsonNumber.IsHeld,
      fitsInt64]
  obtain ⟨r, hr⟩ : ∃ r, Request.read looseOrders.document = .ok r := by
    have hsome : (Request.read looseOrders.document).toOption.isSome = true := by decide +kernel
    cases hr : Request.read looseOrders.document with
    | ok r => exact ⟨r, rfl⟩
    | error e =>
      rw [hr] at hsome
      cases hsome
  exact ⟨hv, r, hr, (readsBack_of_isHeld hv).1 r hr⟩

end ReportSql
