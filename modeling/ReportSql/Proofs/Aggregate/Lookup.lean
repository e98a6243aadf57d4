import ReportSql.Compile
import ReportSql.Proofs.Aggregate.Names

/-!
# Outputs by their names

An output is entered under the name that its aggregation asked for and under its own.  Both kinds of
names are keys of one table, in which the first entry counts, so a name leads to the first
aggregation that asked for it or whose output has it.  The aggregation that a name was given to is
not always that one.

## Main definitions

* `requestsBefore` — the names that the aggregations before a position asked for.
* `AggregateIndex.Reachable` — every aggregation is found under both of its names.
* `AggregateIndex.NamesApart` — no name of an aggregation is one of an aggregation before it.

## Main statements

* `AggregateIndex.get?_eq_some_iff` — a name leads to an output when the output or its aggregation
  has it and none before.
* `AggregateIndex.reachable_iff` — aggregations are reachable if and only if their names are apart.
-/

namespace ReportSql

open Text

/-! ## The name that was asked for -/

namespace Aggregation

theorem isEmpty_trim_default (a : Aggregation) :
    (trim (requestedName.default a)).isEmpty = false := by
  rw [Bool.eq_false_iff]
  intro hempty
  have hall : ∀ c ∈ (requestedName.default a).toList, isBlank c = true := by
    rw [← strip_eq_nil_iff, ← toList_trim, String.isEmpty_iff.1 hempty]
    rfl
  have hunderscore : '_' ∈ (requestedName.default a).toList := by simp [requestedName.default]
  exact absurd (hall '_' hunderscore) (by decide)

/-- The name that an aggregation asks for is not blank. -/
theorem isEmpty_trim_requestedName (a : Aggregation) :
    (trim a.requestedName).isEmpty = false := by
  unfold requestedName
  cases a.outputName with
  | none => exact isEmpty_trim_default a
  | some name =>
    simp only [Option.map_some]
    split
    · exact isEmpty_trim_default a
    · next hname => rw [trim_trim, Bool.eq_false_iff.2 hname]

end Aggregation

/-- The upper-cased names that the aggregations before a position asked for. -/
def requestsBefore (as : List Aggregation) (position : Nat) : List String :=
  (as.take position).map fun a => upper a.requestedName

/-! ## Looking up -/

namespace AggregateIndex

variable {settings : Settings} {p : SourcePlan} {index : AggregateIndex} {r : Request}

/-- Whether an output is entered under a key: its own name or the one its aggregation asked for. -/
def isUnder (key : String) : Aggregation × AggregateOutput → Bool
  | (a, o) => key == upper a.requestedName || key == upper o.name

theorem isUnder_iff {key : String} {a : Aggregation} {o : AggregateOutput} :
    isUnder key (a, o) = true ↔ key = upper a.requestedName ∨ key = upper o.name := by
  simp [isUnder]

/-- One aggregation more is entered under its names. -/
theorem lookup_add (index : AggregateIndex) (options : Options) (a : Aggregation)
    (column : ColumnRef) (key : String) :
    ∃ o, (index.add options a column).outputs = index.outputs ++ [o] ∧
      (index.add options a column).positions.lookup key =
        (index.positions.lookup key).or
          (if isUnder key (a, o) then some index.outputs.length else none) := by
  refine ⟨_, rfl, ?_⟩
  rw [add, List.lookup_append]
  refine congrArg (Option.or _) ?_
  simp only [isUnder_iff, ite_or]
  rw [Dict.lookup_cons_eq_ite, Dict.lookup_cons_eq_ite, List.lookup_nil]

/-- **A key leads to the first output that is entered under it.** -/
theorem lookup_positions (h : ofRequest settings r p = .ok index) (key : String) :
    index.positions.lookup key = (r.aggregations.zip index.outputs).findIdx? (isUnder key) := by
  refine (ofRequest_induction (motive := fun done index => index.outputs.length = done.length ∧
    index.positions.lookup key = (done.zip index.outputs).findIdx? (isUnder key)) ⟨rfl, rfl⟩
    (fun done index a column _ ⟨hlength, hlookup⟩ => ?_) h).2
  obtain ⟨o, houtputs, hadd⟩ := index.lookup_add settings.options a column key
  refine ⟨by simp [houtputs, hlength], ?_⟩
  rw [hadd, houtputs, List.zip_append hlength.symm, List.findIdx?_append, ← hlookup]
  refine congrArg (Option.or _) ?_
  simp [List.findIdx?_cons, hlength]

/-- No output before a position is entered under a key when the key is none of the names before. -/
theorem isUnder_before_iff {as : List Aggregation} (hlength : index.outputs.length = as.length)
    (position : Nat) (key : String) :
    (∀ entry ∈ (as.zip index.outputs).take position, ¬isUnder key entry = true) ↔
      key ∉ requestsBefore as position ∧ key ∉ index.namesBefore position := by
  have hrequests : requestsBefore as position =
      ((as.zip index.outputs).take position).map fun entry => upper entry.1.requestedName := by
    conv_lhs => rw [← List.map_fst_zip (Nat.le_of_eq hlength.symm)]
    rw [requestsBefore, ← List.map_take, List.map_map]
    rfl
  have hnames : index.namesBefore position =
      ((as.zip index.outputs).take position).map fun entry => upper entry.2.name := by
    rw [namesBefore]
    conv_lhs => rw [← List.map_snd_zip (Nat.le_of_eq hlength)]
    rw [← List.map_take, List.map_map]
    rfl
  rw [hrequests, hnames, List.mem_map, List.mem_map, ← not_or, ← exists_or, not_exists]
  refine forall_congr' fun entry => ?_
  rw [isUnder_iff]
  grind

variable {i : Nat} {a : Aggregation} {o : AggregateOutput}

/-- **A name leads to an output when it is one of its two names and none of those before it.** -/
theorem get?_eq_some_iff (h : ofRequest settings r p = .ok index)
    (ha : r.aggregations[i]? = some a) (ho : index.outputs[i]? = some o) (name : String) :
    index.get? name = some o ↔
      (upper (trim name) = upper a.requestedName ∨ upper (trim name) = upper o.name) ∧
        upper (trim name) ∉ requestsBefore r.aggregations i ∧
          upper (trim name) ∉ index.namesBefore i := by
  have houtputs := outputsOf_of_ofRequest h
  have hposition : ∀ j, index.outputs[j]? = some o ↔ i = j := by
    intro j
    rw [← ho, eq_comm]
    exact List.getElem?_inj (List.getElem?_eq_some_iff.1 ho).1 houtputs.nodup_upper.of_map
  have hget : index.get? name = some o ↔ index.positions.lookup (upper (trim name)) = some i := by
    unfold get?
    simp [Option.bind_eq_some_iff, hposition]
  have hentry : (r.aggregations.zip index.outputs)[i]? = some (a, o) :=
    List.getElem?_zip_eq_some.2 ⟨ha, ho⟩
  obtain ⟨hi, hzip⟩ := List.getElem?_eq_some_iff.1 hentry
  have hbefore := isUnder_before_iff houtputs.length_eq i (upper (trim name))
  rw [hget, lookup_positions h, List.findIdx?_eq_some_iff_getElem, ← hbefore, ← isUnder_iff, ← hzip]
  constructor
  · rintro ⟨_, hunder, hnone⟩
    refine ⟨hunder, fun entry hmem => ?_⟩
    obtain ⟨j, hj, rfl⟩ := List.mem_take_iff_getElem.1 hmem
    exact hnone j (by omega)
  · rintro ⟨hunder, hnone⟩
    exact ⟨hi, hunder, fun j hj => hnone _ (List.mem_take_iff_getElem.2 ⟨j, by omega, rfl⟩)⟩

/-- **An output is found under its own name when no aggregation before asked for that name.** -/
theorem get?_name_iff (h : ofRequest settings r p = .ok index)
    (hfallback : IsNameText settings.options.fallbackName) (ho : index.outputs[i]? = some o) :
    index.get? o.name = some o ↔ upper o.name ∉ requestsBefore r.aggregations i := by
  obtain ⟨a, ha, hbelongs⟩ := (outputsOf_of_ofRequest h).exists_belongs ho
  have hbase := isNameText_sanitizeAlias hfallback a.requestedName settings.options.maxNameLength
  have htrim := (hbelongs.named.isNameText hbase fun n => hbase.clippedName _ n).trim_eq
  rw [get?_eq_some_iff h ha ho, htrim]
  have hfree := hbelongs.named.free
  exact ⟨fun hfound => hfound.2.1, fun hrequests => ⟨.inr rfl, hrequests, hfree⟩⟩

/-! ## Reachable aggregations -/

/-- The aggregation at a position is the first to ask for its name in any case. -/
structure AsksFirst (index : AggregateIndex) (as : List Aggregation) (position : Nat)
    (a : Aggregation) (o : AggregateOutput) : Prop where
  aggregation : as[position]? = some a
  output : index.outputs[position]? = some o
  notMem : upper a.requestedName ∉ requestsBefore as position

/-- Every aggregation is found under both of its names: under that of its output, and under the one
that it asked for if it is the first to.  Then conditions on groups and sorts under that name read
this aggregation. -/
structure Reachable (index : AggregateIndex) (as : List Aggregation) : Prop where
  get?_name : ∀ o ∈ index.outputs, index.get? o.name = some o
  get?_requestedName : ∀ i a o, index.AsksFirst as i a o → index.get? a.requestedName = some o
  target_eq : ∀ i a o, index.AsksFirst as i a o → ∀ s : Scope, s.aggregates = index →
    ∀ settings, s.target settings .query a.requestedName = .output o
  orderOf_eq : ∀ i a o, index.AsksFirst as i a o → ∀ s : Scope, s.aggregates = index →
    ∀ settings direction, s.orderOf settings ⟨a.requestedName, direction⟩ =
      pure (some (.output o.name, direction))

/-- The names of aggregations are apart: no output has a name that an aggregation before asked for,
and the first aggregation to ask for a name asks for none that an output before has.  A name is
looked up without the blanks around it, so it also has to be entered without them. -/
structure NamesApart (index : AggregateIndex) (as : List Aggregation) : Prop where
  name_notMem : ∀ (i : Nat) (o : AggregateOutput), index.outputs[i]? = some o →
    upper o.name ∉ requestsBefore as i
  request_notMem : ∀ i a o, index.AsksFirst as i a o →
    upper (trim a.requestedName) ∉ requestsBefore as i ∧
      upper (trim a.requestedName) ∉ index.namesBefore i
  request_trimmed : ∀ i a o, index.AsksFirst as i a o →
    upper (trim a.requestedName) = upper a.requestedName ∨
      upper (trim a.requestedName) = upper o.name

/-- **Aggregations are reachable if and only if their names are apart.** -/
theorem reachable_iff (h : ofRequest settings r p = .ok index)
    (hfallback : IsNameText settings.options.fallbackName) :
    index.Reachable r.aggregations ↔ index.NamesApart r.aggregations := by
  constructor
  · intro hreachable
    refine ⟨fun i o ho => ?_, fun i a o hfirst => ?_, fun i a o hfirst => ?_⟩
    · have hget := hreachable.get?_name o (List.mem_of_getElem? ho)
      exact (get?_name_iff h hfallback ho).1 hget
    · have hget := hreachable.get?_requestedName i a o hfirst
      exact ((get?_eq_some_iff h hfirst.aggregation hfirst.output _).1 hget).2
    · have hget := hreachable.get?_requestedName i a o hfirst
      exact ((get?_eq_some_iff h hfirst.aggregation hfirst.output _).1 hget).1
  · intro hapart
    have hget : ∀ i a o, index.AsksFirst r.aggregations i a o →
        index.get? a.requestedName = some o := by
      intro i a o hfirst
      exact (get?_eq_some_iff h hfirst.aggregation hfirst.output _).2
        ⟨hapart.request_trimmed i a o hfirst, hapart.request_notMem i a o hfirst⟩
    refine ⟨fun o ho => ?_, hget, ?_, ?_⟩
    · obtain ⟨i, hi⟩ := List.mem_iff_getElem?.1 ho
      exact (get?_name_iff h hfallback hi).2 (hapart.name_notMem i o hi)
    · rintro i a o hfirst s rfl settings'
      simp [Scope.target, a.isEmpty_trim_requestedName, hget i a o hfirst]
    · rintro i a o hfirst s rfl settings' direction
      simp [Scope.orderOf, hget i a o hfirst]

end AggregateIndex

/-! ## Totals with like names -/

/-- The sums of salaries and of bonuses, under names that are apart. -/
def payTotals : Request where
  dataset := "EMP"
  aggregations? := some [⟨"SALARY", .sum, some "Net pay"⟩, ⟨"BONUS", .sum, none⟩]

theorem reachable_payTotals :
    ∃ index, AggregateIndex.ofRequest (.ofCatalog .empty) payTotals (.ofBase "EMP") = .ok index ∧
      IsNameText (Settings.ofCatalog .empty).options.fallbackName ∧
      (index.Reachable payTotals.aggregations ↔ index.NamesApart payTotals.aggregations) ∧
      index.Reachable payTotals.aggregations := by
  have hfallback : IsNameText (Settings.ofCatalog .empty).options.fallbackName := by decide
  obtain ⟨index, hindex⟩ : ∃ index, AggregateIndex.ofRequest (.ofCatalog .empty) payTotals
      (.ofBase "EMP") = .ok index := ⟨_, rfl⟩
  have houtputs : (AggregateIndex.ofRequest (.ofCatalog .empty) payTotals
      (.ofBase "EMP")).toOption.map AggregateIndex.outputs =
        some [⟨"Net_pay", .sum, .qualified "EMP" "SALARY"⟩,
          ⟨"SUM_BONUS", .sum, .qualified "EMP" "BONUS"⟩] := by
    decide +kernel
  rw [hindex, Except.toOption, Option.map_some, Option.some_inj] at houtputs
  have hiff := AggregateIndex.reachable_iff hindex hfallback
  refine ⟨index, hindex, hfallback, hiff, hiff.2 ⟨?names, ?requests, ?trimmed⟩⟩
  case names =>
    intro i o ho
    rw [houtputs] at ho
    rcases i with _ | _ | i
    · obtain rfl := Option.some.inj ho
      decide +kernel
    · obtain rfl := Option.some.inj ho
      decide +kernel
    · cases ho
  case requests =>
    rintro i a o ⟨ha, -, -⟩
    rw [AggregateIndex.namesBefore, houtputs]
    rcases i with _ | _ | i
    · obtain rfl := Option.some.inj ha
      decide +kernel
    · obtain rfl := Option.some.inj ha
      decide +kernel
    · cases ha
  case trimmed =>
    rintro i a o ⟨ha, -, -⟩
    refine .inl ?_
    rcases i with _ | _ | i
    · obtain rfl := Option.some.inj ha
      decide +kernel
    · obtain rfl := Option.some.inj ha
      decide +kernel
    · cases ha

/-- Two totals, of which the second asks for the name that is made of what the first asks for. -/
def netTotals : Request where
  dataset := "EMP"
  aggregations? := some [⟨"SALARY", .sum, some "net total"⟩, ⟨"BONUS", .sum, some "net_total"⟩]
  filters? := some ⟨.and, [.leaf ⟨"net_total", .number, .greater, .scalar (.int 5)⟩]⟩

/-- **A condition under a name can read another aggregation than the one that asked for it.** -/
theorem not_reachable_netTotals :
    ∃ index, AggregateIndex.ofRequest (.ofCatalog .empty) netTotals (.ofBase "EMP") = .ok index ∧
      index.AsksFirst netTotals.aggregations 1 ⟨"BONUS", .sum, some "net_total"⟩
        ⟨"net_total_1", .sum, .qualified "EMP" "BONUS"⟩ ∧
      index.get? "net_total" = some ⟨"net_total", .sum, .qualified "EMP" "SALARY"⟩ ∧
      ¬index.Reachable netTotals.aggregations ∧
      (compile (.ofCatalog .empty) netTotals).outcome.toOption.map Compiled.text =
        some ("SELECT SUM(\"EMP\".\"SALARY\") AS \"NET_TOTAL\", " ++
          "SUM(\"EMP\".\"BONUS\") AS \"NET_TOTAL_1\"\nFROM \"EMP\" \"EMP\"\n" ++
          "HAVING (SUM(\"EMP\".\"SALARY\") > :p_1)\nOFFSET 0 ROWS FETCH NEXT 100 ROWS ONLY") := by
  refine ⟨_, rfl, ?first, ?found, fun hreachable => ?apart, by decide +kernel⟩
  case first => exact ⟨by decide +kernel, by decide +kernel, by decide +kernel⟩
  case found => decide +kernel
  case apart =>
    have hget := hreachable.get?_requestedName 1 ⟨"BONUS", .sum, some "net_total"⟩
      ⟨"net_total_1", .sum, .qualified "EMP" "BONUS"⟩
      ⟨by decide +kernel, by decide +kernel, by decide +kernel⟩
    revert hget
    decide +kernel

end ReportSql
