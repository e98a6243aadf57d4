import ReportSql.Plan.Aggregates
import ReportSql.Plan.Predicates
import ReportSql.Proofs.Related

/-!
# Names up to letter case

The ASCII letters of a name may be written in either case.  Folding them to lower case commutes with
all that is done to a name on its way into a query, and what is looked up under a name is found
under the folded name too.

## Main definitions

* `Text.folded` — a text with its ASCII letters in lower case.
* `Settings.IgnoresCase` — settings that name a column alike in any case.

## Main statements

* `Text.sameFolded_iff` — the comparison of folded texts.
* `AggregateIndex.folded_outputName` — an output has one name in any case.
* `Settings.ignoresCase_ofCatalogs` — catalogs do not see the case of letters.
* `Dict.get?_or_find?_upper` — an exact hit is the one hit in any case.
-/

namespace ReportSql

namespace Text

/-- A text with its ASCII letters in lower case. -/
def folded (s : String) : String := String.ofList (s.toList.map Char.toLower)

@[simp] theorem toList_folded (s : String) : (folded s).toList = s.toList.map Char.toLower := by
  simp [folded]

/-- The texts that agree up to the case of ASCII letters are those with one folded form. -/
theorem sameFolded_iff {a b : String} : sameFolded a b = true ↔ folded a = folded b := by
  rw [sameFolded, beq_iff_eq, folded, folded, String.ofList_inj]

/-! ## Characters -/

/-- What does not tell apart the two cases of any ASCII letter does not see folding at all. -/
theorem apply_toLower {β : Type} {f : Char → β}
    (h : ∀ n : Fin 128, f (Char.ofNat n).toLower = f (Char.ofNat n)) (c : Char) :
    f c.toLower = f c := by
  by_cases hc : c.toNat < 128
  · have hascii := h ⟨c.toNat, hc⟩
    rwa [Char.ofNat_toNat] at hascii
  · have hsame : c.toLower = c := by
      refine dif_neg fun hletter => hc ?_
      have hle : c.val.toNat ≤ 'Z'.val.toNat := UInt32.le_iff_toNat_le.1 hletter.2
      exact Nat.lt_of_le_of_lt hle (by decide)
    rw [hsame]

theorem upperChar_toLower (c : Char) : upperChar c.toLower = upperChar c :=
  apply_toLower (by decide) c

theorem isBlank_toLower (c : Char) : isBlank c.toLower = isBlank c := apply_toLower (by decide) c

theorem isNameChar_toLower (c : Char) : isNameChar c.toLower = isNameChar c :=
  apply_toLower (by decide) c

theorem isDot_toLower (c : Char) : (c.toLower = '.') = (c = '.') := by
  have hdot : decide (c.toLower = '.') = decide (c = '.') :=
    apply_toLower (f := fun c => decide (c = '.')) (by decide) c
  rw [decide_eq_decide] at hdot
  exact propext hdot

theorem isUnderscore_toLower (c : Char) : (c.toLower == '_') = (c == '_') :=
  apply_toLower (f := fun c => c == '_') (by decide) c

/-! ## Texts -/

/-- Letters that are folded already may be folded again. -/
theorem folded_ofList_map (cs : List Char) :
    folded (String.ofList (cs.map Char.toLower)) = folded (String.ofList cs) := by
  have htwice : ∀ c : Char, c.toLower.toLower = c.toLower := apply_toLower (by decide)
  apply String.toList_inj.1
  simp only [toList_folded, String.toList_ofList, List.map_map, Function.comp_def, htwice]

@[simp] theorem folded_folded (s : String) : folded (folded s) = folded s := by
  have hagain := folded_ofList_map s.toList
  rwa [String.ofList_toList] at hagain

theorem folded_append (a b : String) : folded (a ++ b) = folded a ++ folded b := by
  apply String.toList_inj.1
  simp

@[simp] theorem upper_folded (s : String) : upper (folded s) = upper s := by
  apply String.toList_inj.1
  rw [toList_upper, toList_upper, toList_folded, List.flatMap_map]
  exact List.flatMap_congr fun c _ => upperChar_toLower c

/-- Texts with one folded form agree in upper case. -/
theorem upper_eq_of_folded_eq {a b : String} (h : folded a = folded b) : upper a = upper b := by
  rw [← upper_folded a, h, upper_folded]

@[simp] theorem sameFolded_folded_right (a b : String) :
    sameFolded a (folded b) = sameFolded a b := by
  rw [Bool.eq_iff_iff, sameFolded_iff, sameFolded_iff, folded_folded]

@[simp] theorem isEmpty_folded (s : String) : (folded s).isEmpty = s.isEmpty := by
  rw [Bool.eq_iff_iff, String.isEmpty_iff, String.isEmpty_iff, ← String.toList_inj,
    ← String.toList_inj, toList_folded]
  simp

/-- Ends are stripped alike in any case. -/
theorem strip_map_toLower {p : Char → Bool} (hp : ∀ c, p c.toLower = p c) (cs : List Char) :
    strip p (cs.map Char.toLower) = (strip p cs).map Char.toLower := by
  have hcomp : p ∘ Char.toLower = p := funext hp
  rw [strip, stripEnd, strip, stripEnd, List.dropWhile_map, hcomp, ← List.map_reverse,
    List.dropWhile_map, hcomp, List.map_reverse]

@[simp] theorem trim_folded (s : String) : trim (folded s) = folded (trim s) := by
  apply String.toList_inj.1
  rw [toList_trim, toList_folded, toList_folded, toList_trim, strip_map_toLower isBlank_toLower]

theorem folded_trim_eq {a b : String} (h : folded a = folded b) :
    folded (trim a) = folded (trim b) := by
  rw [← trim_folded, h, trim_folded]

theorem isEmpty_trim_eq {a b : String} (h : folded a = folded b) :
    (trim a).isEmpty = (trim b).isEmpty := by
  rw [← isEmpty_folded, folded_trim_eq h, isEmpty_folded]

/-- A name has its last dot at the same place in any case. -/
theorem cutLast_map_toLower (cs : List Char) :
    cutLast '.' (cs.map Char.toLower) =
      (cutLast '.' cs).map (Prod.map (List.map Char.toLower) (List.map Char.toLower)) := by
  induction cs with
  | nil => rfl
  | cons c cs ih =>
    rw [List.map_cons, cutLast, cutLast, ih]
    simp only [isDot_toLower]
    cases cutLast '.' cs with
    | some parts => rfl
    | none =>
      simp only [Option.map_none]
      split <;> rfl

@[simp] theorem qualifierAndColumn_folded (s : String) :
    qualifierAndColumn (folded s) = (qualifierAndColumn s).map (Prod.map folded folded) := by
  rw [qualifierAndColumn, qualifierAndColumn, toList_folded, cutLast_map_toLower, Option.map_map,
    Option.map_map]
  congr 1
  funext parts
  simp [folded]

@[simp] theorem lastSegment_folded (s : String) :
    lastSegment (folded s) = folded (lastSegment s) := by
  rw [lastSegment, lastSegment, toList_folded, cutLast_map_toLower]
  cases cutLast '.' s.toList with
  | some parts => simp [folded]
  | none => rfl

end Text

open Text

/-! ## Names in query text -/

/-- Quoted names are in upper case. -/
@[simp] theorem quotePart_folded (name : String) : quotePart (folded name) = quotePart name := by
  rw [quotePart, quotePart, upper_folded]

theorem quotePart_eq_of_folded_eq {a b : String} (h : folded a = folded b) :
    quotePart a = quotePart b := by
  rw [← quotePart_folded, h, quotePart_folded]

theorem nameChars_map_toLower (cs : List Char) :
    nameChars (cs.map Char.toLower) = (nameChars cs).map Char.toLower := by
  rw [nameChars, nameChars, List.map_map, List.map_map]
  refine List.map_congr_left fun c _ => ?_
  simp only [Function.comp_apply, isNameChar_toLower]
  split <;> rfl

/-- A name is made safe alike in any case, if anything is left of it. -/
theorem folded_sanitizeAlias (name : String) (length : Nat) (fallback : String) :
    folded (sanitizeAlias (folded name) length fallback) =
      folded (sanitizeAlias name length fallback) := by
  rw [sanitizeAlias, sanitizeAlias, toList_folded, nameChars_map_toLower,
    strip_map_toLower isUnderscore_toLower, ← List.map_take, List.isEmpty_map]
  split
  · rfl
  · exact folded_ofList_map _

/-- The search for a free name does not see the case of letters. -/
theorem folded_freshName {used : List String} {base base' : String}
    {candidate candidate' : Nat → String} (hbase : folded base = folded base')
    (hcandidate : ∀ n, folded (candidate n) = folded (candidate' n)) :
    folded (freshName used base candidate) = folded (freshName used base' candidate') := by
  have hfirst : ∀ fuel n, folded (firstFresh used candidate fuel n) =
      folded (firstFresh used candidate' fuel n) := by
    intro fuel
    induction fuel with
    | zero => exact hcandidate
    | succ fuel ih =>
      intro n
      rw [firstFresh, firstFresh, upper_eq_of_folded_eq (hcandidate n)]
      split
      · exact ih (n + 1)
      · exact hcandidate n
  rw [freshName, freshName, upper_eq_of_folded_eq hbase]
  split
  · exact hfirst used.length 1
  · exact hbase

/-- Names that agree up to the case of letters still do when they are cut to a length. -/
theorem folded_take {a b : String} (h : folded a = folded b) (length : Nat) :
    folded (String.ofList (a.toList.take length)) =
      folded (String.ofList (b.toList.take length)) := by
  have hlist := congrArg String.toList h
  rw [toList_folded, toList_folded] at hlist
  rw [← folded_ofList_map, List.map_take, hlist, ← List.map_take, folded_ofList_map]

/-- **An output has one name, whatever the case of the name that was asked for.** -/
theorem AggregateIndex.folded_outputName (options : Options) (used : List String)
    (requested : String) :
    folded (outputName options used (folded requested)) =
      folded (outputName options used requested) := by
  have hbase := folded_sanitizeAlias requested options.maxNameLength options.fallbackName
  refine folded_freshName hbase fun n => ?_
  rw [folded_append, folded_append _ ("_" ++ n.repr), folded_take hbase]

/-! ## Names of columns -/

/-- Settings that name a column alike, but for the case of ASCII letters, in any case. -/
def Settings.IgnoresCase (s : Settings) : Prop :=
  ∀ dataset column,
    folded (s.physicalColumn dataset (folded column)) = folded (s.physicalColumn dataset column)

theorem Settings.IgnoresCase.physicalColumn_eq {s : Settings} (hs : s.IgnoresCase)
    (dataset : String) {column column' : String} (h : folded column = folded column') :
    folded (s.physicalColumn dataset column) = folded (s.physicalColumn dataset column') := by
  rw [← hs, h, hs]

/-- **Catalogs do not see the case of the letters of a column**: its entry is kept in upper case,
and without an entry the column goes by its own name. -/
theorem Settings.ignoresCase_ofCatalogs (options : Options) (partitions names : Catalog) :
    (Settings.ofCatalogs options partitions names).IgnoresCase := by
  intro dataset column
  have hentry : names.column? dataset (folded column) = names.column? dataset column := by
    rw [Catalog.column?, Catalog.column?, upper_folded]
  change folded (names.physicalColumn dataset (folded column)) =
    folded (names.physicalColumn dataset column)
  rw [Catalog.physicalColumn, Catalog.physicalColumn, hentry]
  cases (names.column? dataset column).bind ColumnSpec.physicalName with
  | some name => rfl
  | none => exact folded_folded column

/-! ## Keys -/

/-- Of keys that differ in upper case, the one that is a name is the first that agrees with it in
upper case. -/
theorem find?_upper_of_lookup {α : Type} {key : String} {value : α}
    {entries : List (String × α)} (hdistinct : (entries.map fun e => upper e.1).Nodup)
    (h : entries.lookup key = some value) :
    entries.find? (fun e => upper e.1 == upper key) = some (key, value) := by
  induction entries with
  | nil => cases h
  | cons e entries ih =>
    obtain ⟨k, v⟩ := e
    rw [List.map_cons, List.nodup_cons] at hdistinct
    rw [Dict.lookup_cons_eq_ite] at h
    by_cases heq : key = k
    · subst heq
      rw [if_pos rfl, Option.some_inj] at h
      rw [List.find?_cons_of_pos (by simp), h]
    · rw [if_neg heq] at h
      -- the entry of the key itself comes later, so this one differs from it in upper case
      have hmem : key ∈ entries.map Prod.fst := by
        refine Classical.byContradiction fun hnone => ?_
        rw [Dict.lookup_eq_none_iff.2 hnone] at h
        cases h
      obtain ⟨e, he, rfl⟩ := List.mem_map.1 hmem
      have hne : upper k ≠ upper e.1 := by
        intro heq
        exact hdistinct.1 (List.mem_map.2 ⟨e, he, heq.symm⟩)
      rw [List.find?_cons_of_neg (by simpa using hne)]
      exact ih hdistinct.2 h

/-- **An exact hit is the one hit in any case**, among keys that differ in upper case. -/
theorem Dict.get?_or_find?_upper {α : Type} {d : Dict α}
    (hdistinct : (d.keys.map upper).Nodup) (key : String) :
    (d.get? key).or (d.find? fun k _ => upper k == upper key) =
      d.find? fun k _ => upper k == upper key := by
  rw [keys, List.map_map] at hdistinct
  cases hget : d.get? key with
  | none => rfl
  | some value =>
    rw [find?, find?_upper_of_lookup hdistinct hget]
    rfl

end ReportSql
