import Mathlib.Data.List.Perm.Subperm
import ReportSql.Proofs.Join.Plan
import ReportSql.Proofs.Recased.Names

/-!
# Names of occurrences

The name of an occurrence is made of the name of its dataset, with a number when another occurrence
has it already.  Of the numbers the first that is free is taken, and there always is one among one
more numbers than there are names.

## Main definitions

* `IsFirstFree` — the base of a name or the first of its candidates that is not used.
* `SourcePlan.WellNamed` — the occurrences of a plan can be told apart by their names.

## Main statements

* `isFirstFree_freshName` — the search for a free name ends with the first one.
* `SourcePlan.wellNamed_of_ofRequest` — the plan of a request is well named.
-/

namespace ReportSql

open Text

/-! ## Letter case of names -/

/-- A text of letters, digits and underscores. -/
def IsNameText (s : String) : Prop := ∀ c ∈ s.toList, isNameChar c = true

theorem isNameText_iff_all {s : String} : IsNameText s ↔ s.toList.all isNameChar = true :=
  List.all_eq_true.symm

instance (s : String) : Decidable (IsNameText s) := decidable_of_iff' _ isNameText_iff_all

theorem isNameText_nameToken (s : String) : IsNameText (nameToken s) := by
  intro c hc
  rw [nameToken, String.toList_ofList] at hc
  exact isNameChar_of_mem_nameChars hc

theorem IsNameText.append {a b : String} (ha : IsNameText a) (hb : IsNameText b) :
    IsNameText (a ++ b) := by
  intro c hc
  rw [String.toList_append, List.mem_append] at hc
  exact hc.elim (ha c) (hb c)

theorem isNameText_underscore : IsNameText "_" := by decide

theorem isNameText_repr (n : Nat) : IsNameText n.repr := by
  intro c hc
  rw [Nat.toList_repr] at hc
  have hdigit : c.isDigit = true := Nat.isDigit_of_mem_toDigits (by decide) (by decide) hc
  simp [isNameChar, Char.isAlphanum, hdigit]

/-- The characters of names are ASCII characters beyond the blanks. -/
theorem toNat_of_isNameChar {c : Char} (h : isNameChar c = true) :
    48 ≤ c.toNat ∧ c.toNat < 128 := by
  have hupper : c.isUpper = decide (c.val ≥ 'A'.val ∧ c.val ≤ 'Z'.val) := rfl
  have hlower : c.isLower = (decide (c.val ≥ 'a'.val) && decide (c.val ≤ 'z'.val)) := rfl
  have halpha : c.isAlpha = (c.isUpper || c.isLower) := rfl
  simp only [isNameChar, Char.isAlphanum, halpha, hupper, hlower, Char.isDigit, Bool.or_eq_true,
    Bool.and_eq_true, decide_eq_true_eq, beq_iff_eq, UInt32.le_iff_toNat_le] at h
  change 48 ≤ c.val.toNat ∧ c.val.toNat < 128
  rcases h with ((h | h) | h) | rfl
  · exact ⟨Nat.le_trans (by decide) h.1, Nat.lt_of_le_of_lt h.2 (by decide)⟩
  · exact ⟨Nat.le_trans (by decide) h.1, Nat.lt_of_le_of_lt h.2 (by decide)⟩
  · exact ⟨h.1, Nat.lt_of_le_of_lt h.2 (by decide)⟩
  · decide

theorem isBlank_of_isNameChar {c : Char} (h : isNameChar c = true) : isBlank c = false := by
  have hc := toNat_of_isNameChar h
  simp only [isBlank, Bool.or_eq_false_iff, Bool.and_eq_false_iff, decide_eq_false_iff_not,
    beq_eq_false_iff_ne]
  omega

namespace IsNameText

variable {s : String}

theorem toList_upper (h : IsNameText s) : (upper s).toList = s.toList.map Char.toUpper := by
  rw [Text.toList_upper, List.map_eq_flatMap]
  refine List.flatMap_congr fun c hc => ?_
  rw [upperChar, if_pos (toNat_of_isNameChar (h c hc)).2]

/-- A name has no blanks around it. -/
theorem trim_eq (h : IsNameText s) : trim s = s := by
  have hdrop : ∀ cs : List Char, (∀ c ∈ cs, isNameChar c = true) → cs.dropWhile isBlank = cs := by
    intro cs hcs
    cases cs with
    | nil => rfl
    | cons c cs =>
      rw [List.dropWhile_cons_of_neg]
      simp [isBlank_of_isNameChar (hcs c (by simp))]
  have hreverse : ∀ c ∈ s.toList.reverse, isNameChar c = true := fun c hc =>
    h c (List.mem_reverse.1 hc)
  rw [← String.toList_inj, toList_trim, strip, stripEnd, hdrop _ h, hdrop _ hreverse,
    List.reverse_reverse]

end IsNameText

/-- Numbers are the same in upper case. -/
theorem upper_repr (n : Nat) : upper n.repr = n.repr := by
  have hascii : ∀ k : Fin 128, (Char.ofNat k).isDigit = true →
      (Char.ofNat k).toUpper = Char.ofNat k := by decide
  rw [← String.toList_inj, (isNameText_repr n).toList_upper]
  refine (List.map_congr_left fun c hc => ?_).trans (List.map_id _)
  have hlt := (toNat_of_isNameChar (isNameText_repr n c hc)).2
  rw [Nat.toList_repr] at hc
  have hdigit : c.isDigit = true := Nat.isDigit_of_mem_toDigits (by decide) (by decide) hc
  simpa [hdigit] using hascii ⟨c.toNat, hlt⟩

/-! ## Free names -/

/-- The base of a name if it is not used in any case, else the first candidate that is not. -/
structure IsFirstFree (used : List String) (base : String) (candidate : Nat → String)
    (name : String) : Prop where
  free : upper name ∉ used
  base_or : (upper base ∉ used ∧ name = base) ∨
    (upper base ∈ used ∧ ∃ n, 1 ≤ n ∧ name = candidate n ∧
      ∀ m, 1 ≤ m → m < n → upper (candidate m) ∈ used)

/-- A search stops at the first free candidate, or when its fuel ends. -/
theorem exists_firstFresh (used : List String) (candidate : Nat → String) (fuel n : Nat) :
    ∃ k, firstFresh used candidate fuel n = candidate (n + k) ∧
      (∀ m, n ≤ m → m < n + k → upper (candidate m) ∈ used) ∧
      (upper (candidate (n + k)) ∉ used ∨ k = fuel) := by
  fun_induction firstFresh used candidate fuel n with
  | case1 n => exact ⟨0, rfl, fun m _ _ => by omega, .inr rfl⟩
  | case2 fuel n hused ih =>
    obtain ⟨k, hk, hbefore, hend⟩ := ih
    have hadd : n + 1 + k = n + (k + 1) := by omega
    rw [hadd] at hk hend
    refine ⟨k + 1, hk, fun m hm hlt => ?_, hend.imp id fun h => by omega⟩
    by_cases heq : m = n
    · subst heq
      simpa using hused
    · exact hbefore m (by omega) (by omega)
  | case3 fuel n hfree => exact ⟨0, rfl, fun m _ _ => by omega, .inl (by simpa using hfree)⟩

/-- Of more names than are used one is free. -/
theorem exists_notMem_of_length_lt {names used : List String} (hnodup : names.Nodup)
    (hlt : used.length < names.length) : ∃ name ∈ names, name ∉ used := by
  by_contra hall
  have hsubset : names ⊆ used := fun name hname =>
    Classical.not_not.1 fun hfree => hall ⟨name, hname, hfree⟩
  have hle := (hnodup.subperm hsubset).length_le
  omega

section

variable {used : List String} {base name : String} {candidate : Nat → String}

/-- Candidates that differ in upper case are not all used. -/
theorem exists_candidate_notMem
    (hdiffer : ∀ m n, upper (candidate m) = upper (candidate n) → m = n) (used : List String) :
    ∃ n, 1 ≤ n ∧ n ≤ used.length + 1 ∧ upper (candidate n) ∉ used := by
  have hnodup : ((List.range' 1 (used.length + 1)).map fun n => upper (candidate n)).Nodup :=
    List.Nodup.map (fun m n => hdiffer m n) List.nodup_range'
  obtain ⟨name, hname, hfree⟩ := exists_notMem_of_length_lt hnodup (by simp : used.length < _)
  obtain ⟨n, hn, rfl⟩ := List.mem_map.1 hname
  rw [List.mem_range'_1] at hn
  exact ⟨n, hn.1, by omega, hfree⟩

/-- **The search for a free name ends with the first one**, of candidates that differ from each
other in upper case. -/
theorem isFirstFree_freshName
    (hdiffer : ∀ m n, upper (candidate m) = upper (candidate n) → m = n) :
    IsFirstFree used base candidate (freshName used base candidate) := by
  unfold freshName
  by_cases hused : upper base ∈ used
  · rw [if_pos (by simpa using hused)]
    obtain ⟨k, hk, hbefore, hend⟩ := exists_firstFresh used candidate used.length 1
    rw [hk]
    refine ⟨?_, .inr ⟨hused, 1 + k, by omega, rfl, hbefore⟩⟩
    rcases hend with hfree | rfl
    · exact hfree
    · -- the candidates tried are used, so the one after them is the free one
      obtain ⟨n, hn, hle, hfree⟩ := exists_candidate_notMem hdiffer used
      have hlast : n = 1 + used.length := by
        by_contra hne
        exact hfree (hbefore n hn (by omega))
      exact hlast ▸ hfree
  · rw [if_neg (by simpa using hused)]
    exact ⟨hused, .inl ⟨hused, rfl⟩⟩

/-- The number of a candidate that is taken is at most one more than there are used names. -/
theorem IsFirstFree.eq_base_or (h : IsFirstFree used base candidate name)
    (hdiffer : ∀ m n, upper (candidate m) = upper (candidate n) → m = n) :
    name = base ∨ ∃ n, 1 ≤ n ∧ n ≤ used.length + 1 ∧ name = candidate n := by
  rcases h.base_or with ⟨-, hname⟩ | ⟨-, n, hn, hname, hbefore⟩
  · exact .inl hname
  · obtain ⟨m, hm, hle, hfree⟩ := exists_candidate_notMem hdiffer used
    have hnm : n ≤ m := Nat.le_of_not_lt fun hlt => hfree (hbefore m hm hlt)
    exact .inr ⟨n, hn, by omega, hname⟩

/-- A free name is a name if the base and its candidates are. -/
theorem IsFirstFree.isNameText (h : IsFirstFree used base candidate name)
    (hbase : IsNameText base) (hcandidate : ∀ n, IsNameText (candidate n)) : IsNameText name := by
  rcases h.base_or with ⟨-, rfl⟩ | ⟨-, n, -, rfl, -⟩
  · exact hbase
  · exact hcandidate n

end

/-! ## Names of occurrences -/

/-- The name of a dataset with a number. -/
def numberedName (base : String) (n : Nat) : String := base ++ "_" ++ n.repr

theorem upper_numberedName (base : String) (n : Nat) :
    upper (numberedName base n) = numberedName (upper base) n := by
  have hunderscore : upper "_" = "_" := by decide
  rw [numberedName, upper_append, upper_append, hunderscore, upper_repr, numberedName]

theorem IsNameText.numberedName {base : String} (h : IsNameText base) (n : Nat) :
    IsNameText (numberedName base n) :=
  (h.append isNameText_underscore).append (isNameText_repr n)

/-- The name of an occurrence is the first free one. -/
theorem isFirstFree_occurrenceName (used : List String) (dataset : String) :
    IsFirstFree used (nameToken (trim dataset)) (numberedName (nameToken (trim dataset)))
      (occurrenceName used dataset) := by
  refine isFirstFree_freshName fun m n h => ?_
  rw [upper_numberedName, upper_numberedName] at h
  exact (append_number_inj h).2

namespace SourcePlan

variable {p : SourcePlan} {r : Request}

/-- Every occurrence has the first name that is free beside those before it. -/
def NamedInOrder (p : SourcePlan) : Prop :=
  ∀ i o, p.occurrences[i]? = some o →
    IsFirstFree ((p.occurrences.take i).map fun o => upper o.name) (nameToken (trim o.dataset))
      (numberedName (nameToken (trim o.dataset))) o.name

theorem namedInOrder_of_ofRequest (h : ofRequest r = .ok p) : p.NamedInOrder := by
  refine ofRequest_induction (fun dataset => ?_) (fun p spec left _ hp => ?_) h
  · intro i o ho
    obtain ⟨rfl, rfl⟩ : i = 0 ∧ o = ⟨dataset, occurrenceName [] dataset, false⟩ := by
      cases i with
      | zero => exact ⟨rfl, (Option.some_inj.1 ho).symm⟩
      | succ i => cases ho
    exact isFirstFree_occurrenceName [] dataset
  · intro i o ho
    have hnames : ∀ os : List Occurrence,
        (os.map fun o => ({ o with
          nullSupplying := o.nullSupplying || spec.kind.keepsRight } : Occurrence)).map
            (fun o => upper o.name) = os.map fun o => upper o.name := by simp
    rw [withJoin] at ho
    rcases Nat.lt_trichotomy i p.occurrences.length with hlt | rfl | hgt
    · rw [List.getElem?_append_left (by simpa using hlt), List.getElem?_map,
        Option.map_eq_some_iff] at ho
      obtain ⟨o', ho', rfl⟩ := ho
      rw [withJoin, List.take_append_of_le_length (by simpa using Nat.le_of_lt hlt),
        ← List.map_take, hnames]
      exact hp i o' ho'
    · rw [List.getElem?_append_right (by simp)] at ho
      simp only [List.length_map, Nat.sub_self, List.getElem?_cons_zero, Option.some.injEq] at ho
      subst ho
      rw [withJoin, List.take_left' (by simp), hnames]
      exact isFirstFree_occurrenceName p.usedNames spec.rightDataset
    · rw [List.getElem?_eq_none (by simp; omega)] at ho
      cases ho

namespace NamedInOrder

variable {i j : Nat} {o o' : Occurrence}

theorem isNameText (h : p.NamedInOrder) (ho : o ∈ p.occurrences) : IsNameText o.name := by
  obtain ⟨i, hi⟩ := List.mem_iff_getElem?.1 ho
  exact (h i o hi).isNameText (isNameText_nameToken _) (isNameText_nameToken _).numberedName

/-- Later occurrences have other names. -/
theorem upper_ne (h : p.NamedInOrder) (hij : i < j) (ho : p.occurrences[i]? = some o)
    (ho' : p.occurrences[j]? = some o') : upper o.name ≠ upper o'.name := by
  intro heq
  refine (h j o' ho').free (List.mem_map.2 ⟨o, ?_, heq⟩)
  have htake : (p.occurrences.take j)[i]? = some o := by rw [List.getElem?_take_of_lt hij, ho]
  exact List.mem_of_getElem? htake

theorem nodup_upper (h : p.NamedInOrder) : (p.occurrences.map fun o => upper o.name).Nodup := by
  rw [List.Nodup, List.pairwise_map, List.pairwise_iff_getElem]
  intro i j hi hj hij
  exact h.upper_ne hij (List.getElem?_eq_getElem hi) (List.getElem?_eq_getElem hj)

/-- A name with the case of its letters changed is no other name. -/
theorem sameFolded_eq_false (h : p.NamedInOrder) (hij : i < j) (ho : p.occurrences[i]? = some o)
    (ho' : p.occurrences[j]? = some o') : sameFolded o.name o'.name = false := by
  have hne := h.upper_ne hij ho ho'
  exact Bool.eq_false_iff.2 fun hsame => hne (upper_eq_of_folded_eq (sameFolded_iff.1 hsame))

/-- **The name of an occurrence refers to it.** -/
theorem resolveQualifier_name (h : p.NamedInOrder) (ho : p.occurrences[i]? = some o) :
    p.resolveQualifier o.name = some i := by
  have htrim := (h.isNameText (List.mem_of_getElem? ho)).trim_eq
  have hfound : p.occurrences.findIdx? (fun o' => sameFolded o'.name o.name) = some i := by
    obtain ⟨hi, rfl⟩ := List.getElem?_eq_some_iff.1 ho
    refine List.findIdx?_eq_some_iff_getElem.2 ⟨hi, sameFolded_self _, fun j hj => ?_⟩
    have hbefore := List.getElem?_eq_getElem (Nat.lt_trans hj hi)
    simp [h.sameFolded_eq_false hj hbefore ho]
  simp [resolveQualifier, htrim, hfound]

end NamedInOrder

/-- The occurrences of a plan can be told apart: each has the first name that is free beside those
before it, no two names agree in any case, and the name of an occurrence refers to it. -/
structure WellNamed (p : SourcePlan) : Prop where
  inOrder : p.NamedInOrder
  distinct : p.occurrences.Pairwise fun o o' =>
    upper o.name ≠ upper o'.name ∧ sameFolded o.name o'.name = false
  resolves : ∀ i o, p.occurrences[i]? = some o → p.resolveQualifier o.name = some i

/-- **The plan of a request is well named.** -/
theorem wellNamed_of_ofRequest (h : ofRequest r = .ok p) : p.WellNamed := by
  have hnamed := namedInOrder_of_ofRequest h
  refine ⟨hnamed, ?_, fun i o ho => hnamed.resolveQualifier_name ho⟩
  rw [List.pairwise_iff_getElem]
  intro i j hi hj hij
  have ho := List.getElem?_eq_getElem hi
  have ho' := List.getElem?_eq_getElem hj
  exact ⟨hnamed.upper_ne hij ho ho', hnamed.sameFolded_eq_false hij ho ho'⟩

end SourcePlan

end ReportSql
