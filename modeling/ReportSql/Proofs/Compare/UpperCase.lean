import Mathlib.Data.List.Basic
import Mathlib.Data.Nat.Bitwise
import ReportSql.Text.Case
import ReportSql.Text.Segment

/-!
# Texts in upper case

The upper case of a text is its own upper case: no character is both the image of one in the case
tables and mapped to another by them.

## Main definitions

* `loweredNumbers`, `upperNumbers` — the characters that the tables map, and their images.

## Main statements

* `upper_upper` — a text in upper case is its own upper case.
* `mem_upper_iff` — a sign that is no letter stands in the upper case of a text where it stands in
  the text.
* `qualifierAndColumn_upper`, `lastSegment_upper` — a name in upper case has its segments in upper
  case.
-/

namespace ReportSql.Text

/-! ## Sets of numbers -/

/-- Some numbers as the bits of one, so that two sets are compared at once. -/
def bits (ns : List Nat) : Nat := ns.foldr (fun n m => 2 ^ n ||| m) 0

theorem testBit_bits (ns : List Nat) (i : Nat) : (bits ns).testBit i = true ↔ i ∈ ns := by
  induction ns with
  | nil => simp [bits]
  | cons n ns ih =>
    have hbits : bits (n :: ns) = 2 ^ n ||| bits ns := rfl
    rw [hbits, Nat.testBit_or, Bool.or_eq_true, ih, Nat.testBit_two_pow, decide_eq_true_eq,
      List.mem_cons, eq_comm]

theorem not_mem_of_bits {ms ns : List Nat} (h : bits ms &&& bits ns = 0) {i : Nat} (hi : i ∈ ms) :
    i ∉ ns := by
  intro hi'
  have hboth : (bits ms &&& bits ns).testBit i = true := by
    rw [Nat.testBit_and, (testBit_bits ms i).2 hi, (testBit_bits ns i).2 hi']
    rfl
  simp [h] at hboth

/-! ## The tables -/

/-- The characters of a run. -/
def CaseRun.members (r : CaseRun) : List Nat :=
  (List.range ((r.last - r.first) / r.step + 1)).map fun i => r.first + r.step * i

theorem CaseRun.mem_members {r : CaseRun} {n : Nat} (h : r.covers n = true) : n ∈ r.members := by
  simp only [covers, Bool.and_eq_true, decide_eq_true_eq, beq_iff_eq] at h
  obtain ⟨⟨hfirst, hlast⟩, hstep⟩ := h
  refine List.mem_map.2 ⟨(n - r.first) / r.step, ?_, ?_⟩
  · rw [List.mem_range, Nat.lt_succ_iff]
    exact Nat.div_le_div_right (Nat.sub_le_sub_right hlast _)
  · rw [Nat.mul_div_cancel' (Nat.dvd_of_mod_eq_zero hstep)]
    omega

/-- The characters that have another upper case. -/
def loweredNumbers : List Nat :=
  upperSequences.map Prod.fst ++ upperRuns.flatMap CaseRun.members

/-- The characters that are part of the upper case of another. -/
def upperNumbers : List Nat :=
  upperSequences.flatMap Prod.snd ++ upperRuns.flatMap fun r => r.members.map r.apply

theorem upperNumbers_disjoint : bits upperNumbers &&& bits loweredNumbers = 0 := by decide +kernel

theorem upperNumbers_all :
    upperNumbers.all fun n => decide (n.isValidChar ∧ ¬(97 ≤ n ∧ n ≤ 122)) := by decide +kernel

/-- The tables leave a character as it is, or its image is made of their images. -/
theorem mem_upperNumbers {c d : Char} (h : d ∈ mapped upperRuns upperSequences c) :
    mapped upperRuns upperSequences c = [c] ∨ ∃ n ∈ upperNumbers, d = Char.ofNat n := by
  cases hlookup : upperSequences.lookup c.toNat with
  | some image =>
    rw [mapped, hlookup] at h
    obtain ⟨before, after, hsequences, -⟩ := List.lookup_eq_some_iff.1 hlookup
    have hmem : (c.toNat, image) ∈ upperSequences := by
      rw [hsequences]
      exact List.mem_append_right _ List.mem_cons_self
    obtain ⟨n, hn, rfl⟩ := List.mem_map.1 h
    exact .inr ⟨n, List.mem_append_left _ (List.mem_flatMap.2 ⟨_, hmem, hn⟩), rfl⟩
  | none =>
    cases hrun : upperRuns.find? (·.covers c.toNat) with
    | some run =>
      rw [mapped, hlookup, hrun] at h
      have hcovers := List.find?_some hrun
      refine .inr ⟨_, List.mem_append_right _ ?_, List.mem_singleton.1 h⟩
      exact List.mem_flatMap.2
        ⟨run, List.mem_of_find?_eq_some hrun, List.mem_map_of_mem (CaseRun.mem_members hcovers)⟩
    | none => exact .inl (by rw [mapped, hlookup, hrun])

/-- A character that the tables do not map stays as it is. -/
theorem mapped_of_not_mem {c : Char} (h : c.toNat ∉ loweredNumbers) :
    mapped upperRuns upperSequences c = [c] := by
  rw [loweredNumbers, List.mem_append, not_or] at h
  have hsequences : upperSequences.lookup c.toNat = none := by
    refine List.lookup_eq_none_iff.2 fun p hp => ?_
    have hne : c.toNat ≠ p.1 := fun heq => h.1 (heq ▸ List.mem_map_of_mem hp)
    simpa using hne
  have hruns : upperRuns.find? (·.covers c.toNat) = none := by
    refine List.find?_eq_none.2 fun r hr hcovers => h.2 ?_
    exact List.mem_flatMap.2 ⟨r, hr, CaseRun.mem_members hcovers⟩
  rw [mapped, hsequences, hruns]

/-! ## Characters and texts -/

theorem toUpper_of_not_small {c : Char} (h : ¬(97 ≤ c.toNat ∧ c.toNat ≤ 122)) :
    c.toUpper = c :=
  dif_neg h

theorem not_small_toUpper {c : Char} (h : c.toNat < 128) :
    c.toUpper.toNat < 128 ∧ ¬(97 ≤ c.toUpper.toNat ∧ c.toUpper.toNat ≤ 122) := by
  have hall : ∀ n : Fin 128, (Char.ofNat n).toUpper.toNat < 128 ∧
      ¬(97 ≤ (Char.ofNat n).toUpper.toNat ∧ (Char.ofNat n).toUpper.toNat ≤ 122) := by
    decide
  simpa using hall ⟨c.toNat, h⟩

/-- **A character of an upper case is its own upper case.** -/
theorem upperChar_of_mem {c d : Char} (h : d ∈ upperChar c) : upperChar d = [d] := by
  by_cases hc : c.toNat < 128
  · rw [upperChar, if_pos hc, List.mem_singleton] at h
    subst h
    obtain ⟨hascii, hsmall⟩ := not_small_toUpper hc
    rw [upperChar, if_pos hascii, toUpper_of_not_small hsmall]
  · rw [upperChar, if_neg hc] at h
    obtain hself | ⟨n, hn, rfl⟩ := mem_upperNumbers h
    · rw [hself, List.mem_singleton] at h
      rw [h, upperChar, if_neg hc, hself]
    · have hvalid := List.all_eq_true.1 upperNumbers_all n hn
      rw [decide_eq_true_eq] at hvalid
      have hnumber : (Char.ofNat n).toNat = n := by
        rw [Char.ofNat, dif_pos hvalid.1]
        rfl
      rw [upperChar]
      split
      · rw [toUpper_of_not_small (by rw [hnumber]; exact hvalid.2)]
      · rw [mapped_of_not_mem]
        rw [hnumber]
        exact not_mem_of_bits upperNumbers_disjoint hn

/-- **A text in upper case is its own upper case.** -/
theorem upper_upper (s : String) : upper (upper s) = upper s := by
  apply String.toList_inj.1
  rw [toList_upper (upper s), toList_upper, List.flatMap_assoc]
  refine List.flatMap_congr fun c _ => ?_
  rw [List.flatMap_congr fun d hd => upperChar_of_mem hd, List.flatMap_singleton']

/-! ## Signs -/

theorem upperNumbers_letters :
    upperNumbers.all fun n => decide (128 ≤ n ∨ 65 ≤ n ∧ n ≤ 90) := by decide +kernel

theorem toUpper_eq_of_not_isAlpha {c d : Char} (hc : c.toNat < 128) (hd : d.isAlpha = false)
    (h : c.toUpper = d) : c = d := by
  have hall : ∀ n : Fin 128, (Char.ofNat n).toUpper.isAlpha = false →
      (Char.ofNat n).toUpper = Char.ofNat n := by decide
  have hself := hall ⟨c.toNat, hc⟩
  rw [Char.ofNat_toNat] at hself
  rw [← h] at hd
  rw [← h, hself hd]

/-- A sign that is no letter is part of no upper case but its own. -/
theorem mem_upperChar_iff {c d : Char} (hd : d.toNat < 128) (halpha : d.isAlpha = false) :
    d ∈ upperChar c ↔ c = d := by
  constructor
  · intro hmem
    by_cases hc : c.toNat < 128
    · rw [upperChar, if_pos hc, List.mem_singleton] at hmem
      exact toUpper_eq_of_not_isAlpha hc halpha hmem.symm
    · rw [upperChar, if_neg hc] at hmem
      obtain hself | ⟨n, hn, rfl⟩ := mem_upperNumbers hmem
      · rw [hself, List.mem_singleton] at hmem
        exact hmem.symm
      · -- an image of the tables is a capital or no sign of the first 128
        have hvalid := List.all_eq_true.1 upperNumbers_all n hn
        have hletter := List.all_eq_true.1 upperNumbers_letters n hn
        rw [decide_eq_true_eq] at hvalid hletter
        have hnumber : (Char.ofNat n).toNat = n := by
          rw [Char.ofNat, dif_pos hvalid.1]
          rfl
        rw [hnumber] at hd
        have hcapital : ∀ m : Fin 128, 65 ≤ m.val ∧ m.val ≤ 90 →
            (Char.ofNat m).isAlpha = true := by decide
        have hupper := hcapital ⟨n, hd⟩ (hletter.resolve_left (by omega))
        rw [halpha] at hupper
        cases hupper
  · rintro rfl
    have hall : ∀ n : Fin 128, (Char.ofNat n).isAlpha = false →
        (Char.ofNat n).toUpper = Char.ofNat n := by decide
    have hself := hall ⟨c.toNat, hd⟩
    rw [Char.ofNat_toNat] at hself
    rw [upperChar, if_pos hd, hself halpha]
    exact List.mem_singleton_self c

/-- **A sign that is no letter stands in the upper case of a text where it stands in the text.** -/
theorem mem_upper_iff {d : Char} (hd : d.toNat < 128) (halpha : d.isAlpha = false) (s : String) :
    d ∈ (upper s).toList ↔ d ∈ s.toList := by
  rw [toList_upper, List.mem_flatMap]
  simp only [mem_upperChar_iff hd halpha]
  constructor
  · rintro ⟨c, hc, rfl⟩
    exact hc
  · exact fun hmem => ⟨d, hmem, rfl⟩

/-! ## Segments -/

/-- A name in upper case has its last dot where the name has it. -/
theorem cutLast_upper (s : String) :
    cutLast '.' (upper s).toList =
      (cutLast '.' s.toList).map fun parts =>
        (parts.1.flatMap upperChar, parts.2.flatMap upperChar) := by
  cases hparts : cutLast '.' s.toList with
  | none =>
    rw [cutLast_eq_none_iff] at hparts
    exact cutLast_eq_none_iff.2 fun hmem => hparts ((mem_upper_iff (by decide) rfl s).1 hmem)
  | some parts =>
    obtain ⟨before, after⟩ := parts
    obtain ⟨hs, hafter⟩ := eq_append_of_cutLast hparts
    have hdot : '.' ∉ after.flatMap upperChar := by
      intro hmem
      have hmem' : '.' ∈ (upper (String.ofList after)).toList := by simpa using hmem
      exact hafter (by simpa using (mem_upper_iff (by decide) rfl _).1 hmem')
    have hupper : (upper s).toList =
        before.flatMap upperChar ++ '.' :: after.flatMap upperChar := by
      rw [toList_upper, hs, List.flatMap_append, List.flatMap_cons]
      rfl
    rw [hupper]
    exact cutLast_append_cons _ hdot

/-- A reference in upper case has its two parts in upper case. -/
theorem qualifierAndColumn_upper (s : String) :
    qualifierAndColumn (upper s) = (qualifierAndColumn s).map (Prod.map upper upper) := by
  rw [qualifierAndColumn, qualifierAndColumn, cutLast_upper, Option.map_map, Option.map_map]
  congr 1
  funext parts
  simp [upper]

/-- A name in upper case has its last segment in upper case. -/
theorem lastSegment_upper (s : String) : lastSegment (upper s) = upper (lastSegment s) := by
  rw [lastSegment, lastSegment, cutLast_upper]
  cases cutLast '.' s.toList with
  | none => rfl
  | some parts => simp [upper]

end ReportSql.Text
