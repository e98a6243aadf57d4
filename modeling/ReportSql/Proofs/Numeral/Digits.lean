import Mathlib.Algebra.Ring.Nat
import ReportSql.Calendar.Date
import ReportSql.Decimal.Numeral
import ReportSql.Proofs.Text.Ends

/-!
# Runs of digits

A run of digits is read up to the first character that is no digit.  Zeros before a run leave its
value as it is, and each zero after it makes the value ten times as large.

## Main definitions

* `AllDigits` — a run of digits.
* `StopsDigits` — a text that no run of digits goes on into.

## Main statements

* `takeWhile_digits`, `dropWhile_digits` — a run is read up to its end.
* `digitsValue_eq_zero_iff` — the value is zero for a run of zeros alone.
* `digitsValue_padded` — a number in at least so many digits has its value.
-/

namespace ReportSql

open Text

/-- A run of decimal digits, which may be empty. -/
def AllDigits (ds : List Char) : Prop := ∀ d ∈ ds, d.isDigit = true

/-- A text that begins with no digit. -/
def StopsDigits (cs : List Char) : Prop := ∀ c ∈ cs.head?, c.isDigit = false

variable {as bs ds cs : List Char}

theorem AllDigits.append (ha : AllDigits as) (hb : AllDigits bs) : AllDigits (as ++ bs) := by
  intro d hd
  exact (List.mem_append.1 hd).elim (ha d) (hb d)

theorem AllDigits.stripped (h : AllDigits ds) (p : Char → Bool) : AllDigits (stripEnd p ds) :=
  fun d hd => h d ((stripEnd_begins p ds).mem hd)

theorem allDigits_replicate_zero (k : Nat) : AllDigits (List.replicate k '0') := by
  intro d hd
  rw [(List.mem_replicate.1 hd).2]
  rfl

/-- A character that is no digit is not in a run of them. -/
theorem AllDigits.not_mem (h : AllDigits ds) {c : Char} (hc : c.isDigit = false) : c ∉ ds := by
  intro hmem
  rw [h c hmem] at hc
  cases hc

/-! ## Reading -/

theorem takeWhile_digits (hds : AllDigits ds) (hcs : StopsDigits cs) :
    (ds ++ cs).takeWhile Char.isDigit = ds := by
  rw [List.takeWhile_append_of_pos hds]
  cases cs with
  | nil => simp
  | cons c cs =>
    have hc : c.isDigit = false := hcs c rfl
    simp [hc]

theorem dropWhile_digits (hds : AllDigits ds) (hcs : StopsDigits cs) :
    (ds ++ cs).dropWhile Char.isDigit = cs := by
  rw [List.dropWhile_append_of_pos hds]
  cases cs with
  | nil => rfl
  | cons c cs =>
    have hc : c.isDigit = false := hcs c rfl
    simp [hc]

theorem allDigits_takeWhile (cs : List Char) : AllDigits (cs.takeWhile Char.isDigit) :=
  fun _ hd => List.mem_takeWhile_imp hd

/-! ## Values -/

namespace Numeral

theorem digitsValue_append_zeros (ds : List Char) (k : Nat) :
    digitsValue (ds ++ List.replicate k '0') = 10 ^ k * digitsValue ds := by
  change Nat.ofDigitChars 10 (ds ++ List.replicate k '0') 0 = _
  rw [Nat.ofDigitChars_append, Nat.ofDigitChars_replicate_zero]
  rfl

theorem digitsValue_zeros_append (k : Nat) (ds : List Char) :
    digitsValue (List.replicate k '0' ++ ds) = digitsValue ds := by
  change Nat.ofDigitChars 10 (List.replicate k '0' ++ ds) 0 = _
  rw [Nat.ofDigitChars_append, Nat.ofDigitChars_replicate_zero, Nat.mul_zero]
  rfl

/-- **The value of a run of digits is zero if they are all zeros.** -/
theorem digitsValue_eq_zero_iff (h : AllDigits ds) :
    digitsValue ds = 0 ↔ ∀ d ∈ ds, d = '0' := by
  induction ds using List.reverseRecOn with
  | nil => simp [digitsValue]
  | append_singleton ds d ih =>
    have hds : AllDigits ds := fun c hc => h c (List.mem_append_left _ hc)
    have hd := Char.isDigit_iff_toNat.1 (h d (by simp))
    have hvalue : digitsValue (ds ++ [d]) = 10 * digitsValue ds + (d.toNat - '0'.toNat) := by
      simp [digitsValue]
    have hzero : d.toNat - '0'.toNat = 0 ↔ d = '0' := by
      refine ⟨fun hsub => ?_, fun heq => by rw [heq]; rfl⟩
      apply Char.toNat_inj.1
      omega
    rw [hvalue, Nat.add_eq_zero_iff, hzero, Nat.mul_eq_zero, ih hds, List.forall_mem_append]
    simp

end Numeral

/-! ## Zeros at the end -/

/-- A run of digits is what is left without the zeros at its end, and these zeros. -/
theorem exists_zeros (ds : List Char) :
    ∃ k, ds = stripEnd (· == '0') ds ++ List.replicate k '0' := by
  have hzeros : ds.rtakeWhile (· == '0') =
      List.replicate (ds.rtakeWhile (· == '0')).length '0' := by
    refine List.eq_replicate_iff.2 ⟨rfl, fun c hc => ?_⟩
    simpa using List.mem_rtakeWhile_imp hc
  refine ⟨(ds.rtakeWhile (· == '0')).length, ?_⟩
  rw [← hzeros]
  exact List.rdropWhile_append_rtakeWhile.symm

/-- A run of digits that is not all zeros has another value without the zeros at its end, if there
are any. -/
theorem Numeral.digitsValue_stripEnd_eq_iff (h : AllDigits ds)
    (hne : stripEnd (· == '0') ds ≠ []) :
    digitsValue (stripEnd (· == '0') ds) = digitsValue ds ↔ stripEnd (· == '0') ds = ds := by
  obtain ⟨k, hk⟩ := exists_zeros ds
  have hkept : AllDigits (stripEnd (· == '0') ds) := h.stripped _
  have hpos : digitsValue (stripEnd (· == '0') ds) ≠ 0 := by
    rw [ne_eq, digitsValue_eq_zero_iff hkept]
    intro hzeros
    refine hne ?_
    rw [← stripEnd_stripEnd, stripEnd_eq_nil_iff]
    simpa using hzeros
  have hvalue : digitsValue ds = 10 ^ k * digitsValue (stripEnd (· == '0') ds) := by
    rw [← digitsValue_append_zeros, ← hk]
  refine ⟨fun heq => ?_, fun heq => by rw [heq]⟩
  cases k with
  | zero => simpa using hk.symm
  | succ k =>
    have hpower : 0 < 10 ^ k := Nat.pow_pos (by decide)
    rw [hvalue, Nat.pow_succ] at heq
    have hlarge : digitsValue (stripEnd (· == '0') ds) ≤
        10 ^ k * digitsValue (stripEnd (· == '0') ds) := Nat.le_mul_of_pos_left _ hpower
    have hten : 10 ^ k * 10 * digitsValue (stripEnd (· == '0') ds) =
        10 * (10 ^ k * digitsValue (stripEnd (· == '0') ds)) := by
      rw [Nat.mul_comm (10 ^ k) 10, Nat.mul_assoc]
    omega

/-! ## Numbers in digits -/

theorem allDigits_toDigits (n : Nat) : AllDigits (Nat.toDigits 10 n) :=
  fun _ hd => Nat.isDigit_of_mem_toDigits (by decide) (by decide) hd

theorem allDigits_padded (width n : Nat) : AllDigits (padded width n) :=
  (allDigits_replicate_zero _).append (allDigits_toDigits n)

/-- **A number in at least so many digits has its value.** -/
theorem digitsValue_padded (width n : Nat) : Numeral.digitsValue (padded width n) = n := by
  rw [padded, Numeral.digitsValue_zeros_append]
  exact Nat.ofDigitChars_ten_toDigits

theorem length_padded {width n : Nat} (hwidth : 0 < width) (h : n < 10 ^ width) :
    (padded width n).length = width := by
  have hlength := (Nat.length_toDigits_le_iff (by decide) hwidth).2 h
  rw [padded, List.length_append, List.length_replicate]
  omega

end ReportSql
