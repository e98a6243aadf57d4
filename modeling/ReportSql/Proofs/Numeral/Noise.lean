import Mathlib.Tactic.NormNum
import ReportSql.BindValue
import ReportSql.Proofs.Numeral.Spelling

/-!
# Numbers inside search patterns

A number inside a search pattern loses the zeros at the end of its text and then a point that is
left there, if the text has a point at all.  That is noise where the zeros end a fraction.  Where
the text ends with a power of ten it is the power that loses its zeros, and where a text has no
digits but zeros after its point it loses them all.

## Main definitions

* `Denotes` — a text is a numeral of a rational number.
* `withoutNoise` — a text without the zeros and the points at its end.
* `Spelling.LosesNoiseOnly` — a numeral that only loses what does not count.

## Main statements

* `withoutNoise_fraction`, `withoutNoise_power` — what a fraction and a power of ten lose.
* `patternText_denotes_iff` — when the pattern has the number of the text.
* `not_denotes_fifteenBillion` — not always.
-/

namespace ReportSql

open Text

/-- A text is a numeral of a rational number. -/
def Denotes (s : String) (x : ℚ) : Prop := ∃ n, Numeral.read? s.toList = some n ∧ n.value = x

/-- The numerals of a number are its spellings. -/
theorem denotes_iff_exists {s : String} {x : ℚ} :
    Denotes s x ↔ ∃ sp : Spelling, sp.text = s ∧ sp.numeral.value = x := by
  constructor
  · rintro ⟨n, hread, rfl⟩
    obtain ⟨sp, hchars, rfl⟩ := Numeral.read?_eq_some_iff.1 hread
    refine ⟨sp, ?_, rfl⟩
    rw [Spelling.text, hchars, String.ofList_toList]
  · rintro ⟨sp, rfl, rfl⟩
    refine ⟨sp.numeral, ?_, rfl⟩
    rw [Spelling.text, String.toList_ofList]
    exact sp.read?_chars

/-! ## Ends of texts -/

/-- A text without the zeros at its end, and then without the points at its end. -/
def withoutNoise (cs : List Char) : List Char := stripEnd (· == '.') (stripEnd (· == '0') cs)

theorem patternText_text (s : String) :
    patternText (.text s) true =
      if '.' ∈ s.toList then String.ofList (withoutNoise s.toList) else s := by
  simp [patternText, Scalar.spelling, withoutNoise]

variable {as ds : List Char}

/-- Digits have no points among them. -/
theorem AllDigits.isPoint_eq_false (h : AllDigits ds) : ∀ c ∈ ds, (c == '.') = false := by
  intro c hc
  rw [beq_eq_false_iff_ne]
  rintro rfl
  exact h.not_mem rfl hc

theorem Sign.isPoint_eq_false (sign : Sign) : ∀ c ∈ sign.chars, (c == '.') = false := by
  intro c hc
  rcases mem_chars hc with rfl | rfl <;> rfl

theorem Sign.isZero_eq_false (sign : Sign) : ∀ c ∈ sign.chars, (c == '0') = false := by
  intro c hc
  rcases mem_chars hc with rfl | rfl <;> rfl

/-- The digits of a fraction without the zeros at their end, none if nothing is left. -/
def keptFraction (ds : List Char) : Option (List Char) :=
  if stripEnd (· == '0') ds = [] then none else some (stripEnd (· == '0') ds)

/-- **A fraction at the end loses its zeros,** and its point if there are no other digits. -/
theorem withoutNoise_fraction (hfront : ∀ c ∈ as, (c == '.') = false) (hds : AllDigits ds) :
    withoutNoise (as ++ pointed (some ds)) = as ++ pointed (keptFraction ds) := by
  have hzeros : stripEnd (· == '0') (pointed (some ds)) = '.' :: stripEnd (· == '0') ds := by
    have hpoint : ∀ c ∈ ['.'], (c == '0') = false := by simp
    simpa [pointed] using @stripEnd_append_of_forall _ _ ds hpoint
  have hkept : AllDigits (stripEnd (· == '0') ds) := hds.stripped _
  rw [withoutNoise, stripEnd_append_of_ne_nil (by rw [hzeros]; simp), hzeros, keptFraction]
  by_cases hnone : stripEnd (· == '0') ds = []
  · rw [hnone, if_pos rfl, stripEnd_append_of_forall hfront]
    rfl
  · have hpoints := stripEnd_eq_self hkept.isPoint_eq_false
    have hfraction : stripEnd (· == '.') ('.' :: stripEnd (· == '0') ds) =
        '.' :: stripEnd (· == '0') ds := by
      have happend := @stripEnd_append_of_ne_nil _ ['.'] _ (hpoints.symm ▸ hnone)
      rwa [hpoints] at happend
    rw [if_neg hnone, stripEnd_append_of_ne_nil (by rw [hfraction]; simp), hfraction]
    rfl

/-- **A power of ten at the end loses the zeros at the end of its digits.** -/
theorem withoutNoise_power {mark : Char} (hmark : mark = 'e' ∨ mark = 'E') (sign : Sign)
    (hds : AllDigits ds) (as : List Char) :
    withoutNoise (as ++ mark :: (sign.chars ++ ds)) =
      as ++ mark :: (sign.chars ++ stripEnd (· == '0') ds) := by
  have hmarkZero : (mark == '0') = false := by rcases hmark with rfl | rfl <;> rfl
  have hmarkPoint : (mark == '.') = false := by rcases hmark with rfl | rfl <;> rfl
  have hzeros : stripEnd (· == '0') (mark :: (sign.chars ++ ds)) =
      mark :: (sign.chars ++ stripEnd (· == '0') ds) := by
    have hkept : ∀ c ∈ mark :: sign.chars, (c == '0') = false :=
      List.forall_mem_cons.2 ⟨hmarkZero, sign.isZero_eq_false⟩
    exact stripEnd_append_of_forall hkept
  have hkept : AllDigits (stripEnd (· == '0') ds) := hds.stripped _
  have hpoints : stripEnd (· == '.') (mark :: (sign.chars ++ stripEnd (· == '0') ds)) =
      mark :: (sign.chars ++ stripEnd (· == '0') ds) := by
    refine stripEnd_eq_self (List.forall_mem_cons.2 ⟨hmarkPoint, ?_⟩)
    exact List.forall_mem_append.2 ⟨sign.isPoint_eq_false, hkept.isPoint_eq_false⟩
  rw [withoutNoise, stripEnd_append_of_ne_nil (by rw [hzeros]; simp), hzeros,
    stripEnd_append_of_ne_nil (by rw [hpoints]; simp), hpoints]

/-! ## Numerals -/

namespace Spelling

variable {sp : Spelling}

/-- A numeral that loses nothing, or nothing but zeros that do not count.  With a point and no power
of ten it keeps a digit; with both, its power does not end with a zero, or its digits are all zeros
and its power keeps a digit. -/
def LosesNoiseOnly (sp : Spelling) : Prop :=
  match sp.fraction?, sp.power? with
  | none, _ => True
  | some fraction, none => sp.whole ≠ [] ∨ ∃ d ∈ fraction, d ≠ '0'
  | some fraction, some power =>
    power.digits.getLast? ≠ some '0' ∨
      (∀ d ∈ sp.whole ++ fraction, d = '0') ∧ ∃ d ∈ power.digits, d ≠ '0'

/-- The part of a numeral before its point. -/
def front (sp : Spelling) : List Char := sp.sign.chars ++ sp.whole

theorem isPoint_front (sp : Spelling) : ∀ c ∈ sp.front, (c == '.') = false :=
  List.forall_mem_append.2 ⟨sp.sign.isPoint_eq_false, sp.allDigits_whole.isPoint_eq_false⟩

theorem point_not_mem_front (sp : Spelling) : '.' ∉ sp.front := fun hmem =>
  Bool.noConfusion (sp.isPoint_front '.' hmem)

theorem chars_eq (sp : Spelling) :
    sp.chars = sp.front ++ (pointed sp.fraction? ++ sp.power?.elim [] Power.chars) := by
  rw [chars, front, List.append_assoc]

theorem toList_text (sp : Spelling) : sp.text.toList = sp.chars := String.toList_ofList

/-- A numeral without a point is left as it is. -/
theorem patternText_of_pointless (h : sp.fraction? = none) :
    patternText (.text sp.text) true = sp.text := by
  have hpower : '.' ∉ sp.power?.elim [] Power.chars := by
    cases sp.power? with
    | none => simp
    | some p =>
      intro hmem
      rw [Option.elim_some, Power.chars, List.mem_cons, List.mem_append] at hmem
      rcases hmem with hmark | hsign | hdigits
      · rcases p.isMark with heq | heq <;> rw [heq] at hmark <;> cases hmark
      · exact Bool.noConfusion (p.sign.isPoint_eq_false '.' hsign)
      · exact p.allDigits.not_mem rfl hdigits
  have hpoint : '.' ∉ sp.chars := by
    rw [chars_eq, h, List.mem_append, not_or]
    exact ⟨sp.point_not_mem_front, hpower⟩
  rw [patternText_text, toList_text, if_neg hpoint]

theorem patternText_of_point {fraction : List Char} (h : sp.fraction? = some fraction) :
    patternText (.text sp.text) true = String.ofList (withoutNoise sp.chars) := by
  have hpoint : '.' ∈ sp.chars := by
    rw [chars_eq, h]
    simp [pointed]
  rw [patternText_text, toList_text, if_pos hpoint]

/-- A numeral that ends with a fraction keeps its number if it keeps a digit. -/
theorem denotes_of_fraction {fraction : List Char} (hfraction : sp.fraction? = some fraction)
    (hpower : sp.power? = none) :
    Denotes (patternText (.text sp.text) true) sp.numeral.value ↔
      sp.whole ≠ [] ∨ ∃ d ∈ fraction, d ≠ '0' := by
  have hds : AllDigits fraction := by simpa [hfraction] using sp.allDigits_fraction
  have hgetD : (keptFraction fraction).getD [] = stripEnd (· == '0') fraction := by
    rw [keptFraction]
    split
    · next hnone => exact hnone.symm
    · rfl
  have hkept : AllDigits ((keptFraction fraction).getD []) := by
    rw [hgetD]
    exact hds.stripped _
  have hchars : withoutNoise sp.chars =
      sp.sign.chars ++ (sp.whole ++ (pointed (keptFraction fraction) ++ [])) := by
    rw [chars_eq, hfraction, hpower, Option.elim_none, List.append_nil,
      withoutNoise_fraction sp.isPoint_front hds, front, List.append_assoc, List.append_nil]
  have hvalue : sp.numeral.value =
      (Numeral.ofParts sp.sign.isMinus sp.whole (stripEnd (· == '0') fraction) 0).value := by
    obtain ⟨k, hk⟩ := exists_zeros fraction
    rw [← Numeral.value_ofParts_append_zeros _ _ _ k, ← hk, numeral, hfraction, hpower]
    rfl
  have hdigit : ¬(sp.whole = [] ∧ (keptFraction fraction).getD [] = []) ↔
      sp.whole ≠ [] ∨ ∃ d ∈ fraction, d ≠ '0' := by
    rw [hgetD, stripEnd_eq_nil_iff, not_and_or]
    simp
  rw [patternText_of_point hfraction, Denotes, String.toList_ofList, hchars,
    read?_parts _ _ sp.allDigits_whole hkept beginsPower_nil, ← hdigit]
  by_cases hnone : sp.whole = [] ∧ (keptFraction fraction).getD [] = []
  · simp [hnone]
  · rw [if_neg hnone]
    refine iff_of_true ⟨_, rfl, ?_⟩ hnone
    rw [hgetD, hvalue]

/-- A numeral with a point that ends with a power of ten keeps its number if the power does not end
with a zero, or if the number is zero and the power keeps a digit. -/
theorem denotes_of_power {fraction : List Char} {power : Power}
    (hfraction : sp.fraction? = some fraction) (hpower : sp.power? = some power) :
    Denotes (patternText (.text sp.text) true) sp.numeral.value ↔
      power.digits.getLast? ≠ some '0' ∨
        (∀ d ∈ sp.whole ++ fraction, d = '0') ∧ ∃ d ∈ power.digits, d ≠ '0' := by
  have hds : AllDigits fraction := by simpa [hfraction] using sp.allDigits_fraction
  have hkept : AllDigits (stripEnd (· == '0') power.digits) := power.allDigits.stripped _
  have hlast : power.digits.getLast? ≠ some '0' ↔
      stripEnd (· == '0') power.digits = power.digits := by
    rw [stripEnd_eq_self_iff]
    cases power.digits.getLast? <;> simp
  have hzeros : stripEnd (· == '0') power.digits = [] ↔ ¬∃ d ∈ power.digits, d ≠ '0' := by
    rw [stripEnd_eq_nil_iff]
    simp
  have hchars : withoutNoise sp.chars = sp.sign.chars ++ (sp.whole ++
      (pointed (some fraction) ++ power.mark :: (power.sign.chars ++
        stripEnd (· == '0') power.digits))) := by
    rw [chars_eq, hfraction, hpower, Option.elim_some, Power.chars, ← List.append_assoc,
      withoutNoise_power power.isMark power.sign power.allDigits, front]
    simp only [List.append_assoc]
  have hsome : ¬(sp.whole = [] ∧ (some fraction).getD [] = []) := hfraction ▸ sp.nonempty
  rw [patternText_of_point hfraction, Denotes, String.toList_ofList, hchars,
    read?_parts _ (some fraction) sp.allDigits_whole hds (power.beginsPower_mark _), if_neg hsome,
    Numeral.readExponent?, if_pos power.isMark, signed?_append _ hkept, hlast]
  by_cases hnone : stripEnd (· == '0') power.digits = []
  · -- a power without digits is none
    have hne : stripEnd (· == '0') power.digits ≠ power.digits := by
      rw [hnone]
      exact power.nonempty.symm
    have hnodigit := hzeros.1 hnone
    rw [if_pos hnone]
    simp [hne, hnodigit]
  · have hnumeral : sp.numeral = .ofParts sp.sign.isMinus sp.whole fraction power.exponent := by
      rw [numeral, hfraction, hpower]
      rfl
    have hdigit := Classical.not_not.1 (mt hzeros.2 hnone)
    have hwhole : AllDigits (sp.whole ++ fraction) := sp.allDigits_whole.append hds
    rw [if_neg hnone, Option.map_some, hnumeral]
    simp only [Option.some.injEq, exists_eq_left', Option.getD_some, Power.exponent]
    rw [Numeral.value_ofParts_eq_iff, Sign.apply_inj,
      Numeral.digitsValue_stripEnd_eq_iff power.allDigits hnone,
      Numeral.digitsValue_eq_zero_iff hwhole]
    exact or_congr_right (and_iff_left hdigit).symm

/-! ### Both ends of the pattern -/

/-- What has no point, or no noise left, stays as it is. -/
theorem patternText_ofList {cs : List Char} (h : '.' ∉ cs ∨ withoutNoise cs = cs) :
    patternText (.text (String.ofList cs)) true = String.ofList cs := by
  rw [patternText_text, String.toList_ofList]
  split
  · next hpoint => rw [h.resolve_left fun hnot => hnot hpoint]
  · rfl

/-- **Nothing is lost a second time.** -/
theorem patternText_patternText (sp : Spelling) :
    patternText (.text (patternText (.text sp.text) true)) true =
      patternText (.text sp.text) true := by
  cases hfraction : sp.fraction? with
  | none => rw [patternText_of_pointless hfraction, patternText_of_pointless hfraction]
  | some fraction =>
    have hds : AllDigits fraction := by simpa [hfraction] using sp.allDigits_fraction
    rw [patternText_of_point hfraction]
    refine patternText_ofList ?_
    cases hpower : sp.power? with
    | none =>
      rw [chars_eq, hfraction, hpower, Option.elim_none, List.append_nil,
        withoutNoise_fraction sp.isPoint_front hds]
      by_cases hnone : stripEnd (· == '0') fraction = []
      · left
        simpa [keptFraction, hnone, pointed] using sp.point_not_mem_front
      · right
        have hkept : AllDigits (stripEnd (· == '0') fraction) := hds.stripped _
        rw [keptFraction, if_neg hnone, withoutNoise_fraction sp.isPoint_front hkept, keptFraction,
          stripEnd_stripEnd, if_neg hnone]
    | some power =>
      right
      have hkept : AllDigits (stripEnd (· == '0') power.digits) := power.allDigits.stripped _
      rw [chars_eq, hpower, Option.elim_some, Power.chars, ← List.append_assoc,
        withoutNoise_power power.isMark _ power.allDigits, withoutNoise_power power.isMark _ hkept,
        stripEnd_stripEnd]

/-- The pattern has the number of the text if the text only loses what does not count. -/
theorem denotes_patternText_iff (sp : Spelling) :
    Denotes (patternText (.text sp.text) true) sp.numeral.value ↔ sp.LosesNoiseOnly := by
  unfold LosesNoiseOnly
  split
  · next hfraction =>
    rw [patternText_of_pointless hfraction]
    exact iff_of_true (denotes_iff_exists.2 ⟨sp, rfl, rfl⟩) trivial
  · next hfraction hpower => exact denotes_of_fraction hfraction hpower
  · next hfraction hpower => exact denotes_of_power hfraction hpower

end Spelling

/-- **When a number inside a search pattern stays the same.**  The texts that are numerals of a
number are its spellings.  What a spelling becomes inside a pattern stays as it is inside another
pattern, and it is a numeral of the same number exactly if it only loses what does not count: it has
no point; or it ends with a fraction and keeps a digit; or it ends with a power of ten that does not
end with a zero, unless the number is zero and the power keeps a digit. -/
theorem patternText_denotes_iff (s : String) (x : ℚ) :
    (Denotes s x ↔ ∃ sp : Spelling, sp.text = s ∧ sp.numeral.value = x) ∧
      ∀ sp : Spelling, sp.text = s → sp.numeral.value = x →
        patternText (.text (patternText (.text s) true)) true = patternText (.text s) true ∧
          (Denotes (patternText (.text s) true) x ↔ sp.LosesNoiseOnly) := by
  refine ⟨denotes_iff_exists, fun sp htext hvalue => ?_⟩
  rw [← htext, ← hvalue]
  exact ⟨sp.patternText_patternText, sp.denotes_patternText_iff⟩

/-- **A number inside a search pattern need not stay the same**: a power of ten loses the zero at
its end. -/
theorem not_denotes_fifteenBillion :
    ¬∀ s x, Denotes s x → Denotes (patternText (.text s) true) x := by
  intro h
  have hread : Numeral.read? "1.5e10".toList = some ⟨false, 15, 9⟩ := by decide
  have hpattern : Numeral.read? (patternText (.text "1.5e10") true).toList =
      some ⟨false, 15, 0⟩ := by decide
  obtain ⟨n, hn, hvalue⟩ := h "1.5e10" _ ⟨_, hread, rfl⟩
  obtain rfl := Option.some.inj (hpattern.symm.trans hn)
  norm_num [Numeral.value, Numeral.signFactor] at hvalue

/-- A fraction without other digits loses all of them, so its pattern is found in every number. -/
example : patternText (.text ".00") true = "" := by decide

end ReportSql
