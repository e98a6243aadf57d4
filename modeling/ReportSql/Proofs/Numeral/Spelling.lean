import Mathlib.Algebra.Order.Field.Rat
import Mathlib.Algebra.Order.GroupWithZero.Basic
import Mathlib.Tactic.Ring
import ReportSql.Proofs.Numeral.Digits

/-!
# How numerals are spelled

A numeral is spelled with an optional sign, digits, an optional point with digits after it, and an
optional power of ten.  Digits may be missing on one side of the point, and there need not be a
point.  These spellings are all that reading accepts, and what is read stands for a rational number.

## Main definitions

* `Numeral.value` — the rational number of a numeral.
* `Spelling` — a numeral as it is spelled.
* `Spelling.chars`, `Spelling.numeral` — its characters, and the numeral that it spells.

## Main statements

* `Numeral.value_ofParts_append_zeros` — zeros at the end of a fraction do not count.
* `Numeral.value_ofParts_eq_iff` — the power of ten counts unless the digits are all zeros.
* `Numeral.read?_eq_some_iff` — the spellings are what reading accepts.
-/

namespace ReportSql

open Text

/-! ## Rational numbers -/

namespace Numeral

/-- The factor that makes a number negative or leaves it as it is. -/
def signFactor (negative : Bool) : ℚ := if negative then -1 else 1

theorem signFactor_ne_zero (negative : Bool) : signFactor negative ≠ 0 := by
  cases negative <;> simp [signFactor]

/-- The rational number of a numeral. -/
def value (n : Numeral) : ℚ := signFactor n.negative * n.coefficient * (10 : ℚ) ^ n.exponent

/-- **Zeros at the end of a fraction do not count.** -/
theorem value_ofParts_append_zeros (negative : Bool) (whole fraction : List Char) (k : Nat)
    (exponent : Int) :
    (ofParts negative whole (fraction ++ List.replicate k '0') exponent).value =
      (ofParts negative whole fraction exponent).value := by
  have hten : (10 : ℚ) ≠ 0 := by norm_num
  have hexponent : exponent - ((fraction ++ List.replicate k '0').length : Int) =
      exponent - (fraction.length : Int) - (k : Int) := by
    rw [List.length_append, List.length_replicate]
    omega
  have hpower : (10 : ℚ) ^ (exponent - (fraction.length : Int)) =
      (10 : ℚ) ^ k * (10 : ℚ) ^ (exponent - (fraction.length : Int) - (k : Int)) := by
    rw [← zpow_natCast (10 : ℚ) k, ← zpow_add₀ hten]
    congr 1
    omega
  simp only [value, ofParts, ← List.append_assoc, digitsValue_append_zeros, hexponent, hpower]
  push_cast
  ring

/-- **The power of ten counts,** unless the digits are all zeros. -/
theorem value_ofParts_eq_iff {negative : Bool} {whole fraction : List Char}
    {exponent exponent' : Int} :
    (ofParts negative whole fraction exponent).value =
        (ofParts negative whole fraction exponent').value ↔
      exponent = exponent' ∨ digitsValue (whole ++ fraction) = 0 := by
  by_cases hzero : digitsValue (whole ++ fraction) = 0
  · simp [value, ofParts, hzero]
  · have hfactor : signFactor negative * (digitsValue (whole ++ fraction) : ℚ) ≠ 0 :=
      mul_ne_zero (signFactor_ne_zero negative) (Nat.cast_ne_zero.2 hzero)
    simp only [value, ofParts, hzero, or_false]
    rw [mul_right_inj' hfactor, zpow_right_inj₀ (by norm_num) (by norm_num)]
    omega

end Numeral

/-! ## Signs -/

/-- The sign before a number, if it has one. -/
inductive Sign where
  | absent
  | plus
  | minus
deriving DecidableEq

namespace Sign

/-- The characters of a sign. -/
def chars : Sign → List Char
  | .absent => []
  | .plus => ['+']
  | .minus => ['-']

/-- Whether a sign makes a number negative. -/
def isMinus : Sign → Bool
  | .minus => true
  | _ => false

/-- A whole number with a sign. -/
def apply (sign : Sign) (n : Nat) : Int := if sign.isMinus then -(n : Int) else n

theorem apply_inj {sign : Sign} {m n : Nat} : sign.apply m = sign.apply n ↔ m = n := by
  unfold apply
  split <;> omega

theorem mem_chars {sign : Sign} {c : Char} (h : c ∈ sign.chars) : c = '+' ∨ c = '-' := by
  cases sign with
  | absent => cases h
  | plus => exact .inl (List.mem_singleton.1 h)
  | minus => exact .inr (List.mem_singleton.1 h)

/-- A sign is cut off a text that goes on with no other. -/
theorem cutSign_append (sign : Sign) {cs : List Char} (h : ∀ c ∈ cs.head?, c ≠ '-' ∧ c ≠ '+') :
    Numeral.cutSign (sign.chars ++ cs) = (sign.isMinus, cs) := by
  cases sign with
  | plus => rfl
  | minus => rfl
  | absent =>
    cases cs with
    | nil => rfl
    | cons c cs =>
      obtain ⟨hminus, hplus⟩ := h c rfl
      unfold chars Numeral.cutSign isMinus
      split
      · next heq => exact absurd (List.cons.inj heq).1 hminus
      · next heq => exact absurd (List.cons.inj heq).1 hplus
      · rfl

/-- What is cut off a text is a sign. -/
theorem exists_of_cutSign (cs : List Char) :
    ∃ sign : Sign, cs = sign.chars ++ (Numeral.cutSign cs).2 ∧
      (Numeral.cutSign cs).1 = sign.isMinus := by
  unfold Numeral.cutSign
  split
  · exact ⟨.minus, rfl, rfl⟩
  · exact ⟨.plus, rfl, rfl⟩
  · exact ⟨.absent, rfl, rfl⟩

end Sign

/-- A digit is no sign. -/
theorem ne_sign_of_isDigit {c : Char} (h : c.isDigit = true) : c ≠ '-' ∧ c ≠ '+' := by
  constructor <;> rintro rfl <;> cases h

/-- A sign and digits are a whole number, unless the digits are missing. -/
theorem signed?_append (sign : Sign) {ds : List Char} (h : AllDigits ds) :
    Numeral.signed? (sign.chars ++ ds) =
      if ds = [] then none else some (sign.apply (Numeral.digitsValue ds)) := by
  have hhead : ∀ c ∈ ds.head?, c ≠ '-' ∧ c ≠ '+' := fun c hc =>
    ne_sign_of_isDigit (h c (List.mem_of_mem_head? hc))
  have hdigits : ds.all Char.isDigit = true := List.all_eq_true.2 h
  rw [Numeral.signed?, sign.cutSign_append hhead]
  by_cases hds : ds = []
  · simp [Numeral.isDigits, hds]
  · simp [Numeral.isDigits, hds, hdigits, Sign.apply]

/-! ## Powers of ten -/

/-- A power of ten as it is spelled. -/
structure Power where
  mark : Char
  sign : Sign
  digits : List Char
  isMark : mark = 'e' ∨ mark = 'E'
  allDigits : AllDigits digits
  nonempty : digits ≠ []

namespace Power

/-- The characters of a power of ten. -/
def chars (p : Power) : List Char := p.mark :: (p.sign.chars ++ p.digits)

/-- The exponent of a power of ten. -/
def exponent (p : Power) : Int := p.sign.apply (Numeral.digitsValue p.digits)

end Power

/-- A text that is empty or begins like a power of ten. -/
def BeginsPower (cs : List Char) : Prop := ∀ c ∈ cs.head?, c = 'e' ∨ c = 'E'

theorem beginsPower_nil : BeginsPower [] := by
  intro c hc
  cases hc

theorem Power.beginsPower_mark (p : Power) (cs : List Char) : BeginsPower (p.mark :: cs) := by
  intro c hc
  obtain rfl := Option.some.inj hc
  exact p.isMark

theorem BeginsPower.stopsDigits {cs : List Char} (h : BeginsPower cs) : StopsDigits cs := by
  intro c hc
  rcases h c hc with rfl | rfl <;> rfl

/-- The powers of ten are what reading accepts. -/
theorem readExponent?_eq_some_iff {cs : List Char} {e : Int} :
    Numeral.readExponent? cs = some e ↔
      ∃ power? : Option Power,
        cs = power?.elim [] Power.chars ∧ e = power?.elim 0 Power.exponent := by
  constructor
  · intro h
    cases cs with
    | nil => exact ⟨none, rfl, (Option.some.inj h).symm⟩
    | cons mark cs =>
      rw [Numeral.readExponent?] at h
      split at h
      · next hmark =>
        obtain ⟨sign, hcs, hminus⟩ := Sign.exists_of_cutSign cs
        have hdigits : Numeral.isDigits (Numeral.cutSign cs).2 = true := by
          refine Classical.byContradiction fun hnot => ?_
          simp [Numeral.signed?, hnot] at h
        rw [Numeral.isDigits, Bool.and_eq_true, List.all_eq_true] at hdigits
        have hne : (Numeral.cutSign cs).2 ≠ [] := by simpa using hdigits.1
        rw [hcs, signed?_append sign hdigits.2, if_neg hne] at h
        refine ⟨some ⟨mark, sign, _, hmark, hdigits.2, hne⟩, ?_, (Option.some.inj h).symm⟩
        simp only [Option.elim_some, Power.chars, ← hcs]
      · cases h
  · rintro ⟨power?, rfl, rfl⟩
    cases power? with
    | none => rfl
    | some p =>
      simp only [Option.elim_some, Power.chars, Power.exponent]
      rw [Numeral.readExponent?, if_pos p.isMark, signed?_append _ p.allDigits, if_neg p.nonempty]

/-! ## Numerals -/

/-- The point and the digits after it, nothing for a numeral without a point. -/
def pointed : Option (List Char) → List Char
  | none => []
  | some ds => '.' :: ds

/-- A numeral as it is spelled.  There is a digit before or after the point. -/
structure Spelling where
  sign : Sign
  whole : List Char
  fraction? : Option (List Char)
  power? : Option Power
  allDigits_whole : AllDigits whole
  allDigits_fraction : AllDigits (fraction?.getD [])
  nonempty : ¬(whole = [] ∧ fraction?.getD [] = [])

namespace Spelling

/-- The characters of a numeral. -/
def chars (sp : Spelling) : List Char :=
  sp.sign.chars ++ (sp.whole ++ (pointed sp.fraction? ++ sp.power?.elim [] Power.chars))

/-- The text of a numeral. -/
def text (sp : Spelling) : String := String.ofList sp.chars

/-- The numeral that is spelled. -/
def numeral (sp : Spelling) : Numeral :=
  .ofParts sp.sign.isMinus sp.whole (sp.fraction?.getD []) (sp.power?.elim 0 Power.exponent)

end Spelling

/-- **Reading a text in its parts.**  What follows the digits decides whether a text is a numeral,
if there is a digit at all. -/
theorem read?_parts (sign : Sign) (fraction? : Option (List Char)) {whole rest : List Char}
    (hwhole : AllDigits whole) (hfraction : AllDigits (fraction?.getD []))
    (hrest : BeginsPower rest) :
    Numeral.read? (sign.chars ++ (whole ++ (pointed fraction? ++ rest))) =
      if whole = [] ∧ fraction?.getD [] = [] then none
      else (Numeral.readExponent? rest).map
        (.ofParts sign.isMinus whole (fraction?.getD [])) := by
  have hafter : ∀ c ∈ (pointed fraction? ++ rest).head?, c = '.' ∨ c = 'e' ∨ c = 'E' := by
    cases fraction? with
    | none => exact fun c hc => .inr (hrest c hc)
    | some ds => exact fun c hc => .inl (Option.some.inj hc).symm
  have hstops : StopsDigits (pointed fraction? ++ rest) := by
    intro c hc
    rcases hafter c hc with rfl | rfl | rfl <;> rfl
  have hsign : ∀ c ∈ (whole ++ (pointed fraction? ++ rest)).head?, c ≠ '-' ∧ c ≠ '+' := by
    cases whole with
    | nil =>
      intro c hc
      rcases hafter c hc with rfl | rfl | rfl <;> decide
    | cons d ds =>
      intro c hc
      obtain rfl := Option.some.inj hc
      exact ne_sign_of_isDigit (hwhole d List.mem_cons_self)
  have hcut : Numeral.cutFraction (pointed fraction? ++ rest) = (fraction?.getD [], rest) := by
    cases fraction? with
    | none =>
      rw [pointed, List.nil_append, Numeral.cutFraction]
      · rfl
      · rintro cs rfl
        rcases hrest '.' rfl with h | h <;> cases h
    | some ds =>
      have hds : AllDigits ds := hfraction
      rw [pointed, List.cons_append, Numeral.cutFraction, takeWhile_digits hds hrest.stopsDigits,
        dropWhile_digits hds hrest.stopsDigits]
      rfl
  rw [Numeral.read?, sign.cutSign_append hsign]
  simp only [takeWhile_digits hwhole hstops, dropWhile_digits hwhole hstops, hcut]
  simp

namespace Spelling

theorem beginsPower (power? : Option Power) : BeginsPower (power?.elim [] Power.chars) := by
  cases power? with
  | none => exact beginsPower_nil
  | some p => exact p.beginsPower_mark _

theorem read?_chars (sp : Spelling) : Numeral.read? sp.chars = some sp.numeral := by
  have hpower : Numeral.readExponent? (sp.power?.elim [] Power.chars) =
      some (sp.power?.elim 0 Power.exponent) := readExponent?_eq_some_iff.2 ⟨sp.power?, rfl, rfl⟩
  rw [chars, read?_parts sp.sign sp.fraction? sp.allDigits_whole sp.allDigits_fraction
    (beginsPower _), if_neg sp.nonempty, hpower]
  rfl

end Spelling

/-- What is cut off behind the digits is a point and a run of digits, if there is a point. -/
theorem exists_of_cutFraction (cs : List Char) :
    ∃ fraction? : Option (List Char), AllDigits (fraction?.getD []) ∧
      (Numeral.cutFraction cs).1 = fraction?.getD [] ∧
      cs = pointed fraction? ++ (Numeral.cutFraction cs).2 := by
  unfold Numeral.cutFraction
  split
  · next cs =>
    refine ⟨some (cs.takeWhile Char.isDigit), allDigits_takeWhile cs, rfl, ?_⟩
    simp [pointed]
  · exact ⟨none, fun _ hd => (List.not_mem_nil hd).elim, rfl, rfl⟩

/-- **The spellings of numerals are what reading accepts.** -/
theorem Numeral.read?_eq_some_iff {cs : List Char} {n : Numeral} :
    read? cs = some n ↔ ∃ sp : Spelling, sp.chars = cs ∧ sp.numeral = n := by
  constructor
  · intro h
    obtain ⟨sign, hsign, hminus⟩ := Sign.exists_of_cutSign cs
    obtain ⟨fraction?, hdigits, hfraction, hrest⟩ :=
      exists_of_cutFraction ((cutSign cs).2.dropWhile Char.isDigit)
    simp only [read?] at h
    split at h
    · cases h
    · next hsome =>
      obtain ⟨e, he, hn⟩ := Option.map_eq_some_iff.1 h
      obtain ⟨power?, hpower, rfl⟩ := readExponent?_eq_some_iff.1 he
      rw [hminus, hfraction] at hn
      have hnonempty : ¬((cutSign cs).2.takeWhile Char.isDigit = [] ∧ fraction?.getD [] = []) := by
        rw [← hfraction]
        simpa using hsome
      refine ⟨⟨sign, (cutSign cs).2.takeWhile Char.isDigit, fraction?, power?,
        allDigits_takeWhile _, hdigits, hnonempty⟩, ?_, hn⟩
      rw [Spelling.chars]
      simp only [← hpower, ← hrest, List.takeWhile_append_dropWhile, ← hsign]
  · rintro ⟨sp, rfl, rfl⟩
    exact sp.read?_chars

end ReportSql
