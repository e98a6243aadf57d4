/-!
# Binary floating-point numbers

The 64-bit binary floating-point numbers as exact values.  The library reads, prints and compares
such numbers and never calculates with them, so a number is kept as a sign, a mantissa and a power
of two, and the only operation is rounding an exact ratio to the nearest number.

## Main definitions

* `Double` — a 64-bit floating-point number.
* `Double.ofRatio` — the number nearest to a ratio, the even one of two that are equally near.
-/

namespace ReportSql

/-- A 64-bit floating-point number.  The finite number `m · 2 ^ e` has `m < 2 ^ 53` and
`-1074 ≤ e ≤ 971`, with `m ≥ 2 ^ 52` unless `e = -1074`. -/
inductive Double where
  | finite (negative : Bool) (mantissa : Nat) (exponent : Int)
  | infinite (negative : Bool)
  | nan
deriving DecidableEq, Repr

namespace Double

/-- The number of bits of a mantissa. -/
def precision : Nat := 53

/-- The exponent of the smallest numbers. -/
def minExponent : Int := -1074

/-- The exponent of the largest numbers. -/
def maxExponent : Int := 971

/-- The zero of a sign. -/
def zero (negative : Bool) : Double := .finite negative 0 minExponent

/-- Neither an infinity nor a NaN. -/
def isFinite : Double → Bool
  | .finite .. => true
  | _ => false

/-- The whole number nearest to `num / den`, the even one of two. -/
def roundHalfEven (num den : Nat) : Nat :=
  let q := num / den
  let r := 2 * (num % den)
  if r < den then q else if den < r then q + 1 else q + q % 2

/-- The ratio `num / den` in units of `2 ^ e`, as a ratio. -/
def inUnits (num den : Nat) (e : Int) : Nat × Nat :=
  if 0 ≤ e then (num, den <<< e.toNat) else (num <<< (-e).toNat, den)

/-- The exponent at which `num / den` has a mantissa of full precision. -/
def ratioExponent (num den : Nat) : Int :=
  let e := (num.log2 : Int) - den.log2 - precision
  let (n, d) := inUnits num den e
  if n / d < Nat.pow 2 precision then e else e + 1

/-- The number nearest to `num / den`, the even one of two.  A ratio that rounds past the largest
number is infinite. -/
def ofRatio (negative : Bool) (num den : Nat) : Double :=
  if num = 0 then zero negative else
  let e := max minExponent (ratioExponent num den)
  let (n, d) := inUnits num den e
  let m := roundHalfEven n d
  let (m, e) :=
    if m = Nat.pow 2 precision then (Nat.pow 2 (precision - 1), e + 1) else (m, e)
  if maxExponent < e then .infinite negative else .finite negative m e

/-- The number nearest to a natural number. -/
def ofNat (n : Nat) : Double := ofRatio false n 1

/-- The number nearest to `c · 10 ^ k`.  Far outside the range of exponents the answer is known
without calculating the power. -/
def ofDecimal (negative : Bool) (c : Nat) (k : Int) : Double :=
  if c = 0 then zero negative
  else if 400 < k then .infinite negative
  else if k + c.log2 + 1 < -330 then zero negative
  else if 0 ≤ k then ofRatio negative (c * Nat.pow 10 k.toNat) 1
  else ofRatio negative c (Nat.pow 10 (-k).toNat)

/-- Rounding a ratio never gives a NaN. -/
theorem ofRatio_ne_nan (negative : Bool) (num den : Nat) : ofRatio negative num den ≠ .nan := by
  unfold ofRatio
  split
  · simp [zero]
  · dsimp only
    split <;> (dsimp only; split <;> simp)

example : ofRatio false 1 2 = .finite false (2 ^ 52) (-53) := by decide
example : ofDecimal false 1 400 = .infinite false := by decide +kernel
example : ofDecimal false 5 (-324) = .finite false 1 (-1074) := by decide +kernel

end Double

end ReportSql
