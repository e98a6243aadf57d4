import ReportSql.Decimal.Double

/-!
# Shortest decimals

The text of a floating-point number: the fewest digits that read back as the number, the nearest
such decimal if there are several, laid out by a style.

The search goes through the grids of decimals `d · 10 ^ k` from coarse to fine.  If a point of a
grid reads back as the number then so does one of the number's two neighbours on that grid, hence
only those are tried.

## Main definitions

* `Double.shortest` — the digits and the power of ten of a positive number.
* `DecimalStyle` — where the point stands and when a power of ten is written.
* `Double.text` — the text of a finite number in a style.
-/

namespace ReportSql

/-- Which of two equally near decimals is chosen. -/
inductive DecimalTie where
  | even
  | up
deriving DecidableEq, Repr

/-- How the digits of a number are laid out. -/
structure DecimalStyle where
  /-- Whether a number whose first digit stands at this power of ten is written without one. -/
  isPlain : Int → Bool
  /-- Whether a whole number written plainly ends in `.0`. -/
  marksWhole : Bool
  tie : DecimalTie

namespace Double

/-- The ends of the decimals that read back as `m · 2 ^ e`, in units of `2 ^ (e - 2)`.  Below a
power of two the numbers lie twice as close. -/
def readBackInterval (m : Nat) (e : Int) : Nat × Nat :=
  (if m = Nat.pow 2 (precision - 1) ∧ minExponent < e then 4 * m - 1 else 4 * m - 2, 4 * m + 2)

/-- The factors `a` and `b` for which `x · 2 ^ e` and `d · 10 ^ k` compare as `x * a` and
`d * b`. -/
def commonScale (e k : Int) : Nat × Nat :=
  (Nat.pow 2 e.toNat * Nat.pow 10 (-k).toNat, Nat.pow 10 k.toNat * Nat.pow 2 (-e).toNat)

/-- The nearest multiple of `10 ^ k` that reads back as `m · 2 ^ e`, if there is one. -/
def onGrid? (tie : DecimalTie) (m : Nat) (e k : Int) : Option Nat :=
  let (low, high) := readBackInterval m e
  let (a, b) := commonScale (e - 2) k
  let inside (d : Nat) : Bool :=
    if m % 2 = 0 then low * a ≤ d * b && d * b ≤ high * a
    else low * a < d * b && d * b < high * a
  let value := 4 * m * a
  let d := value / b
  match inside d, inside (d + 1) with
  | true, true =>
    let below := value - d * b
    let above := (d + 1) * b - value
    if below < above then some d
    else if above < below then some (d + 1)
    else match tie with
      | .even => some (d + d % 2)
      | .up => some (d + 1)
  | true, false => some d
  | false, true => some (d + 1)
  | false, false => none

/-- The first grid with a hit, going down from `10 ^ k`. -/
def searchGrids (tie : DecimalTie) (m : Nat) (e : Int) : Nat → Int → Nat × Int
  | 0, k => (m, k)
  | fuel + 1, k =>
    match onGrid? tie m e k with
    | some d => (d, k)
    | none => searchGrids tie m e fuel (k - 1)

/-- The digits `d` and the power `k` of the shortest decimal `d · 10 ^ k` that reads back as the
positive number `m · 2 ^ e`.  Seventeen digits always do, so the search ends on one of the first
twenty grids. -/
def shortest (tie : DecimalTie) (m : Nat) (e : Int) : Nat × Int :=
  searchGrids tie m e 20 ((e + m.log2) * 30103 / 100000 + 2)

/-- The digits `ds` with the last at the power `k` of ten, written without a power of ten. -/
def plainDigits (marksWhole : Bool) (ds : List Char) (k : Int) : List Char :=
  if 0 ≤ k then
    ds ++ List.replicate k.toNat '0' ++ (if marksWhole then ['.', '0'] else [])
  else
    let places := (-k).toNat
    if places < ds.length then ds.take (ds.length - places) ++ '.' :: ds.drop (ds.length - places)
    else '0' :: '.' :: List.replicate (places - ds.length) '0' ++ ds

/-- The digits `ds` with the first before the point, and the power of ten of the first. -/
def scientificDigits (ds : List Char) (power : Int) : List Char :=
  ds.take 1 ++ (if ds.length ≤ 1 then [] else '.' :: ds.drop 1) ++
    'e' :: (if power < 0 then '-' else '+') :: Nat.toDigits 10 power.natAbs

/-- The text of the finite number `± m · 2 ^ e` in a style. -/
def finiteText (style : DecimalStyle) (negative : Bool) (m : Nat) (e : Int) : String :=
  let (d, k) := if m = 0 then (0, 0) else shortest style.tie m e
  let ds := Nat.toDigits 10 d
  let power := k + ds.length - 1
  let body :=
    if m = 0 ∨ style.isPlain power then plainDigits style.marksWhole ds k
    else scientificDigits ds power
  String.ofList (if negative then '-' :: body else body)

/-- In running text a number is written without a power of ten, and a whole number without a
point. -/
def textStyle : DecimalStyle := ⟨fun _ => true, false, .up⟩

/-- The text of a number in running text. -/
def text : Double → String
  | .finite negative m e => finiteText textStyle negative m e
  | .infinite negative => if negative then "-inf" else "inf"
  | .nan => "NaN"

example : text (.ofDecimal false 1 (-7)) = "0.0000001" := by decide +kernel
example : text (.ofDecimal true 25 (-1)) = "-2.5" := by decide +kernel
example : text (.zero true) = "-0" := by decide +kernel

end Double

end ReportSql
