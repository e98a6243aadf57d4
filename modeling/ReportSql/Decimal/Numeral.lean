import ReportSql.Decimal.Double

/-!
# Decimal numerals

Reading whole numbers and floating-point numbers from free text.  A numeral has an optional sign,
digits with an optional point among or around them, and an optional power of ten; the words
`inf`, `infinity` and `nan` are read in any case.

## Main definitions

* `Numeral` — a signed coefficient and a power of ten.
* `Numeral.read?` — the numeral a text spells.
* `readInteger?` — a whole number of 64 bits.
* `readDouble?` — a floating-point number.
-/

namespace ReportSql

/-- The value `± coefficient · 10 ^ exponent`. -/
structure Numeral where
  negative : Bool
  coefficient : Nat
  exponent : Int
deriving DecidableEq, Repr

namespace Numeral

/-- The number a run of decimal digits spells. -/
def digitsValue (ds : List Char) : Nat := ds.foldl (fun n d => 10 * n + (d.toNat - '0'.toNat)) 0

/-- A leading sign and the rest. -/
def cutSign : List Char → Bool × List Char
  | '-' :: cs => (true, cs)
  | '+' :: cs => (false, cs)
  | cs => (false, cs)

/-- A non-empty run of digits and nothing else. -/
def isDigits (cs : List Char) : Bool := !cs.isEmpty && cs.all Char.isDigit

/-- A signed run of digits as a whole number. -/
def signed? (cs : List Char) : Option Int :=
  let (negative, ds) := cutSign cs
  if isDigits ds then
    some (if negative then -(digitsValue ds : Int) else digitsValue ds)
  else none

/-- The power of ten after the digits of a numeral. -/
def readExponent? : List Char → Option Int
  | [] => some 0
  | c :: cs => if c = 'e' ∨ c = 'E' then signed? cs else none

/-- The numeral of digits before and after the point and a power of ten. -/
def ofParts (negative : Bool) (whole fraction : List Char) (exponent : Int) : Numeral :=
  ⟨negative, digitsValue (whole ++ fraction), exponent - fraction.length⟩

/-- The digits after a point, if one comes first, and the rest. -/
def cutFraction : List Char → List Char × List Char
  | '.' :: cs => (cs.takeWhile Char.isDigit, cs.dropWhile Char.isDigit)
  | cs => ([], cs)

/-- The numeral a list of characters spells. -/
def read? (cs : List Char) : Option Numeral :=
  let (negative, cs) := cutSign cs
  let whole := cs.takeWhile Char.isDigit
  let (fraction, rest) := cutFraction (cs.dropWhile Char.isDigit)
  if whole.isEmpty && fraction.isEmpty then none
  else (readExponent? rest).map (ofParts negative whole fraction)

/-- The floating-point number nearest to a numeral. -/
def toDouble (n : Numeral) : Double := .ofDecimal n.negative n.coefficient n.exponent

end Numeral

/-- Whether a whole number fits into 64 bits with a sign. -/
def fitsInt64 (i : Int) : Bool := -(Nat.pow 2 63 : Nat) ≤ i && i < (Nat.pow 2 63 : Nat)

/-- A whole number of 64 bits, with an optional sign. -/
def readInteger? (s : String) : Option Int := (Numeral.signed? s.toList).filter fitsInt64

/-- A floating-point number, as a numeral or as one of the words for the others. -/
def readDouble? (s : String) : Option Double :=
  let (negative, cs) := Numeral.cutSign s.toList
  let word := String.ofList (cs.map Char.toLower)
  if word = "inf" ∨ word = "infinity" then some (.infinite negative)
  else if word = "nan" then some .nan
  else (Numeral.read? s.toList).map Numeral.toDouble

end ReportSql
