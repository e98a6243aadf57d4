import ReportSql.Calendar.Date
import ReportSql.Decimal.Numeral
import ReportSql.Text.Blank

/-!
# Reading dates

Three forms of text name a date or a timestamp: a bare date, the strict interchange form with an
offset from universal time, and a lenient local form.  In the lenient forms every number may follow
blanks and may have fewer digits than usual.

## Main definitions

* `readDate?` — a bare date.
* `readInstant?` — a timestamp with an offset, moved to universal time.
* `readLocal?` — a timestamp without an offset.
-/

namespace ReportSql

open Text

/-! ## Parts -/

/-- Between `min` and `max` digits as a number, and the rest. -/
def cutNumber (min max : Nat) (cs : List Char) : Option (Nat × List Char) :=
  let ds := (cs.take max).takeWhile Char.isDigit
  if ds.length < min then none else some (Numeral.digitsValue ds, cs.drop ds.length)

/-- A given character, and the rest. -/
def cutChar (c : Char) : List Char → Option (List Char)
  | d :: cs => if d = c then some cs else none
  | [] => none

/-- A fraction of a second after a point, in nanoseconds, and the rest.  Digits past the ninth are
passed over; without a point the fraction is zero. -/
def cutFractionOfSecond : List Char → Option (Nat × List Char)
  | '.' :: cs => do
    let (n, rest) ← cutNumber 1 9 cs
    let places := cs.length - rest.length
    return (n * Nat.pow 10 (9 - places), rest.dropWhile Char.isDigit)
  | cs => some (0, cs)

/-! ## The lenient forms -/

/-- One or two digits after blanks, and the rest. -/
def cutLoose (cs : List Char) : Option (Nat × List Char) := cutNumber 1 2 (cs.dropWhile isBlank)

/-- A year after blanks, and the rest: up to four digits, or any number of them after a sign. -/
def cutYear (cs : List Char) : Option (Int × List Char) :=
  match cs.dropWhile isBlank with
  | '-' :: cs => (cutNumber 1 cs.length cs).map fun (n, rest) => (-(n : Int), rest)
  | '+' :: cs => (cutNumber 1 cs.length cs).map fun (n, rest) => ((n : Int), rest)
  | cs => (cutNumber 1 4 cs).map fun (n, rest) => ((n : Int), rest)

/-- Year, month and day with hyphens between, and the rest. -/
def cutDate (cs : List Char) : Option (Date × List Char) := do
  let (year, cs) ← cutYear cs
  let cs ← cutChar '-' cs
  let (month, cs) ← cutLoose cs
  let cs ← cutChar '-' cs
  let (day, cs) ← cutLoose cs
  let date ← Date.of? year month day
  return (date, cs)

/-- Hour, minute and second with colons between, a fraction, and nothing else. -/
def readTime? (cs : List Char) : Option Time := do
  let (hour, cs) ← cutLoose cs
  let cs ← cutChar ':' cs
  let (minute, cs) ← cutLoose cs
  let cs ← cutChar ':' cs
  let (second, cs) ← cutLoose cs
  let (nano, cs) ← cutFractionOfSecond cs
  if cs.isEmpty then Time.of? hour minute second nano else none

/-- A bare date. -/
def readDate? (s : String) : Option Date := do
  let (date, cs) ← cutDate s.toList
  if cs.isEmpty then some date else none

/-- A date and a time of day parted by a `T`. -/
def readJoined? (s : String) : Option Timestamp := do
  let (date, cs) ← cutDate s.toList
  let cs ← cutChar 'T' cs
  return ⟨date, ← readTime? cs⟩

/-- A date and a time of day parted by blanks or by nothing. -/
def readParted? (s : String) : Option Timestamp := do
  let (date, cs) ← cutDate s.toList
  return ⟨date, ← readTime? cs⟩

/-- A timestamp without an offset. -/
def readLocal? (s : String) : Option Timestamp :=
  match readJoined? s with
  | some t => some t
  | none => readParted? s

/-! ## The interchange form -/

/-- The offset of a clock from universal time in minutes: a `Z`, or a signed count of hours and
minutes of less than a day. -/
def readOffset? : List Char → Option Int
  | ['Z'] | ['z'] => some 0
  | c :: cs => do
    let negative ← if c = '+' then some false else if c = '-' ∨ c = '−' then some true else none
    let (hours, cs) ← cutNumber 2 2 cs
    let cs ← cutChar ':' cs
    let (minutes, cs) ← cutNumber 2 2 cs
    let total := hours * 60 + minutes
    if cs.isEmpty && minutes < 60 && total < 1440 then
      some (if negative then -(total : Int) else total)
    else none
  | [] => none

/-- A timestamp with an offset, moved to universal time.  Every number has its full count of
digits. -/
def readInstant? (s : String) : Option Timestamp := do
  let (year, cs) ← cutNumber 4 4 s.toList
  let cs ← cutChar '-' cs
  let (month, cs) ← cutNumber 2 2 cs
  let cs ← cutChar '-' cs
  let (day, cs) ← cutNumber 2 2 cs
  let cs ← match cs with
    | c :: cs => if c = 'T' ∨ c = 't' ∨ c = ' ' then some cs else none
    | [] => none
  let (hour, cs) ← cutNumber 2 2 cs
  let cs ← cutChar ':' cs
  let (minute, cs) ← cutNumber 2 2 cs
  let cs ← cutChar ':' cs
  let (second, cs) ← cutNumber 2 2 cs
  let (nano, cs) ← cutFractionOfSecond cs
  let offset ← readOffset? cs
  let t : Timestamp := ⟨← Date.of? year month day, ← Time.of? hour minute second nano⟩
  t.behind? offset

end ReportSql
