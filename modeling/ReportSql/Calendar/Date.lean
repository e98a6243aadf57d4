/-!
# Dates and timestamps

Days of the proleptic Gregorian calendar and moments of a day, to the nanosecond.  Values that name
no day or no moment cannot be built: validity is part of each type.

## Main definitions

* `Date` — a day of the calendar.
* `Time` — a moment of a day; its last second may be a leap second.
* `Timestamp` — a moment of a day of the calendar.
* `Date.text`, `Timestamp.text` — the ISO 8601 text of either.
-/

namespace ReportSql

/-! ## Days -/

/-- Whether a year has a 29th of February. -/
def isLeapYear (year : Int) : Bool := year % 4 = 0 && (year % 100 ≠ 0 || year % 400 = 0)

/-- The number of days of a month, zero for a number that is no month. -/
def daysInMonth (year : Int) (month : Nat) : Nat :=
  match month with
  | 1 | 3 | 5 | 7 | 8 | 10 | 12 => 31
  | 4 | 6 | 9 | 11 => 30
  | 2 => if isLeapYear year then 29 else 28
  | _ => 0

/-- The first and the last year of the calendar. -/
def firstYear : Int := -262143

@[inherit_doc firstYear] def lastYear : Int := 262142

/-- Whether three numbers name a day of the calendar. -/
def isDay (year : Int) (month day : Nat) : Bool :=
  firstYear ≤ year && year ≤ lastYear && 1 ≤ day && day ≤ daysInMonth year month

/-- A day of the calendar. -/
structure Date where
  year : Int
  month : Nat
  day : Nat
  valid : isDay year month day = true
deriving DecidableEq

namespace Date

/-- The day that three numbers name. -/
def of? (year : Int) (month day : Nat) : Option Date :=
  if h : isDay year month day = true then some ⟨year, month, day, h⟩ else none

/-- The day before a day. -/
def before? (d : Date) : Option Date :=
  if 1 < d.day then of? d.year d.month (d.day - 1)
  else if 1 < d.month then of? d.year (d.month - 1) (daysInMonth d.year (d.month - 1))
  else of? (d.year - 1) 12 31

/-- The day after a day. -/
def after? (d : Date) : Option Date :=
  if d.day < daysInMonth d.year d.month then of? d.year d.month (d.day + 1)
  else if d.month < 12 then of? d.year (d.month + 1) 1
  else of? (d.year + 1) 1 1

theorem of?_eq_some_iff {year : Int} {month day : Nat} {d : Date} :
    of? year month day = some d ↔ d.year = year ∧ d.month = month ∧ d.day = day := by
  unfold of?
  split
  · next h =>
    rw [Option.some.injEq]
    constructor
    · rintro rfl
      exact ⟨rfl, rfl, rfl⟩
    · obtain ⟨y, m, dd, hv⟩ := d
      rintro ⟨rfl, rfl, rfl⟩
      rfl
  · next h =>
    constructor
    · intro hd
      simp at hd
    · rintro ⟨rfl, rfl, rfl⟩
      exact absurd d.valid h

end Date

/-! ## Moments -/

/-- Whether four numbers name a moment of a day. -/
def isMoment (hour minute second nano : Nat) : Bool :=
  hour < 24 && minute < 60 && second ≤ 60 && nano < Nat.pow 10 9

/-- A moment of a day.  The second 60 is a leap second. -/
structure Time where
  hour : Nat
  minute : Nat
  second : Nat
  nano : Nat
  valid : isMoment hour minute second nano = true
deriving DecidableEq

namespace Time

/-- The moment that four numbers name. -/
def of? (hour minute second nano : Nat) : Option Time :=
  if h : isMoment hour minute second nano = true then some ⟨hour, minute, second, nano, h⟩
  else none

theorem of?_eq_some_iff {hour minute second nano : Nat} {t : Time} :
    of? hour minute second nano = some t ↔
      t.hour = hour ∧ t.minute = minute ∧ t.second = second ∧ t.nano = nano := by
  unfold of?
  split
  · next h =>
    rw [Option.some.injEq]
    constructor
    · rintro rfl
      exact ⟨rfl, rfl, rfl, rfl⟩
    · obtain ⟨a, b, c, d, hv⟩ := t
      rintro ⟨rfl, rfl, rfl, rfl⟩
      rfl
  · next h =>
    constructor
    · intro ht
      simp at ht
    · rintro ⟨rfl, rfl, rfl, rfl⟩
      exact absurd t.valid h

end Time

/-- A moment of a day of the calendar. -/
structure Timestamp where
  date : Date
  time : Time
deriving DecidableEq

namespace Timestamp

/-- The same moment on a clock `minutes` behind, for less than a day.  Seconds are kept, a leap
second included. -/
def behind? (t : Timestamp) (minutes : Int) : Option Timestamp :=
  let total := (t.time.hour * 60 + t.time.minute : Int) - minutes
  let date? :=
    if total < 0 then t.date.before? else if 1440 ≤ total then t.date.after? else some t.date
  let ofDay := (total % 1440).toNat
  match date?, Time.of? (ofDay / 60) (ofDay % 60) t.time.second t.time.nano with
  | some date, some time => some ⟨date, time⟩
  | _, _ => none

end Timestamp

/-! ## Text -/

/-- A number in at least `width` digits. -/
def padded (width n : Nat) : List Char :=
  let ds := Nat.toDigits 10 n
  List.replicate (width - ds.length) '0' ++ ds

/-- A year in four digits, with a sign and at least four digits outside 0 to 9999. -/
def yearChars (year : Int) : List Char :=
  if 0 ≤ year ∧ year ≤ 9999 then padded 4 year.toNat
  else (if year < 0 then '-' else '+') :: padded 4 year.natAbs

/-- A fraction of a second in three, six or nine digits, nothing for none. -/
def fractionChars (nano : Nat) : List Char :=
  if nano = 0 then []
  else if nano % Nat.pow 10 6 = 0 then '.' :: padded 3 (nano / Nat.pow 10 6)
  else if nano % Nat.pow 10 3 = 0 then '.' :: padded 6 (nano / Nat.pow 10 3)
  else '.' :: padded 9 nano

/-- The characters of a day: year, month and day with hyphens between. -/
def Date.chars (d : Date) : List Char :=
  yearChars d.year ++ '-' :: padded 2 d.month ++ '-' :: padded 2 d.day

/-- The text of a day. -/
def Date.text (d : Date) : String := String.ofList d.chars

/-- The characters of a moment: hour, minute and second with colons between. -/
def Time.chars (t : Time) : List Char :=
  padded 2 t.hour ++ ':' :: padded 2 t.minute ++ ':' :: padded 2 t.second ++ fractionChars t.nano

/-- The text of a timestamp: the day and the moment with a `T` between. -/
def Timestamp.text (t : Timestamp) : String := String.ofList (t.date.chars ++ 'T' :: t.time.chars)

end ReportSql
