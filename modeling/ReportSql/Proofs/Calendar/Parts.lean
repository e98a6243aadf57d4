import ReportSql.Calendar.Reading
import ReportSql.Proofs.Numeral.Digits

/-!
# The parts of printed dates

Every number of a printed date has its full count of digits.  So each of them is cut off again where
it stands, in the strict form and in the lenient ones, and what follows decides nothing but where a
fraction of a second ends.

## Main definitions

* `Date.HasFourDigits` — a day of one of the years 0 to 9999.

## Main statements

* `cutNumber_padded`, `cutLoose_padded` — numbers with all their digits.
* `cutFractionOfSecond_append` — fractions of a second.
* `cutDate_append`, `readTime?_chars` — days and moments.
-/

namespace ReportSql

open Text

variable {ds cs : List Char}

/-! ## Numbers -/

/-- A number is cut off whole if nothing goes on with it, or if it has all digits that may be. -/
theorem cutNumber_append {min max : Nat} (hds : AllDigits ds) (hmin : min ≤ ds.length)
    (hmax : ds.length ≤ max) (hstops : ds.length = max ∨ StopsDigits cs) :
    cutNumber min max (ds ++ cs) = some (Numeral.digitsValue ds, cs) := by
  have htake : (ds ++ cs).take max = ds ++ cs.take (max - ds.length) := by
    rw [List.take_append, List.take_of_length_le hmax]
  have hrest : StopsDigits (cs.take (max - ds.length)) := by
    intro c hc
    rw [List.head?_take] at hc
    split at hc
    · cases hc
    · next hne => exact hstops.resolve_left (fun heq => hne (by omega)) c hc
  have hrun : ((ds ++ cs).take max).takeWhile Char.isDigit = ds := by
    rw [htake, takeWhile_digits hds hrest]
  rw [cutNumber, hrun, if_neg (by omega), List.drop_left]

/-- A number with all the digits that may be is cut off whole, whatever follows. -/
theorem cutNumber_padded {min width n : Nat} (hmin : min ≤ width) (hwidth : 0 < width)
    (h : n < 10 ^ width) (cs : List Char) :
    cutNumber min width (padded width n ++ cs) = some (n, cs) := by
  have hlength := length_padded hwidth h
  rw [cutNumber_append (allDigits_padded width n) (by omega) (by omega) (.inl hlength),
    digitsValue_padded]

/-- A digit is no blank. -/
theorem isBlank_of_isDigit {c : Char} (h : c.isDigit = true) : isBlank c = false := by
  have hc := Char.isDigit_iff_toNat.1 h
  have hzero : '0'.toNat = 48 := rfl
  have hnine : '9'.toNat = 57 := rfl
  simp only [isBlank, Bool.or_eq_false_iff, Bool.and_eq_false_iff, decide_eq_false_iff_not,
    beq_eq_false_iff_ne]
  omega

theorem padded_ne_nil (width n : Nat) : padded width n ≠ [] := by
  simp [padded, Nat.toDigits_ne_nil]

theorem exists_padded_eq_cons (width n : Nat) :
    ∃ d ds, padded width n = d :: ds ∧ d.isDigit = true := by
  obtain ⟨d, ds, hds⟩ := List.exists_cons_of_ne_nil (padded_ne_nil width n)
  exact ⟨d, ds, hds, allDigits_padded width n d (hds ▸ List.mem_cons_self)⟩

/-- No blank stands before a number. -/
theorem dropWhile_isBlank_padded (width n : Nat) (cs : List Char) :
    (padded width n ++ cs).dropWhile isBlank = padded width n ++ cs := by
  obtain ⟨d, ds, hds, hd⟩ := exists_padded_eq_cons width n
  refine dropWhile_eq_self_iff_head?.2 fun c hc => ?_
  rw [hds, List.cons_append, List.head?_cons, Option.mem_some_iff] at hc
  rw [← hc, isBlank_of_isDigit hd]

theorem cutLoose_padded {n : Nat} (h : n < 100) (cs : List Char) :
    cutLoose (padded 2 n ++ cs) = some (n, cs) := by
  rw [cutLoose, dropWhile_isBlank_padded]
  exact cutNumber_padded (by decide) (by decide) h cs

/-- Blanks before a number are passed over. -/
theorem cutLoose_blanks {blanks : List Char} (h : ∀ c ∈ blanks, isBlank c = true)
    (cs : List Char) : cutLoose (blanks ++ cs) = cutLoose cs := by
  rw [cutLoose, List.dropWhile_append_of_pos h, cutLoose]

theorem cutChar_cons (c : Char) (cs : List Char) : cutChar c (c :: cs) = some cs := by
  simp [cutChar]

/-! ## Fractions of a second -/

/-- A text that does not go on with a fraction of a second. -/
def StopsFraction (cs : List Char) : Prop := ∀ c ∈ cs.head?, c.isDigit = false ∧ c ≠ '.'

theorem stopsFraction_nil : StopsFraction [] := by
  intro c hc
  cases hc

theorem StopsFraction.stopsDigits (h : StopsFraction cs) : StopsDigits cs := fun c hc => (h c hc).1

/-- A fraction in `width` digits is so many nanoseconds. -/
theorem cutFractionOfSecond_padded {width n : Nat} (hwidth : 0 < width) (hmax : width ≤ 9)
    (h : n < 10 ^ width) (hcs : StopsFraction cs) :
    cutFractionOfSecond ('.' :: (padded width n ++ cs)) = some (n * 10 ^ (9 - width), cs) := by
  have hlength := length_padded hwidth h
  have hcut : cutNumber 1 9 (padded width n ++ cs) = some (n, cs) := by
    rw [cutNumber_append (allDigits_padded width n) (by omega) (by omega) (.inr hcs.stopsDigits),
      digitsValue_padded]
  have hdrop : cs.dropWhile Char.isDigit = cs := dropWhile_eq_self_iff_head?.2 hcs.stopsDigits
  rw [cutFractionOfSecond, hcut]
  simp [hlength, hdrop]

/-- **A fraction of a second is read as it was printed.** -/
theorem cutFractionOfSecond_append {nano : Nat} (h : nano < 10 ^ 9) (hcs : StopsFraction cs) :
    cutFractionOfSecond (fractionChars nano ++ cs) = some (nano, cs) := by
  unfold fractionChars
  have hmilli : Nat.pow 10 6 = 1000000 := rfl
  have hmicro : Nat.pow 10 3 = 1000 := rfl
  rw [hmilli, hmicro]
  split
  · next hzero =>
    subst hzero
    rw [List.nil_append, cutFractionOfSecond]
    rintro cs rfl
    exact (hcs '.' rfl).2 rfl
  · split
    · next hmod =>
      rw [List.cons_append, cutFractionOfSecond_padded (by decide) (by decide) (by omega) hcs]
      simp only [Option.some.injEq, Prod.mk.injEq, and_true]
      omega
    · split
      · next hmod =>
        rw [List.cons_append, cutFractionOfSecond_padded (by decide) (by decide) (by omega) hcs]
        simp only [Option.some.injEq, Prod.mk.injEq, and_true]
        omega
      · rw [List.cons_append, cutFractionOfSecond_padded (by decide) (by decide) h hcs]
        simp

/-! ## Days -/

theorem daysInMonth_le (year : Int) (month : Nat) : daysInMonth year month ≤ 31 := by
  unfold daysInMonth
  split
  case h_12 => split <;> omega
  all_goals omega

/-- No month after the twelfth has a day. -/
theorem le_twelve_of_daysInMonth_ne_zero (year : Int) {month : Nat}
    (h : daysInMonth year month ≠ 0) : month ≤ 12 := by
  unfold daysInMonth at h
  split at h <;> omega

namespace Date

/-- A day of one of the years 0 to 9999. -/
def HasFourDigits (d : Date) : Prop := 0 ≤ d.year ∧ d.year ≤ 9999

/-- The month and the day of a day of the calendar have two digits at most. -/
theorem bounds (d : Date) : d.month < 100 ∧ d.day < 100 := by
  have hvalid := d.valid
  simp only [isDay, Bool.and_eq_true, decide_eq_true_eq] at hvalid
  have hdays := daysInMonth_le d.year d.month
  have hmonth : d.month ≤ 12 := le_twelve_of_daysInMonth_ne_zero d.year (by omega)
  omega

theorem yearChars_eq {d : Date} (h : d.HasFourDigits) :
    yearChars d.year = padded 4 d.year.toNat ∧ d.year.toNat < 10 ^ 4 ∧
      (d.year.toNat : Int) = d.year := by
  obtain ⟨hfirst, hlast⟩ := h
  refine ⟨by rw [yearChars, if_pos ⟨hfirst, hlast⟩], ?_, Int.toNat_of_nonneg hfirst⟩
  omega

end Date

/-- A year of four digits is cut off. -/
theorem cutYear_padded {n : Nat} (h : n < 10 ^ 4) (cs : List Char) :
    cutYear (padded 4 n ++ cs) = some ((n : Int), cs) := by
  obtain ⟨d, ds, hds, hd⟩ := exists_padded_eq_cons 4 n
  have hcut : cutNumber 1 4 (padded 4 n ++ cs) = some (n, cs) :=
    cutNumber_padded (by decide) (by decide) h cs
  rw [cutYear, dropWhile_isBlank_padded]
  split
  · next heq =>
    rw [hds, List.cons_append, List.cons.injEq] at heq
    rw [heq.1] at hd
    cases hd
  · next heq =>
    rw [hds, List.cons_append, List.cons.injEq] at heq
    rw [heq.1] at hd
    cases hd
  · rw [hcut]
    rfl

/-- **A printed day is cut off again.** -/
theorem cutDate_append {d : Date} (h : d.HasFourDigits) (cs : List Char) :
    cutDate (d.chars ++ cs) = some (d, cs) := by
  obtain ⟨hchars, hyear, hcast⟩ := Date.yearChars_eq h
  obtain ⟨hmonth, hday⟩ := d.bounds
  have htext : d.chars ++ cs = padded 4 d.year.toNat ++ '-' :: (padded 2 d.month ++
      '-' :: (padded 2 d.day ++ cs)) := by
    simp [Date.chars, hchars]
  have hdate : Date.of? d.year d.month d.day = some d := Date.of?_eq_some_iff.2 ⟨rfl, rfl, rfl⟩
  rw [htext, cutDate]
  simp [cutYear_padded hyear, cutChar_cons, cutLoose_padded hmonth, cutLoose_padded hday, hcast,
    hdate]

/-! ## Moments -/

namespace Time

/-- The numbers of a moment have two digits at most, and its fraction nine. -/
theorem bounds (t : Time) :
    t.hour < 100 ∧ t.minute < 100 ∧ t.second < 100 ∧ t.nano < 10 ^ 9 := by
  have hvalid := t.valid
  have hpow : Nat.pow 10 9 = 10 ^ 9 := rfl
  simp only [isMoment, Bool.and_eq_true, decide_eq_true_eq, hpow] at hvalid
  omega

end Time

/-- **A printed moment is read again.** -/
theorem readTime?_chars (t : Time) : readTime? t.chars = some t := by
  obtain ⟨hhour, hminute, hsecond, hnano⟩ := t.bounds
  have htext : t.chars = padded 2 t.hour ++ ':' :: (padded 2 t.minute ++
      ':' :: (padded 2 t.second ++ fractionChars t.nano)) := by
    simp [Time.chars]
  have htime : Time.of? t.hour t.minute t.second t.nano = some t :=
    Time.of?_eq_some_iff.2 ⟨rfl, rfl, rfl, rfl⟩
  have hfraction : cutFractionOfSecond (fractionChars t.nano) = some (t.nano, []) := by
    simpa using cutFractionOfSecond_append hnano stopsFraction_nil
  rw [htext, readTime?]
  simp [cutLoose_padded hhour, cutChar_cons, cutLoose_padded hminute, cutLoose_padded hsecond,
    hfraction, htime]

/-- Blanks before a moment are passed over. -/
theorem readTime?_blanks {blanks : List Char} (h : ∀ c ∈ blanks, isBlank c = true)
    (cs : List Char) : readTime? (blanks ++ cs) = readTime? cs := by
  rw [readTime?, cutLoose_blanks h, readTime?]

end ReportSql
