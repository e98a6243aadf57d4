import ReportSql.BindValue
import ReportSql.Proofs.Calendar.Parts
import ReportSql.Proofs.Text.Bytes

/-!
# Dates sent out and read back

A bound date goes out as its ISO 8601 text.  Sent back as a scalar it is tried in three forms, one
after the other: as a bare date if it has ten bytes, in the interchange form, in the local form.  A
printed date has ten bytes and a printed timestamp more; a timestamp without an offset is none in
the interchange form, and with a `Z` it is moved by nothing.

## Main definitions

* `Timestamp.charsWith` — the text of a timestamp with another character in place of the `T` and
  something behind it.

## Main statements

* `readInstant?_chars` — the interchange form, for every separator and every offset.
* `readLocal?_chars` — the local form, with a `T` and with a blank.
* `coerceDate_printed` — what was sent out is read back, whatever blanks stand around it.
-/

namespace ReportSql

open Text

variable {d : Date} {t : Timestamp}

/-! ## The interchange form -/

namespace Timestamp

/-- A moment is the same on a clock that is not behind. -/
theorem behind?_zero (t : Timestamp) : t.behind? 0 = some t := by
  have hvalid := t.time.valid
  simp only [isMoment, Bool.and_eq_true, decide_eq_true_eq] at hvalid
  obtain ⟨⟨⟨hhour, hminute⟩, -⟩, -⟩ := hvalid
  have hday : ((t.time.hour * 60 + t.time.minute : Int) - 0) % 1440 =
      (t.time.hour * 60 + t.time.minute : Nat) := by omega
  have htime : Time.of? ((t.time.hour * 60 + t.time.minute) / 60)
      ((t.time.hour * 60 + t.time.minute) % 60) t.time.second t.time.nano = some t.time :=
    Time.of?_eq_some_iff.2 ⟨by omega, by omega, rfl, rfl⟩
  rw [behind?]
  simp only [hday, Int.toNat_natCast, htime]
  rw [if_neg (by omega), if_neg (by omega)]

/-- The characters of a timestamp with a given separator, and what follows them. -/
def charsWith (t : Timestamp) (sep : Char) (rest : List Char) : List Char :=
  t.date.chars ++ sep :: (t.time.chars ++ rest)

end Timestamp

/-- A part that is read hands on what it was read as. -/
theorem bind_of_eq_some {α β : Type} {x : Option α} {a : α} (h : x = some a) (f : α → Option β) :
    x >>= f = f a := by
  rw [h]
  rfl

/-- **In the interchange form a printed timestamp is read with its offset,** if a `T` or a space
stands between day and moment. -/
theorem readInstant?_chars (h : t.date.HasFourDigits) (sep : Char) {offset : List Char}
    (hoffset : StopsFraction offset) :
    readInstant? (String.ofList (t.charsWith sep offset)) =
      if sep = 'T' ∨ sep = 't' ∨ sep = ' ' then (readOffset? offset).bind t.behind? else none := by
  obtain ⟨hchars, hyear, hcast⟩ := Date.yearChars_eq h
  obtain ⟨hmonth, hday⟩ := t.date.bounds
  obtain ⟨hhour, hminute, hsecond, hnano⟩ := t.time.bounds
  have htext : t.charsWith sep offset = padded 4 t.date.year.toNat ++ '-' :: (padded 2 t.date.month
      ++ '-' :: (padded 2 t.date.day ++ sep :: (padded 2 t.time.hour ++ ':' :: (padded 2
      t.time.minute ++ ':' :: (padded 2 t.time.second ++ (fractionChars t.time.nano ++
      offset)))))) := by
    simp [Timestamp.charsWith, Date.chars, Time.chars, hchars]
  have hfour : ∀ cs, cutNumber 4 4 (padded 4 t.date.year.toNat ++ cs) =
      some (t.date.year.toNat, cs) := cutNumber_padded (by decide) (by decide) hyear
  have htwo : ∀ {n : Nat}, n < 100 → ∀ cs, cutNumber 2 2 (padded 2 n ++ cs) = some (n, cs) :=
    fun hn => cutNumber_padded (by decide) (by decide) hn
  have hdate : Date.of? t.date.year.toNat t.date.month t.date.day = some t.date :=
    Date.of?_eq_some_iff.2 ⟨hcast.symm, rfl, rfl⟩
  have htime : Time.of? t.time.hour t.time.minute t.time.second t.time.nano = some t.time :=
    Time.of?_eq_some_iff.2 ⟨rfl, rfl, rfl, rfl⟩
  rw [readInstant?, String.toList_ofList, htext]
  -- part by part, since `simp` would go through all that follows a part before the part itself
  refine (bind_of_eq_some (hfour _) _).trans ?_
  refine (bind_of_eq_some (cutChar_cons '-' _) _).trans ?_
  refine (bind_of_eq_some (htwo hmonth _) _).trans ?_
  refine (bind_of_eq_some (cutChar_cons '-' _) _).trans ?_
  refine (bind_of_eq_some (htwo hday _) _).trans ?_
  by_cases hsep : sep = 'T' ∨ sep = 't' ∨ sep = ' '
  · rw [if_pos hsep]
    refine (if_pos hsep).trans ?_
    refine (bind_of_eq_some rfl _).trans ?_
    refine (bind_of_eq_some (htwo hhour _) _).trans ?_
    refine (bind_of_eq_some (cutChar_cons ':' _) _).trans ?_
    refine (bind_of_eq_some (htwo hminute _) _).trans ?_
    refine (bind_of_eq_some (cutChar_cons ':' _) _).trans ?_
    refine (bind_of_eq_some (htwo hsecond _) _).trans ?_
    refine (bind_of_eq_some (cutFractionOfSecond_append hnano hoffset) _).trans ?_
    refine congrArg (Option.bind (readOffset? offset)) (funext fun minutes => ?_)
    exact (bind_of_eq_some hdate _).trans (bind_of_eq_some htime _)
  · rw [if_neg hsep]
    exact if_neg hsep

/-! ## The local form -/

theorem readJoined?_chars (h : t.date.HasFourDigits) :
    readJoined? (String.ofList (t.charsWith 'T' [])) = some t := by
  simp [readJoined?, Timestamp.charsWith, cutDate_append h, cutChar_cons, readTime?_chars]

theorem readJoined?_of_ne (h : t.date.HasFourDigits) {sep : Char} (hsep : sep ≠ 'T')
    (rest : List Char) : readJoined? (String.ofList (t.charsWith sep rest)) = none := by
  simp [readJoined?, Timestamp.charsWith, cutDate_append h, cutChar, hsep]

theorem readParted?_chars (h : t.date.HasFourDigits) {sep : Char} (hsep : isBlank sep = true) :
    readParted? (String.ofList (t.charsWith sep [])) = some t := by
  have hblanks : ∀ c ∈ [sep], isBlank c = true := by simpa using hsep
  have htime : readTime? (sep :: t.time.chars) = some t.time := by
    rw [← List.singleton_append, readTime?_blanks hblanks, readTime?_chars]
  simp [readParted?, Timestamp.charsWith, cutDate_append h, htime]

/-- **In the local form a printed timestamp is read back,** also with a blank for its `T`. -/
theorem readLocal?_chars (h : t.date.HasFourDigits) {sep : Char}
    (hsep : sep = 'T' ∨ isBlank sep = true) :
    readLocal? (String.ofList (t.charsWith sep [])) = some t := by
  rw [readLocal?]
  rcases hsep with rfl | hblank
  · rw [readJoined?_chars h]
  · have hne : sep ≠ 'T' := by
      rintro rfl
      cases hblank
    rw [readJoined?_of_ne h hne]
    exact readParted?_chars h hblank

/-! ## The characters of printed dates -/

namespace Date

theorem mem_chars (h : d.HasFourDigits) {c : Char} (hc : c ∈ d.chars) :
    c.isDigit = true ∨ c = '-' := by
  obtain ⟨hchars, -, -⟩ := yearChars_eq h
  simp only [chars, hchars, List.mem_append, List.mem_cons] at hc
  rcases hc with (hc | hc | hc) | hc | hc
  · exact .inl (allDigits_padded _ _ c hc)
  · exact .inr hc
  · exact .inl (allDigits_padded _ _ c hc)
  · exact .inr hc
  · exact .inl (allDigits_padded _ _ c hc)

theorem length_chars (h : d.HasFourDigits) : d.chars.length = 10 := by
  obtain ⟨hchars, hyear, -⟩ := yearChars_eq h
  obtain ⟨hmonth, hday⟩ := d.bounds
  have hfour : (padded 4 d.year.toNat).length = 4 := length_padded (by decide) hyear
  have htwo : ∀ {n : Nat}, n < 100 → (padded 2 n).length = 2 :=
    fun hn => length_padded (by decide) hn
  simp only [chars, hchars, List.length_append, List.length_cons, hfour, htwo hmonth, htwo hday]

end Date

/-- A fraction that is printed is a point and a number with zeros before it. -/
theorem fractionChars_eq (nano : Nat) :
    fractionChars nano = [] ∨ ∃ width n, fractionChars nano = '.' :: padded width n := by
  unfold fractionChars
  split
  · exact .inl rfl
  · refine .inr ?_
    split
    · exact ⟨3, _, rfl⟩
    · split
      · exact ⟨6, _, rfl⟩
      · exact ⟨9, _, rfl⟩

namespace Time

theorem mem_chars {t : Time} {c : Char} (hc : c ∈ t.chars) :
    c.isDigit = true ∨ c = ':' ∨ c = '.' := by
  simp only [chars, List.mem_append, List.mem_cons] at hc
  rcases hc with ((hc | hc | hc) | hc | hc) | hc
  · exact .inl (allDigits_padded _ _ c hc)
  · exact .inr (.inl hc)
  · exact .inl (allDigits_padded _ _ c hc)
  · exact .inr (.inl hc)
  · exact .inl (allDigits_padded _ _ c hc)
  · rcases fractionChars_eq t.nano with hnone | ⟨width, n, hfraction⟩
    · rw [hnone] at hc
      cases hc
    · rw [hfraction, List.mem_cons] at hc
      rcases hc with hc | hc
      · exact .inr (.inr hc)
      · exact .inl (allDigits_padded width n c hc)

/-- A printed moment ends in a number. -/
theorem exists_chars_eq_append (t : Time) : ∃ cs width n, t.chars = cs ++ padded width n := by
  rcases fractionChars_eq t.nano with hnone | ⟨width, n, hfraction⟩
  · refine ⟨padded 2 t.hour ++ ':' :: (padded 2 t.minute ++ [':']), 2, t.second, ?_⟩
    simp [chars, hnone]
  · refine ⟨padded 2 t.hour ++ ':' :: (padded 2 t.minute ++ ':' :: (padded 2 t.second ++ ['.'])),
      width, n, ?_⟩
    simp [chars, hfraction]

end Time

theorem isBlank_getLast?_padded {cs : List Char} {width n : Nat} {c : Char}
    (hc : c ∈ (cs ++ padded width n).getLast?) : isBlank c = false := by
  rw [List.getLast?_append_of_ne_nil _ (padded_ne_nil width n)] at hc
  exact isBlank_of_isDigit (allDigits_padded width n c (List.mem_of_getLast? hc))

/-- No blank stands before a printed day. -/
theorem Date.isBlank_head?_chars (h : d.HasFourDigits) {cs : List Char} {c : Char}
    (hc : c ∈ (d.chars ++ cs).head?) : isBlank c = false := by
  obtain ⟨hchars, -, -⟩ := yearChars_eq h
  obtain ⟨x, xs, hx, hdigit⟩ := exists_padded_eq_cons 4 d.year.toNat
  rw [chars, hchars, hx] at hc
  have heq : x = c := by simpa using hc
  exact isBlank_of_isDigit (heq ▸ hdigit)

/-! ## Sending back -/

theorem readTemporal?_date (h : d.HasFourDigits) : readTemporal? d.text = some (.date d) := by
  have hascii : ∀ c ∈ d.text.toList, c.toNat < 128 := by
    intro c hc
    rw [Date.text, String.toList_ofList] at hc
    rcases Date.mem_chars h hc with hdigit | rfl
    · have hrange := Char.isDigit_iff_toNat.1 hdigit
      have hnine : '9'.toNat = 57 := rfl
      omega
    · decide
  have hsize : d.text.utf8ByteSize = 10 := by
    rw [utf8ByteSize_of_ascii hascii, Date.text, String.toList_ofList, Date.length_chars h]
  have hcut : cutDate d.chars = some (d, []) := by
    simpa using cutDate_append h []
  have hread : readDate? d.text = some d := by simp [readDate?, Date.text, hcut]
  simp only [readTemporal?, if_pos hsize, hread]

/-- A printed timestamp has more bytes than a bare date. -/
theorem utf8ByteSize_charsWith (h : t.date.HasFourDigits) (sep : Char) (rest : List Char) :
    (String.ofList (t.charsWith sep rest)).utf8ByteSize ≠ 10 := by
  have hlength : 10 < (t.charsWith sep rest).length := by
    rw [Timestamp.charsWith, List.length_append, List.length_cons, Date.length_chars h]
    omega
  have hsize := length_le_utf8ByteSize (String.ofList (t.charsWith sep rest))
  rw [String.toList_ofList] at hsize
  omega

theorem readTemporal?_timestamp (h : t.date.HasFourDigits) {sep : Char}
    (hsep : sep = 'T' ∨ isBlank sep = true) :
    readTemporal? (String.ofList (t.charsWith sep [])) = some (.timestamp t) := by
  have hinstant : readInstant? (String.ofList (t.charsWith sep [])) = none := by
    rw [readInstant?_chars h sep stopsFraction_nil]
    split <;> rfl
  simp only [readTemporal?, if_neg (utf8ByteSize_charsWith h sep []), hinstant,
    readLocal?_chars h hsep]

/-- With a `Z` behind it a printed timestamp is itself, with a `T` or with a space in it. -/
theorem readTemporal?_universal (h : t.date.HasFourDigits) {sep : Char}
    (hsep : sep = 'T' ∨ sep = ' ') :
    readTemporal? (String.ofList (t.charsWith sep ['Z'])) = some (.timestamp t) := by
  have hstops : StopsFraction ['Z'] := by
    intro c hc
    rw [List.head?_cons, Option.mem_some_iff] at hc
    rw [← hc]
    decide
  have hinstant : readInstant? (String.ofList (t.charsWith sep ['Z'])) = some t := by
    rw [readInstant?_chars h sep hstops, if_pos (hsep.imp_right .inr)]
    exact t.behind?_zero
  simp only [readTemporal?, if_neg (utf8ByteSize_charsWith h sep ['Z']), hinstant]

/-- Blanks around a text that names a date are passed over. -/
theorem coerceDate_around {before after : String} (hbefore : isBlankText before = true)
    (hafter : isBlankText after = true) {cs : List Char} {value : BindValue}
    (hfirst : ∀ c ∈ cs.head?, isBlank c = false) (hlast : ∀ c ∈ cs.getLast?, isBlank c = false)
    (hvalue : readTemporal? (String.ofList cs) = some value) :
    coerceDate (.text (before ++ String.ofList cs ++ after)) = value := by
  have htrim : trim (before ++ String.ofList cs ++ after) = String.ofList cs := by
    rw [trim_around hbefore hafter, trim, String.toList_ofList,
      strip_eq_self_iff.2 ⟨hfirst, hlast⟩]
  simp only [coerceDate, htrim, hvalue]

namespace Timestamp

theorem text_eq (t : Timestamp) : t.text = String.ofList (t.charsWith 'T' []) := by
  rw [text, charsWith, List.append_nil]

theorem charsWith_append (t : Timestamp) (sep : Char) (rest : List Char) :
    t.charsWith sep [] ++ rest = t.charsWith sep rest := by
  simp [charsWith]

/-- The only `T` of a printed timestamp is the one between day and moment. -/
theorem map_text (h : t.date.HasFourDigits) (c : Char) :
    t.text.map (fun x => if x = 'T' then c else x) = String.ofList (t.charsWith c []) := by
  have hkept : ∀ cs : List Char, 'T' ∉ cs → cs.map (fun x => if x = 'T' then c else x) = cs := by
    intro cs hcs
    conv_rhs => rw [← List.map_id cs]
    exact List.map_congr_left fun x hx => if_neg (ne_of_mem_of_not_mem hx hcs)
  have hdate : 'T' ∉ t.date.chars := by
    intro hmem
    rcases Date.mem_chars h hmem with hdigit | heq
    · cases hdigit
    · cases heq
  have htime : 'T' ∉ t.time.chars := by
    intro hmem
    rcases Time.mem_chars hmem with hdigit | heq | heq
    · cases hdigit
    · cases heq
    · cases heq
  rw [← String.toList_inj, String.toList_map, text, String.toList_ofList, String.toList_ofList,
    List.map_append, List.map_cons, hkept _ hdate, hkept _ htime, if_pos rfl, charsWith,
    List.append_nil]

theorem isBlank_head?_charsWith (h : t.date.HasFourDigits) (sep : Char) (rest : List Char) :
    ∀ c ∈ (t.charsWith sep rest).head?, isBlank c = false :=
  fun _ hc => Date.isBlank_head?_chars h hc

theorem isBlank_getLast?_charsWith (t : Timestamp) (sep : Char) :
    ∀ c ∈ (t.charsWith sep []).getLast?, isBlank c = false := by
  obtain ⟨cs, width, n, hchars⟩ := t.time.exists_chars_eq_append
  intro c hc
  have hlast : c ∈ ((t.date.chars ++ sep :: cs) ++ padded width n).getLast? := by
    simpa [charsWith, hchars] using hc
  exact isBlank_getLast?_padded hlast

end Timestamp

/-- The printed text of a day, between blanks, is the day. -/
theorem coerceDate_text (h : d.HasFourDigits) {before after : String}
    (hbefore : isBlankText before = true) (hafter : isBlankText after = true) :
    coerceDate (.text (before ++ d.text ++ after)) = .date d := by
  refine coerceDate_around hbefore hafter ?_ ?_ (readTemporal?_date h)
  · intro c hc
    exact Date.isBlank_head?_chars h (by rwa [List.append_nil] : c ∈ (d.chars ++ []).head?)
  · intro c hc
    have hlast : c ∈ ((yearChars d.year ++ '-' :: (padded 2 d.month ++ ['-'])) ++
        padded 2 d.day).getLast? := by
      simpa [Date.chars] using hc
    exact isBlank_getLast?_padded hlast

/-- The printed text of a timestamp, between blanks, is the timestamp, also with a blank for its
`T`. -/
theorem coerceDate_charsWith (h : t.date.HasFourDigits) {sep : Char}
    (hsep : sep = 'T' ∨ isBlank sep = true) {before after : String}
    (hbefore : isBlankText before = true) (hafter : isBlankText after = true) :
    coerceDate (.text (before ++ String.ofList (t.charsWith sep []) ++ after)) = .timestamp t :=
  coerceDate_around hbefore hafter (t.isBlank_head?_charsWith h sep [])
    (t.isBlank_getLast?_charsWith sep) (readTemporal?_timestamp h hsep)

/-- The printed text of a timestamp with a `Z` behind it, between blanks, is the timestamp, also
with a space for its `T`. -/
theorem coerceDate_universal (h : t.date.HasFourDigits) {sep : Char} (hsep : sep = 'T' ∨ sep = ' ')
    {before after : String} (hbefore : isBlankText before = true)
    (hafter : isBlankText after = true) :
    coerceDate (.text (before ++ (String.ofList (t.charsWith sep []) ++ "Z") ++ after)) =
      .timestamp t := by
  have htext : String.ofList (t.charsWith sep []) ++ "Z" =
      String.ofList (t.charsWith sep ['Z']) := by
    rw [← t.charsWith_append sep ['Z'], String.ofList_append]
  have hlast : ∀ c ∈ (t.charsWith sep ['Z']).getLast?, isBlank c = false := by
    intro c hc
    rw [← t.charsWith_append sep ['Z'], List.getLast?_concat, Option.mem_some_iff] at hc
    rw [← hc]
    rfl
  rw [htext]
  exact coerceDate_around hbefore hafter (t.isBlank_head?_charsWith h sep ['Z']) hlast
    (readTemporal?_universal h hsep)

/-- **Dates and timestamps survive being sent out and sent back.**  What is sent for a day of the
years 0 to 9999 is read as that day.  What is sent for a timestamp is read as that timestamp: as it
is, with a `Z` behind it, with a blank in place of the `T`, and with a space there and the `Z`.
Blanks around the text change nothing. -/
theorem coerceDate_printed {before after : String} (hbefore : isBlankText before = true)
    (hafter : isBlankText after = true) :
    (∀ d : Date, d.HasFourDigits → ∃ s, (BindValue.date d).toJson = .text s ∧
      coerceDate (.text (before ++ s ++ after)) = .date d) ∧
    ∀ t : Timestamp, t.date.HasFourDigits → ∃ s, (BindValue.timestamp t).toJson = .text s ∧
      coerceDate (.text (before ++ s ++ after)) = .timestamp t ∧
      coerceDate (.text (before ++ (s ++ "Z") ++ after)) = .timestamp t ∧
      (∀ c, isBlank c = true →
        coerceDate (.text (before ++ s.map (fun x => if x = 'T' then c else x) ++ after)) =
          .timestamp t) ∧
      coerceDate (.text (before ++ (s.map (fun x => if x = 'T' then ' ' else x) ++ "Z") ++
        after)) = .timestamp t := by
  refine ⟨fun d h => ⟨d.text, rfl, coerceDate_text h hbefore hafter⟩,
    fun t h => ⟨t.text, rfl, ?_, ?_, ?_, ?_⟩⟩
  · rw [t.text_eq]
    exact coerceDate_charsWith h (.inl rfl) hbefore hafter
  · rw [t.text_eq]
    exact coerceDate_universal h (.inl rfl) hbefore hafter
  · intro c hc
    rw [t.map_text h]
    exact coerceDate_charsWith h (.inr hc) hbefore hafter
  · rw [t.map_text h]
    exact coerceDate_universal h (.inr rfl) hbefore hafter

/-- The last moment of a leap day, with a blank before its text and a line end after it. -/
theorem coerceDate_printed_leapDay :
    isBlankText " " = true ∧ isBlankText "\n" = true ∧
      coerceDate (.text " 2024-02-29\n") = .date ⟨2024, 2, 29, rfl⟩ ∧
      coerceDate (.text " 2024-02-29T23:59:59.120Z\n") =
        .timestamp ⟨⟨2024, 2, 29, rfl⟩, ⟨23, 59, 59, 120000000, rfl⟩⟩ ∧
      coerceDate (.text " 2024-02-29 23:59:59.120\n") =
        .timestamp ⟨⟨2024, 2, 29, rfl⟩, ⟨23, 59, 59, 120000000, rfl⟩⟩ := by
  have hbefore : isBlankText " " = true := by decide
  have hafter : isBlankText "\n" = true := by decide
  have hyear : (⟨2024, 2, 29, rfl⟩ : Date).HasFourDigits := ⟨by decide, by decide⟩
  obtain ⟨hdays, hmoments⟩ := coerceDate_printed hbefore hafter
  obtain ⟨s, hs, hdate⟩ := hdays ⟨2024, 2, 29, rfl⟩ hyear
  obtain ⟨s', hs', -, hzone, hblank, -⟩ :=
    hmoments ⟨⟨2024, 2, 29, rfl⟩, ⟨23, 59, 59, 120000000, rfl⟩⟩ hyear
  obtain rfl : "2024-02-29" = s := by
    injection hs
  obtain rfl : "2024-02-29T23:59:59.120" = s' := by
    injection hs'
  have hparted : "2024-02-29T23:59:59.120".map (fun x => if x = 'T' then ' ' else x) =
      "2024-02-29 23:59:59.120" := by
    rw [← String.toList_inj, String.toList_map]
    rfl
  have hspace := hblank ' ' rfl
  rw [hparted] at hspace
  exact ⟨hbefore, hafter, hdate, hzone, hspace⟩

end ReportSql
