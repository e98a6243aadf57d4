import Mathlib.Data.List.DropRight
import ReportSql.Text.Blank

/-!
# Ends of texts

What is left of a text when characters of one kind are stripped off its end, or off both ends.  A
part that keeps something protects all that stands before it.

## Main statements

* `stripEnd_append` — what the end of two texts together loses.
* `strip_strip`, `trim_trim` — stripping once is enough.
* `strip_eq_self_iff` — nothing is lost where neither end has anything to lose.
* `strip_around`, `trim_around` — what stands around a text is lost if it is all of that kind.
-/

namespace ReportSql.Text

variable {p : Char → Bool} {as bs cs : List Char}

/-! ## One end -/

theorem stripEnd_begins (p : Char → Bool) (cs : List Char) : stripEnd p cs <+: cs :=
  List.rdropWhile_prefix p cs

/-- Nothing is left of a text of which everything is stripped off. -/
theorem stripEnd_eq_nil_iff : stripEnd p cs = [] ↔ ∀ c ∈ cs, p c = true :=
  List.rdropWhile_eq_nil_iff

theorem stripEnd_stripEnd (p : Char → Bool) (cs : List Char) :
    stripEnd p (stripEnd p cs) = stripEnd p cs :=
  List.rdropWhile_idempotent p cs

theorem dropWhile_eq_self_iff_head? : cs.dropWhile p = cs ↔ ∀ c ∈ cs.head?, p c = false := by
  cases cs with
  | nil => simp
  | cons c cs => simp [List.dropWhile_eq_self_iff]

theorem stripEnd_eq_self_iff : stripEnd p cs = cs ↔ ∀ c ∈ cs.getLast?, p c = false := by
  rw [stripEnd, ← List.head?_reverse, ← dropWhile_eq_self_iff_head?]
  exact List.reverse_eq_iff

theorem stripEnd_eq_self (h : ∀ c ∈ cs, p c = false) : stripEnd p cs = cs :=
  stripEnd_eq_self_iff.2 fun c hc => h c (List.mem_of_getLast? hc)

/-- What is stripped off the end of a text is stripped off its last part, and off the part before
if nothing is left of the last one. -/
theorem stripEnd_append (p : Char → Bool) (as bs : List Char) :
    stripEnd p (as ++ bs) =
      if stripEnd p bs = [] then stripEnd p as else as ++ stripEnd p bs := by
  rw [stripEnd, List.reverse_append, List.dropWhile_append]
  by_cases h : bs.reverse.dropWhile p = []
  · simp [stripEnd, h]
  · simp [stripEnd, h]

/-- Stripping does not go on into a part without such characters. -/
theorem stripEnd_append_of_forall (h : ∀ c ∈ as, p c = false) :
    stripEnd p (as ++ bs) = as ++ stripEnd p bs := by
  rw [stripEnd_append]
  split
  · next hbs => rw [hbs, stripEnd_eq_self h, List.append_nil]
  · rfl

/-- Stripping does not go on into what stands before a part that keeps something. -/
theorem stripEnd_append_of_ne_nil (h : stripEnd p bs ≠ []) :
    stripEnd p (as ++ bs) = as ++ stripEnd p bs := by
  rw [stripEnd_append, if_neg h]

/-! ## Both ends -/

theorem mem_of_mem_strip {c : Char} (h : c ∈ strip p cs) : c ∈ cs :=
  (List.dropWhile_sublist p).mem ((stripEnd_begins p _).mem h)

theorem strip_eq_nil_iff : strip p cs = [] ↔ ∀ c ∈ cs, p c = true := by
  refine ⟨fun h c hc => ?_, fun h => ?_⟩
  · have hdropped : ∀ d ∈ cs.dropWhile p, p d = true := stripEnd_eq_nil_iff.1 h
    rw [← List.takeWhile_append_dropWhile (p := p) (l := cs), List.mem_append] at hc
    exact hc.elim List.mem_takeWhile_imp (hdropped c)
  · rw [strip, List.dropWhile_eq_nil_iff.2 h, stripEnd_nil]

/-- Stripping once is enough. -/
theorem strip_strip (p : Char → Bool) (cs : List Char) : strip p (strip p cs) = strip p cs := by
  have hstart : (strip p cs).dropWhile p = strip p cs := by
    refine List.dropWhile_eq_self_iff.2 fun hpos => ?_
    have hbegins : strip p cs <+: cs.dropWhile p := stripEnd_begins p (cs.dropWhile p)
    have hdropped : 0 < (cs.dropWhile p).length := Nat.lt_of_lt_of_le hpos hbegins.length_le
    rw [hbegins.getElem hpos]
    exact List.dropWhile_get_zero_not p cs hdropped
  conv_lhs => rw [strip, hstart]
  exact stripEnd_stripEnd p _

theorem trim_trim (s : String) : trim (trim s) = trim s := by
  rw [← String.toList_inj, toList_trim, toList_trim, strip_strip]

/-- Nothing is stripped off where neither end has anything to lose. -/
theorem strip_eq_self_iff :
    strip p cs = cs ↔ (∀ c ∈ cs.head?, p c = false) ∧ ∀ c ∈ cs.getLast?, p c = false := by
  rw [← dropWhile_eq_self_iff_head?, ← stripEnd_eq_self_iff]
  refine ⟨fun h => ?_, fun ⟨hstart, hend⟩ => by rw [strip, hstart, hend]⟩
  -- neither of the two cuts makes the list shorter
  have hlength : (strip p cs).length ≤ (cs.dropWhile p).length :=
    (stripEnd_begins p (cs.dropWhile p)).length_le
  have hdrop : cs.dropWhile p = cs :=
    (List.dropWhile_suffix p).eq_of_length_le (by rwa [h] at hlength)
  rw [strip, hdrop] at h
  exact ⟨hdrop, h⟩

/-- What stands around a text is lost if it is all of the kind that is stripped off. -/
theorem strip_around (has : ∀ c ∈ as, p c = true) (hbs : ∀ c ∈ bs, p c = true) :
    strip p (as ++ cs ++ bs) = strip p cs := by
  rw [strip, List.append_assoc, List.dropWhile_append_of_pos has, List.dropWhile_append]
  split
  · next hcs =>
    rw [List.isEmpty_iff] at hcs
    rw [List.dropWhile_eq_nil_iff.2 hbs, strip, hcs]
  · rw [stripEnd_append, if_pos (stripEnd_eq_nil_iff.2 hbs), strip]

theorem trim_around {before after : String} (hbefore : isBlankText before = true)
    (hafter : isBlankText after = true) (s : String) : trim (before ++ s ++ after) = trim s := by
  rw [isBlankText, List.all_eq_true] at hbefore hafter
  rw [trim, String.toList_append, String.toList_append, strip_around hbefore hafter, trim]

end ReportSql.Text
