/-!
# Blank space

Which characters count as blank, and how runs of unwanted characters are cut off the two ends of a
text.  Texts are handled as lists of characters; the functions on `String` wrap those.

## Main definitions

* `isBlank` — Unicode's `White_Space` property.
* `strip p` — a list without the characters satisfying `p` at either end.
* `trim` — a text without blanks at either end.
-/

namespace ReportSql.Text

/-- A blank character: one with Unicode's `White_Space` property. -/
def isBlank (c : Char) : Bool :=
  let n := c.toNat
  (9 ≤ n && n ≤ 13) || n == 0x20 || n == 0x85 || n == 0xA0 || n == 0x1680 ||
    (0x2000 ≤ n && n ≤ 0x200A) || n == 0x2028 || n == 0x2029 || n == 0x202F || n == 0x205F ||
    n == 0x3000

variable (p : Char → Bool)

/-- A list without the characters satisfying `p` at its end. -/
def stripEnd (cs : List Char) : List Char := (cs.reverse.dropWhile p).reverse

/-- A list without the characters satisfying `p` at either end. -/
def strip (cs : List Char) : List Char := stripEnd p (cs.dropWhile p)

/-- A text without blanks at either end. -/
def trim (s : String) : String := String.ofList (strip isBlank s.toList)

/-- A text of blanks alone. -/
def isBlankText (s : String) : Bool := s.toList.all isBlank

@[simp] theorem stripEnd_nil : stripEnd p [] = [] := rfl

@[simp] theorem strip_nil : strip p [] = [] := rfl

@[simp] theorem toList_trim (s : String) : (trim s).toList = strip isBlank s.toList := by
  simp [trim]

/-- What core calls whitespace is blank. -/
theorem isBlank_of_isWhitespace {c : Char} (h : c.isWhitespace = true) : isBlank c = true := by
  simp only [Char.isWhitespace, Bool.or_eq_true, decide_eq_true_eq] at h
  rcases h with ((rfl | rfl) | rfl) | rfl <;> rfl

end ReportSql.Text
