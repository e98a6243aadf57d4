import ReportSql.Text.Case
import ReportSql.Text.Blank
import ReportSql.Text.Segment

/-!
# Identifiers

Names in query text.  A name between double quotes may hold any character, a double quote being
written twice; a name outside quotes is built of ASCII letters, digits and underscores alone.

## Main definitions

* `quoteLabel` — a name between quotes in the case it was given.
* `quotePart`, `quoteIdentifier` — an upper-cased name between quotes, of one or two parts.
* `nameToken` — a name made safe outside quotes.
* `sanitizeAlias` — an output name made safe and cut to a length.
-/

namespace ReportSql

open Text

/-- The characters of a quoted name, every double quote written twice. -/
def doubleQuotes : List Char → List Char
  | [] => []
  | c :: cs => if c = '"' then '"' :: '"' :: doubleQuotes cs else c :: doubleQuotes cs

/-- A name between quotes, in the case it was given. -/
def quoteLabel (name : String) : String := String.ofList ('"' :: doubleQuotes name.toList ++ ['"'])

/-- An upper-cased name between quotes. -/
def quotePart (name : String) : String := quoteLabel (upper name)

/-- A name between quotes, as two parts around its last dot if it has one. -/
def quoteIdentifier (name : String) : String :=
  match qualifierAndColumn name with
  | some (qualifier, column) => quotePart qualifier ++ "." ++ quotePart column
  | none => quotePart name

/-- A character that may stand in a name outside quotes. -/
def isNameChar (c : Char) : Bool := c.isAlphanum || c == '_'

/-- The characters of a name, with an underscore for each that may not stand outside quotes. -/
def nameChars (cs : List Char) : List Char := cs.map fun c => if isNameChar c then c else '_'

/-- A name made safe outside quotes. -/
def nameToken (name : String) : String := String.ofList (nameChars name.toList)

/-- An output name of at most `length` characters that are safe outside quotes, without underscores
around it, or the fallback when nothing is left of it. -/
def sanitizeAlias (name : String) (length : Nat) (fallback : String) : String :=
  let kept := (strip (· == '_') (nameChars name.toList)).take length
  if kept.isEmpty then fallback else String.ofList kept

theorem isNameChar_of_mem_nameChars {c : Char} {cs : List Char} (h : c ∈ nameChars cs) :
    isNameChar c = true := by
  simp only [nameChars, List.mem_map] at h
  obtain ⟨d, -, rfl⟩ := h
  by_cases hd : isNameChar d = true
  · simp [hd]
  · rw [if_neg hd]
    rfl

@[simp] theorem length_nameChars (cs : List Char) : (nameChars cs).length = cs.length := by
  simp [nameChars]

end ReportSql
