/-!
# Searching a text

## Main definitions

* `holds` — whether a text contains another as a run of consecutive characters.
-/

namespace ReportSql.Text

/-- Whether `needle` begins at some position of a list. -/
def occursIn (needle : List Char) : List Char → Bool
  | [] => needle.isEmpty
  | c :: cs => needle.isPrefixOf (c :: cs) || occursIn needle cs

/-- Whether a text contains another as a run of consecutive characters. -/
def holds (s needle : String) : Bool := occursIn needle.toList s.toList

end ReportSql.Text
