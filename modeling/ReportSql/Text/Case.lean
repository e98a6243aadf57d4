import ReportSql.Text.CaseTable

/-!
# Letter case

Full Unicode case mapping of texts, and the comparison that ignores the case of ASCII letters
alone.  Upper-casing works character by character; lower-casing looks around a capital sigma, which
has another small form at the end of a word.

## Main definitions

* `upper`, `lower` — a text in upper or lower case.
* `sameFolded` — equality up to the case of ASCII letters.
-/

namespace ReportSql.Text

/-- The image of a character under the runs and sequences of one mapping. -/
def mapped (runs : List CaseRun) (sequences : List (Nat × List Nat)) (c : Char) : List Char :=
  match sequences.lookup c.toNat with
  | some image => image.map Char.ofNat
  | none =>
    match runs.find? (·.covers c.toNat) with
    | some run => [Char.ofNat (run.apply c.toNat)]
    | none => [c]

/-- The upper case of a character, which may be a sequence. -/
def upperChar (c : Char) : List Char :=
  if c.toNat < 128 then [c.toUpper] else mapped upperRuns upperSequences c

/-- The lower case of a character away from the end of a word. -/
def lowerChar (c : Char) : List Char :=
  if c.toNat < 128 then [c.toLower] else mapped lowerRuns lowerSequences c

/-- A text in upper case. -/
def upper (s : String) : String := String.ofList (s.toList.flatMap upperChar)

/-- Whether a cased letter comes first once the characters that case ignores are skipped. -/
def meetsCased (cs : List Char) : Bool :=
  match cs.dropWhile (fun c => inRanges caseIgnorableRanges c.toNat) with
  | c :: _ => inRanges casedRanges c.toNat
  | [] => false

/-- The lower case of a list of characters that follows `before`, which is given in reverse.  A
capital sigma after a cased letter and before none becomes a final sigma. -/
def lowerFrom (before : List Char) : List Char → List Char
  | [] => []
  | c :: cs =>
    let image :=
      if c = 'Σ' then (if meetsCased before && !meetsCased cs then ['ς'] else ['σ'])
      else lowerChar c
    image ++ lowerFrom (c :: before) cs

/-- A text in lower case. -/
def lower (s : String) : String := String.ofList (lowerFrom [] s.toList)

/-- Equality up to the case of ASCII letters. -/
def sameFolded (a b : String) : Bool := a.toList.map Char.toLower == b.toList.map Char.toLower

@[simp] theorem toList_upper (s : String) : (upper s).toList = s.toList.flatMap upperChar := by
  simp [upper]

theorem upper_append (a b : String) : upper (a ++ b) = upper a ++ upper b := by
  apply String.toList_inj.1
  simp

@[simp] theorem sameFolded_self (a : String) : sameFolded a a = true := by simp [sameFolded]

theorem sameFolded_comm (a b : String) : sameFolded a b = sameFolded b a := by
  rw [sameFolded, sameFolded, Bool.beq_comm]

end ReportSql.Text
