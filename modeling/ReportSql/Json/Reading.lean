import ReportSql.Json.Document
import ReportSql.Json.Fault

/-!
# Reading typed values

Readers take a document apart in the order of its text and stop at the first fault.  A record is
read from an object, whose entries may stand in any order and may include unknown ones, or from an
array of its fields in the order of their declaration.

## Main definitions

* `Reader` — a function from documents to values or a fault.
* `readText`, `readFlag`, `readNatural`, `readList`, `readDict`, `readOptional` — plain values.
* `readChoice` — one of several named alternatives.
* `RecordField`, `readRecord` — records.
* `Reader.runText` — the value of a whole text.
-/

namespace ReportSql

variable {α β ρ : Type}

/-- A way to read a value of some type from a document. -/
abbrev Reader (α : Type) := Document → Except Fault α

namespace Document

/-- What a document is, if it is anything. -/
def found? : Document → Option Found
  | .null => some .null
  | .bool b => some (.bool b)
  | .number n => n.map .number
  | .text s => s.map .text
  | .array _ => some .sequence
  | .object _ => some .map
  | .deep inside => inside.found?
  | .cut => none

/-- The fault of a document that is not what was expected. -/
def mistyped (d : Document) (expected : Expected) : Fault :=
  match d.found? with
  | some found => .wrongType found expected
  | none => .notJson

end Document

/-! ## Plain values -/

/-- Reads a string. -/
def readText : Reader String
  | .text (some s) => .ok s
  | d => .error (d.mistyped .text)

/-- Reads `true` or `false`. -/
def readFlag : Reader Bool
  | .bool b => .ok b
  | d => .error (d.mistyped .boolean)

/-- Reads a whole number of 64 bits without a sign. -/
def readNatural : Reader Nat
  | .number (some (.int i)) =>
    if 0 ≤ i then .ok i.toNat else .error (.wrongValue (.number (.int i)) .natural)
  | .number (some (.natural n)) => .ok n
  | d => .error (d.mistyped .natural)

/-- Reads any value that is not too deep. -/
def readAny : Reader Json := fun d =>
  match d.value? with
  | some value => .ok value
  | none => .error .notJson

/-- Reads `null` as none and all else as a value. -/
def readOptional (read : Reader α) : Reader (Option α)
  | .null => .ok none
  | d => (read d).map some

/-- Reads the items of an array. -/
def readList (read : Reader α) : Reader (List α)
  | .array items => items.mapM read
  | d => .error (d.mistyped .sequence)

/-- Reads the entries of an object one after another into a dictionary. -/
def readEntriesInto (read : Reader α) :
    List (DocumentKey × Document) → Dict α → Except Fault (Dict α)
  | [], done => .ok done
  | (.text key, d) :: rest, done => do
    let value ← read d
    readEntriesInto read rest (done.insert key value)
  | _ :: _, _ => .error .notJson

/-- Reads an object as a dictionary. -/
def readDict (read : Reader α) : Reader (Dict α)
  | .object entries => readEntriesInto read entries .empty
  | d => .error (d.mistyped .map)

/-! ## Choices -/

/-- Whether a document is read straight from a text, or from a value that had been read before.  The
two report a choice of the wrong type differently. -/
inductive Origin where
  | text
  | value
deriving DecidableEq

/-- The alternative of a name. -/
def findChoice (choices : List (String × α)) (name : String) : Except Fault α :=
  match choices.lookup name with
  | some a => .ok a
  | none => .error (.unknownChoice name (choices.map Prod.fst))

/-- The `null` that stands beside the name of an alternative. -/
def readUnit : Reader Unit
  | .null => .ok ()
  | d => .error (d.mistyped .unit)

/-- Reads a choice straight from a text. -/
def readTextChoice (choices : List (String × α)) : Reader α
  | .text (some name) => findChoice choices name
  | .object ((.text name, d) :: rest) => do
    let a ← findChoice choices name
    readUnit d
    if rest.isEmpty then .ok a else .error .notJson
  | _ => .error .notJson

/-- Reads a choice from a value. -/
def readValueChoice (choices : List (String × α)) : Reader α
  | .text (some name) => findChoice choices name
  | .object [(.text name, d)] => do
    let a ← findChoice choices name
    readUnit d
    .ok a
  | .object _ => .error (.wrongValue .map .singleEntry)
  | d => .error (d.mistyped .choice)

/-- Reads one of several named alternatives: its name, or an object with `null` under its name. -/
def readChoice (origin : Origin) (choices : List (String × α)) : Reader α :=
  match origin with
  | .text => readTextChoice choices
  | .value => readValueChoice choices

/-! ## Records -/

/-- A field of a record: its names, whether it may be left out, and how it is put in place. -/
structure RecordField (ρ : Type) where
  name : String
  aliases : List String
  isRequired : Bool
  put : Document → ρ → Except Fault ρ

namespace RecordField

/-- A field read by `read` and put in place by `set`. -/
def of (name : String) (aliases : List String) (isRequired : Bool) (read : Reader α)
    (set : α → ρ → ρ) : RecordField ρ where
  name
  aliases
  isRequired
  put d r := (read d).map fun a => set a r

/-- Whether a key names a field. -/
def answersTo (f : RecordField ρ) (key : String) : Bool := f.name == key || f.aliases.contains key

end RecordField

/-- Reads the entries of an object into a record, with the names of the fields met so far. -/
def readFields (fields : List (RecordField ρ)) :
    List (DocumentKey × Document) → List String → ρ → Except Fault ρ
  | [], met, r =>
    match fields.find? fun f => f.isRequired && !met.contains f.name with
    | some f => .error (.missingField f.name)
    | none => .ok r
  | (.text key, d) :: rest, met, r =>
    match fields.find? (·.answersTo key) with
    | some f =>
      if met.contains f.name then .error (.duplicateField f.name)
      else do
        let r ← f.put d r
        readFields fields rest (f.name :: met) r
    | none => if d.isSound then readFields fields rest met r else .error .notJson
  | _ :: _, _, _ => .error .notJson

/-- Reads the items of an array into a record, the first of them at position `index`. -/
def readPositions (title : String) (count : Nat) :
    Nat → List (RecordField ρ) → List Document → ρ → Except Fault ρ
  | _, [], [], r => .ok r
  | _, [], _ :: _, _ => .error .notJson
  | index, f :: fs, [], r =>
    if f.isRequired then .error (.wrongLength index title count)
    else readPositions title count (index + 1) fs [] r
  | index, f :: fs, d :: ds, r => do
    let r ← f.put d r
    readPositions title count (index + 1) fs ds r

/-- Reads a record over `blank`, which holds what fields left out stand for. -/
def readRecord (title : String) (fields : List (RecordField ρ)) (blank : ρ) : Reader ρ
  | .object entries => readFields fields entries [] blank
  | .array items => readPositions title fields.length 0 fields items blank
  | d => .error (d.mistyped (.record title))

/-! ## Whole texts -/

/-- The value of a whole text, after which only blanks may stand. -/
def Reader.runText (read : Reader α) (s : String) : Except Fault α := do
  let t := JsonText.read s
  let a ← read t.root
  if t.trailing then .error .notJson else .ok a

end ReportSql
