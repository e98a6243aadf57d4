import ReportSql.Decimal.Numeral
import ReportSql.Decimal.Shortest
import ReportSql.Dict

/-!
# JSON values

The values of JSON and their compact text.  A number is a whole number of 64 bits, with or without
a sign, or a floating-point number.  An object keeps its entries in the order in which it was built.

## Main definitions

* `JsonNumber`, `Json` — numbers and values.
* `JsonNumber.ofNumeral?` — the number that a numeral stands for.
* `Json.render` — the compact text of a value.
* `Json.sorted` — a value with the entries of all objects in ascending order of their keys.
-/

namespace ReportSql

/-- A JSON number.  A whole number up to `2 ^ 63` in size is an `int`, a larger one below `2 ^ 64`
a `natural`, and all else a `float`. -/
inductive JsonNumber where
  | int (value : Int)
  | natural (value : Nat)
  | float (value : Double)
deriving DecidableEq, Repr

namespace JsonNumber

/-- The number of an unbroken run of digits. -/
def ofWhole (negative : Bool) (n : Nat) : JsonNumber :=
  if negative then
    if n = 0 ∨ Nat.pow 2 63 < n then .float (Double.ofRatio true n 1) else .int (-(n : Int))
  else if n < Nat.pow 2 63 then .int n
  else if n < Nat.pow 2 64 then .natural n
  else .float (Double.ofNat n)

/-- The number of a numeral, none when it lies beyond the floating-point numbers. -/
def ofNumeral? (isWhole : Bool) (n : Numeral) : Option JsonNumber :=
  let number := if isWhole then ofWhole n.negative n.coefficient else .float n.toDouble
  match number with
  | .float x => if x.isFinite then some number else none
  | _ => some number

end JsonNumber

/-- A JSON value. -/
inductive Json where
  | null
  | bool (value : Bool)
  | number (value : JsonNumber)
  | text (value : String)
  | array (items : List Json)
  | object (entries : List (String × Json))

namespace Json

/-! ## Order of entries -/

mutual

/-- A value with the entries of all objects in ascending order of their keys, the last of several
under one key. -/
def sorted : Json → Json
  | .array items => .array (sortedItems items)
  | .object entries => .object (sortedEntries entries []) 
  | value => value

@[inherit_doc sorted] def sortedItems : List Json → List Json
  | [] => []
  | item :: items => item.sorted :: sortedItems items

/-- Entries put one after another into those that are in order already. -/
def sortedEntries : List (String × Json) → List (String × Json) → List (String × Json)
  | [], done => done
  | (key, value) :: rest, done => sortedEntries rest (insertEntry key value.sorted done)

end

/-! ## Text -/

/-- A character inside a JSON string: quotes, backslashes and controls are escaped. -/
def escaped (c : Char) : List Char :=
  match c with
  | '"' => ['\\', '"']
  | '\\' => ['\\', '\\']
  | '\x08' => ['\\', 'b']
  | '\x0C' => ['\\', 'f']
  | '\n' => ['\\', 'n']
  | '\r' => ['\\', 'r']
  | '\t' => ['\\', 't']
  | c =>
    if c.toNat < 0x20 then
      ['\\', 'u', '0', '0', Nat.digitChar (c.toNat / 16), Nat.digitChar (c.toNat % 16)]
    else [c]

/-- A text as a JSON string. -/
def renderText (s : String) : String := String.ofList ('"' :: s.toList.flatMap escaped ++ ['"'])

/-- A floating-point number is written with a point, and with a power of ten when its first digit
stands below `10 ^ -5` or above `10 ^ 15`. -/
def numberStyle : DecimalStyle := ⟨fun power => -5 ≤ power && power < 16, true, .even⟩

/-- A floating-point number in JSON, which has no text for an infinity or a NaN. -/
def renderDouble : Double → String
  | .finite negative m e => Double.finiteText numberStyle negative m e
  | _ => "null"

/-- A whole number in decimal digits. -/
def renderInt : Int → String
  | .ofNat n => n.repr
  | .negSucc n => "-" ++ (n + 1).repr

/-- A number in JSON. -/
def renderNumber : JsonNumber → String
  | .int i => renderInt i
  | .natural n => n.repr
  | .float x => renderDouble x

mutual

/-- The compact text of a value. -/
def render : Json → String
  | .null => "null"
  | .bool b => if b then "true" else "false"
  | .number n => renderNumber n
  | .text s => renderText s
  | .array items => "[" ++ ",".intercalate (renderItems items) ++ "]"
  | .object entries => "\x7b" ++ ",".intercalate (renderEntries entries) ++ "\x7d"

/-- The texts of the items of an array. -/
def renderItems : List Json → List String
  | [] => []
  | item :: items => item.render :: renderItems items

/-- The texts of the entries of an object. -/
def renderEntries : List (String × Json) → List String
  | [] => []
  | (key, value) :: rest => (renderText key ++ ":" ++ value.render) :: renderEntries rest

end

/-- `null` for none. -/
def ofOption {α : Type} (f : α → Json) : Option α → Json
  | none => .null
  | some a => f a

/-- An array of the images of a list. -/
def ofList {α : Type} (f : α → Json) (items : List α) : Json := .array (items.map f)

/-- An object of the images of a dictionary. -/
def ofDict {α : Type} (f : α → Json) (d : Dict α) : Json :=
  .object (d.entries.map fun e => (e.1, f e.2))

/-- Whether an object has an entry under a key. -/
def hasKey (entries : List (String × Json)) (key : String) : Bool :=
  entries.any fun e => e.1 == key

end Json

end ReportSql
