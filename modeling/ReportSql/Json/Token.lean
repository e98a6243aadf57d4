import ReportSql.Json.Value

/-!
# JSON tokens

The smallest parts of a text that is read as JSON, found by going through its characters once.  The
tokens end at the first characters that are none.

## Main definitions

* `JsonToken` — brackets, separators, and values without parts.
* `NumberScan`, `TextScan` — a number or a string that has been read in part.
* `Lexer.step` — one character more.
* `tokens` — the tokens of a text.
-/

namespace ReportSql

/-- The smallest parts of a text. -/
inductive JsonToken where
  | openObject
  | closeObject
  | openArray
  | closeArray
  | colon
  | comma
  | null
  | bool (value : Bool)
  | number (value : Option JsonNumber)
  | text (value : Option String)
  /-- Characters that are no token. -/
  | junk
deriving DecidableEq

/-! ## Numbers -/

/-- The part of a number that was read last. -/
inductive NumberPart where
  | sign
  | zero
  | whole
  | point
  | fraction
  | mark
  | markSign
  | power
deriving DecidableEq

/-- A number while it is read, its digits in reverse. -/
structure NumberScan where
  negative : Bool
  part : NumberPart
  whole : List Char := []
  fraction : List Char := []
  powerNegative : Bool := false
  power : List Char := []

namespace NumberScan

/-- Whether a number may end here. -/
def isComplete (n : NumberScan) : Bool :=
  match n.part with
  | .zero | .whole | .fraction | .power => true
  | _ => false

/-- The token of a number that ends here. -/
def token (n : NumberScan) : JsonToken :=
  let power : Int := Numeral.digitsValue n.power.reverse
  let numeral := Numeral.ofParts n.negative n.whole.reverse n.fraction.reverse
    (if n.powerNegative then -power else power)
  .number (JsonNumber.ofNumeral? (n.part = .zero || n.part = .whole) numeral)

/-- The number with one character more, none if that is no part of a number. -/
def step? (n : NumberScan) (c : Char) : Option NumberScan :=
  match n.part with
  | .sign =>
    if c = '0' then some { n with part := .zero, whole := ['0'] }
    else if c.isDigit then some { n with part := .whole, whole := [c] }
    else none
  | .zero | .whole =>
    if n.part = .whole ∧ c.isDigit then some { n with whole := c :: n.whole }
    else if c = '.' then some { n with part := .point }
    else if c = 'e' ∨ c = 'E' then some { n with part := .mark }
    else none
  | .point => if c.isDigit then some { n with part := .fraction, fraction := [c] } else none
  | .fraction =>
    if c.isDigit then some { n with fraction := c :: n.fraction }
    else if c = 'e' ∨ c = 'E' then some { n with part := .mark }
    else none
  | .mark =>
    if c = '+' then some { n with part := .markSign }
    else if c = '-' then some { n with part := .markSign, powerNegative := true }
    else if c.isDigit then some { n with part := .power, power := [c] }
    else none
  | .markSign => if c.isDigit then some { n with part := .power, power := [c] } else none
  | .power => if c.isDigit then some { n with power := c :: n.power } else none

/-- Whether a number that cannot go on with `c` is no number at all. -/
def isSpoiledBy (n : NumberScan) (c : Char) : Bool :=
  !n.isComplete || (n.part = .zero && c.isDigit)

end NumberScan

/-! ## Strings -/

/-- A string while it is read, its characters in reverse. -/
structure TextScan where
  chars : List Char := []
  /-- Whether every surrogate so far has its partner. -/
  paired : Bool := true
  /-- A first half that waits for the second. -/
  half : Option Nat := none

namespace TextScan

/-- The string with a character more. -/
def push (t : TextScan) (c : Char) : TextScan :=
  { chars := c :: t.chars, paired := t.paired && t.half.isNone }

/-- The string with one UTF-16 unit more. -/
def pushUnit (t : TextScan) (unit : Nat) : TextScan :=
  let isFirst := 0xD800 ≤ unit && unit < 0xDC00
  let isSecond := 0xDC00 ≤ unit && unit < 0xE000
  match t.half with
  | some first =>
    if isSecond then
      { t with
        chars := Char.ofNat (0x10000 + (first - 0xD800) * 0x400 + (unit - 0xDC00)) :: t.chars
        half := none }
    else { t with paired := false, half := none }
  | none =>
    if isFirst then { t with half := some unit }
    else if isSecond then { t with paired := false }
    else t.push (Char.ofNat unit)

/-- The token of a string that ends here. -/
def token (t : TextScan) : JsonToken :=
  .text (if t.paired && t.half.isNone then some (String.ofList t.chars.reverse) else none)

/-- The character that a backslash and a letter stand for. -/
def escape? (c : Char) : Option Char :=
  match c with
  | '"' => some '"'
  | '\\' => some '\\'
  | '/' => some '/'
  | 'b' => some '\x08'
  | 'f' => some '\x0C'
  | 'n' => some '\n'
  | 'r' => some '\r'
  | 't' => some '\t'
  | _ => none

end TextScan

/-! ## The lexer -/

/-- The value of a hexadecimal digit. -/
def hexDigit? (c : Char) : Option Nat :=
  if c.isDigit then some (c.toNat - '0'.toNat)
  else if 'a' ≤ c ∧ c ≤ 'f' then some (c.toNat - 'a'.toNat + 10)
  else if 'A' ≤ c ∧ c ≤ 'F' then some (c.toNat - 'A'.toNat + 10)
  else none

/-- What a text is in the middle of. -/
inductive LexMode where
  | between
  /-- A word, with the letters still to come. -/
  | word (rest : List Char) (token : JsonToken)
  | number (scan : NumberScan)
  | text (scan : TextScan)
  | escape (scan : TextScan)
  /-- A character given by number, with the count of digits still to come. -/
  | unit (scan : TextScan) (left value : Nat)
  /-- After junk. -/
  | spoiled

/-- The tokens read so far, in reverse, and what the text is in the middle of. -/
structure Lexer where
  mode : LexMode := .between
  found : List JsonToken := []

namespace Lexer

/-- The lexer after one token more. -/
def emit (l : Lexer) (t : JsonToken) : Lexer := ⟨.between, t :: l.found⟩

/-- The lexer after characters that are no token. -/
def spoil (l : Lexer) : Lexer := ⟨.spoiled, .junk :: l.found⟩

/-- One character between two tokens. -/
def start (l : Lexer) (c : Char) : Lexer :=
  match c with
  | ' ' | '\t' | '\n' | '\r' => { l with mode := .between }
  | '\x7b' => l.emit .openObject
  | '\x7d' => l.emit .closeObject
  | '[' => l.emit .openArray
  | ']' => l.emit .closeArray
  | ':' => l.emit .colon
  | ',' => l.emit .comma
  | '"' => { l with mode := .text {} }
  | '-' => { l with mode := .number { negative := true, part := .sign } }
  | 'n' => { l with mode := .word ['u', 'l', 'l'] .null }
  | 't' => { l with mode := .word ['r', 'u', 'e'] (.bool true) }
  | 'f' => { l with mode := .word ['a', 'l', 's', 'e'] (.bool false) }
  | c =>
    match NumberScan.step? { negative := false, part := .sign } c with
    | some scan => { l with mode := .number scan }
    | none => l.spoil

/-- One character more. -/
def step (l : Lexer) (c : Char) : Lexer :=
  match l.mode with
  | .between => l.start c
  | .word rest t =>
    match rest with
    | [d] => if c = d then l.emit t else l.spoil
    | d :: rest => if c = d then { l with mode := .word rest t } else l.spoil
    | [] => l.spoil
  | .number scan =>
    match scan.step? c with
    | some scan => { l with mode := .number scan }
    | none => if scan.isSpoiledBy c then l.spoil else (l.emit scan.token).start c
  | .text scan =>
    if c = '"' then l.emit scan.token
    else if c = '\\' then { l with mode := .escape scan }
    else if c.toNat < 0x20 then l.spoil
    else { l with mode := .text (scan.push c) }
  | .escape scan =>
    if c = 'u' then { l with mode := .unit scan 4 0 }
    else
      match TextScan.escape? c with
      | some d => { l with mode := .text (scan.push d) }
      | none => l.spoil
  | .unit scan left value =>
    match hexDigit? c with
    | some d =>
      let value := 16 * value + d
      if left ≤ 1 then { l with mode := .text (scan.pushUnit value) }
      else { l with mode := .unit scan (left - 1) value }
    | none => l.spoil
  | .spoiled => l

/-- The lexer at the end of the text. -/
def finish (l : Lexer) : Lexer :=
  match l.mode with
  | .between | .spoiled => l
  | .number scan => if scan.isComplete then l.emit scan.token else l.spoil
  | _ => l.spoil

end Lexer

/-- The tokens of a text, up to the first junk. -/
def tokens (cs : List Char) : List JsonToken := (cs.foldl Lexer.step {}).finish.found.reverse

end ReportSql
