import ReportSql.Json.Token

/-!
# JSON documents

A text read as JSON without a judgement on what it should hold.  Where the text stops being JSON the
document is cut, and all that precedes the cut is kept, so that a reader which walks the document in
order meets a value of the wrong type and a flaw of the text in the order in which they stand.

## Main definitions

* `Document` — the tree of a text, perhaps cut.
* `JsonText` — a document and whether anything but blanks follows it.
* `JsonText.read` — the document of a text, through `tokens` and `assemble`.
* `Document.isSound` — a document that can be passed over.
* `Document.value?` — the value of a document, with the entries of objects in order.
* `Json.document` — the document of a value.
-/

namespace ReportSql

/-- The key of an entry. -/
inductive DocumentKey where
  | text (value : String)
  /-- A string that holds half of a surrogate pair. -/
  | illFormed
  /-- No string stands where the key should. -/
  | missing
deriving DecidableEq

/-- The tree of a text. -/
inductive Document where
  | null
  | bool (value : Bool)
  /-- A number, none when it lies beyond the floating-point numbers. -/
  | number (value : Option JsonNumber)
  /-- A string, none when it holds half of a surrogate pair. -/
  | text (value : Option String)
  | array (items : List Document)
  | object (entries : List (DocumentKey × Document))
  /-- An array or object nested too deep to be read. -/
  | deep (inside : Document)
  /-- The place where the text stops being JSON. -/
  | cut

/-! ## Assembly -/

/-- An array or object that is still open, its depth, and its contents in reverse. -/
inductive OpenContainer where
  | array (depth : Nat) (items : List Document)
  | object (depth : Nat) (entries : List (DocumentKey × Document))

namespace OpenContainer

/-- The greatest depth of nesting that is read. -/
def depthLimit : Nat := 127

/-- The depth of a container. -/
def depth : OpenContainer → Nat
  | .array depth _ => depth
  | .object depth _ => depth

/-- The document of a container that ends here. -/
def close (c : OpenContainer) : Document :=
  let document : Document :=
    match c with
    | .array _ items => .array items.reverse
    | .object _ entries => .object entries.reverse
  if depthLimit < c.depth then .deep document else document

/-- The container that ends in the cut of its text. -/
def closeCut (c : OpenContainer) : Document :=
  match c with
  | .array depth items => close (.array depth (.cut :: items))
  | .object depth entries => close (.object depth ((.missing, .cut) :: entries))

end OpenContainer

/-- A container that waits for a value: its next item, or the value of a key. -/
inductive Waiting where
  | item (depth : Nat) (items : List Document)
  | entry (depth : Nat) (entries : List (DocumentKey × Document)) (key : DocumentKey)

namespace Waiting

/-- The container with the value it waited for. -/
def fill (value : Document) : Waiting → OpenContainer
  | .item depth items => .array depth (value :: items)
  | .entry depth entries key => .object depth ((key, value) :: entries)

/-- The depth of the innermost of some containers. -/
def innermostDepth : List Waiting → Nat
  | [] => 0
  | .item depth _ :: _ => depth
  | .entry depth _ _ :: _ => depth

end Waiting

/-- The outermost document when a value ends all the containers around it. -/
def closeAll (value : Document) : List Waiting → Document
  | [] => value
  | w :: ws => closeAll (w.fill value).close ws

/-- What may come next in a document, inside the containers that are open. -/
inductive AssemblyMode where
  /-- A value; straight after its bracket an array may also end. -/
  | value (mayClose : Bool)
  /-- A key; straight after its brace an object may also end. -/
  | key (depth : Nat) (entries : List (DocumentKey × Document)) (mayClose : Bool)
  | colon (depth : Nat) (entries : List (DocumentKey × Document)) (key : DocumentKey)
  | separator (container : OpenContainer)
  /-- Nothing: the document has ended. -/
  | finished (document : Document) (trailing : Bool)

/-- A document while it is put together. -/
structure Assembly where
  mode : AssemblyMode := .value false
  around : List Waiting := []

namespace Assembly

/-- The assembly after a whole value. -/
def deliver (value : Document) (around : List Waiting) : Assembly :=
  match around with
  | [] => ⟨.finished value false, []⟩
  | w :: ws => ⟨.separator (w.fill value), ws⟩

/-- The assembly after a token that cannot stand where it does. -/
def stop (value : Document) (around : List Waiting) : Assembly :=
  ⟨.finished (closeAll value around) false, []⟩

/-- The document of a token that is a whole value. -/
def ofToken : JsonToken → Document
  | .null => .null
  | .bool b => .bool b
  | .number n => .number n
  | .text s => .text s
  | _ => .cut

/-- One token more. -/
def step (a : Assembly) (t : JsonToken) : Assembly :=
  match a.mode with
  | .value mayClose =>
    match t with
    | .openArray => ⟨.value true, .item (Waiting.innermostDepth a.around + 1) [] :: a.around⟩
    | .openObject => ⟨.key (Waiting.innermostDepth a.around + 1) [] true, a.around⟩
    | .closeArray =>
      match mayClose, a.around with
      | true, .item depth items :: ws => deliver (OpenContainer.array depth items).close ws
      | _, _ => stop .cut a.around
    | .null | .bool _ | .number _ | .text _ => deliver (ofToken t) a.around
    | _ => stop .cut a.around
  | .key depth entries mayClose =>
    match t with
    | .text (some s) => ⟨.colon depth entries (.text s), a.around⟩
    | .text none => ⟨.colon depth entries .illFormed, a.around⟩
    | .closeObject =>
      if mayClose then deliver (OpenContainer.object depth entries).close a.around
      else stop (OpenContainer.object depth entries).closeCut a.around
    | _ => stop (OpenContainer.object depth entries).closeCut a.around
  | .colon depth entries key =>
    match t with
    | .colon => ⟨.value false, .entry depth entries key :: a.around⟩
    | _ => stop (OpenContainer.object depth ((key, .cut) :: entries)).close a.around
  | .separator container =>
    match t, container with
    | .comma, .array depth items => ⟨.value false, .item depth items :: a.around⟩
    | .comma, .object depth entries => ⟨.key depth entries false, a.around⟩
    | .closeArray, .array .. => deliver container.close a.around
    | .closeObject, .object .. => deliver container.close a.around
    | _, _ => stop container.closeCut a.around
  | .finished document _ => ⟨.finished document true, []⟩

/-- The document at the end of the tokens, and whether tokens follow it. -/
def finish (a : Assembly) : Document × Bool :=
  match a.mode with
  | .value _ => (closeAll .cut a.around, false)
  | .key depth entries _ =>
    (closeAll (OpenContainer.object depth entries).closeCut a.around, false)
  | .colon depth entries key =>
    (closeAll (OpenContainer.object depth ((key, .cut) :: entries)).close a.around, false)
  | .separator container => (closeAll container.closeCut a.around, false)
  | .finished document trailing => (document, trailing)

end Assembly

/-- A document, and whether anything but blanks follows it. -/
structure JsonText where
  root : Document
  trailing : Bool

namespace JsonText

/-- The document that some tokens make up. -/
def assemble (ts : List JsonToken) : JsonText :=
  let (root, trailing) := (ts.foldl Assembly.step {}).finish
  ⟨root, trailing⟩

/-- The document of a text. -/
def read (s : String) : JsonText := assemble (tokens s.toList)

end JsonText

/-! ## Values of documents -/

namespace Document

mutual

/-- Whether a document can be passed over: it is JSON, if perhaps too deep to be read or with
numbers and strings that have no value. -/
def isSound : Document → Bool
  | .cut => false
  | .deep inside => inside.isSound
  | .array items => areSound items
  | .object entries => areSoundEntries entries
  | _ => true

@[inherit_doc isSound] def areSound : List Document → Bool
  | [] => true
  | item :: items => item.isSound && areSound items

@[inherit_doc isSound] def areSoundEntries : List (DocumentKey × Document) → Bool
  | [] => true
  | (key, value) :: rest => key ≠ .missing && value.isSound && areSoundEntries rest

end

mutual

/-- The value of a document, with the entries of objects in ascending order of their keys and the
last of several under one key. -/
def value? : Document → Option Json
  | .null => some .null
  | .bool b => some (.bool b)
  | .number n => n.map .number
  | .text s => s.map .text
  | .array items => (values? items).map .array
  | .object entries => (entries? entries []).map .object
  | .deep _ => none
  | .cut => none

/-- The values of a list of documents. -/
def values? : List Document → Option (List Json)
  | [] => some []
  | item :: items =>
    match item.value?, values? items with
    | some v, some vs => some (v :: vs)
    | _, _ => none

/-- The entries of an object put one after another into those that are in order already. -/
def entries? : List (DocumentKey × Document) → List (String × Json) → Option (List (String × Json))
  | [], done => some done
  | (key, document) :: rest, done =>
    match key, document.value? with
    | .text k, some v => entries? rest (insertEntry k v done)
    | _, _ => none

end

end Document

namespace Json

mutual

/-- The document of a value. -/
def document : Json → Document
  | .null => .null
  | .bool b => .bool b
  | .number n => .number (some n)
  | .text s => .text (some s)
  | .array items => .array (documents items)
  | .object entries => .object (documentEntries entries)

/-- The documents of a list of values. -/
def documents : List Json → List Document
  | [] => []
  | item :: items => item.document :: documents items

/-- The documents of the entries of an object. -/
def documentEntries : List (String × Json) → List (DocumentKey × Document)
  | [] => []
  | (key, value) :: rest => (.text key, value.document) :: documentEntries rest

end

end Json

end ReportSql
