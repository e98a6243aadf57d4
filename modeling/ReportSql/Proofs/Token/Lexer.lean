import Mathlib.Data.List.Forall2
import ReportSql.Sql.Identifier

/-!
# Tokens of query text

Query text is made of words, numbers, placeholders, names between double quotes, literals between
single quotes and symbols, with blanks where they help.  A quote within quotes is written twice.

A lexer reads a text from left to right.  What it is in the middle of is its state, so the tokens of
two texts joined are those of each as long as the second does not go on with what the first ended
in.

## Main definitions

* `Token` — the tokens, quoted ones without their quotes.
* `lex` — the tokens of a text, none when a quote stays open.
* `Lexes s ts` — the tokens of a text are these.
* `isPlain` — characters that go on with no token.

## Main statements

* `Lexes.prefixed`, `Lexes.suffixed`, `Lexes.around` — the tokens of texts joined.
* `lexes_quoteLabel` — a quoted name is one token whatever characters it holds.
-/

namespace ReportSql

/-- A token of query text.  Quoted names and literals are given as what they stand for. -/
inductive Token where
  | word (name : String)
  | number (digits : String)
  | placeholder (name : String)
  | quoted (name : String)
  | literal (text : String)
  | symbol (c : Char)
deriving DecidableEq, Repr

/-- What a lexer is in the middle of, with the characters read of it. -/
inductive LexState where
  | blank
  | word (read : List Char)
  | number (read : List Char)
  | colon
  | placeholder (read : List Char)
  | quoted (read : List Char)
  /-- After a double quote that ends a name unless a second one follows. -/
  | quotedEnd (read : List Char)
  | literal (read : List Char)
  /-- After a single quote that ends a literal unless a second one follows. -/
  | literalEnd (read : List Char)

namespace LexState

/-- The token that ends where a lexer stands, if any; none when a quote is open there. -/
def pending? : LexState → Option (List Token)
  | .blank => some []
  | .word cs => some [.word (String.ofList cs)]
  | .number cs => some [.number (String.ofList cs)]
  | .colon => some [.symbol ':']
  | .placeholder cs => some [.placeholder (String.ofList cs)]
  | .quotedEnd cs => some [.quoted (String.ofList cs)]
  | .literalEnd cs => some [.literal (String.ofList cs)]
  | .quoted _ | .literal _ => none

/-- What a character makes when it goes on with nothing. -/
def start (c : Char) : List Token × LexState :=
  if c.isWhitespace then ([], .blank)
  else if c = '"' then ([], .quoted [])
  else if c = '\'' then ([], .literal [])
  else if c = ':' then ([], .colon)
  else if c.isDigit then ([], .number [c])
  else if isNameChar c then ([], .word [c])
  else ([.symbol c], .blank)

/-- The token that ends before a character, and what the character makes. -/
def restart (s : LexState) (c : Char) : List Token × LexState :=
  (s.pending?.getD [] ++ (start c).1, (start c).2)

/-- The tokens that end with one character more, and what the lexer is in the middle of then. -/
def step (s : LexState) (c : Char) : List Token × LexState :=
  match s with
  | .blank => start c
  | .word cs => if isNameChar c then ([], .word (cs ++ [c])) else s.restart c
  | .number cs => if c.isDigit then ([], .number (cs ++ [c])) else s.restart c
  | .colon => if isNameChar c && !c.isDigit then ([], .placeholder [c]) else s.restart c
  | .placeholder cs => if isNameChar c then ([], .placeholder (cs ++ [c])) else s.restart c
  | .quoted cs => ([], if c = '"' then .quotedEnd cs else .quoted (cs ++ [c]))
  | .quotedEnd cs => if c = '"' then ([], .quoted (cs ++ [c])) else s.restart c
  | .literal cs => ([], if c = '\'' then .literalEnd cs else .literal (cs ++ [c]))
  | .literalEnd cs => if c = '\'' then ([], .literal (cs ++ [c])) else s.restart c

/-- The tokens that end within some characters, and what the lexer is in the middle of then. -/
def run (s : LexState) : List Char → List Token × LexState
  | [] => ([], s)
  | c :: cs => ((s.step c).1 ++ ((s.step c).2.run cs).1, ((s.step c).2.run cs).2)

end LexState

open LexState

/-- The tokens of a text, none when a quote stays open. -/
def lex (cs : List Char) : Option (List Token) :=
  (run .blank cs).2.pending?.map ((run .blank cs).1 ++ ·)

/-- A text has these tokens. -/
structure Lexes (s : String) (ts : List Token) : Prop where
  eq : lex s.toList = some ts

/-- The tokens of a text in which every quote is closed. -/
def tokensOf (s : String) : List Token := (lex s.toList).getD []

/-! ## Runs -/

theorem LexState.run_append (s : LexState) (as bs : List Char) :
    s.run (as ++ bs) =
      ((s.run as).1 ++ ((s.run as).2.run bs).1, ((s.run as).2.run bs).2) := by
  induction as generalizing s with
  | nil => simp [run]
  | cons c as ih => simp [run, ih]

theorem LexState.run_singleton (s : LexState) (c : Char) : s.run [c] = s.step c := by
  simp [run]

theorem lex_eq_some_iff {cs : List Char} {ts : List Token} :
    lex cs = some ts ↔
      ∃ p, (run .blank cs).2.pending? = some p ∧ ts = (run .blank cs).1 ++ p := by
  simp only [lex, Option.map_eq_some_iff, eq_comm (a := ts)]

/-! ## Plain characters -/

/-- A character that goes on with no token: no part of a name, no quote and no colon. -/
def isPlain (c : Char) : Bool := !isNameChar c && c != '"' && c != '\'' && c != ':'

section Plain

variable {c : Char} (hc : isPlain c = true)
include hc

theorem isNameChar_of_isPlain : isNameChar c = false := by
  simp only [isPlain, Bool.and_eq_true, Bool.not_eq_true'] at hc
  exact hc.1.1.1

theorem isDigit_of_isPlain : c.isDigit = false := by
  have hname := isNameChar_of_isPlain hc
  simp only [isNameChar, Char.isAlphanum, Bool.or_eq_false_iff] at hname
  exact hname.1.2

theorem ne_quote_of_isPlain : c ≠ '"' ∧ c ≠ '\'' ∧ c ≠ ':' := by
  simpa [isPlain, and_assoc] using And.right (by simpa [isPlain, and_assoc] using hc)

/-- After a plain character a lexer is in the middle of nothing. -/
theorem start_snd_of_isPlain : (start c).2 = .blank := by
  obtain ⟨hquote, happ, hcolon⟩ := ne_quote_of_isPlain hc
  unfold start
  split
  · rfl
  · simp [isDigit_of_isPlain hc, isNameChar_of_isPlain hc]

/-- A plain character ends the token before it. -/
theorem step_of_isPlain {s : LexState} {p : List Token} (hs : s.pending? = some p) :
    s.step c = (p ++ (start c).1, (start c).2) := by
  obtain ⟨hquote, happ, -⟩ := ne_quote_of_isPlain hc
  have hname := isNameChar_of_isPlain hc
  have hdigit := isDigit_of_isPlain hc
  have hrestart : s.restart c = (p ++ (start c).1, (start c).2) := by simp [restart, hs]
  cases s with
  | blank => cases hs; simp [step]
  | word cs => simp [step, hname, hrestart]
  | number cs => simp [step, hdigit, hrestart]
  | colon => simp [step, hname, hrestart]
  | placeholder cs => simp [step, hname, hrestart]
  | quotedEnd cs => simp [step, hquote, hrestart]
  | literalEnd cs => simp [step, happ, hrestart]
  | quoted cs | literal cs => cases hs

/-- Within quotes a plain character leaves a lexer there. -/
theorem pending?_step_of_isPlain {s : LexState} (hs : s.pending? = none) :
    (s.step c).2.pending? = none := by
  obtain ⟨hquote, happ, -⟩ := ne_quote_of_isPlain hc
  cases s with
  | quoted cs => simp [step, hquote, pending?]
  | literal cs => simp [step, happ, pending?]
  | _ => cases hs

end Plain

/-- Whether a text begins with a plain character. -/
def startsPlain (s : String) : Bool := s.toList.head?.any isPlain

/-- Whether a text ends with a plain character. -/
def endsPlain (s : String) : Bool := s.toList.getLast?.any isPlain

/-- After a text that ends with a plain character a lexer is in the middle of nothing. -/
theorem run_of_endsPlain {s : String} {ts : List Token} (h : Lexes s ts)
    (hs : endsPlain s = true) : run .blank s.toList = (ts, .blank) := by
  obtain ⟨c, hlast, hc⟩ := (Option.any_eq_true _ _).1 hs
  obtain ⟨before, hbefore⟩ := List.getLast?_eq_some_iff.1 hlast
  obtain ⟨p, hp, rfl⟩ := lex_eq_some_iff.1 h.eq
  rw [hbefore, run_append, run_singleton] at hp ⊢
  cases hstate : (run .blank before).2.pending? with
  | none =>
    rw [pending?_step_of_isPlain hc hstate] at hp
    cases hp
  | some q =>
    rw [step_of_isPlain hc hstate, start_snd_of_isPlain hc] at hp ⊢
    cases hp
    simp

namespace Lexes

variable {a b k : String} {ts us ks : List Token}

/-- The tokens of two texts, the first of which ends with a plain character. -/
theorem append_of_endsPlain (ha : Lexes a ts) (h : endsPlain a = true) (hb : Lexes b us) :
    Lexes (a ++ b) (ts ++ us) := by
  obtain ⟨p, hp, rfl⟩ := lex_eq_some_iff.1 hb.eq
  refine ⟨lex_eq_some_iff.2 ⟨p, ?_, ?_⟩⟩
  · simp [run_append, run_of_endsPlain ha h, hp]
  · simp [run_append, run_of_endsPlain ha h]

/-- The tokens of two texts, the second of which begins with a plain character. -/
theorem append_of_startsPlain (ha : Lexes a ts) (hb : Lexes b us) (h : startsPlain b = true) :
    Lexes (a ++ b) (ts ++ us) := by
  obtain ⟨c, hhead, hc⟩ := (Option.any_eq_true _ _).1 h
  obtain ⟨rest, hrest⟩ := List.head?_eq_some_iff.1 hhead
  obtain ⟨p, hp, rfl⟩ := lex_eq_some_iff.1 ha.eq
  obtain ⟨q, hq, rfl⟩ := lex_eq_some_iff.1 hb.eq
  rw [hrest, run] at hq
  refine ⟨lex_eq_some_iff.2 ⟨q, ?_, ?_⟩⟩
  · rw [String.toList_append, run_append, hrest, run, step_of_isPlain hc hp]
    exact hq
  · rw [String.toList_append, run_append, hrest, run, run, step_of_isPlain hc hp]
    simp [step]

/-- The tokens of a text after a fixed one. -/
theorem prefixed (ha : Lexes a ts) (k : String) (ks : List Token)
    (hk : Lexes k ks := by exact ⟨rfl⟩) (hend : endsPlain k = true := by rfl) :
    Lexes (k ++ a) (ks ++ ts) :=
  append_of_endsPlain hk hend ha

/-- The tokens of a text before a fixed one. -/
theorem suffixed (ha : Lexes a ts) (k : String) (ks : List Token)
    (hk : Lexes k ks := by exact ⟨rfl⟩) (hstart : startsPlain k = true := by rfl) :
    Lexes (a ++ k) (ts ++ ks) :=
  append_of_startsPlain ha hk hstart

theorem endsPlain_append (h : endsPlain k = true) : endsPlain (a ++ k) = true := by
  obtain ⟨c, hlast, hc⟩ := (Option.any_eq_true _ _).1 h
  simp [endsPlain, List.getLast?_append, hlast, hc]

/-- The tokens of two texts around a fixed one. -/
theorem around (ha : Lexes a ts) (k : String) (ks : List Token) (hb : Lexes b us)
    (hk : Lexes k ks := by exact ⟨rfl⟩) (hstart : startsPlain k = true := by rfl)
    (hend : endsPlain k = true := by rfl) : Lexes (a ++ k ++ b) (ts ++ ks ++ us) :=
  append_of_endsPlain (append_of_startsPlain ha hk hstart) (endsPlain_append hend) hb

/-- Texts made of items have the tokens of these. -/
theorem forall₂_map {α : Type} {text : α → String} {tokens : α → List Token} {as : List α}
    (h : ∀ a ∈ as, Lexes (text a) (tokens a)) :
    List.Forall₂ Lexes (as.map text) (as.map tokens) := by
  rw [List.forall₂_map_left_iff, List.forall₂_map_right_iff, List.forall₂_same]
  exact h

/-- The tokens of several texts with a fixed one between every two. -/
theorem intercalate {parts : List String} {tss : List (List Token)}
    (h : List.Forall₂ Lexes parts tss) (k : String) (ks : List Token)
    (hk : Lexes k ks := by exact ⟨rfl⟩) (hstart : startsPlain k = true := by rfl)
    (hend : endsPlain k = true := by rfl) : Lexes (k.intercalate parts) (ks.intercalate tss) := by
  induction h with
  | nil => exact ⟨rfl⟩
  | @cons a ts parts tss ha h ih =>
    cases h with
    | nil => exact ⟨by simpa [String.toList_intercalate] using ha.eq⟩
    | @cons b us parts tss hb h =>
      have htext : k.intercalate (a :: b :: parts) = a ++ k ++ k.intercalate (b :: parts) := by
        apply String.toList_inj.1
        simp [String.toList_intercalate]
      rw [htext, List.intercalate_cons_cons]
      exact ha.around k ks ih hk hstart hend

end Lexes

theorem lexes_tokensOf {s : String} (h : (lex s.toList).isSome = true) : Lexes s (tokensOf s) := by
  obtain ⟨ts, hts⟩ := Option.isSome_iff_exists.1 h
  exact ⟨by simp [tokensOf, hts]⟩

theorem Lexes.tokensOf_eq {s : String} {ts : List Token} (h : Lexes s ts) : tokensOf s = ts := by
  rw [tokensOf, h.eq, Option.getD_some]

/-! ## Quoted names -/

/-- Within double quotes a name is read up to any double quote that is written once. -/
theorem LexState.run_doubleQuotes (read cs : List Char) :
    run (.quoted read) (doubleQuotes cs) = ([], .quoted (read ++ cs)) := by
  induction cs generalizing read with
  | nil => simp [doubleQuotes, run]
  | cons c cs ih =>
    by_cases hc : c = '"'
    · simp [doubleQuotes, run, step, hc, ih]
    · simp [doubleQuotes, run, step, hc, ih]

/-- **A quoted name is one token**, whatever characters it holds. -/
theorem lexes_quoteLabel (name : String) : Lexes (quoteLabel name) [.quoted name] := by
  refine ⟨lex_eq_some_iff.2 ⟨[.quoted name], ?_, ?_⟩⟩
  · simp [quoteLabel, run, step, start, run_append, run_doubleQuotes, pending?]
  · simp [quoteLabel, run, step, start, run_append, run_doubleQuotes]

theorem lexes_quotePart (name : String) : Lexes (quotePart name) [.quoted (Text.upper name)] :=
  lexes_quoteLabel (Text.upper name)

/-! ## Numbers and placeholders -/

/-- A name outside quotes: an ASCII letter or an underscore, then also digits. -/
def isName : List Char → Bool
  | [] => false
  | c :: cs => isNameChar c && !c.isDigit && cs.all isNameChar

theorem LexState.run_number (read : List Char) {cs : List Char}
    (h : ∀ c ∈ cs, c.isDigit = true) : run (.number read) cs = ([], .number (read ++ cs)) := by
  induction cs generalizing read with
  | nil => simp [run]
  | cons c cs ih =>
    have hc : c.isDigit = true := h c (by simp)
    have hrest := ih (read ++ [c]) fun d hd => h d (by simp [hd])
    simp [run, step, hc, hrest]

theorem LexState.run_placeholder (read : List Char) {cs : List Char}
    (h : ∀ c ∈ cs, isNameChar c = true) :
    run (.placeholder read) cs = ([], .placeholder (read ++ cs)) := by
  induction cs generalizing read with
  | nil => simp [run]
  | cons c cs ih =>
    have hc : isNameChar c = true := h c (by simp)
    have hrest := ih (read ++ [c]) fun d hd => h d (by simp [hd])
    simp [run, step, hc, hrest]

theorem isDigit_of_mem_repr {n : Nat} {c : Char} (h : c ∈ n.repr.toList) : c.isDigit = true := by
  rw [Nat.toList_repr] at h
  exact Nat.isDigit_of_mem_toDigits (by decide) (by decide) h

theorem LexState.start_of_isDigit {c : Char} (hc : c.isDigit = true) :
    start c = ([], .number [c]) := by
  have hblank : c.isWhitespace = false := by
    simp only [Char.isWhitespace, Bool.or_eq_false_iff, decide_eq_false_iff_not]
    refine ⟨⟨⟨?_, ?_⟩, ?_⟩, ?_⟩ <;> rintro rfl <;> simp at hc
  have hne : c ≠ '"' ∧ c ≠ '\'' ∧ c ≠ ':' := by
    refine ⟨?_, ?_, ?_⟩ <;> rintro rfl <;> simp at hc
  simp [start, hblank, hne, hc]

/-- A decimal number is one token. -/
theorem lexes_repr (n : Nat) : Lexes n.repr [.number n.repr] := by
  have hdigits : ∀ c ∈ n.repr.toList, c.isDigit = true := fun c hc => isDigit_of_mem_repr hc
  obtain ⟨c, cs, hcs⟩ : ∃ c cs, n.repr.toList = c :: cs := by
    rw [Nat.toList_repr]
    exact List.exists_cons_of_ne_nil Nat.toDigits_ne_nil
  rw [hcs] at hdigits
  have hstart : start c = ([], .number [c]) := start_of_isDigit (hdigits c (by simp))
  have hrest : run (.number [c]) cs = ([], .number ([c] ++ cs)) :=
    run_number [c] fun d hd => hdigits d (List.mem_cons_of_mem c hd)
  have hname : String.ofList (c :: cs) = n.repr := by rw [← hcs, String.ofList_toList]
  refine ⟨lex_eq_some_iff.2 ⟨[.number n.repr], ?_, ?_⟩⟩
  · simp [hcs, run, step, hstart, hrest, pending?, hname]
  · simp [hcs, run, step, hstart, hrest]

/-- A colon and a name are one token. -/
theorem lexes_placeholder {name : String} (h : isName name.toList = true) :
    Lexes (":" ++ name) [.placeholder name] := by
  obtain ⟨c, cs, hcs⟩ : ∃ c cs, name.toList = c :: cs := by
    refine List.exists_cons_of_ne_nil fun hnil => ?_
    rw [hnil] at h
    cases h
  rw [hcs, isName, Bool.and_eq_true, List.all_eq_true] at h
  obtain ⟨hfirst, hrest⟩ := h
  have hrun := run_placeholder [c] hrest
  have hname : String.ofList (c :: cs) = name := by rw [← hcs, String.ofList_toList]
  have hstart : start ':' = ([], .colon) := rfl
  refine ⟨lex_eq_some_iff.2 ⟨[.placeholder name], ?_, ?_⟩⟩
  · simp [hcs, run, step, hstart, hfirst, hrun, pending?, hname]
  · simp [hcs, run, step, hstart, hfirst, hrun]

end ReportSql
