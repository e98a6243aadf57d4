import ReportSql.Proofs.RoundTrip.Requests

/-!
# The numbers of texts

Whatever text is read as JSON, the numbers of its document are held: a numeral beyond the
floating-point numbers has no value.  So a request that is read from a text has only scalars that
can be written.

## Main definitions

* `JsonToken.IsHeld`, `Lexer.IsHeld` — tokens with held numbers, and a lexer that found no others.
* `OpenContainer.IsHeld`, `Assembly.IsHeld` — a document that is put together of them.

## Main statements

* `isHeld_of_mem_tokens` — the tokens of a text have held numbers.
* `isHeld_root` — and so has its document.
* `Request.isStable_of_readRequest` — the scalars of a request that is read can be written.
-/

namespace ReportSql

/-! ## Numbers -/

namespace JsonNumber

/-- A whole number that is not taken for a floating-point number has 64 bits. -/
theorem isHeld_ofWhole {negative : Bool} {n : Nat} (h : ∀ x, ofWhole negative n ≠ .float x) :
    (ofWhole negative n).IsHeld := by
  unfold ofWhole at h ⊢
  have hpow : Nat.pow 2 64 = 2 * Nat.pow 2 63 := rfl
  split
  · split
    · next hlarge => simp_all
    · next hsmall =>
      rw [not_or] at hsmall
      rw [IsHeld, fitsInt64, Bool.and_eq_true, decide_eq_true_eq, decide_eq_true_eq]
      omega
  · split
    · next hsmall =>
      rw [IsHeld, fitsInt64, Bool.and_eq_true, decide_eq_true_eq, decide_eq_true_eq]
      omega
    · next hlarge =>
      split
      · next hnatural => exact ⟨by omega, hnatural⟩
      · next hpast => simp_all

/-- A number that has a value is held. -/
theorem isHeld_of_ofNumeral? {isWhole : Bool} {numeral : Numeral} {n : JsonNumber}
    (h : ofNumeral? isWhole numeral = some n) : n.IsHeld := by
  unfold ofNumeral? at h
  dsimp only at h
  split at h
  · next x hnumber =>
    split at h
    · next hfinite =>
      rw [hnumber] at h
      cases h
      exact hfinite
    · cases h
  · next hwhole =>
    cases h
    cases isWhole with
    | true => exact isHeld_ofWhole hwhole
    | false => exact absurd rfl (hwhole _)

end JsonNumber

/-! ## Tokens -/

/-- A token whose number is held. -/
def JsonToken.IsHeld : JsonToken → Prop
  | .number n => ∀ m ∈ n, m.IsHeld
  | _ => True

namespace Lexer

/-- All tokens that were found have held numbers, and so has the word that is being read. -/
structure IsHeld (l : Lexer) : Prop where
  found : ∀ t ∈ l.found, t.IsHeld
  word : ∀ rest t, l.mode = .word rest t → t.IsHeld

variable {l : Lexer} {t : JsonToken}

theorem IsHeld.emit (h : l.IsHeld) (ht : t.IsHeld) : (l.emit t).IsHeld :=
  ⟨List.forall_mem_cons.2 ⟨ht, h.found⟩, fun _ _ hmode => by cases hmode⟩

theorem IsHeld.spoil (h : l.IsHeld) : l.spoil.IsHeld :=
  ⟨List.forall_mem_cons.2 ⟨trivial, h.found⟩, fun _ _ hmode => by cases hmode⟩

/-- A number or a string, or what stands between tokens, has no word that could hold a number. -/
theorem IsHeld.inMode (h : l.IsHeld) {mode : LexMode} (hmode : ∀ rest t, mode ≠ .word rest t) :
    ({ l with mode } : Lexer).IsHeld :=
  ⟨h.found, fun rest t heq => absurd heq (hmode rest t)⟩

theorem isHeld_token (scan : NumberScan) : scan.token.IsHeld :=
  fun _ hm => JsonNumber.isHeld_of_ofNumeral? hm

theorem IsHeld.start (h : l.IsHeld) (c : Char) : (l.start c).IsHeld := by
  have hword : ∀ rest t, t.IsHeld → ({ l with mode := .word rest t } : Lexer).IsHeld := by
    intro rest t ht
    refine ⟨h.found, fun rest' t' hmode => ?_⟩
    cases hmode
    exact ht
  unfold Lexer.start
  split
  case h_16 =>
    split
    · exact h.inMode (by simp)
    · exact h.spoil
  all_goals first
    | exact h.emit trivial
    | exact hword _ _ trivial
    | exact h.inMode (by simp)

/-- **One character more leaves the tokens with held numbers.** -/
theorem IsHeld.step (h : l.IsHeld) (c : Char) : (l.step c).IsHeld := by
  unfold Lexer.step
  split
  case h_1 => exact h.start c
  case h_2 rest t hmode =>
    have ht := h.word _ _ hmode
    split
    · split
      · exact h.emit ht
      · exact h.spoil
    · split
      · refine ⟨h.found, fun rest' t' hmode' => ?_⟩
        cases hmode'
        exact ht
      · exact h.spoil
    · exact h.spoil
  case h_3 scan hmode =>
    split
    · exact h.inMode (by simp)
    · split
      · exact h.spoil
      · exact (h.emit (isHeld_token scan)).start c
  case h_4 scan hmode =>
    split
    · exact h.emit trivial
    · split
      · exact h.inMode (by simp)
      · split
        · exact h.spoil
        · exact h.inMode (by simp)
  case h_5 scan hmode =>
    split
    · exact h.inMode (by simp)
    · split
      · exact h.inMode (by simp)
      · exact h.spoil
  case h_6 scan left value hmode =>
    split
    · dsimp only
      split
      · exact h.inMode (by simp)
      · exact h.inMode (by simp)
    · exact h.spoil
  case h_7 => exact h

theorem IsHeld.finish (h : l.IsHeld) : l.finish.IsHeld := by
  unfold Lexer.finish
  split
  · exact h
  · exact h
  · next scan hmode =>
    split
    · exact h.emit (isHeld_token scan)
    · exact h.spoil
  · exact h.spoil

end Lexer

/-- **The tokens of a text have held numbers.** -/
theorem isHeld_of_mem_tokens (cs : List Char) : ∀ t ∈ tokens cs, t.IsHeld := by
  have hrun : ∀ (cs : List Char) (l : Lexer), l.IsHeld → (cs.foldl Lexer.step l).IsHeld := by
    intro cs
    induction cs with
    | nil => exact fun _ h => h
    | cons c cs ih => exact fun l h => ih _ (h.step c)
  have hempty : ({} : Lexer).IsHeld := ⟨by simp, fun _ _ hmode => by cases hmode⟩
  intro t ht
  exact (hrun cs {} hempty).finish.found t (List.mem_reverse.1 ht)

/-! ## Documents -/

/-- An open container whose contents have held numbers. -/
def OpenContainer.IsHeld : OpenContainer → Prop
  | .array _ items => ∀ item ∈ items, item.IsHeld
  | .object _ entries => ∀ e ∈ entries, e.2.IsHeld

theorem isHeld_cut : Document.cut.IsHeld := by simp [Document.IsHeld]

namespace OpenContainer

variable {c : OpenContainer}

theorem IsHeld.close (h : c.IsHeld) : c.close.IsHeld := by
  cases c with
  | array depth items =>
    have hitems : (Document.array items.reverse).IsHeld :=
      Document.isHeld_array.2 fun item hitem => h item (List.mem_reverse.1 hitem)
    unfold OpenContainer.close
    dsimp only
    split
    · rwa [Document.IsHeld]
    · exact hitems
  | object depth entries =>
    have hentries : (Document.object entries.reverse).IsHeld :=
      Document.isHeld_object.2 fun e he => h e (List.mem_reverse.1 he)
    unfold OpenContainer.close
    dsimp only
    split
    · rwa [Document.IsHeld]
    · exact hentries

theorem IsHeld.closeCut (h : c.IsHeld) : c.closeCut.IsHeld := by
  cases c with
  | array depth items =>
    exact IsHeld.close (c := .array _ _) (List.forall_mem_cons.2 ⟨isHeld_cut, h⟩)
  | object depth entries =>
    exact IsHeld.close (c := .object _ _) (List.forall_mem_cons.2 ⟨isHeld_cut, h⟩)

end OpenContainer

/-- A container that waits for a value, and whose contents have held numbers. -/
def Waiting.IsHeld : Waiting → Prop
  | .item _ items => ∀ item ∈ items, item.IsHeld
  | .entry _ entries _ => ∀ e ∈ entries, e.2.IsHeld

theorem Waiting.IsHeld.fill {w : Waiting} (h : w.IsHeld) {value : Document}
    (hvalue : value.IsHeld) : (w.fill value).IsHeld := by
  cases w with
  | item depth items => exact List.forall_mem_cons.2 ⟨hvalue, h⟩
  | entry depth entries key => exact List.forall_mem_cons.2 ⟨hvalue, h⟩

theorem isHeld_closeAll {value : Document} {ws : List Waiting} (hvalue : value.IsHeld)
    (hws : ∀ w ∈ ws, w.IsHeld) : (closeAll value ws).IsHeld := by
  induction ws generalizing value with
  | nil => exact hvalue
  | cons w ws ih =>
    obtain ⟨hw, hws⟩ := List.forall_mem_cons.1 hws
    exact ih (hw.fill hvalue).close hws

/-- A document in the making that has held numbers so far. -/
def AssemblyMode.IsHeld : AssemblyMode → Prop
  | .value _ => True
  | .key _ entries _ => ∀ e ∈ entries, e.2.IsHeld
  | .colon _ entries _ => ∀ e ∈ entries, e.2.IsHeld
  | .separator container => container.IsHeld
  | .finished document _ => document.IsHeld

namespace Assembly

/-- All parts that were read have held numbers. -/
structure IsHeld (a : Assembly) : Prop where
  mode : a.mode.IsHeld
  around : ∀ w ∈ a.around, w.IsHeld

variable {a : Assembly} {t : JsonToken} {value : Document} {ws : List Waiting}

theorem isHeld_deliver (hvalue : value.IsHeld) (hws : ∀ w ∈ ws, w.IsHeld) :
    (deliver value ws).IsHeld := by
  cases ws with
  | nil => exact ⟨hvalue, by simp [deliver]⟩
  | cons w ws =>
    obtain ⟨hw, hws⟩ := List.forall_mem_cons.1 hws
    exact ⟨hw.fill hvalue, hws⟩

theorem isHeld_stop (hvalue : value.IsHeld) (hws : ∀ w ∈ ws, w.IsHeld) :
    (stop value ws).IsHeld :=
  ⟨isHeld_closeAll hvalue hws, by simp [stop]⟩

/-- A token where a value may stand. -/
theorem IsHeld.step_value {mayClose : Bool} {around : List Waiting}
    (haround : ∀ w ∈ around, w.IsHeld) (ht : t.IsHeld) :
    (Assembly.step ⟨.value mayClose, around⟩ t).IsHeld := by
  have hstop : (stop .cut around).IsHeld := isHeld_stop isHeld_cut haround
  have hempty : (Waiting.item (Waiting.innermostDepth around + 1) []).IsHeld := by
    simp [Waiting.IsHeld]
  cases t with
  | openArray => exact ⟨trivial, List.forall_mem_cons.2 ⟨hempty, haround⟩⟩
  | openObject => exact ⟨by simp [AssemblyMode.IsHeld, Assembly.step], haround⟩
  | closeArray =>
    unfold Assembly.step
    dsimp only
    split
    · next depth items ws =>
      obtain ⟨hitems, hws⟩ := List.forall_mem_cons.1 haround
      exact isHeld_deliver (OpenContainer.IsHeld.close (c := .array depth items) hitems) hws
    · exact hstop
  | null => exact isHeld_deliver (by simp [ofToken, Document.IsHeld]) haround
  | bool b => exact isHeld_deliver (by simp [ofToken, Document.IsHeld]) haround
  | number n => exact isHeld_deliver (by rwa [ofToken, Document.IsHeld]) haround
  | text s => exact isHeld_deliver (by simp [ofToken, Document.IsHeld]) haround
  | closeObject => exact hstop
  | colon => exact hstop
  | comma => exact hstop
  | junk => exact hstop

/-- A token where a key may stand. -/
theorem IsHeld.step_key {depth : Nat} {entries : List (DocumentKey × Document)} {mayClose : Bool}
    {around : List Waiting} (haround : ∀ w ∈ around, w.IsHeld)
    (hentries : (OpenContainer.object depth entries).IsHeld) :
    (Assembly.step ⟨.key depth entries mayClose, around⟩ t).IsHeld := by
  have hstop : (stop (OpenContainer.object depth entries).closeCut around).IsHeld :=
    isHeld_stop hentries.closeCut haround
  cases t with
  | text s =>
    cases s with
    | none => exact ⟨hentries, haround⟩
    | some s => exact ⟨hentries, haround⟩
  | closeObject =>
    unfold Assembly.step
    dsimp only
    split
    · exact isHeld_deliver hentries.close haround
    · exact hstop
  | _ => exact hstop

/-- A token where a comma or the end of a container may stand. -/
theorem IsHeld.step_separator {container : OpenContainer} {around : List Waiting}
    (haround : ∀ w ∈ around, w.IsHeld) (hcontainer : container.IsHeld) :
    (Assembly.step ⟨.separator container, around⟩ t).IsHeld := by
  have hdeliver : (deliver container.close around).IsHeld := isHeld_deliver hcontainer.close haround
  have hstop : (stop container.closeCut around).IsHeld := isHeld_stop hcontainer.closeCut haround
  cases container with
  | array depth items =>
    cases t with
    | comma => exact ⟨trivial, List.forall_mem_cons.2 ⟨hcontainer, haround⟩⟩
    | closeArray => exact hdeliver
    | _ => exact hstop
  | object depth entries =>
    cases t with
    | comma => exact ⟨hcontainer, haround⟩
    | closeObject => exact hdeliver
    | _ => exact hstop

/-- **One token more leaves a document with held numbers.** -/
theorem IsHeld.step (h : a.IsHeld) (ht : t.IsHeld) : (a.step t).IsHeld := by
  obtain ⟨mode, around⟩ := a
  obtain ⟨hmode, haround⟩ := h
  cases mode with
  | value mayClose => exact IsHeld.step_value haround ht
  | key depth entries mayClose => exact IsHeld.step_key haround hmode
  | colon depth entries key =>
    have hstop : (stop (OpenContainer.object depth ((key, .cut) :: entries)).close around).IsHeld :=
      isHeld_stop (OpenContainer.IsHeld.close (c := .object depth ((key, .cut) :: entries))
        (List.forall_mem_cons.2 ⟨isHeld_cut, hmode⟩)) haround
    cases t with
    | colon => exact ⟨trivial, List.forall_mem_cons.2 ⟨hmode, haround⟩⟩
    | _ => exact hstop
  | separator container => exact IsHeld.step_separator haround hmode
  | finished document trailing => exact ⟨hmode, by simp [Assembly.step]⟩

theorem IsHeld.finish (h : a.IsHeld) : a.finish.1.IsHeld := by
  obtain ⟨mode, around⟩ := a
  obtain ⟨hmode, haround⟩ := h
  cases mode with
  | value mayClose => exact isHeld_closeAll isHeld_cut haround
  | key depth entries mayClose =>
    have hentries : (OpenContainer.object depth entries).IsHeld := hmode
    exact isHeld_closeAll hentries.closeCut haround
  | colon depth entries key =>
    have hentries : (OpenContainer.object depth ((key, .cut) :: entries)).IsHeld :=
      List.forall_mem_cons.2 ⟨isHeld_cut, hmode⟩
    exact isHeld_closeAll hentries.close haround
  | separator container =>
    have hcontainer : container.IsHeld := hmode
    exact isHeld_closeAll hcontainer.closeCut haround
  | finished document trailing => exact hmode

end Assembly

/-- **The document of a text has held numbers.** -/
theorem isHeld_root (s : String) : (JsonText.read s).root.IsHeld := by
  have hrun : ∀ (ts : List JsonToken) (a : Assembly), (∀ t ∈ ts, t.IsHeld) → a.IsHeld →
      (ts.foldl Assembly.step a).IsHeld := by
    intro ts
    induction ts with
    | nil => exact fun _ _ h => h
    | cons t ts ih =>
      intro a hts h
      obtain ⟨ht, hts⟩ := List.forall_mem_cons.1 hts
      exact ih _ hts (h.step ht)
  have hempty : ({} : Assembly).IsHeld := ⟨trivial, by simp⟩
  exact (hrun _ {} (isHeld_of_mem_tokens s.toList) hempty).finish

/-- **The scalars of a request that is read can be written.** -/
theorem Request.isStable_of_readRequest {text : String} {r : Request}
    (h : readRequest text = .ok r) : r.IsStable := by
  obtain ⟨r', hread, h⟩ := exists_of_bind h
  obtain rfl : r' = r := by
    split at h
    · cases h
    · exact Except.ok.inj h
  exact isStable_of_read (isHeld_root text) hread

end ReportSql
