import ReportSql.Proofs.Failure.Reading
import ReportSql.Proofs.RoundTrip.Values

/-!
# Numbers that are held

A JSON value holds whole numbers of 64 bits, with or without a sign, and finite floating-point
numbers.  A scalar that is read from such a value can be written, and is then read back.

## Main definitions

* `JsonNumber.IsHeld`, `Json.IsHeld`, `Document.IsHeld` — numbers of 64 bits, and values and
  documents that have no others.
* `Scalar.IsWritable` — a scalar that has a JSON value.

## Main statements

* `Double.isFinite_ofNat` — a whole number of 64 bits is near a finite floating-point number.
* `readsBack_scalar`, `readsBack_natural` — scalars and whole numbers.
-/

namespace ReportSql

/-! ## Held numbers -/

/-- A whole number of 64 bits, with a sign if it fits, or a finite floating-point number. -/
def JsonNumber.IsHeld : JsonNumber → Prop
  | .int i => fitsInt64 i = true
  | .natural n => Nat.pow 2 63 ≤ n ∧ n < Nat.pow 2 64
  | .float x => x.isFinite = true

mutual

/-- A value whose numbers are held. -/
def Json.IsHeld : Json → Prop
  | .number n => n.IsHeld
  | .array items => Json.AreHeld items
  | .object entries => Json.EntriesAreHeld entries
  | _ => True

@[inherit_doc Json.IsHeld] def Json.AreHeld : List Json → Prop
  | [] => True
  | item :: items => item.IsHeld ∧ Json.AreHeld items

@[inherit_doc Json.IsHeld] def Json.EntriesAreHeld : List (String × Json) → Prop
  | [] => True
  | (_, value) :: rest => value.IsHeld ∧ Json.EntriesAreHeld rest

end

mutual

/-- A document whose numbers are held. -/
def Document.IsHeld : Document → Prop
  | .number n => ∀ m ∈ n, m.IsHeld
  | .array items => Document.AreHeld items
  | .object entries => Document.EntriesAreHeld entries
  | .deep inside => inside.IsHeld
  | _ => True

@[inherit_doc Document.IsHeld] def Document.AreHeld : List Document → Prop
  | [] => True
  | item :: items => item.IsHeld ∧ Document.AreHeld items

@[inherit_doc Document.IsHeld] def Document.EntriesAreHeld : List (DocumentKey × Document) → Prop
  | [] => True
  | (_, value) :: rest => value.IsHeld ∧ Document.EntriesAreHeld rest

end

namespace Json

@[simp] theorem isHeld_array {items : List Json} :
    (Json.array items).IsHeld ↔ ∀ item ∈ items, item.IsHeld := by
  rw [IsHeld]
  induction items with
  | nil => simp [AreHeld]
  | cons item items ih => rw [AreHeld, ih, List.forall_mem_cons]

@[simp] theorem isHeld_object {entries : List (String × Json)} :
    (Json.object entries).IsHeld ↔ ∀ e ∈ entries, e.2.IsHeld := by
  rw [IsHeld]
  induction entries with
  | nil => simp [EntriesAreHeld]
  | cons e rest ih => rw [EntriesAreHeld, ih, List.forall_mem_cons]

end Json

namespace Document

@[simp] theorem isHeld_array {items : List Document} :
    (Document.array items).IsHeld ↔ ∀ item ∈ items, item.IsHeld := by
  rw [IsHeld]
  induction items with
  | nil => simp [AreHeld]
  | cons item items ih => rw [AreHeld, ih, List.forall_mem_cons]

@[simp] theorem isHeld_object {entries : List (DocumentKey × Document)} :
    (Document.object entries).IsHeld ↔ ∀ e ∈ entries, e.2.IsHeld := by
  rw [IsHeld]
  induction entries with
  | nil => simp [EntriesAreHeld]
  | cons e rest ih => rw [EntriesAreHeld, ih, List.forall_mem_cons]

/-- The numbers inside a document are held with those of the document. -/
theorem IsHeld.of_mem_children {d child : Document} (h : d.IsHeld) (hchild : child ∈ d.children) :
    child.IsHeld := by
  cases d with
  | array items => exact isHeld_array.1 h child hchild
  | object entries =>
    obtain ⟨e, he, rfl⟩ := List.mem_map.1 hchild
    exact isHeld_object.1 h e he
  | _ => cases hchild

mutual

/-- The numbers of the value of a document are those of the document. -/
theorem IsHeld.of_value? : ∀ {d : Document} {v : Json}, d.IsHeld → d.value? = some v → v.IsHeld
  | .null, v, _, hv | .bool _, v, _, hv => by
    obtain rfl := Option.some_inj.1 (by simpa [value?] using hv)
    simp [Json.IsHeld]
  | .number n, v, h, hv => by
    rw [value?, Option.map_eq_some_iff] at hv
    obtain ⟨m, hm, rfl⟩ := hv
    exact h m hm
  | .text s, v, _, hv => by
    rw [value?, Option.map_eq_some_iff] at hv
    obtain ⟨t, -, rfl⟩ := hv
    simp [Json.IsHeld]
  | .array items, v, h, hv => by
    rw [value?, Option.map_eq_some_iff] at hv
    obtain ⟨values, hvalues, rfl⟩ := hv
    exact Json.isHeld_array.2 (IsHeld.of_values? (isHeld_array.1 h) hvalues)
  | .object entries, v, h, hv => by
    rw [value?, Option.map_eq_some_iff] at hv
    obtain ⟨values, hvalues, rfl⟩ := hv
    exact Json.isHeld_object.2 (IsHeld.of_entries? (isHeld_object.1 h) (by simp) hvalues)
  | .deep _, v, _, hv | .cut, v, _, hv => by
    rw [value?] at hv
    cases hv

theorem IsHeld.of_values? : ∀ {items : List Document} {values : List Json},
    (∀ item ∈ items, item.IsHeld) → values? items = some values → ∀ v ∈ values, v.IsHeld
  | [], values, _, hvalues => by
    rw [values?] at hvalues
    cases hvalues
    simp
  | item :: items, values, h, hvalues => by
    obtain ⟨hitem, hitems⟩ := List.forall_mem_cons.1 h
    rw [values?] at hvalues
    split at hvalues
    · next v vs hv hvs =>
      cases hvalues
      exact List.forall_mem_cons.2 ⟨IsHeld.of_value? hitem hv, IsHeld.of_values? hitems hvs⟩
    · cases hvalues

theorem IsHeld.of_entries? : ∀ {entries : List (DocumentKey × Document)}
    {done values : List (String × Json)}, (∀ e ∈ entries, e.2.IsHeld) →
      (∀ e ∈ done, e.2.IsHeld) → entries? entries done = some values → ∀ e ∈ values, e.2.IsHeld
  | [], done, values, _, hdone, hvalues => by
    rw [entries?] at hvalues
    cases hvalues
    exact hdone
  | (key, document) :: rest, done, values, h, hdone, hvalues => by
    obtain ⟨hfirst, hrest⟩ := List.forall_mem_cons.1 h
    unfold entries? at hvalues
    split at hvalues
    · next k v hv =>
      refine IsHeld.of_entries? hrest (fun e he => ?_) hvalues
      rcases mem_insertEntry he with rfl | he
      · exact IsHeld.of_value? hfirst hv
      · exact hdone e he
    · cases hvalues

end

end Document

mutual

/-- The numbers of a value are those of its document. -/
theorem Json.IsHeld.document : ∀ {v : Json}, v.IsHeld → v.document.IsHeld
  | .null, _ | .bool _, _ | .text _, _ => by simp [Json.document, Document.IsHeld]
  | .number n, h => by
    rw [Json.document, Document.IsHeld]
    rintro m ⟨⟩
    exact h
  | .array items, h => by
    rw [Json.document, Document.isHeld_array]
    exact Json.IsHeld.documents (Json.isHeld_array.1 h)
  | .object entries, h => by
    rw [Json.document, Document.isHeld_object]
    exact Json.IsHeld.documentEntries (Json.isHeld_object.1 h)

theorem Json.IsHeld.documents : ∀ {items : List Json}, (∀ item ∈ items, item.IsHeld) →
    ∀ d ∈ Json.documents items, d.IsHeld
  | [], _ => by simp
  | item :: items, h => by
    obtain ⟨hitem, hitems⟩ := List.forall_mem_cons.1 h
    rw [Json.documents, List.forall_mem_cons]
    exact ⟨Json.IsHeld.document hitem, Json.IsHeld.documents hitems⟩

theorem Json.IsHeld.documentEntries : ∀ {entries : List (String × Json)},
    (∀ e ∈ entries, e.2.IsHeld) → ∀ e ∈ Json.documentEntries entries, e.2.IsHeld
  | [], _ => by simp
  | (key, value) :: rest, h => by
    obtain ⟨hfirst, hrest⟩ := List.forall_mem_cons.1 h
    rw [Json.documentEntries, List.forall_mem_cons]
    exact ⟨Json.IsHeld.document hfirst, Json.IsHeld.documentEntries hrest⟩

end

/-! ## Floating-point numbers near whole numbers -/

namespace Double

/-- The exponent at which a whole number has a mantissa of full precision. -/
theorem ratioExponent_le {n : Nat} (h : n < Nat.pow 2 64) : ratioExponent n 1 ≤ 11 := by
  have hlog : n.log2 < 64 := by
    by_cases hn : n = 0
    · rw [hn]
      decide
    · exact (Nat.log2_lt hn).2 h
  have hone : Nat.log2 1 = 0 := by decide
  unfold ratioExponent
  dsimp only
  rw [hone, precision]
  split <;> omega

/-- **A whole number of 64 bits is near a finite floating-point number.** -/
theorem isFinite_ofNat {n : Nat} (h : n < Nat.pow 2 64) : (ofNat n).isFinite = true := by
  have hexponent := ratioExponent_le h
  unfold ofNat ofRatio
  split
  · rfl
  · dsimp only
    have hmax : max minExponent (ratioExponent n 1) ≤ 11 := by
      rw [minExponent]
      omega
    have hfits : ¬maxExponent < max minExponent (ratioExponent n 1) + 1 := by
      rw [maxExponent]
      omega
    have hfits' : ¬maxExponent < max minExponent (ratioExponent n 1) := by omega
    -- neither exponent is past the greatest
    split <;> rfl

end Double

/-! ## Scalars -/

namespace Scalar

/-- A scalar that has a JSON value: a floating-point number has to be finite. -/
def IsWritable : Scalar → Prop
  | .float x => x.isFinite = true
  | _ => True

variable {s : Scalar} {v : Json}

/-- A scalar of a value is writable. -/
theorem isWritable_of_ofJson? (hv : v.IsHeld) (h : ofJson? v = some (some s)) : s.IsWritable := by
  cases v with
  | null => cases h
  | bool b =>
    cases h
    trivial
  | text t =>
    cases h
    trivial
  | number n =>
    cases h
    cases n with
    | int i => trivial
    | natural n => exact Double.isFinite_ofNat hv.2
    | float x => exact hv
  | array items => cases h
  | object entries => cases h

/-- A writable scalar is the scalar of its value. -/
theorem ofJson?_toJson (h : s.IsWritable) : ofJson? s.toJson = some (some s) := by
  cases s with
  | float x =>
    have hfinite : x.isFinite = true := h
    rw [toJson, doubleJson, if_pos hfinite]
    rfl
  | _ => rfl

theorem toJson_ne_null (h : s.IsWritable) : s.toJson ≠ .null := by
  intro hnull
  have hscalar := ofJson?_toJson h
  rw [hnull] at hscalar
  cases hscalar

theorem sorted_toJson (s : Scalar) : s.toJson.sorted = s.toJson := by
  cases s with
  | float x =>
    rw [toJson, doubleJson]
    split <;> simp
  | _ => simp [toJson]

theorem isWritable_of_read {d : Document} (hd : d.IsHeld) (h : Scalar.read d = .ok s) :
    s.IsWritable := by
  obtain ⟨value, hvalue, h⟩ := exists_of_bind h
  split at h
  · next heq =>
    cases h
    exact isWritable_of_ofJson? (hd.of_value? (value?_of_readAny hvalue)) heq
  · cases h

end Scalar

theorem readsBack_scalar {s : Scalar} (h : s.IsWritable) : ReadsBack Scalar.read s.toJson s := by
  refine readsBack_of_sorted s.sorted_toJson ?_
  rw [Scalar.read, Json.readAny_document, s.sorted_toJson, ok_bind, Scalar.ofJson?_toJson h]

/-! ## Whole numbers without a sign -/

theorem lt_of_fitsInt64 {i : Int} (h : fitsInt64 i = true) : i < (Nat.pow 2 63 : Nat) := by
  rw [fitsInt64, Bool.and_eq_true] at h
  exact of_decide_eq_true h.2

theorem lt_of_readNatural {d : Document} (hd : d.IsHeld) {n : Nat} (h : readNatural d = .ok n) :
    n < Nat.pow 2 64 := by
  unfold readNatural at h
  split at h
  · next i =>
    split at h
    · cases h
      have hi := lt_of_fitsInt64 (hd _ rfl)
      have hpow : Nat.pow 2 64 = 2 * Nat.pow 2 63 := by rfl
      omega
    · cases h
  · next m =>
    cases h
    exact (hd _ rfl).2
  · cases h

theorem readsBack_natural {n : Nat} (h : n < Nat.pow 2 64) :
    ReadsBack readNatural (naturalJson n) n := by
  refine readsBack_of_sorted (Json.sorted_number _) ?_
  have hnumber :
      JsonNumber.ofWhole false n = if n < Nat.pow 2 63 then .int n else .natural n := by
    rw [JsonNumber.ofWhole, if_neg Bool.false_ne_true, if_pos h]
  rw [naturalJson, Json.document, hnumber]
  split
  · rw [readNatural, if_pos (Int.natCast_nonneg n), Int.toNat_natCast]
  · rw [readNatural]

end ReportSql
