import Mathlib.Algebra.Ring.Nat
import Mathlib.Data.List.Basic

/-!
# The order of bytes

Texts are ordered by their characters.  UTF-8 keeps that order: the bytes of a smaller character are
smaller, at the first place where the two differ, whatever follows them.  So texts stand in the
order of their bytes as well.

## Main definitions

* `bytes` — the bytes of a text in UTF-8.

## Main statements

* `length_le_utf8ByteSize`, `utf8ByteSize_of_ascii` — a text has no fewer bytes than characters, and
  as many if these are all of ASCII.
* `utf8EncodeChar_append_lt` — the bytes of a smaller character are smaller.
* `bytes_lt_bytes_iff` — texts stand in the order of their bytes.
-/

namespace ReportSql.Text

/-- The bytes of a text in UTF-8. -/
def bytes (s : String) : List UInt8 := s.toUTF8.data.toList

theorem bytes_eq_flatMap (s : String) : bytes s = s.toList.flatMap String.utf8EncodeChar := by
  have hencode : s.toUTF8 = s.toList.utf8Encode := String.utf8Encode_toList.symm
  rw [bytes, hencode, List.utf8Encode]
  simp

/-! ## Sizes -/

theorem utf8ByteSize_eq_sum (s : String) :
    s.utf8ByteSize = (s.toList.map Char.utf8Size).sum := by
  have hbytes : s.utf8ByteSize = (bytes s).length := rfl
  simp [hbytes, bytes_eq_flatMap, List.length_flatMap]

theorem length_le_utf8ByteSize (s : String) : s.toList.length ≤ s.utf8ByteSize := by
  rw [utf8ByteSize_eq_sum]
  induction s.toList with
  | nil => simp
  | cons c cs ih =>
    have hc := c.utf8Size_pos
    simp only [List.length_cons, List.map_cons, List.sum_cons]
    omega

/-- A text of ASCII characters has as many bytes as characters. -/
theorem utf8ByteSize_of_ascii {s : String} (h : ∀ c ∈ s.toList, c.toNat < 128) :
    s.utf8ByteSize = s.toList.length := by
  have hsizes : s.toList.map Char.utf8Size = List.replicate s.toList.length 1 := by
    refine List.eq_replicate_iff.2 ⟨List.length_map _, fun n hn => ?_⟩
    obtain ⟨c, hc, rfl⟩ := List.mem_map.1 hn
    refine Char.utf8Size_eq_one_iff.2 (UInt32.le_iff_toNat_le.2 ?_)
    exact Nat.le_of_lt_succ (h c hc)
  rw [utf8ByteSize_eq_sum, hsizes]
  simp

/-! ## Order -/

theorem ofNat_lt_ofNat_iff {m n : Nat} (hm : m < 256) (hn : n < 256) :
    UInt8.ofNat m < UInt8.ofNat n ↔ m < n := by
  rw [UInt8.lt_iff_toNat_lt, UInt8.toNat_ofNat_of_lt' hm, UInt8.toNat_ofNat_of_lt' hn]

theorem ofNat_eq_ofNat_iff {m n : Nat} (hm : m < 256) (hn : n < 256) :
    UInt8.ofNat m = UInt8.ofNat n ↔ m = n := by
  rw [← UInt8.toNat_inj, UInt8.toNat_ofNat_of_lt' hm, UInt8.toNat_ofNat_of_lt' hn]

/-- Of two numbers the smaller has the smaller digit at the first place where they differ.  A digit
is six bits. -/
theorem digits_lt {m n : Nat} (h : m < n) :
    m / 262144 < n / 262144 ∨ m / 262144 = n / 262144 ∧
      (m / 4096 % 64 < n / 4096 % 64 ∨ m / 4096 % 64 = n / 4096 % 64 ∧
        (m / 64 % 64 < n / 64 % 64 ∨ m / 64 % 64 = n / 64 % 64 ∧ m % 64 < n % 64)) := by
  have hdigit : ∀ i j : Nat, i < j → i / 64 < j / 64 ∨ i / 64 = j / 64 ∧ i % 64 < j % 64 := by omega
  have hhigh : ∀ k : Nat, k / 4096 = k / 64 / 64 ∧ k / 262144 = k / 64 / 64 / 64 := by omega
  rw [(hhigh m).1, (hhigh m).2, (hhigh n).1, (hhigh n).2]
  rcases hdigit m n h with h | ⟨heq, h⟩
  · rcases hdigit _ _ h with h | ⟨heq, h⟩
    · rcases hdigit _ _ h with h | ⟨heq, h⟩
      · exact .inl h
      · exact .inr ⟨heq, .inl h⟩
    · rw [heq]
      exact .inr ⟨rfl, .inr ⟨rfl, .inl h⟩⟩
  · rw [heq]
    exact .inr ⟨rfl, .inr ⟨rfl, .inr ⟨rfl, h⟩⟩⟩

/-- **The bytes of a smaller character are smaller,** whatever follows. -/
theorem utf8EncodeChar_append_lt {c d : Char} (h : c < d) (rest rest' : List UInt8) :
    String.utf8EncodeChar c ++ rest < String.utf8EncodeChar d ++ rest' := by
  have hlt : c.val.toNat < d.val.toNat := UInt32.lt_iff_toNat_lt.1 h
  have hbound : d.val.toNat < 0x110000 := by
    have := d.valid
    rcases this with h | h <;> omega
  unfold String.utf8EncodeChar
  generalize c.val.toNat = m at hlt
  generalize d.val.toNat = n at hlt hbound
  -- the first byte tells the number of bytes; with as many bytes the digits decide
  dsimp only
  split_ifs <;>
    simp (disch := omega) only [List.cons_append, List.nil_append, List.cons_lt_cons_iff,
      ofNat_lt_ofNat_iff, ofNat_eq_ofNat_iff, Nat.mod_eq_of_lt]
  all_goals
    have hdigits := digits_lt hlt
    omega

/-- A text that is no more than the beginning of another has the smaller bytes. -/
theorem nil_lt_utf8EncodeChar_append (c : Char) (rest : List UInt8) :
    [] < String.utf8EncodeChar c ++ rest := by
  have hne : String.utf8EncodeChar c ++ rest ≠ [] := by
    unfold String.utf8EncodeChar
    dsimp only
    split_ifs <;> simp
  cases hbytes : String.utf8EncodeChar c ++ rest with
  | nil => exact absurd hbytes hne
  | cons b bs => exact List.nil_lt_cons b bs

/-- **Texts stand in the order of their bytes.** -/
theorem bytes_lt_bytes_iff {s t : String} : bytes s < bytes t ↔ s < t := by
  have hmono : ∀ s t : List Char, s < t →
      s.flatMap String.utf8EncodeChar < t.flatMap String.utf8EncodeChar := by
    intro s t h
    induction h with
    | nil => exact nil_lt_utf8EncodeChar_append _ _
    | rel h => exact utf8EncodeChar_append_lt h _ _
    | cons _ ih =>
      rw [List.flatMap_cons, List.flatMap_cons]
      exact List.append_left_lt ih
  rw [bytes_eq_flatMap, bytes_eq_flatMap]
  refine ⟨fun h => ?_, fun h => hmono _ _ h⟩
  refine Classical.byContradiction fun hnot => ?_
  have hle : t ≤ s := String.not_lt.1 hnot
  by_cases heq : s = t
  · rw [heq] at h
    exact List.lt_irrefl _ h
  · have hgt : t < s :=
      Classical.byContradiction fun hnot' => heq (String.le_antisymm (String.not_lt.1 hnot') hle)
    exact List.lt_asymm h (hmono _ _ hgt)

end ReportSql.Text
