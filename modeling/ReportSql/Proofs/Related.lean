import Mathlib.Data.List.Forall2
import ReportSql.Dict

/-!
# Related lists and options

Two lists of one length whose items are related, and two options that both hold related items or
both hold none, go the same way through tests and lookups that agree on related items.

## Main statements

* `all_eq_of_forall₂`, `any_eq_of_forall₂`, `map_eq_of_forall₂` — equal results.
* `rel_find?_of_forall₂`, `rel_lookup_of_forall₂`, `rel_getElem?_of_forall₂` — related items found.
* `rel_map`, `rel_or`, `rel_join`, `rel_getD` — related options.
* `forall₂_invImage_iff`, `rel_invImage_iff` — items related by having equal images.
-/

namespace ReportSql

variable {α β γ δ : Type} {R : α → β → Prop} {S : γ → δ → Prop}

/-! ## Lists -/

section Lists

variable {as : List α} {bs : List β}

theorem all_eq_of_forall₂ {p : α → Bool} {q : β → Bool} (hpq : ∀ a b, R a b → p a = q b)
    (h : List.Forall₂ R as bs) : as.all p = bs.all q := by
  induction h with
  | nil => rfl
  | cons hab _ ih => rw [List.all_cons, List.all_cons, hpq _ _ hab, ih]

theorem any_eq_of_forall₂ {p : α → Bool} {q : β → Bool} (hpq : ∀ a b, R a b → p a = q b)
    (h : List.Forall₂ R as bs) : as.any p = bs.any q := by
  induction h with
  | nil => rfl
  | cons hab _ ih => rw [List.any_cons, List.any_cons, hpq _ _ hab, ih]

/-- Images that agree on related items make equal lists. -/
theorem map_eq_of_forall₂ {f : α → γ} {g : β → γ} (hfg : ∀ a b, R a b → f a = g b)
    (h : List.Forall₂ R as bs) : as.map f = bs.map g := by
  induction h with
  | nil => rfl
  | cons hab _ ih => rw [List.map_cons, List.map_cons, hfg _ _ hab, ih]

theorem isEmpty_eq_of_length_eq (h : as.length = bs.length) : as.isEmpty = bs.isEmpty := by
  rw [Bool.eq_iff_iff, List.isEmpty_iff_length_eq_zero, List.isEmpty_iff_length_eq_zero, h]

/-- Lists of one length have related images under functions whose values are all related. -/
theorem forall₂_map_of_length_eq {f : α → γ} {g : β → δ} (hfg : ∀ a b, S (f a) (g b)) :
    ∀ {as : List α} {bs : List β}, as.length = bs.length → List.Forall₂ S (as.map f) (bs.map g)
  | [], [], _ => .nil
  | a :: as, b :: bs, h => by
    rw [List.length_cons, List.length_cons, Nat.succ_inj] at h
    rw [List.map_cons, List.map_cons]
    exact .cons (hfg a b) (forall₂_map_of_length_eq hfg h)

/-- Items have equal images in order if and only if the lists do. -/
theorem forall₂_invImage_iff {f : α → γ} {as as' : List α} :
    List.Forall₂ (InvImage Eq f) as as' ↔ as.map f = as'.map f := by
  rw [← List.forall₂_eq_eq_eq, List.forall₂_map_left_iff, List.forall₂_map_right_iff]
  rfl

/-- Every item of the second list is related to one of the first. -/
theorem exists_of_forall₂ (h : List.Forall₂ R as bs) : ∀ b ∈ bs, ∃ a ∈ as, R a b := by
  induction h with
  | nil => simp
  | @cons a b as bs hab _ ih =>
    intro b' hb'
    rcases List.mem_cons.1 hb' with rfl | hb'
    · exact ⟨a, by simp, hab⟩
    · obtain ⟨a', ha', hab'⟩ := ih b' hb'
      exact ⟨a', by simp [ha'], hab'⟩

/-- Related items that have related properties: some item of one list has its property if and only
if some item of the other does. -/
theorem exists_iff_of_forall₂ {P : α → Prop} {Q : β → Prop} (h : List.Forall₂ R as bs)
    (hPQ : ∀ a ∈ as, ∀ b, R a b → (P a ↔ Q b)) : (∃ a ∈ as, P a) ↔ ∃ b ∈ bs, Q b := by
  constructor
  · rintro ⟨a, ha, hP⟩
    obtain ⟨b, hb, hab⟩ := exists_of_forall₂ h.flip a ha
    exact ⟨b, hb, (hPQ a ha b hab).1 hP⟩
  · rintro ⟨b, hb, hQ⟩
    obtain ⟨a, ha, hab⟩ := exists_of_forall₂ h b hb
    exact ⟨a, ha, (hPQ a ha b hab).2 hQ⟩

/-- The items at one position are related. -/
theorem rel_getElem?_of_forall₂ (h : List.Forall₂ R as bs) (i : Nat) :
    Option.Rel R as[i]? bs[i]? := by
  induction h generalizing i with
  | nil => exact .none
  | cons hab _ ih =>
    cases i with
    | zero => exact .some hab
    | succ i => exact ih i

/-- The first items that pass tests that agree are related. -/
theorem rel_find?_of_forall₂ {p : α → Bool} {q : β → Bool} (hpq : ∀ a b, R a b → p a = q b)
    (h : List.Forall₂ R as bs) : Option.Rel R (as.find? p) (bs.find? q) := by
  induction h with
  | nil => exact .none
  | cons hab _ ih =>
    rw [List.find?_cons, List.find?_cons, hpq _ _ hab]
    split
    · exact .some hab
    · exact ih

/-- The values under one key are related. -/
theorem rel_lookup_of_forall₂ (key : String) {entries : List (String × α)}
    {entries' : List (String × β)}
    (h : List.Forall₂ (fun e e' => e.1 = e'.1 ∧ R e.2 e'.2) entries entries') :
    Option.Rel R (entries.lookup key) (entries'.lookup key) := by
  induction h with
  | nil => exact .none
  | @cons e e' _ _ he _ ih =>
    obtain ⟨k, a⟩ := e
    obtain ⟨_, b⟩ := e'
    obtain ⟨rfl, hab⟩ := he
    rw [Dict.lookup_cons_eq_ite, Dict.lookup_cons_eq_ite]
    split
    · exact .some hab
    · exact ih

end Lists

/-! ## Options -/

section Options

variable {x : Option α} {y : Option β}

theorem rel_of_isSome_eq : ∀ {x : Option α} {y : Option β}, x.isSome = y.isSome →
    Option.Rel (fun _ _ => True) x y
  | none, none, _ => .none
  | some _, some _, _ => .some trivial

theorem isSome_eq_of_rel (h : Option.Rel R x y) : x.isSome = y.isSome := by
  cases h <;> rfl

theorem rel_map {f : α → γ} {g : β → δ} (hfg : ∀ a b, R a b → S (f a) (g b))
    (h : Option.Rel R x y) : Option.Rel S (x.map f) (y.map g) := by
  cases h with
  | some hab => exact .some (hfg _ _ hab)
  | none => exact .none

/-- What two options hold has equal images if and only if the options do. -/
theorem rel_invImage_iff {f : α → γ} {x x' : Option α} :
    Option.Rel (InvImage Eq f) x x' ↔ x.map f = x'.map f := by
  cases x with
  | none => cases x' <;> simp
  | some a => cases x' <;> simp [InvImage]

theorem rel_or {x' : Option α} {y' : Option β} (h : Option.Rel R x y)
    (h' : Option.Rel R x' y') : Option.Rel R (x.or x') (y.or y') := by
  cases h with
  | some hab => exact .some hab
  | none => exact h'

theorem rel_join {x : Option (Option α)} {y : Option (Option β)}
    (h : Option.Rel (Option.Rel R) x y) : Option.Rel R x.join y.join := by
  cases h with
  | some hrel => exact hrel
  | none => exact .none

theorem rel_getD {a : α} {b : β} (h : Option.Rel R x y) (hab : R a b) :
    R (x.getD a) (y.getD b) := by
  cases h with
  | some hrel => exact hrel
  | none => exact hab

end Options

end ReportSql
