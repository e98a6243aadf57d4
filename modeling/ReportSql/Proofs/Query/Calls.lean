import ReportSql.Proofs.Catalog.Keys
import ReportSql.Proofs.Query.Numbering

/-!
# Calls for placeholders

Placeholders are given out one after another, with a value or without, under whatever stems.  Every
call takes the next number, so the number of a placeholder is the place of its call.  Names end in
these numbers, so no two calls are answered with one name, and a value that was bound under a name
is never replaced.

## Main definitions

* `Call` — a call for a placeholder.
* `Bindings.calls` — the answers to calls, one after another.
* `Bindings.given` — the values of calls, with the placeholders that these were answered with.

## Main statements

* `Bindings.number_calls`, `Bindings.bound_calls` — what a sequence of calls gives out and binds.
* `Bindings.length_entries_calls` — what is bound is all delivered.
* `Bindings.neverCollide_calls` — the names differ, and each value is kept under its own.
-/

namespace ReportSql

/-- A call for a new placeholder, without a value or with one. -/
inductive Call where
  | next (stem : String)
  | bind (stem : String) (value : BindValue)

namespace Call

/-- The stem that a call asks for. -/
def stem : Call → String
  | .next stem => stem
  | .bind stem _ => stem

/-- The value that comes with a call. -/
def value? : Call → Option BindValue
  | .next _ => none
  | .bind _ value => some value

/-- Whether a call comes with a value. -/
def binds (c : Call) : Bool := c.value?.isSome

end Call

namespace Bindings

/-- The placeholder that answers a call, and the bindings after it. -/
def call (b : Bindings) : Call → Placeholder × Bindings
  | .next stem => b.next stem
  | .bind stem value => b.bind stem value

/-- The placeholders that answer calls, one after another, and the bindings after them all. -/
def calls (b : Bindings) : List Call → List Placeholder × Bindings
  | [] => ([], b)
  | c :: cs => ((b.call c).1 :: ((b.call c).2.calls cs).1, ((b.call c).2.calls cs).2)

/-- The values that came with calls, each with the placeholder that answered its call. -/
def given (cs : List Call) (ps : List Placeholder) : List (Placeholder × BindValue) :=
  (cs.zip ps).filterMap fun (c, p) => c.value?.map fun value => (p, value)

/-! ## One call -/

variable (b : Bindings) (c : Call) (cs : List Call)

@[simp] theorem fst_call : (b.call c).1 = ⟨c.stem, b.issued + 1⟩ := by
  cases c <;> rfl

@[simp] theorem issued_call : (b.call c).2.issued = b.issued + 1 := by
  cases c <;> rfl

/-- One call binds its value to its placeholder, and nothing else. -/
theorem bound_call : (b.call c).2.bound = b.bound ++ given [c] [(b.call c).1] := by
  cases c with
  | next stem => simp [call, given, Call.value?]
  | bind stem value => simp [call, given, Call.value?, bind, next]

theorem given_cons (p : Placeholder) (ps : List Placeholder) :
    given (c :: cs) (p :: ps) = given [c] [p] ++ given cs ps := by
  cases c <;> simp [given, Call.value?]

/-! ## Sequences of calls -/

/-- Calls are answered with the next numbers in order. -/
theorem number_calls :
    (b.calls cs).1.map Placeholder.number = List.range' (b.issued + 1) cs.length := by
  induction cs generalizing b with
  | nil => rfl
  | cons c cs ih => simp [calls, ih, List.range'_succ]

/-- Calls are answered with the stems that they ask for. -/
theorem stem_calls : (b.calls cs).1.map Placeholder.stem = cs.map Call.stem := by
  induction cs generalizing b with
  | nil => rfl
  | cons c cs ih => simp [calls, ih]

/-- Calls bind their values to their placeholders, after all that was bound before. -/
theorem bound_calls : (b.calls cs).2.bound = b.bound ++ given cs (b.calls cs).1 := by
  induction cs generalizing b with
  | nil => simp [calls, given]
  | cons c cs ih =>
    simp only [calls]
    rw [ih, bound_call, given_cons c cs, List.append_assoc]

theorem length_calls : (b.calls cs).1.length = cs.length := by
  have h := congrArg List.length (b.number_calls cs)
  rwa [List.length_map, List.length_range'] at h

/-- As many values are given as calls come with one. -/
theorem length_given {cs : List Call} {ps : List Placeholder} (h : ps.length = cs.length) :
    (given cs ps).length = cs.countP Call.binds := by
  induction cs generalizing ps with
  | nil => simp [given]
  | cons c cs ih =>
    cases ps with
    | nil => simp at h
    | cons p ps =>
      have hrest := @ih ps (by simpa using h)
      rw [given_cons, List.length_append, hrest, List.countP_cons]
      cases c <;> simp [given, Call.value?, Call.binds, Nat.add_comm]

/-- The calls that came with values were answered with some of the placeholders, in order. -/
theorem map_fst_given_sublist (cs : List Call) (ps : List Placeholder) :
    ((given cs ps).map Prod.fst).Sublist ps := by
  induction cs generalizing ps with
  | nil => simp [given]
  | cons c cs ih =>
    cases ps with
    | nil => simp [given]
    | cons p ps =>
      rw [given_cons, List.map_append]
      cases c with
      | next stem => simpa [given, Call.value?] using (ih ps).cons p
      | bind stem value => simpa [given, Call.value?] using (ih ps)

/-! ## Names -/

/-- Placeholders with different names have all their values under these. -/
theorem toDict_perm {b : Bindings} (h : (b.bound.map fun e => e.1.name).Nodup) :
    b.toDict.entries.Perm (b.bound.map fun e => (e.1.name, e.2)) := by
  have hkeys : ((b.bound.map fun e => (e.1.name, e.2)).map Prod.fst).Nodup := by
    rwa [List.map_map]
  have hentries : b.toDict.entries.Nodup := List.Nodup.of_map _ b.toDict.nodup_keys
  refine (List.perm_ext_iff_of_nodup hentries (List.Nodup.of_map _ hkeys)).2 fun e => ?_
  exact Dict.mem_entries_ofList hkeys

/-- **As many values are delivered as were bound**, if no two were bound under one name. -/
theorem length_entries_toDict {b : Bindings} (h : (b.bound.map fun e => e.1.name).Nodup) :
    b.toDict.entries.length = b.size := by
  rw [(toDict_perm h).length_eq, List.length_map, size]

theorem nodup_names_calls : ((b.calls cs).1.map Placeholder.name).Nodup := by
  refine Placeholder.nodup_names ?_
  rw [number_calls]
  exact List.nodup_range'

/-- What calls bind, from the first one on, is bound under different names. -/
theorem nodup_bound_calls : ((calls {} cs).2.bound.map fun e => e.1.name).Nodup := by
  have hbound : ((calls {} cs).2.bound.map Prod.fst).Sublist (calls {} cs).1 := by
    rw [bound_calls]
    exact map_fst_given_sublist cs _
  have hnames := hbound.map Placeholder.name
  rw [List.map_map] at hnames
  exact (nodup_names_calls {} cs).sublist hnames

/-- The count of bound values is that of the values delivered, after any calls. -/
theorem length_entries_calls : (calls {} cs).2.toDict.entries.length = (calls {} cs).2.size :=
  length_entries_toDict (nodup_bound_calls cs)

theorem calls_append (more : List Call) :
    b.calls (cs ++ more) =
      ((b.calls cs).1 ++ ((b.calls cs).2.calls more).1, ((b.calls cs).2.calls more).2) := by
  induction cs generalizing b with
  | nil => rfl
  | cons c cs ih => simp [calls, ih]

/-- **Names never collide.**  Whatever stems the calls for placeholders ask for, the placeholders
that answer them have different names.  As many values are bound as calls came with one, and they
are found exactly under the names of the placeholders that answered these calls, also after more
calls. -/
theorem neverCollide_calls :
    ((calls {} cs).1.map Placeholder.name).Nodup ∧
      (calls {} cs).1.map Placeholder.stem = cs.map Call.stem ∧
      (calls {} cs).2.size = cs.countP Call.binds ∧
      (calls {} cs).2.toDict.entries.Perm
        ((given cs (calls {} cs).1).map fun e => (e.1.name, e.2)) ∧
      ∀ more, (calls {} cs).2.toDict.entries ⊆ ((calls {} cs).2.calls more).2.toDict.entries := by
  have hgiven : ∀ cs, (calls {} cs).2.bound = given cs (calls {} cs).1 := fun cs =>
    bound_calls {} cs
  refine ⟨nodup_names_calls {} cs, stem_calls {} cs, ?_, ?_, ?_⟩
  · rw [size, hgiven]
    exact length_given (length_calls {} cs)
  · rw [← hgiven]
    exact toDict_perm (nodup_bound_calls cs)
  · intro more e he
    -- the calls after these bind after them, and the names of all still differ
    have hafter : ((calls {} cs).2.calls more).2 = (calls {} (cs ++ more)).2 := by
      rw [calls_append]
    have hbefore := (toDict_perm (nodup_bound_calls cs)).mem_iff.1 he
    rw [hafter, (toDict_perm (nodup_bound_calls (cs ++ more))).mem_iff, ← hafter, bound_calls,
      List.map_append]
    exact List.mem_append_left _ hbefore

/-- A stem may end like a name that was given out before. -/
example : (calls {} [.bind "p" (.int 7), .next "p_1", .bind "p" (.int 8)]).1.map Placeholder.name =
    ["p_1", "p_1_2", "p_3"] := by
  decide

end Bindings

end ReportSql
