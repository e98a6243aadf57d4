import ReportSql.Plan.Traced
import ReportSql.Proofs.Related
import ReportSql.Sql.Placeholder

/-!
# Steps that look alike

Two runs of one step on different data end alike when either both fail or both give related results,
and they look alike when they report the same events as well.  A sequence of steps that end or look
alike does so too.

The steps that number placeholders run alike when their results and their records of bound values
are related.  They run in lockstep when they give out the same placeholders, whatever values are
bound to them.

## Main definitions

* `Traced.EndAlike R`, `Traced.Alike R` — steps of compilation that end or look alike.
* `Traced.Agree R` — steps that end in one failure or in related results.
* `RunsAlike B S` — steps that number placeholders, with related results and records.
* `Bindings.Alike`, `Lockstep` — the same placeholders, and steps that give out the same.

## Main statements

* `Traced.EndAlike.bind`, `Traced.Alike.bind`, `RunsAlike.bind`, `Lockstep.bind` — sequences of
  steps.
-/

namespace ReportSql

variable {α β γ δ : Type}

/-! ## Steps of compilation -/

/-- Two outcomes that are both failures, or both results, which are related. -/
inductive OutcomesAlike (R : α → β → Prop) : Except CompileError α → Except CompileError β → Prop
  | ok {a : α} {b : β} (h : R a b) : OutcomesAlike R (.ok a) (.ok b)
  | error (e e' : CompileError) : OutcomesAlike R (.error e) (.error e')

namespace OutcomesAlike

variable {R : α → β → Prop} {S : γ → δ → Prop}

theorem of_eq {x y : Except CompileError α} (h : y = x) : OutcomesAlike Eq x y := by
  rw [h]
  cases x with
  | ok a => exact .ok rfl
  | error e => exact .error e e

theorem bind {x : Except CompileError α} {y : Except CompileError β}
    {f : α → Except CompileError γ} {g : β → Except CompileError δ} (h : OutcomesAlike R x y)
    (hfg : ∀ a b, R a b → OutcomesAlike S (f a) (g b)) :
    OutcomesAlike S (x >>= f) (y >>= g) := by
  cases h with
  | ok hab => exact hfg _ _ hab
  | error e e' => exact .error e e'

end OutcomesAlike

/-- Two outcomes that are one failure, or results that are related. -/
inductive OutcomesAgree (R : α → β → Prop) : Except CompileError α → Except CompileError β → Prop
  | ok {a : α} {b : β} (h : R a b) : OutcomesAgree R (.ok a) (.ok b)
  | error (e : CompileError) : OutcomesAgree R (.error e) (.error e)

namespace Traced

/-- Two steps that either both fail or have related results, whatever they report. -/
def EndAlike (R : α → β → Prop) (x : Traced α) (y : Traced β) : Prop :=
  OutcomesAlike R x.outcome y.outcome

namespace EndAlike

variable {R : α → β → Prop} {S : γ → δ → Prop}

theorem pure {a : α} {b : β} (h : R a b) : EndAlike R (Pure.pure a) (Pure.pure b) := .ok h

theorem fail (e e' : CompileError) : EndAlike R (Traced.fail e) (Traced.fail e') := .error e e'

/-- One step ends like itself. -/
theorem refl (x : Traced α) : EndAlike Eq x x := .of_eq rfl

theorem ofExcept {x : Except CompileError α} {y : Except CompileError β}
    (h : OutcomesAlike R x y) : EndAlike R (Traced.ofExcept x) (Traced.ofExcept y) := h

/-- **A sequence of steps that end alike ends alike.** -/
theorem bind {x : Traced α} {y : Traced β} {f : α → Traced γ} {g : β → Traced δ}
    (h : EndAlike R x y) (hfg : ∀ a b, R a b → EndAlike S (f a) (g b)) :
    EndAlike S (x >>= f) (y >>= g) := by
  obtain ⟨events, outcome⟩ := x
  obtain ⟨events', outcome'⟩ := y
  unfold EndAlike at h ⊢
  cases h with
  | ok hab =>
    rw [bind_of_ok rfl, bind_of_ok rfl]
    exact hfg _ _ hab
  | error e e' =>
    rw [bind_of_error rfl, bind_of_error rfl]
    exact .error e e'

/-- Steps after reports, which need not be the same. -/
theorem reportAll_bind (events events' : List Event) {f : Unit → Traced γ} {g : Unit → Traced δ}
    (h : EndAlike S (f ()) (g ())) :
    EndAlike S (Traced.reportAll events >>= f) (Traced.reportAll events' >>= g) :=
  bind (x := Traced.reportAll events) (y := Traced.reportAll events') (.ok rfl) fun _ _ _ => h

/-- Steps after one report each. -/
theorem report_bind (event event' : Event) {f : Unit → Traced γ} {g : Unit → Traced δ}
    (h : EndAlike S (f ()) (g ())) :
    EndAlike S (Traced.report event >>= f) (Traced.report event' >>= g) :=
  reportAll_bind [event] [event'] h

end EndAlike

/-- Two steps that end in one failure or in related results, whatever they report. -/
def Agree (R : α → β → Prop) (x : Traced α) (y : Traced β) : Prop :=
  OutcomesAgree R x.outcome y.outcome

namespace Agree

variable {R : α → β → Prop} {S : γ → δ → Prop}

theorem pure {a : α} {b : β} (h : R a b) : Agree R (Pure.pure a) (Pure.pure b) := .ok h

/-- One step agrees with itself. -/
theorem refl (x : Traced α) : Agree Eq x x := by
  unfold Agree
  cases x.outcome with
  | ok a => exact .ok rfl
  | error e => exact .error e

/-- **A sequence of steps that agree agrees.** -/
theorem bind {x : Traced α} {y : Traced β} {f : α → Traced γ} {g : β → Traced δ}
    (h : Agree R x y) (hfg : ∀ a b, R a b → Agree S (f a) (g b)) :
    Agree S (x >>= f) (y >>= g) := by
  obtain ⟨events, outcome⟩ := x
  obtain ⟨events', outcome'⟩ := y
  unfold Agree at h ⊢
  cases h with
  | ok hab =>
    rw [bind_of_ok rfl, bind_of_ok rfl]
    exact hfg _ _ hab
  | error e =>
    rw [bind_of_error rfl, bind_of_error rfl]
    exact .error e

/-- The results of steps that agree are their own. -/
theorem withOutcomes {x : Traced α} {y : Traced β} (h : Agree R x y) :
    Agree (fun a b => x.outcome = .ok a ∧ y.outcome = .ok b ∧ R a b) x y := by
  obtain ⟨events, outcome⟩ := x
  obtain ⟨events', outcome'⟩ := y
  unfold Agree at h ⊢
  cases h with
  | ok hab => exact .ok ⟨rfl, rfl, hab⟩
  | error e => exact .error e

/-- One step before steps that agree on its result. -/
theorem bind_left {x : Traced α} {f : α → Traced γ} {g : α → Traced δ}
    (hfg : ∀ a, x.outcome = .ok a → Agree S (f a) (g a)) : Agree S (x >>= f) (x >>= g) := by
  cases hx : x.outcome with
  | ok a =>
    rw [bind_of_ok hx, bind_of_ok hx]
    exact hfg a hx
  | error e =>
    rw [bind_of_error hx, bind_of_error hx]
    exact .error e

/-- Steps after reports, which need not be the same. -/
theorem reportAll_bind (events events' : List Event) {f : Unit → Traced γ} {g : Unit → Traced δ}
    (h : Agree S (f ()) (g ())) :
    Agree S (Traced.reportAll events >>= f) (Traced.reportAll events' >>= g) :=
  bind (x := Traced.reportAll events) (y := Traced.reportAll events') (.ok rfl) fun _ _ _ => h

end Agree

/-- Two steps that report the same events and either both fail or have related results. -/
structure Alike (R : α → β → Prop) (x : Traced α) (y : Traced β) : Prop where
  events : x.events = y.events
  outcome : OutcomesAlike R x.outcome y.outcome

namespace Alike

variable {R : α → β → Prop} {S : γ → δ → Prop}

theorem pure {a : α} {b : β} (h : R a b) : Alike R (Pure.pure a) (Pure.pure b) := ⟨rfl, .ok h⟩

theorem fail (e e' : CompileError) : Alike R (Traced.fail e) (Traced.fail e') := ⟨rfl, .error e e'⟩

/-- One step looks like itself. -/
theorem refl (x : Traced α) : Alike Eq x x := ⟨rfl, .of_eq rfl⟩

theorem ofExcept {x : Except CompileError α} {y : Except CompileError β}
    (h : OutcomesAlike R x y) : Alike R (Traced.ofExcept x) (Traced.ofExcept y) := ⟨rfl, h⟩

/-- **A sequence of steps that look alike looks alike.** -/
theorem bind {x : Traced α} {y : Traced β} {f : α → Traced γ} {g : β → Traced δ}
    (h : Alike R x y) (hfg : ∀ a b, R a b → Alike S (f a) (g b)) :
    Alike S (x >>= f) (y >>= g) := by
  obtain ⟨events, outcome⟩ := x
  obtain ⟨events', outcome'⟩ := y
  obtain ⟨rfl, houtcome⟩ := h
  cases houtcome with
  | @ok a b hab =>
    obtain ⟨hevents, hrest⟩ := hfg a b hab
    rw [bind_of_ok rfl, bind_of_ok rfl]
    exact ⟨by rw [hevents], hrest⟩
  | error e e' =>
    rw [bind_of_error rfl, bind_of_error rfl]
    exact ⟨rfl, .error e e'⟩

/-- Steps after the same report. -/
theorem report_bind (event : Event) {f : Unit → Traced γ} {g : Unit → Traced δ}
    (h : Alike S (f ()) (g ())) :
    Alike S (Traced.report event >>= f) (Traced.report event >>= g) :=
  (refl (Traced.report event)).bind fun _ _ _ => h

/-- Steps after the same reports. -/
theorem reportAll_bind {events events' : List Event} {f : Unit → Traced γ} {g : Unit → Traced δ}
    (hevents : events = events') (h : Alike S (f ()) (g ())) :
    Alike S (Traced.reportAll events >>= f) (Traced.reportAll events' >>= g) := by
  rw [hevents]
  exact (refl (Traced.reportAll events')).bind fun _ _ _ => h

end Alike

end Traced

/-! ## Numbering -/

/-- Two numberings with related results, which keep the records of bound values related. -/
def RunsAlike (B : Bindings → Bindings → Prop) (S : α → β → Prop) (m : StateM Bindings α)
    (m' : StateM Bindings β) : Prop :=
  ∀ b b', B b b' → S (m b).1 (m' b').1 ∧ B (m b).2 (m' b').2

namespace RunsAlike

variable {B : Bindings → Bindings → Prop} {R : α → β → Prop} {S : γ → δ → Prop}

theorem pure {a : α} {b : β} (h : R a b) : RunsAlike B R (Pure.pure a) (Pure.pure b) :=
  fun _ _ hb => ⟨h, hb⟩

/-- One numbering, whatever is known of its result. -/
theorem refl {S : α → α → Prop} {m : StateM Bindings α} (h : ∀ b, S (m b).1 (m b).1) :
    RunsAlike Eq S m m := by
  rintro b _ rfl
  exact ⟨h b, rfl⟩

/-- **A sequence of numberings that run alike runs alike.** -/
theorem bind {m : StateM Bindings α} {m' : StateM Bindings β} {f : α → StateM Bindings γ}
    {g : β → StateM Bindings δ} (h : RunsAlike B R m m')
    (hfg : ∀ a b, R a b → RunsAlike B S (f a) (g b)) : RunsAlike B S (m >>= f) (m' >>= g) := by
  intro b b' hb
  obtain ⟨hresult, hbindings⟩ := h b b' hb
  exact hfg _ _ hresult _ _ hbindings

/-- Numberings of related items, one after another. -/
theorem mapM {f : α → StateM Bindings γ} {g : β → StateM Bindings δ}
    (hfg : ∀ a b, R a b → RunsAlike B S (f a) (g b)) {as : List α} {bs : List β}
    (h : List.Forall₂ R as bs) : RunsAlike B (List.Forall₂ S) (as.mapM f) (bs.mapM g) := by
  induction h with
  | nil =>
    rw [List.mapM_nil, List.mapM_nil]
    exact pure .nil
  | cons hab _ ih =>
    rw [List.mapM_cons, List.mapM_cons]
    exact (hfg _ _ hab).bind fun _ _ hfirst => ih.bind fun _ _ hrest => pure (.cons hfirst hrest)

/-- A numbering of an item that may be missing. -/
theorem mapM_option {f : α → StateM Bindings γ} {g : β → StateM Bindings δ}
    (hfg : ∀ a b, R a b → RunsAlike B S (f a) (g b)) {x : Option α} {y : Option β}
    (h : Option.Rel R x y) : RunsAlike B (Option.Rel S) (x.mapM f) (y.mapM g) := by
  cases h with
  | none => exact pure .none
  | some hab => exact (hfg _ _ hab).bind fun _ _ hrel => pure (.some hrel)

end RunsAlike

/-- Two records of bound values with the same placeholders. -/
structure Bindings.Alike (b b' : Bindings) : Prop where
  issued : b.issued = b'.issued
  bound : b.bound.map Prod.fst = b'.bound.map Prod.fst

theorem Bindings.Alike.refl (b : Bindings) : b.Alike b := ⟨rfl, rfl⟩

/-- A value bound under the same stem gets the same placeholder. -/
theorem Bindings.Alike.bind {b b' : Bindings} (h : b.Alike b') (stem : String)
    (value value' : BindValue) :
    (b.bind stem value).1 = (b'.bind stem value').1 ∧
      (b.bind stem value).2.Alike (b'.bind stem value').2 := by
  refine ⟨?_, ?_, ?_⟩
  · change (⟨stem, b.issued + 1⟩ : Placeholder) = ⟨stem, b'.issued + 1⟩
    rw [h.issued]
  · rw [issued_bind, issued_bind, h.issued]
  · rw [bound_bind, bound_bind, List.map_append, List.map_append, h.bound, h.issued]
    rfl

theorem Bindings.Alike.size {b b' : Bindings} (h : b.Alike b') : b.size = b'.size := by
  have hlength := congrArg List.length h.bound
  rwa [List.length_map, List.length_map] at hlength

/-- The keys of a list with an entry put in depend on keys alone. -/
theorem keys_insertEntry {α β : Type} (key : String) (a : α) (b : β) :
    ∀ {entries : List (String × α)} {entries' : List (String × β)},
      entries.map Prod.fst = entries'.map Prod.fst →
        (insertEntry key a entries).map Prod.fst = (insertEntry key b entries').map Prod.fst
  | [], [], _ => rfl
  | (k, v) :: entries, (k', v') :: entries', h => by
    rw [List.map_cons, List.map_cons, List.cons.injEq] at h
    obtain ⟨hkey, hrest⟩ := h
    dsimp only at hkey
    subst hkey
    unfold insertEntry
    split
    · simp [hrest]
    · split
      · simp [hrest]
      · simp [keys_insertEntry key a b hrest]

/-- The keys of a dictionary with entries put in depend on keys alone. -/
theorem Dict.keys_foldl_insert {α β : Type} :
    ∀ {entries : List (String × α)} {entries' : List (String × β)} {d : Dict α} {d' : Dict β},
      entries.map Prod.fst = entries'.map Prod.fst → d.keys = d'.keys →
        (entries.foldl (fun d e => d.insert e.1 e.2) d).keys =
          (entries'.foldl (fun d e => d.insert e.1 e.2) d').keys
  | [], [], _, _, _, hd => hd
  | (k, a) :: entries, (k', b) :: entries', d, d', h, hd => by
    rw [List.map_cons, List.map_cons, List.cons.injEq] at h
    obtain ⟨rfl, hrest⟩ := h
    rw [List.foldl_cons, List.foldl_cons]
    exact keys_foldl_insert hrest (keys_insertEntry k a b hd)

/-- The bound values are kept under the same names. -/
theorem Bindings.Alike.keys_toDict {b b' : Bindings} (h : b.Alike b') :
    b.toDict.keys = b'.toDict.keys := by
  have hnames := congrArg (List.map Placeholder.name) h.bound
  refine Dict.keys_foldl_insert ?_ rfl
  simpa [Function.comp_def] using hnames

/-- Two numberings that give out the same placeholders and have the same result. -/
def Lockstep (m m' : StateM Bindings α) : Prop :=
  ∀ b b' : Bindings, b.Alike b' → (m b).1 = (m' b').1 ∧ (m b).2.Alike (m' b').2

namespace Lockstep

theorem pure (a : α) : Lockstep (Pure.pure a) (Pure.pure a) := RunsAlike.pure rfl

/-- **A sequence of numberings in lockstep runs in lockstep.** -/
theorem bind {m m' : StateM Bindings α} {f f' : α → StateM Bindings β} (h : Lockstep m m')
    (hf : ∀ a, Lockstep (f a) (f' a)) : Lockstep (m >>= f) (m' >>= f') := by
  refine RunsAlike.bind h ?_
  rintro a _ rfl
  exact hf a

/-- Numberings of related items, one after another. -/
theorem mapM {R : α → β → Prop} {f : α → StateM Bindings γ} {g : β → StateM Bindings γ}
    (hfg : ∀ a b, R a b → Lockstep (f a) (g b)) {as : List α} {bs : List β}
    (h : List.Forall₂ R as bs) : Lockstep (as.mapM f) (bs.mapM g) := by
  intro b b' hb
  obtain ⟨hresult, hbindings⟩ := RunsAlike.mapM hfg h b b' hb
  rw [List.forall₂_eq_eq_eq] at hresult
  exact ⟨hresult, hbindings⟩

/-- A numbering of an item that may be missing. -/
theorem mapM_option {R : α → β → Prop} {f : α → StateM Bindings γ} {g : β → StateM Bindings γ}
    (hfg : ∀ a b, R a b → Lockstep (f a) (g b)) {x : Option α} {y : Option β}
    (h : Option.Rel R x y) : Lockstep (x.mapM f) (y.mapM g) := by
  cases h with
  | none => exact pure none
  | some hab => exact (hfg _ _ hab).bind fun c => pure (some c)

end Lockstep

end ReportSql
