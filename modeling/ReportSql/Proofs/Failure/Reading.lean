import ReportSql.Proofs.Routing.Built
import ReportSql.Compile

/-!
# Conditions that are read

Every condition of a request that is read from a text was built: a reader makes a condition by
building it from its parts, and puts it nowhere else.

## Main definitions

* `Document.children` — the documents straight inside a document.
* `ReadFrom K P` — what holds of the conditions that are read from values of one kind.

## Main statements

* `of_readRecord` — what holds of a blank record and is kept by every field holds of what is read.
* `ReadFrom.readGroup` — what holds of conditions holds of those of a group that is read.
* `Request.isBuilt_of_readRequest` — the conditions of a request that is read.
-/

namespace ReportSql

/-! ## Records -/

/-- The documents straight inside a document. -/
def Document.children : Document → List Document
  | .array items => items
  | .object entries => entries.map Prod.snd
  | _ => []

section Records

variable {α ρ : Type} {P : ρ → Prop} {Q : Document → Prop} {fields : List (RecordField ρ)}

theorem exists_of_bind {x : Except Fault α} {f : α → Except Fault ρ} {b : ρ}
    (h : (x >>= f) = .ok b) : ∃ a, x = .ok a ∧ f a = .ok b := by
  cases x with
  | error e => cases h
  | ok a => exact ⟨a, rfl, h⟩

theorem exists_of_map {x : Except Fault α} {f : α → ρ} {b : ρ} (h : x.map f = .ok b) :
    ∃ a, x = .ok a ∧ f a = b := by
  cases x with
  | error e => cases h
  | ok a => exact ⟨a, rfl, Except.ok.inj h⟩

theorem exists_of_mapM {f : α → Except Fault ρ} {as : List α} {rs : List ρ}
    (h : as.mapM f = .ok rs) : ∀ r ∈ rs, ∃ a ∈ as, f a = .ok r := by
  induction as generalizing rs with
  | nil =>
    cases h
    simp
  | cons a as ih =>
    rw [List.mapM_cons] at h
    obtain ⟨r, hr, h⟩ := exists_of_bind h
    obtain ⟨rest, hrest, h⟩ := exists_of_bind h
    cases h
    refine List.forall_mem_cons.2 ⟨⟨a, List.mem_cons_self, hr⟩, fun r' hr' => ?_⟩
    obtain ⟨a', ha', heq⟩ := ih hrest r' hr'
    exact ⟨a', List.mem_cons_of_mem _ ha', heq⟩

theorem eq_ok_of_readOptional {read : Reader ρ} {d : Document} {r : ρ}
    (h : readOptional read d = .ok (some r)) : read d = .ok r := by
  unfold readOptional at h
  split at h
  · cases h
  · obtain ⟨r', hr', heq⟩ := exists_of_map h
    rw [hr', Option.some_inj.1 heq]

theorem value?_of_readAny {d : Document} {value : Json} (h : readAny d = .ok value) :
    d.value? = some value := by
  unfold readAny at h
  split at h
  · next heq =>
    cases h
    exact heq
  · cases h

/-- Every item of a list that is read was read. -/
theorem exists_of_readList {read : Reader ρ} {d : Document} {rs : List ρ}
    (h : readList read d = .ok rs) : ∀ r ∈ rs, ∃ item ∈ d.children, read item = .ok r := by
  unfold readList at h
  split at h
  · exact exists_of_mapM h
  · cases h

/-- Every value of a dictionary that is read was read. -/
theorem exists_of_readDict {read : Reader ρ} {d : Document} {values : Dict ρ}
    (h : readDict read d = .ok values) :
    ∀ e ∈ values.entries, ∃ child ∈ d.children, read child = .ok e.2 := by
  suffices hinto : ∀ (entries : List (DocumentKey × Document)) (done values : Dict ρ),
      (∀ e ∈ done.entries, ∃ child ∈ d.children, read child = .ok e.2) →
        (∀ e ∈ entries, e.2 ∈ d.children) → readEntriesInto read entries done = .ok values →
          ∀ e ∈ values.entries, ∃ child ∈ d.children, read child = .ok e.2 by
    unfold readDict at h
    split at h
    · exact hinto _ .empty values (by simp [Dict.empty]) (fun e => List.mem_map_of_mem) h
    · cases h
  intro entries
  induction entries with
  | nil =>
    intro done values hdone _ h
    cases h
    exact hdone
  | cons entry rest ih =>
    intro done values hdone hentries h
    obtain ⟨hentry, hrest⟩ := List.forall_mem_cons.1 hentries
    unfold readEntriesInto at h
    split at h
    · next heq => cases heq
    · next heq =>
      cases heq
      obtain ⟨value, hvalue, h⟩ := exists_of_bind h
      refine ih _ values (fun e he => ?_) hrest h
      rcases mem_insertEntry he with rfl | he
      · exact ⟨_, hentry, hvalue⟩
      · exact hdone e he
    · cases h

theorem of_readFields (hfields : ∀ f ∈ fields, ∀ d r r', Q d → P r → f.put d r = .ok r' → P r')
    {entries : List (DocumentKey × Document)} (hentries : ∀ e ∈ entries, Q e.2)
    {met : List String} {r r' : ρ} (hr : P r) (h : readFields fields entries met r = .ok r') :
    P r' := by
  induction entries generalizing met r with
  | nil =>
    unfold readFields at h
    split at h
    · cases h
    · cases h
      exact hr
  | cons entry rest ih =>
    obtain ⟨hentry, hrest⟩ := List.forall_mem_cons.1 hentries
    unfold readFields at h
    split at h
    · next heq => cases heq
    · next heq =>
      cases heq
      split at h
      · next f hf =>
        split at h
        · cases h
        · obtain ⟨r₁, hput, h⟩ := exists_of_bind h
          exact ih hrest (hfields f (List.mem_of_find?_eq_some hf) _ _ _ hentry hr hput) h
      · split at h
        · exact ih hrest hr h
        · cases h
    · cases h

theorem of_readPositions {title : String} {count index : Nat}
    (hfields : ∀ f ∈ fields, ∀ d r r', Q d → P r → f.put d r = .ok r' → P r')
    {items : List Document} (hitems : ∀ d ∈ items, Q d) {r r' : ρ} (hr : P r)
    (h : readPositions title count index fields items r = .ok r') : P r' := by
  induction fields generalizing index items r with
  | nil =>
    cases items with
    | nil =>
      cases h
      exact hr
    | cons d ds => cases h
  | cons f fs ih =>
    have hrest : ∀ f ∈ fs, ∀ d r r', Q d → P r → f.put d r = .ok r' → P r' :=
      fun f hf => hfields f (List.mem_cons_of_mem _ hf)
    cases items with
    | nil =>
      unfold readPositions at h
      split at h
      · cases h
      · exact ih hrest hitems hr h
    | cons d ds =>
      obtain ⟨hd, hds⟩ := List.forall_mem_cons.1 hitems
      obtain ⟨r₁, hput, h⟩ := exists_of_bind h
      exact ih hrest hds (hfields f List.mem_cons_self _ _ _ hd hr hput) h

/-- **What holds of a blank record and is kept by every field holds of what is read**, as far as the
fields are read from documents of one kind. -/
theorem of_readRecord {title : String} {blank r : ρ} {d : Document} (hblank : P blank)
    (hfields : ∀ f ∈ fields, ∀ d r r', Q d → P r → f.put d r = .ok r' → P r')
    (hd : ∀ child ∈ d.children, Q child) (h : readRecord title fields blank d = .ok r) : P r := by
  unfold readRecord at h
  split at h
  · next entries =>
    exact of_readFields hfields (fun e he => hd e.2 (List.mem_map_of_mem he)) hblank h
  · exact of_readPositions hfields hd hblank h
  · cases h

end Records

/-! ## Filters -/

theorem Condition.isBuilt_of_read {origin : Origin} {d : Document} {c : Condition}
    (h : Condition.read origin d = .ok c) : c.IsBuilt := by
  obtain ⟨parts, -, h⟩ := exists_of_bind h
  unfold ConditionParts.build at h
  split at h
  · next hbuild =>
    cases h
    exact ⟨_, _, _, _, hbuild⟩
  · cases h

/-- What holds of the conditions that are read from values of one kind, which have no values of
other kinds inside. -/
structure ReadFrom (K : Json → Prop) (P : Condition → Prop) : Prop where
  items : ∀ items, K (.array items) → ∀ item ∈ items, K item
  entries : ∀ entries, K (.object entries) → ∀ e ∈ entries, K e.2
  condition : ∀ value c, K value → Condition.read .value value.document = .ok c → P c

variable {K : Json → Prop} {P : Condition → Prop}

mutual

theorem ReadFrom.readMember (hK : ReadFrom K P) : ∀ (item : Json) (t : Tree Condition), K item →
    ReportSql.readMember item = .ok t → ∀ c ∈ t.leaves, P c
  | .object entries => by
    intro t hitem h
    rw [ReportSql.readMember] at h
    split at h
    · obtain ⟨c, hc, rfl⟩ := exists_of_map h
      simpa using hK.condition _ _ hitem hc
    · split at h
      · obtain ⟨g, hg, rfl⟩ := exists_of_map h
        simpa using hK.readMemberGroup entries {} g (hK.entries entries hitem)
          (by simp [FilterGroup.leaves]) hg
      · cases h
  | .array _ | .null | .bool _ | .number _ | .text _ => by
    intro t _ h
    rw [ReportSql.readMember] at h
    · cases h
    · simp

theorem ReadFrom.readMemberGroup (hK : ReadFrom K P) :
    ∀ (entries : List (String × Json)) (g g' : Filter),
    (∀ e ∈ entries, K e.2) → (∀ c ∈ g.leaves, P c) →
      ReportSql.readMemberGroup entries g = .ok g' → ∀ c ∈ g'.leaves, P c
  | [] => by
    intro g g' _ hg h
    rw [ReportSql.readMemberGroup] at h
    cases h
    exact hg
  | (key, .array items) :: rest => by
    intro g g' hall hg h
    obtain ⟨hfirst, hrest⟩ := List.forall_mem_cons.1 hall
    rw [ReportSql.readMemberGroup] at h
    split at h
    · obtain ⟨children, hchildren, h⟩ := exists_of_bind h
      exact hK.readMemberGroup rest { g with children } g' hrest
        (hK.readMembers items children (hK.items items hfirst) hchildren) h
    · split at h
      · cases h
      · exact hK.readMemberGroup rest g g' hrest hg h
  | (key, .null) :: rest | (key, .bool _) :: rest | (key, .number _) :: rest
  | (key, .text _) :: rest | (key, .object _) :: rest => by
    intro g g' hall hg h
    obtain ⟨-, hrest⟩ := List.forall_mem_cons.1 hall
    rw [ReportSql.readMemberGroup] at h
    · split at h
      · cases h
      · split at h
        · obtain ⟨logic, -, h⟩ := exists_of_bind h
          exact hK.readMemberGroup rest { g with logic } g' hrest hg h
        · exact hK.readMemberGroup rest g g' hrest hg h
    · simp

theorem ReadFrom.readMembers (hK : ReadFrom K P) :
    ∀ (items : List Json) (ts : List (Tree Condition)),
    (∀ item ∈ items, K item) → ReportSql.readMembers items = .ok ts → ∀ c ∈ Tree.leavesAll ts, P c
  | [] => by
    intro ts _ h
    rw [ReportSql.readMembers] at h
    cases h
    simp
  | item :: items => by
    intro ts hall h
    obtain ⟨hfirst, hrest⟩ := List.forall_mem_cons.1 hall
    rw [ReportSql.readMembers] at h
    obtain ⟨t, ht, h⟩ := exists_of_bind h
    obtain ⟨us, hus, h⟩ := exists_of_bind h
    cases h
    intro c hc
    rw [Tree.leavesAll_cons, List.mem_append] at hc
    exact hc.elim (hK.readMember item t hfirst ht c) (hK.readMembers items us hrest hus c)

end

theorem Tree.mem_leavesAll {α : Type} {ts : List (Tree α)} {a : α} :
    a ∈ leavesAll ts ↔ ∃ t ∈ ts, a ∈ t.leaves := by
  induction ts with
  | nil => simp
  | cons t ts ih => simp [ih]

/-- **What holds of conditions that are read holds of those of a group that is read**, as far as all
is read from values of one kind. -/
theorem ReadFrom.readGroup {Q : Document → Prop} (hK : ReadFrom K P)
    (hvalue : ∀ d value, Q d → d.value? = some value → K value)
    (hchildren : ∀ d, Q d → ∀ child ∈ d.children, Q child) {d : Document} {g : Filter} (hd : Q d)
    (h : ReportSql.readGroup d = .ok g) : ∀ c ∈ g.leaves, P c := by
  refine of_readRecord (P := fun g : Filter => ∀ c ∈ g.leaves, P c)
    (by simp [FilterGroup.leaves]) ?_ (hchildren d hd) h
  intro f hf d g g' hd hg hput
  rw [groupFields, List.mem_cons, List.mem_singleton] at hf
  rcases hf with rfl | rfl
  · obtain ⟨logic, -, rfl⟩ := exists_of_map hput
    exact hg
  · obtain ⟨ts, hts, rfl⟩ := exists_of_map hput
    intro c hc
    obtain ⟨t, ht, hc⟩ := Tree.mem_leavesAll.1 hc
    obtain ⟨item, hitem, hread⟩ := exists_of_readList hts t ht
    obtain ⟨value, hany, hmember⟩ := exists_of_bind hread
    exact hK.readMember value t
      (hvalue item value (hchildren d hd item hitem) (value?_of_readAny hany)) hmember c hc

theorem isBuilt_of_readGroup {d : Document} {g : Filter} (h : readGroup d = .ok g) :
    ∀ c ∈ g.leaves, c.IsBuilt := by
  have hK : ReadFrom (fun _ => True) Condition.IsBuilt :=
    ⟨fun _ _ _ _ => trivial, fun _ _ _ _ => trivial, fun _ _ _ => Condition.isBuilt_of_read⟩
  exact hK.readGroup (Q := fun _ => True) (fun _ _ _ _ => trivial) (fun _ _ _ _ => trivial)
    trivial h

/-! ## Requests -/

/-- **What holds of groups that are read holds of the filter of a request that is read**, as far as
all is read from documents of one kind. -/
theorem Request.of_read {P : Filter → Prop} {Q : Document → Prop}
    (hread : ∀ d g, Q d → readGroup d = .ok g → P g) {d : Document}
    (hd : ∀ child ∈ d.children, Q child) {r : Request} (h : Request.read d = .ok r) :
    ∀ g, r.filters? = some g → P g := by
  refine of_readRecord (P := fun r : Request => ∀ g, r.filters? = some g → P g) ?_ ?_ hd h
  · intro g hg
    cases hg
  · intro f hf d r r' hd hr hput
    simp only [fields, List.mem_cons, List.not_mem_nil, or_false] at hf
    rcases hf with rfl | rfl | rfl | rfl | rfl | rfl | rfl | rfl | rfl | rfl | rfl | rfl | rfl
    case inr.inr.inr.inl =>
      obtain ⟨filters?, hfilters, rfl⟩ := exists_of_map hput
      rintro g rfl
      exact hread d g hd (eq_ok_of_readOptional hfilters)
    -- the other fields leave the filter as it is
    all_goals
      obtain ⟨_, -, rfl⟩ := exists_of_map hput
      exact hr

/-- **The conditions of a request that is read were built.** -/
theorem Request.isBuilt_of_readRequest {text : String} {r : Request}
    (h : readRequest text = .ok r) : ∀ c ∈ r.filter.leaves, c.IsBuilt := by
  obtain ⟨r', hread, h⟩ := exists_of_bind h
  obtain rfl : r' = r := by
    split at h
    · cases h
    · exact Except.ok.inj h
  have hfilters : ∀ g, r'.filters? = some g → ∀ c ∈ FilterGroup.leaves g, c.IsBuilt :=
    Request.of_read (P := fun g => ∀ c ∈ FilterGroup.leaves g, c.IsBuilt) (Q := fun _ => True)
      (fun _ _ _ => isBuilt_of_readGroup) (fun _ _ => trivial) hread
  intro c hc
  unfold filter at hc
  cases hg : r'.filters? with
  | none => simp [hg, FilterGroup.leaves] at hc
  | some g => exact hfilters g hg c (by simpa [hg] using hc)

end ReportSql
