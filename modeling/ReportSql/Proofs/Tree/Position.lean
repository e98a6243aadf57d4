import ReportSql.Proofs.Tree.Homes

/-!
# Places in a filter

A place in a filter is what stands around one of its leaves: the groups that it stands in, each with
the members beside it.  Something true at a place goes unnoticed if the innermost group with other
leaves is an AND; in an OR it makes the whole group true.

## Main definitions

* `Frame`, `Position` — a group around a place, and a place in a filter.
* `Position.fill` — a filter with a tree at a place, or with nothing there.
* `Position.IsNeutral` — a place where truth goes unnoticed.

## Main statements

* `exists_fill_of_mem_leaves` — every leaf of a filter is at some place.
* `Position.value_fill_eq_iff` — where a true leaf may be left out.
-/

namespace ReportSql

open ReportSql.Tree

variable {α β : Type}

/-- A group around a place: its logic, and its members before and after the place. -/
structure Frame (α : Type) where
  logic : Logic
  before : List (Tree α)
  after : List (Tree α)

namespace Frame

/-- The members of a group with a tree at the place, or with nothing there. -/
def members (f : Frame α) (x : Option (Tree α)) : List (Tree α) := f.before ++ x.toList ++ f.after

/-- The leaves beside a place. -/
def beside (f : Frame α) : List α := leavesAll f.before ++ leavesAll f.after

/-- Whether a group has other leaves than those at the place. -/
def isShared (f : Frame α) : Bool := !f.beside.isEmpty

/-- The images of the members beside a place. -/
def map (g : α → β) (f : Frame α) : Frame β :=
  ⟨f.logic, mapAll g f.before, mapAll g f.after⟩

@[simp] theorem logic_map (g : α → β) (f : Frame α) : (f.map g).logic = f.logic := rfl

@[simp] theorem beside_map (g : α → β) (f : Frame α) : (f.map g).beside = f.beside.map g := by
  simp [beside, map]

@[simp] theorem isShared_map (g : α → β) (f : Frame α) : (f.map g).isShared = f.isShared := by
  simp [isShared]

end Frame

/-- A place in a filter: the groups around it, the innermost first, and the root of the filter. -/
structure Position (α : Type) where
  inner : List (Frame α)
  root : Frame α

namespace Position

/-- All the groups around a place, the innermost first. -/
def frames (p : Position α) : List (Frame α) := p.inner ++ [p.root]

/-- The filter with a tree at a place, or with nothing there. -/
def fill (p : Position α) (x : Option (Tree α)) : FilterGroup α :=
  ⟨p.root.logic,
    p.root.members (p.inner.foldl (fun x f => some (.group f.logic (f.members x))) x)⟩

/-- The images of the leaves around a place. -/
def map (g : α → β) (p : Position α) : Position β := ⟨p.inner.map (Frame.map g), p.root.map g⟩

@[simp] theorem frames_map (g : α → β) (p : Position α) :
    (p.map g).frames = p.frames.map (Frame.map g) := by
  simp [frames, map]

/-- A place where truth goes unnoticed: the innermost group that has other leaves is an AND. -/
def IsNeutral (p : Position α) : Prop :=
  ∀ f, p.frames.find? Frame.isShared = some f → f.logic = .and

end Position

/-! ## Places of leaves -/

mutual

/-- A leaf of a tree that is no leaf stands in groups of it. -/
theorem exists_frames_of_mem_leaves : ∀ {t : Tree α} {a : α}, a ∈ t.leaves →
    ∃ inner : List (Frame α),
      inner.foldl (fun x f => some (.group f.logic (f.members x))) (some (.leaf a)) = some t
  | .leaf b, a, h => by
    obtain rfl : a = b := by simpa using h
    exact ⟨[], rfl⟩
  | .group logic children, a, h => by
    obtain ⟨inner, f, hchildren⟩ := exists_frames_of_mem_leavesAll (by simpa using h) logic
    refine ⟨inner ++ [f], ?_⟩
    rw [List.foldl_append, List.foldl_cons, List.foldl_nil, hchildren.1, hchildren.2]

theorem exists_frames_of_mem_leavesAll : ∀ {ts : List (Tree α)} {a : α}, a ∈ leavesAll ts →
    ∀ logic, ∃ (inner : List (Frame α)) (f : Frame α), f.logic = logic ∧
      f.members (inner.foldl (fun x f => some (.group f.logic (f.members x)))
        (some (.leaf a))) = ts
  | [], a, h, _ => by simp at h
  | t :: ts, a, h, logic => by
    rw [leavesAll_cons, List.mem_append] at h
    rcases h with h | h
    · obtain ⟨inner, hinner⟩ := exists_frames_of_mem_leaves h
      exact ⟨inner, ⟨logic, [], ts⟩, rfl, by rw [hinner]; rfl⟩
    · obtain ⟨inner, f, hlogic, hmembers⟩ := exists_frames_of_mem_leavesAll h logic
      refine ⟨inner, ⟨logic, t :: f.before, f.after⟩, rfl, ?_⟩
      rw [← hmembers]
      simp [Frame.members]

end

/-- **Every leaf of a filter is at some place.** -/
theorem exists_fill_of_mem_leaves {g : FilterGroup α} {a : α} (h : a ∈ g.leaves) :
    ∃ p : Position α, p.fill (some (.leaf a)) = g := by
  obtain ⟨inner, f, hlogic, hmembers⟩ := exists_frames_of_mem_leavesAll h g.logic
  exact ⟨⟨inner, f⟩, by rw [Position.fill, hlogic, hmembers]⟩

namespace Position

/-- What stands around a place stays around it when it is left empty. -/
theorem mem_leaves_fill_of_none {p : Position α} {a : α} (h : a ∈ (p.fill none).leaves)
    (x : Option (Tree α)) : a ∈ (p.fill x).leaves := by
  have hmembers : ∀ (f : Frame α) (x y : Option (Tree α)),
      leavesAll x.toList ⊆ leavesAll y.toList →
        leavesAll (f.members x) ⊆ leavesAll (f.members y) := by
    intro f x y hxy b hb
    simp only [Frame.members, leavesAll_append, List.mem_append] at hb ⊢
    exact hb.imp_left (Or.imp_right (@hxy b))
  have hinner : ∀ (inner : List (Frame α)) (x y : Option (Tree α)),
      leavesAll x.toList ⊆ leavesAll y.toList →
        leavesAll (inner.foldl (fun x f => some (.group f.logic (f.members x))) x).toList ⊆
          leavesAll (inner.foldl (fun x f => some (.group f.logic (f.members x))) y).toList := by
    intro inner
    induction inner with
    | nil => exact fun _ _ hxy => hxy
    | cons f inner ih => exact fun x y hxy => ih _ _ (by simpa using hmembers f x y hxy)
  exact hmembers p.root _ _ (hinner p.inner none x (by simp)) h

theorem toTree_fill_map (g : α → β) (p : Position α) (x : Option (Tree α)) :
    ((p.map g).fill (x.map (Tree.map g))).toTree = (p.fill x).toTree.map g := by
  have hmembers : ∀ (f : Frame α) (x : Option (Tree α)),
      (f.map g).members (x.map (Tree.map g)) = mapAll g (f.members x) := by
    intro f x
    cases x <;> simp [Frame.members, Frame.map, mapAll_eq_map]
  have hinner : ∀ (inner : List (Frame α)) (x : Option (Tree α)),
      (inner.map (Frame.map g)).foldl (fun x f => some (.group f.logic (f.members x)))
          (x.map (Tree.map g)) =
        (inner.foldl (fun x f => some (.group f.logic (f.members x))) x).map (Tree.map g) := by
    intro inner
    induction inner with
    | nil => exact fun _ => rfl
    | cons f inner ih =>
      intro x
      rw [List.map_cons, List.foldl_cons, List.foldl_cons, ← ih, hmembers]
      simp
  simp [fill, map, FilterGroup.toTree, hinner, hmembers]

end Position

/-! ## Values around a place -/

namespace Tree

mutual

/-- A tree has no value if and only if it has no leaves. -/
theorem value?_eq_none_iff {v : α → Truth} : ∀ {t : Tree α}, t.value? v = none ↔ t.leaves = []
  | .leaf a => by simp
  | .group logic children => by rw [value?_group, leaves_group, valueAll?_eq_none_iff]

theorem valueAll?_eq_none_iff {v : α → Truth} {logic : Logic} :
    ∀ {ts : List (Tree α)}, valueAll? v logic ts = none ↔ leavesAll ts = []
  | [] => by simp
  | t :: ts => by
    rw [valueAll?_cons, Logic.merge, Option.merge_eq_none_iff, value?_eq_none_iff,
      valueAll?_eq_none_iff, leavesAll_cons, List.append_eq_nil_iff]

end

mutual

/-- A tree whose leaves have one value has this value, if it has any. -/
theorem value?_of_forall {v : α → Truth} {τ : Truth} : ∀ {t : Tree α}, (∀ a ∈ t.leaves, v a = τ) →
    t.value? v = none ∨ t.value? v = some τ
  | .leaf a, h => by simp [h a (by simp)]
  | .group logic children, h => by
    rw [value?_group]
    exact valueAll?_of_forall (by simpa using h)

theorem valueAll?_of_forall {v : α → Truth} {τ : Truth} {logic : Logic} :
    ∀ {ts : List (Tree α)}, (∀ a ∈ leavesAll ts, v a = τ) →
      valueAll? v logic ts = none ∨ valueAll? v logic ts = some τ
  | [], _ => by simp
  | t :: ts, h => by
    have ht := value?_of_forall (t := t) fun a ha => h a (by simp [ha])
    have hts : valueAll? v logic ts = none ∨ valueAll? v logic ts = some τ :=
      valueAll?_of_forall fun a ha => h a (by simp [ha])
    have hidem : logic.truth τ τ = τ := by cases logic <;> cases τ <;> rfl
    rw [valueAll?_cons]
    rcases ht with ht | ht <;> rcases hts with hts | hts <;> simp [ht, hts, hidem]

end

end Tree

namespace Frame

variable (v : α → Truth) (f : Frame α)

/-- The value of a group with something of a given value at the place. -/
def valueAround? (x : Option Truth) : Option Truth :=
  f.logic.merge (valueAll? v f.logic f.before) (f.logic.merge x (valueAll? v f.logic f.after))

theorem valueAll?_members (x : Option (Tree α)) :
    valueAll? v f.logic (f.members x) = f.valueAround? v (x.bind (value? v)) := by
  rw [members, valueAll?_append, valueAll?_append, Logic.merge_assoc, valueAround?]
  cases x <;> simp

variable {v f}

/-- A group without other leaves has the value of what stands in it. -/
theorem valueAround?_of_not_isShared (h : f.isShared = false) (x : Option Truth) :
    f.valueAround? v x = x := by
  obtain ⟨hbefore, hafter⟩ : leavesAll f.before = [] ∧ leavesAll f.after = [] := by
    simpa [isShared, beside] using h
  rw [valueAround?, valueAll?_eq_none_iff.2 hbefore, valueAll?_eq_none_iff.2 hafter]
  simp

/-- In an AND with other leaves truth goes unnoticed. -/
theorem valueAround?_yes_of_and (h : f.isShared = true) (hlogic : f.logic = .and) :
    f.valueAround? v (some .yes) = f.valueAround? v none := by
  have hshared : ¬(valueAll? v .and f.before = none ∧ valueAll? v .and f.after = none) := by
    rw [valueAll?_eq_none_iff, valueAll?_eq_none_iff]
    intro hnone
    simp [isShared, beside, hnone] at h
  rw [valueAround?, valueAround?, hlogic]
  cases hbefore : valueAll? v .and f.before with
  | none =>
    cases hafter : valueAll? v .and f.after with
    | none => exact absurd ⟨hbefore, hafter⟩ hshared
    | some b => simp [Logic.truth]
  | some a => cases valueAll? v .and f.after <;> simp [Logic.truth]

/-- A group whose other leaves are neutral for its logic has the value of what stands in it. -/
theorem valueAround?_of_forall {τ : Truth} (h : ∀ a ∈ f.beside, v a = τ)
    (hneutral : ∀ a, f.logic.truth τ a = a ∧ f.logic.truth a τ = a) (a : Truth) :
    f.valueAround? v (some a) = some a := by
  have hbefore : valueAll? v f.logic f.before = none ∨ valueAll? v f.logic f.before = some τ :=
    valueAll?_of_forall fun b hb => h b (List.mem_append_left _ hb)
  have hafter : valueAll? v f.logic f.after = none ∨ valueAll? v f.logic f.after = some τ :=
    valueAll?_of_forall fun b hb => h b (List.mem_append_right _ hb)
  rw [valueAround?]
  rcases hbefore with hbefore | hbefore <;> rcases hafter with hafter | hafter <;>
    simp [hbefore, hafter, hneutral a]

/-- A group with other leaves, all of one value, has this value when nothing stands at the place. -/
theorem valueAround?_none_of_forall {τ : Truth} (hshared : f.isShared = true)
    (h : ∀ a ∈ f.beside, v a = τ) : f.valueAround? v none = some τ := by
  have hleaves : ∀ a ∈ leavesAll (f.before ++ f.after), v a = τ := by
    simpa [beside] using h
  have hvalue : f.valueAround? v none = valueAll? v f.logic (f.before ++ f.after) := by
    rw [valueAround?, valueAll?_append, Logic.none_merge]
  rw [hvalue]
  refine (valueAll?_of_forall hleaves).resolve_left ?_
  rw [valueAll?_eq_none_iff]
  intro hnil
  simp_all [isShared, beside]

end Frame

/-! ## Through the groups -/

/-- The value of the outermost of some groups, the innermost first. -/
def valueThrough? (v : α → Truth) (fs : List (Frame α)) (x : Option Truth) : Option Truth :=
  fs.foldl (fun x f => f.valueAround? v x) x

theorem Position.value_fill (v : α → Truth) (p : Position α) (x : Option (Tree α)) :
    (p.fill x).value v = (valueThrough? v p.frames (x.bind (value? v))).getD .yes := by
  have hinner : ∀ (inner : List (Frame α)) (x : Option (Tree α)),
      (inner.foldl (fun x f => some (.group f.logic (f.members x))) x).bind (value? v) =
        valueThrough? v inner (x.bind (value? v)) := by
    intro inner
    induction inner with
    | nil => exact fun _ => rfl
    | cons f inner ih =>
      intro x
      rw [List.foldl_cons, ih, Option.bind_some, value?_group, f.valueAll?_members]
      rfl
  have hframes : ∀ y, valueThrough? v p.frames y =
      p.root.valueAround? v (valueThrough? v p.inner y) := by
    intro y
    simp [valueThrough?, frames]
  rw [hframes, ← hinner, ← Frame.valueAll?_members]
  simp [fill, FilterGroup.value, FilterGroup.toTree, Tree.value]

/-- If the innermost group with other leaves is an AND, truth goes unnoticed. -/
theorem valueThrough?_yes_of_and {v : α → Truth} : ∀ {fs : List (Frame α)},
    (∀ f, fs.find? Frame.isShared = some f → f.logic = .and) →
      (valueThrough? v fs (some .yes)).getD .yes = (valueThrough? v fs none).getD .yes
  | [], _ => rfl
  | f :: fs, h => by
    have hcons : ∀ x, valueThrough? v (f :: fs) x = valueThrough? v fs (f.valueAround? v x) :=
      fun _ => rfl
    rw [hcons, hcons]
    cases hshared : f.isShared with
    | true =>
      rw [Frame.valueAround?_yes_of_and hshared (h f (by simp [hshared]))]
    | false =>
      rw [Frame.valueAround?_of_not_isShared hshared, Frame.valueAround?_of_not_isShared hshared]
      exact valueThrough?_yes_of_and fun g hg => h g (by simpa [hshared] using hg)

/-- The truth that leaves a group of a logic the value of its other members. -/
def Logic.neutral : Logic → Truth
  | .and => .yes
  | .or => .no

/-- A group whose other leaves say nothing about it. -/
def Frame.muted (f : Frame α) : Frame (α × Truth) := f.map fun a => (a, f.logic.neutral)

theorem Frame.map_fst_muted (f : Frame α) : f.muted.map Prod.fst = f := by
  simp [muted, map, mapAll_mapAll, Function.comp_def, mapAll_id']

theorem Frame.valueAround?_muted (f : Frame α) (a : Truth) :
    f.muted.valueAround? Prod.snd (some a) = some a := by
  refine valueAround?_of_forall (τ := f.logic.neutral) ?_ ?_ a
  · simp [muted]
  · intro a
    cases hlogic : f.logic <;> cases a <;> simp [muted, hlogic] <;> exact ⟨rfl, rfl⟩

theorem valueThrough?_muted (fs : List (Frame α)) (a : Truth) :
    valueThrough? Prod.snd (fs.map Frame.muted) (some a) = some a := by
  induction fs with
  | nil => rfl
  | cons f fs ih =>
    have hcons : valueThrough? Prod.snd ((f :: fs).map Frame.muted) (some a) =
        valueThrough? Prod.snd (fs.map Frame.muted) (f.muted.valueAround? Prod.snd (some a)) := rfl
    rw [hcons, f.valueAround?_muted, ih]

/-- If the innermost group with other leaves is an OR, these may be false, and then truth is
noticed. -/
theorem valueThrough?_none_of_or : ∀ {fs : List (Frame α)} {f : Frame α},
    fs.find? Frame.isShared = some f → f.logic = .or →
      valueThrough? Prod.snd (fs.map Frame.muted) none = some .no
  | [], _, h, _ => by cases h
  | g :: fs, f, h, hlogic => by
    have hcons : valueThrough? Prod.snd ((g :: fs).map Frame.muted) none =
        valueThrough? Prod.snd (fs.map Frame.muted) (g.muted.valueAround? Prod.snd none) := rfl
    rw [hcons]
    cases hshared : g.isShared with
    | true =>
      obtain rfl : g = f := by simpa [hshared] using h
      have hno : g.muted.valueAround? Prod.snd none = some .no := by
        refine Frame.valueAround?_none_of_forall (by simpa [Frame.muted] using hshared) ?_
        simp [Frame.muted, hlogic, Logic.neutral]
      rw [hno, valueThrough?_muted]
    | false =>
      rw [Frame.valueAround?_of_not_isShared (by simpa [Frame.muted] using hshared)]
      exact valueThrough?_none_of_or (by simpa [hshared] using h) hlogic

/-- A place around which nothing is said about it. -/
def Position.muted (p : Position α) : Position (α × Truth) :=
  ⟨p.inner.map Frame.muted, p.root.muted⟩

theorem Position.map_fst_muted (p : Position α) : p.muted.map Prod.fst = p := by
  simp [muted, map, Frame.map_fst_muted, Function.comp_def]

theorem Position.frames_muted (p : Position α) : p.muted.frames = p.frames.map Frame.muted := by
  simp [frames, muted]

/-- **Where a true leaf may be left out**: whatever the other leaves say, the filter has the same
value with it and without it if and only if its place is one where truth goes unnoticed. -/
theorem Position.value_fill_eq_iff (p : Position α) (a : α) :
    (∀ q : Position (α × Truth), q.map Prod.fst = p →
      (q.fill (some (.leaf (a, .yes)))).value Prod.snd = (q.fill none).value Prod.snd) ↔
        p.IsNeutral := by
  constructor
  · intro hsame f hf
    cases hlogic : f.logic with
    | and => rfl
    | or =>
      have hvalues := hsame p.muted p.map_fst_muted
      rw [value_fill, value_fill, frames_muted] at hvalues
      simp [valueThrough?_muted, valueThrough?_none_of_or hf hlogic] at hvalues
  · rintro hneutral q rfl
    rw [value_fill, value_fill]
    refine valueThrough?_yes_of_and fun f hf => ?_
    have himage := hneutral (f.map Prod.fst)
    rw [frames_map, List.find?_map] at himage
    exact himage (by simpa [Function.comp_def] using congrArg (Option.map (Frame.map Prod.fst)) hf)

end ReportSql
