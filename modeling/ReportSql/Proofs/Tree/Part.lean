import ReportSql.Proofs.Tree.Match

/-!
# Parts of a tree

The leaves of a tree may be dealt out to two parts, each of which keeps the groups of its leaves.
The two parts joined by AND have the value of the tree as long as no OR has leaves in both.

## Main definitions

* `Tree.part` — the part of a tree whose leaves are on one side.
* `Tree.Separable` — a tree in which every OR has all its leaves on one side.

## Main statements

* `Tree.leaves_prune` — pruning keeps the images of the leaves that have one, in order.
* `Tree.value?_part_merge_part` — the two parts of a separable tree have its value.
-/

namespace ReportSql.Tree

variable {α β γ δ : Type}

/-! ## Pruning -/

section Prune

variable (f : α → Option β)

@[simp] theorem prune_leaf (a : α) : (leaf a).prune f = (f a).map leaf := by rw [prune]

theorem prune_group (logic : Logic) (children : List (Tree α)) :
    (group logic children).prune f =
      if (pruneAll f children).isEmpty then none else some (group logic (pruneAll f children)) := by
  rw [prune]
  split
  · next h => rw [h]; rfl
  · next h =>
    rw [if_neg]
    rw [List.isEmpty_iff]
    exact h

@[simp] theorem pruneAll_nil : pruneAll f [] = [] := by rw [pruneAll]

@[simp] theorem pruneAll_cons (t : Tree α) (ts : List (Tree α)) :
    pruneAll f (t :: ts) = (t.prune f).toList ++ pruneAll f ts := by
  rw [pruneAll]
  split
  · next h => rw [h]; rfl
  · next h => rw [h]; rfl

mutual

/-- Pruning keeps the images of the leaves that have one, in order. -/
theorem leaves_prune : ∀ t : Tree α, (t.prune f).elim [] leaves = t.leaves.filterMap f
  | .leaf a => by cases h : f a <;> simp [h]
  | .group logic children => by
    rw [prune_group, leaves_group, ← leavesAll_pruneAll children]
    split
    · next h => rw [List.isEmpty_iff.1 h]; simp
    · simp

theorem leavesAll_pruneAll :
    ∀ ts : List (Tree α), leavesAll (pruneAll f ts) = (leavesAll ts).filterMap f
  | [] => by simp
  | t :: ts => by
    rw [pruneAll_cons, leavesAll_append, leavesAll_cons, List.filterMap_append, ← leaves_prune t,
      leavesAll_pruneAll ts]
    cases t.prune f <;> simp

end

theorem length_pruneAll_le (ts : List (Tree α)) : (pruneAll f ts).length ≤ ts.length := by
  induction ts with
  | nil => simp
  | cons t ts ih =>
    rw [pruneAll_cons, List.length_append, List.length_cons]
    have hhead : (t.prune f).toList.length ≤ 1 := by cases t.prune f <;> simp
    omega

mutual

/-- Nothing is left of a tree whose leaves have no images. -/
theorem prune_eq_none : ∀ t : Tree α, (∀ a ∈ t.leaves, f a = none) → t.prune f = none
  | .leaf a, h => by rw [prune_leaf, h a (by simp), Option.map_none]
  | .group logic children, h => by
    rw [prune_group, pruneAll_eq_nil children (by simpa using h)]
    rfl

theorem pruneAll_eq_nil :
    ∀ ts : List (Tree α), (∀ a ∈ leavesAll ts, f a = none) → pruneAll f ts = []
  | [], _ => pruneAll_nil f
  | t :: ts, h => by
    rw [pruneAll_cons, prune_eq_none t fun a ha => h a (by simp [ha]),
      pruneAll_eq_nil ts fun a ha => h a (by simp [ha])]
    rfl

end

mutual

/-- The leaves may be replaced by images after pruning or along with it. -/
theorem map_prune (h : β → δ) :
    ∀ t : Tree α, (t.prune f).map (map h) = t.prune fun a => (f a).map h
  | .leaf a => by cases ha : f a <;> simp [ha]
  | .group logic children => by
    rw [prune_group, prune_group, ← mapAll_pruneAll h children]
    cases pruneAll f children <;> simp

theorem mapAll_pruneAll (h : β → δ) :
    ∀ ts : List (Tree α), mapAll h (pruneAll f ts) = pruneAll (fun a => (f a).map h) ts
  | [] => by simp
  | t :: ts => by
    rw [pruneAll_cons, pruneAll_cons, ← map_prune h t, ← mapAll_pruneAll h ts]
    cases t.prune f <;> simp

end

mutual

/-- The leaves may be replaced by images before pruning or along with it. -/
theorem prune_map (g : γ → α) : ∀ t : Tree γ, (t.map g).prune f = t.prune fun c => f (g c)
  | .leaf c => by rw [map_leaf, prune_leaf, prune_leaf]
  | .group logic children => by
    rw [map_group, prune_group, prune_group, pruneAll_map g children]

theorem pruneAll_map (g : γ → α) :
    ∀ ts : List (Tree γ), pruneAll f (mapAll g ts) = pruneAll (fun c => f (g c)) ts
  | [] => by simp
  | t :: ts => by
    rw [mapAll_cons, pruneAll_cons, pruneAll_cons, prune_map g t, pruneAll_map g ts]

end

/-- The value of a pruned group is that of its pruned members. -/
theorem bind_value?_prune_group (v : β → Truth) (logic : Logic) (children : List (Tree α)) :
    ((group logic children).prune f).bind (value? v) = valueAll? v logic (pruneAll f children) := by
  rw [prune_group]
  split
  · next h => rw [List.isEmpty_iff.1 h]; simp
  · simp

theorem valueAll?_pruneAll_cons (v : β → Truth) (logic : Logic) (t : Tree α)
    (ts : List (Tree α)) :
    valueAll? v logic (pruneAll f (t :: ts)) =
      logic.merge ((t.prune f).bind (value? v)) (valueAll? v logic (pruneAll f ts)) := by
  rw [pruneAll_cons]
  cases t.prune f <;> simp

end Prune

/-! ## Parts -/

/-- A leaf that is on one side. -/
def onSide (side : α → Bool) (b : Bool) (a : α) : Option α := if side a = b then some a else none

/-- The part of a tree whose leaves are on one side, if there are any. -/
def part (side : α → Bool) (b : Bool) (t : Tree α) : Option (Tree α) := t.prune (onSide side b)

variable {side : α → Bool}

theorem mem_leaves_of_part {b : Bool} {t u : Tree α} (h : t.part side b = some u) :
    ∀ a ∈ u.leaves, a ∈ t.leaves := by
  have hleaves := leaves_prune (onSide side b) t
  intro a ha
  rw [part] at h
  rw [h, Option.elim_some] at hleaves
  rw [hleaves] at ha
  obtain ⟨a', ha', heq⟩ := List.mem_filterMap.1 ha
  rw [onSide, Option.ite_none_right_eq_some, Option.some_inj] at heq
  obtain ⟨-, rfl⟩ := heq
  exact ha'

variable (v : α → Truth)

mutual

/-- A tree with all its leaves on one side has its value there. -/
theorem value?_part_of_forall {b : Bool} : ∀ t : Tree α, (∀ a ∈ t.leaves, side a = b) →
    (t.part side b).bind (value? v) = t.value? v
  | .leaf a, h => by
    have ha : side a = b := h a (by simp)
    simp [part, onSide, ha]
  | .group logic children, h => by
    rw [part, bind_value?_prune_group, value?_group]
    exact valueAll?_part_of_forall logic children (by simpa using h)

theorem valueAll?_part_of_forall {b : Bool} (logic : Logic) :
    ∀ ts : List (Tree α), (∀ a ∈ leavesAll ts, side a = b) →
      valueAll? v logic (pruneAll (onSide side b) ts) = valueAll? v logic ts
  | [], _ => by simp
  | t :: ts, h => by
    have ht : ∀ a ∈ t.leaves, side a = b := fun a ha => h a (by simp [ha])
    have hts : ∀ a ∈ leavesAll ts, side a = b := fun a ha => h a (by simp [ha])
    have hvalue := value?_part_of_forall t ht
    rw [part] at hvalue
    rw [valueAll?_pruneAll_cons, hvalue, valueAll?_part_of_forall logic ts hts, valueAll?_cons]

end

mutual

/-- A tree without leaves on one side has no value there. -/
theorem value?_part_of_forall_ne {b : Bool} : ∀ t : Tree α, (∀ a ∈ t.leaves, side a ≠ b) →
    (t.part side b).bind (value? v) = none
  | .leaf a, h => by
    have ha : side a ≠ b := h a (by simp)
    simp [part, onSide, ha]
  | .group logic children, h => by
    rw [part, bind_value?_prune_group]
    exact valueAll?_part_of_forall_ne logic children (by simpa using h)

theorem valueAll?_part_of_forall_ne {b : Bool} (logic : Logic) :
    ∀ ts : List (Tree α), (∀ a ∈ leavesAll ts, side a ≠ b) →
      valueAll? v logic (pruneAll (onSide side b) ts) = none
  | [], _ => by simp
  | t :: ts, h => by
    have ht : ∀ a ∈ t.leaves, side a ≠ b := fun a ha => h a (by simp [ha])
    have hts : ∀ a ∈ leavesAll ts, side a ≠ b := fun a ha => h a (by simp [ha])
    have hvalue := value?_part_of_forall_ne t ht
    rw [part] at hvalue
    rw [valueAll?_pruneAll_cons, hvalue, valueAll?_part_of_forall_ne logic ts hts,
      Logic.merge_none]

end

/-! ## Separable trees -/

mutual

/-- A tree in which every OR has all its leaves on one side. -/
def Separable (side : α → Bool) : Tree α → Prop
  | .leaf _ => True
  | .group .and children => SeparableAll side children
  | .group .or children => ∃ b, ∀ a ∈ leavesAll children, side a = b

@[inherit_doc Separable] def SeparableAll (side : α → Bool) : List (Tree α) → Prop
  | [] => True
  | t :: ts => t.Separable side ∧ SeparableAll side ts

end

mutual

/-- A tree of images is separable when the tree is by the sides of the images. -/
theorem separable_of_map (g : γ → α) :
    ∀ t : Tree γ, (t.map g).Separable side → t.Separable fun c => side (g c)
  | .leaf c, _ => trivial
  | .group .and children, h => by
    rw [map_group, Separable] at h
    rw [Separable]
    exact separableAll_of_mapAll g children h
  | .group .or children, h => by
    rw [map_group, Separable, leavesAll_mapAll] at h
    rw [Separable]
    obtain ⟨b, hb⟩ := h
    exact ⟨b, fun c hc => hb (g c) (List.mem_map_of_mem hc)⟩

theorem separableAll_of_mapAll (g : γ → α) :
    ∀ ts : List (Tree γ), SeparableAll side (mapAll g ts) → SeparableAll (fun c => side (g c)) ts
  | [], _ => trivial
  | t :: ts, h => by
    rw [mapAll_cons, SeparableAll] at h
    exact ⟨separable_of_map g t h.1, separableAll_of_mapAll g ts h.2⟩

end

mutual

/-- **The two parts of a separable tree, joined by AND, have its value.** -/
theorem value?_part_merge_part : ∀ t : Tree α, t.Separable side →
    Logic.and.merge ((t.part side false).bind (value? v)) ((t.part side true).bind (value? v)) =
      t.value? v
  | .leaf a, _ => by cases h : side a <;> simp [part, onSide, h]
  | .group .and children, h => by
    rw [part, part, bind_value?_prune_group, bind_value?_prune_group, value?_group]
    exact valueAll?_part_merge_part children (by simpa [Separable] using h)
  | .group .or children, h => by
    rw [Separable] at h
    obtain ⟨b, hb⟩ := h
    have hsame : ∀ a ∈ (group .or children).leaves, side a = b := by simpa using hb
    have hvalue := value?_part_of_forall v (group .or children) hsame
    have hother : ∀ b', b ≠ b' → ∀ a ∈ (group .or children).leaves, side a ≠ b' := by
      intro b' hne a ha
      rwa [hsame a ha]
    cases b with
    | false =>
      have hnone := value?_part_of_forall_ne v (group .or children) (hother true (by decide))
      rw [hvalue, hnone, Logic.merge_none]
    | true =>
      have hnone := value?_part_of_forall_ne v (group .or children) (hother false (by decide))
      rw [hvalue, hnone, Logic.none_merge]

theorem valueAll?_part_merge_part : ∀ ts : List (Tree α), SeparableAll side ts →
    Logic.and.merge (valueAll? v .and (pruneAll (onSide side false) ts))
      (valueAll? v .and (pruneAll (onSide side true) ts)) = valueAll? v .and ts
  | [], _ => by simp
  | t :: ts, h => by
    rw [SeparableAll] at h
    have hvalue := value?_part_merge_part t h.1
    rw [part, part] at hvalue
    rw [valueAll?_pruneAll_cons, valueAll?_pruneAll_cons, Logic.merge_and_merge_and_comm, hvalue,
      valueAll?_part_merge_part ts h.2, valueAll?_cons]

end

end ReportSql.Tree
