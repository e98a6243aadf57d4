import ReportSql.Proofs.Tree.Value

/-!
# Trees leaf by leaf

Two trees of one shape may be compared leaf by leaf, and a leaf may be looked at together with the
groups that it stands in.

## Main definitions

* `Tree.map` — the images of the leaves.
* `Tree.Matches R` — two trees of one shape whose leaves are related.
* `Tree.inContext` — every leaf with the groups that it stands in.
-/

namespace ReportSql

variable {α β γ : Type}

namespace Tree

/-! ## Images -/

mutual

/-- The tree of the images of the leaves. -/
def map (f : α → β) : Tree α → Tree β
  | .leaf a => .leaf (f a)
  | .group logic children => .group logic (mapAll f children)

@[inherit_doc map] def mapAll (f : α → β) : List (Tree α) → List (Tree β)
  | [] => []
  | t :: ts => t.map f :: mapAll f ts

end

@[simp] theorem map_leaf (f : α → β) (a : α) : (leaf a).map f = leaf (f a) := by rw [map]

@[simp] theorem map_group (f : α → β) (logic : Logic) (children : List (Tree α)) :
    (group logic children).map f = group logic (mapAll f children) := by rw [map]

@[simp] theorem mapAll_nil (f : α → β) : mapAll f [] = [] := by rw [mapAll]

@[simp] theorem mapAll_cons (f : α → β) (t : Tree α) (ts : List (Tree α)) :
    mapAll f (t :: ts) = t.map f :: mapAll f ts := by rw [mapAll]

mutual

@[simp] theorem leaves_map (f : α → β) : ∀ t : Tree α, (t.map f).leaves = t.leaves.map f
  | .leaf a => by simp
  | .group logic children => by rw [map_group, leaves_group, leaves_group, leavesAll_mapAll]

@[simp] theorem leavesAll_mapAll (f : α → β) :
    ∀ ts : List (Tree α), leavesAll (mapAll f ts) = (leavesAll ts).map f
  | [] => by simp
  | t :: ts => by
    rw [mapAll_cons, leavesAll_cons, leavesAll_cons, List.map_append, leaves_map, leavesAll_mapAll]

end

mutual

/-- An image of an image. -/
theorem map_map (f : α → β) (g : β → γ) : ∀ t : Tree α, (t.map f).map g = t.map (g ∘ f)
  | .leaf a => by simp
  | .group logic children => by simp [mapAll_mapAll f g children]

theorem mapAll_mapAll (f : α → β) (g : β → γ) :
    ∀ ts : List (Tree α), mapAll g (mapAll f ts) = mapAll (g ∘ f) ts
  | [] => by simp
  | t :: ts => by simp [map_map f g t, mapAll_mapAll f g ts]

end

mutual

/-- The images of a tree under functions that are equal on its leaves. -/
theorem map_congr_left {f g : α → β} :
    ∀ {t : Tree α}, (∀ a ∈ t.leaves, f a = g a) → t.map f = t.map g
  | .leaf a, h => by rw [map_leaf, map_leaf, h a (by simp)]
  | .group logic children, h => by
    rw [map_group, map_group, mapAll_congr_left (by simpa using h)]

theorem mapAll_congr_left {f g : α → β} :
    ∀ {ts : List (Tree α)}, (∀ a ∈ leavesAll ts, f a = g a) → mapAll f ts = mapAll g ts
  | [], _ => by rw [mapAll_nil, mapAll_nil]
  | t :: ts, h => by
    rw [mapAll_cons, mapAll_cons, map_congr_left fun a ha => h a (by simp [ha]),
      mapAll_congr_left fun a ha => h a (by simp [ha])]

end

/-! ## Matching trees -/

mutual

/-- Two trees of one shape whose leaves are related. -/
def Matches (R : α → β → Prop) : Tree α → Tree β → Prop
  | .leaf a, .leaf b => R a b
  | .group logic children, .group logic' children' =>
    logic = logic' ∧ MatchesAll R children children'
  | .leaf _, .group _ _ => False
  | .group _ _, .leaf _ => False

@[inherit_doc Matches] def MatchesAll (R : α → β → Prop) : List (Tree α) → List (Tree β) → Prop
  | [], [] => True
  | t :: ts, u :: us => t.Matches R u ∧ MatchesAll R ts us
  | [], _ :: _ => False
  | _ :: _, [] => False

end

variable {R : α → β → Prop}

@[simp] theorem matches_leaf {a : α} {u : Tree β} :
    (leaf a).Matches R u ↔ ∃ b, u = leaf b ∧ R a b := by
  cases u with
  | leaf b => simp [Matches]
  | group logic children => simp [Matches]

@[simp] theorem matches_group {logic : Logic} {children : List (Tree α)} {u : Tree β} :
    (group logic children).Matches R u ↔
      ∃ children', u = group logic children' ∧ MatchesAll R children children' := by
  cases u with
  | leaf b => simp [Matches]
  | group logic' children' =>
    rw [Matches]
    constructor
    · rintro ⟨rfl, h⟩
      exact ⟨children', rfl, h⟩
    · rintro ⟨_, heq, h⟩
      cases heq
      exact ⟨rfl, h⟩

@[simp] theorem matchesAll_nil {us : List (Tree β)} : MatchesAll R [] us ↔ us = [] := by
  cases us <;> simp [MatchesAll]

@[simp] theorem matchesAll_cons {t : Tree α} {ts : List (Tree α)} {us : List (Tree β)} :
    MatchesAll R (t :: ts) us ↔ ∃ u us', us = u :: us' ∧ t.Matches R u ∧ MatchesAll R ts us' := by
  cases us with
  | nil => simp [MatchesAll]
  | cons u us =>
    rw [MatchesAll]
    constructor
    · rintro ⟨h, hs⟩
      exact ⟨u, us, rfl, h, hs⟩
    · rintro ⟨_, _, heq, h, hs⟩
      cases heq
      exact ⟨h, hs⟩

mutual

/-- Leaves that are related are related in every way that follows for the leaves of the tree. -/
theorem Matches.imp_of_mem {S : α → β → Prop} : ∀ {t : Tree α} {u : Tree β},
    (∀ a ∈ t.leaves, ∀ b, R a b → S a b) → t.Matches R u → t.Matches S u
  | .leaf a, u, himp, h => by
    obtain ⟨b, rfl, hab⟩ := matches_leaf.1 h
    exact matches_leaf.2 ⟨b, rfl, himp a (by simp) b hab⟩
  | .group logic children, u, himp, h => by
    obtain ⟨children', rfl, hall⟩ := matches_group.1 h
    exact matches_group.2 ⟨children', rfl, MatchesAll.imp_of_mem (by simpa using himp) hall⟩

theorem MatchesAll.imp_of_mem {S : α → β → Prop} : ∀ {ts : List (Tree α)} {us : List (Tree β)},
    (∀ a ∈ leavesAll ts, ∀ b, R a b → S a b) → MatchesAll R ts us → MatchesAll S ts us
  | [], us, _, h => matchesAll_nil.2 (matchesAll_nil.1 h)
  | t :: ts, us, himp, h => by
    obtain ⟨u, us', rfl, hu, hus⟩ := matchesAll_cons.1 h
    exact matchesAll_cons.2 ⟨u, us', rfl,
      Matches.imp_of_mem (fun a ha => himp a (by simp [ha])) hu,
      MatchesAll.imp_of_mem (fun a ha => himp a (by simp [ha])) hus⟩

end

/-- Leaves that are related are related in every weaker way. -/
theorem Matches.imp {S : α → β → Prop} (himp : ∀ a b, R a b → S a b) {t : Tree α} {u : Tree β}
    (h : t.Matches R u) : t.Matches S u := h.imp_of_mem fun a _ => himp a

mutual

/-- An image matches a tree when the leaves do that it is the image of. -/
theorem matches_map_iff {f : γ → α} : ∀ {t : Tree γ} {u : Tree β},
    (t.map f).Matches R u ↔ t.Matches (fun c b => R (f c) b) u
  | .leaf c, u => by rw [map_leaf, matches_leaf, matches_leaf]
  | .group logic children, u => by
    simp only [map_group, matches_group, matchesAll_mapAll_iff]

theorem matchesAll_mapAll_iff {f : γ → α} : ∀ {ts : List (Tree γ)} {us : List (Tree β)},
    MatchesAll R (mapAll f ts) us ↔ MatchesAll (fun c b => R (f c) b) ts us
  | [], us => by rw [mapAll_nil, matchesAll_nil, matchesAll_nil]
  | t :: ts, us => by
    simp only [mapAll_cons, matchesAll_cons, matches_map_iff, matchesAll_mapAll_iff]

end

mutual

/-- Trees that match one after another match leaf by leaf through the tree between. -/
theorem Matches.trans {S : β → γ → Prop} : ∀ {t : Tree α} {u : Tree β} {v : Tree γ},
    t.Matches R u → u.Matches S v → t.Matches (fun a c => ∃ b, R a b ∧ S b c) v
  | .leaf a, u, v, h, h' => by
    obtain ⟨b, rfl, hab⟩ := matches_leaf.1 h
    obtain ⟨c, rfl, hbc⟩ := matches_leaf.1 h'
    exact matches_leaf.2 ⟨c, rfl, b, hab, hbc⟩
  | .group logic children, u, v, h, h' => by
    obtain ⟨us, rfl, hus⟩ := matches_group.1 h
    obtain ⟨vs, rfl, hvs⟩ := matches_group.1 h'
    exact matches_group.2 ⟨vs, rfl, MatchesAll.trans hus hvs⟩

theorem MatchesAll.trans {S : β → γ → Prop} :
    ∀ {ts : List (Tree α)} {us : List (Tree β)} {vs : List (Tree γ)},
      MatchesAll R ts us → MatchesAll S us vs → MatchesAll (fun a c => ∃ b, R a b ∧ S b c) ts vs
  | [], us, vs, h, h' => by
    obtain rfl := matchesAll_nil.1 h
    exact matchesAll_nil.2 (matchesAll_nil.1 h')
  | t :: ts, us, vs, h, h' => by
    obtain ⟨u, us, rfl, hu, hus⟩ := matchesAll_cons.1 h
    obtain ⟨v, vs, rfl, hv, hvs⟩ := matchesAll_cons.1 h'
    exact matchesAll_cons.2 ⟨v, vs, rfl, Matches.trans hu hv, MatchesAll.trans hus hvs⟩

end

mutual

/-- Two matching trees are one tree of pairs. -/
theorem Matches.exists_zip : ∀ {t : Tree α} {u : Tree β}, t.Matches R u →
    ∃ w : Tree (α × β), w.map Prod.fst = t ∧ w.map Prod.snd = u ∧ ∀ x ∈ w.leaves, R x.1 x.2
  | .leaf a, u, h => by
    obtain ⟨b, rfl, hab⟩ := matches_leaf.1 h
    exact ⟨.leaf (a, b), by simp, by simp, by simpa using hab⟩
  | .group logic children, u, h => by
    obtain ⟨children', rfl, hall⟩ := matches_group.1 h
    obtain ⟨ws, hfst, hsnd, hws⟩ := MatchesAll.exists_zip hall
    exact ⟨.group logic ws, by rw [map_group, hfst], by rw [map_group, hsnd], by simpa using hws⟩

theorem MatchesAll.exists_zip : ∀ {ts : List (Tree α)} {us : List (Tree β)},
    MatchesAll R ts us → ∃ ws : List (Tree (α × β)), mapAll Prod.fst ws = ts ∧
      mapAll Prod.snd ws = us ∧ ∀ x ∈ leavesAll ws, R x.1 x.2
  | [], us, h => by
    obtain rfl := matchesAll_nil.1 h
    exact ⟨[], by simp, by simp, by simp⟩
  | t :: ts, us, h => by
    obtain ⟨u, us', rfl, hu, hus⟩ := matchesAll_cons.1 h
    obtain ⟨w, hfst, hsnd, hw⟩ := Matches.exists_zip hu
    obtain ⟨ws, hfsts, hsnds, hws⟩ := MatchesAll.exists_zip hus
    refine ⟨w :: ws, by rw [mapAll_cons, hfst, hfsts], by rw [mapAll_cons, hsnd, hsnds], ?_⟩
    intro x hx
    rw [leavesAll_cons, List.mem_append] at hx
    exact hx.elim (hw x) (hws x)

end

mutual

/-- Trees whose leaves are equal are equal. -/
theorem Matches.eq : ∀ {t u : Tree α}, t.Matches Eq u → t = u
  | .leaf a, u, h => by
    obtain ⟨b, rfl, rfl⟩ := matches_leaf.1 h
    rfl
  | .group logic children, u, h => by
    obtain ⟨children', rfl, hall⟩ := matches_group.1 h
    rw [MatchesAll.eq hall]

theorem MatchesAll.eq : ∀ {ts us : List (Tree α)}, MatchesAll Eq ts us → ts = us
  | [], us, h => (matchesAll_nil.1 h).symm
  | t :: ts, us, h => by
    obtain ⟨u, us', rfl, hu, hus⟩ := matchesAll_cons.1 h
    rw [Matches.eq hu, MatchesAll.eq hus]

end

mutual

/-- Trees whose leaves have equal images have equal images. -/
theorem matches_invImage_iff {f : α → γ} : ∀ {t u : Tree α},
    t.Matches (InvImage Eq f) u ↔ t.map f = u.map f
  | .leaf a, .leaf b => by simp [InvImage]
  | .leaf a, .group logic children => by simp
  | .group logic children, .leaf b => by simp
  | .group logic children, .group logic' children' => by
    rw [map_group, map_group, Tree.group.injEq, Matches, matchesAll_invImage_iff]

theorem matchesAll_invImage_iff {f : α → γ} : ∀ {ts us : List (Tree α)},
    MatchesAll (InvImage Eq f) ts us ↔ mapAll f ts = mapAll f us
  | [], [] => by simp
  | [], u :: us => by simp
  | t :: ts, [] => by simp
  | t :: ts, u :: us => by
    rw [mapAll_cons, mapAll_cons, List.cons.injEq, MatchesAll, matches_invImage_iff,
      matchesAll_invImage_iff]

end

mutual

/-- Every leaf of the second tree is related to a leaf of the first. -/
theorem Matches.exists_left : ∀ {t : Tree α} {u : Tree β}, t.Matches R u →
    ∀ b ∈ u.leaves, ∃ a ∈ t.leaves, R a b
  | .leaf a, u, h, b, hb => by
    obtain ⟨b', rfl, hab⟩ := matches_leaf.1 h
    obtain rfl : b = b' := by simpa using hb
    exact ⟨a, by simp, hab⟩
  | .group logic children, u, h, b, hb => by
    obtain ⟨children', rfl, hall⟩ := matches_group.1 h
    rw [leaves_group] at hb ⊢
    exact MatchesAll.exists_left hall b hb

theorem MatchesAll.exists_left : ∀ {ts : List (Tree α)} {us : List (Tree β)},
    MatchesAll R ts us → ∀ b ∈ leavesAll us, ∃ a ∈ leavesAll ts, R a b
  | [], us, h, b, hb => by
    obtain rfl := matchesAll_nil.1 h
    simp at hb
  | t :: ts, us, h, b, hb => by
    obtain ⟨u, us', rfl, hu, hus⟩ := matchesAll_cons.1 h
    rw [leavesAll_cons, List.mem_append] at hb
    rcases hb with hb | hb
    · obtain ⟨a, ha, hab⟩ := Matches.exists_left hu b hb
      exact ⟨a, by simp [ha], hab⟩
    · obtain ⟨a, ha, hab⟩ := MatchesAll.exists_left hus b hb
      exact ⟨a, by simp [ha], hab⟩

end

mutual

/-- Trees whose leaves have equal values have equal values. -/
theorem Matches.value?_eq {v : α → Truth} {w : β → Truth} : ∀ {t : Tree α} {u : Tree β},
    t.Matches (fun a b => v a = w b) u → t.value? v = u.value? w
  | .leaf a, u, h => by
    obtain ⟨b, rfl, hab⟩ := matches_leaf.1 h
    rw [value?_leaf, value?_leaf, hab]
  | .group logic children, u, h => by
    obtain ⟨children', rfl, hall⟩ := matches_group.1 h
    rw [value?_group, value?_group]
    exact MatchesAll.valueAll?_eq logic hall

theorem MatchesAll.valueAll?_eq {v : α → Truth} {w : β → Truth} (logic : Logic) :
    ∀ {ts : List (Tree α)} {us : List (Tree β)}, MatchesAll (fun a b => v a = w b) ts us →
      valueAll? v logic ts = valueAll? w logic us
  | [], us, h => by
    obtain rfl := matchesAll_nil.1 h
    rw [valueAll?_nil, valueAll?_nil]
  | t :: ts, us, h => by
    obtain ⟨u, us', rfl, hu, hus⟩ := matchesAll_cons.1 h
    rw [valueAll?_cons, valueAll?_cons, Matches.value?_eq hu, MatchesAll.valueAll?_eq logic hus]

end

mutual

/-- What the leaves of a tree carry besides may be carried over to a matching tree. -/
theorem Matches.exists_carry : ∀ {w : Tree (α × γ)} {u : Tree β}, (w.map Prod.fst).Matches R u →
    ∃ w' : Tree (β × γ), w'.map Prod.fst = u ∧
      w.Matches (fun x y => R x.1 y.1 ∧ x.2 = y.2) w'
  | .leaf x, u, h => by
    rw [map_leaf] at h
    obtain ⟨b, rfl, hab⟩ := matches_leaf.1 h
    exact ⟨.leaf (b, x.2), by simp, matches_leaf.2 ⟨_, rfl, hab, rfl⟩⟩
  | .group logic children, u, h => by
    rw [map_group] at h
    obtain ⟨children', rfl, hall⟩ := matches_group.1 h
    obtain ⟨ws, hws, hmatch⟩ := MatchesAll.exists_carry hall
    exact ⟨.group logic ws, by rw [map_group, hws], matches_group.2 ⟨ws, rfl, hmatch⟩⟩

theorem MatchesAll.exists_carry : ∀ {ws : List (Tree (α × γ))} {us : List (Tree β)},
    MatchesAll R (mapAll Prod.fst ws) us →
      ∃ ws' : List (Tree (β × γ)), mapAll Prod.fst ws' = us ∧
        MatchesAll (fun x y => R x.1 y.1 ∧ x.2 = y.2) ws ws'
  | [], us, h => by
    rw [mapAll_nil] at h
    obtain rfl := matchesAll_nil.1 h
    exact ⟨[], by simp, by simp⟩
  | w :: ws, us, h => by
    rw [mapAll_cons] at h
    obtain ⟨u, us', rfl, hu, hus⟩ := matchesAll_cons.1 h
    obtain ⟨w', hw', hmatch⟩ := Matches.exists_carry hu
    obtain ⟨ws', hws', hmatches⟩ := MatchesAll.exists_carry hus
    exact ⟨w' :: ws', by rw [mapAll_cons, hw', hws'],
      matchesAll_cons.2 ⟨w', ws', rfl, hmatch, hmatches⟩⟩

end

/-! ## Leaves in context -/

mutual

/-- Every leaf with the groups that it stands in, the innermost first. -/
def inContext (above : List (FilterGroup α)) : Tree α → Tree (List (FilterGroup α) × α)
  | .leaf a => .leaf (above, a)
  | .group logic children => .group logic (inContextAll (⟨logic, children⟩ :: above) children)

@[inherit_doc inContext] def inContextAll (above : List (FilterGroup α)) :
    List (Tree α) → List (Tree (List (FilterGroup α) × α))
  | [] => []
  | t :: ts => t.inContext above :: inContextAll above ts

end

@[simp] theorem inContext_leaf (above : List (FilterGroup α)) (a : α) :
    (leaf a).inContext above = leaf (above, a) := by rw [inContext]

@[simp] theorem inContext_group (above : List (FilterGroup α)) (logic : Logic)
    (children : List (Tree α)) :
    (group logic children).inContext above =
      group logic (inContextAll (⟨logic, children⟩ :: above) children) := by rw [inContext]

@[simp] theorem inContextAll_nil (above : List (FilterGroup α)) :
    inContextAll above [] = [] := by rw [inContextAll]

@[simp] theorem inContextAll_cons (above : List (FilterGroup α)) (t : Tree α)
    (ts : List (Tree α)) :
    inContextAll above (t :: ts) = t.inContext above :: inContextAll above ts := by
  rw [inContextAll]

mutual

/-- A leaf of a tree stands in groups of that tree and in those above it. -/
theorem mem_leaves_inContext {above : List (FilterGroup α)} {x : List (FilterGroup α) × α} :
    ∀ {t : Tree α}, x ∈ (t.inContext above).leaves →
      x.2 ∈ t.leaves ∧
        ∃ inner, x.1 = inner ++ above ∧ ∀ g ∈ inner, ∀ a ∈ g.leaves, a ∈ t.leaves
  | .leaf a, hx => by
    obtain rfl : x = (above, a) := by simpa using hx
    exact ⟨by simp, [], rfl, by simp⟩
  | .group logic children, hx => by
    rw [inContext_group, leaves_group] at hx
    obtain ⟨hleaf, inner, heq, hinner⟩ := mem_leaves_inContextAll hx
    refine ⟨by simpa using hleaf, inner ++ [⟨logic, children⟩], by simp [heq], ?_⟩
    intro g hg a ha
    rw [leaves_group]
    rcases List.mem_append.1 hg with hg | hg
    · exact hinner g hg a ha
    · rw [List.mem_singleton] at hg
      rwa [hg] at ha

theorem mem_leaves_inContextAll {above : List (FilterGroup α)} {x : List (FilterGroup α) × α} :
    ∀ {ts : List (Tree α)}, x ∈ leavesAll (inContextAll above ts) →
      x.2 ∈ leavesAll ts ∧
        ∃ inner, x.1 = inner ++ above ∧ ∀ g ∈ inner, ∀ a ∈ g.leaves, a ∈ leavesAll ts
  | [], hx => by simp at hx
  | t :: ts, hx => by
    rw [inContextAll_cons, leavesAll_cons, List.mem_append] at hx
    rw [leavesAll_cons]
    rcases hx with hx | hx
    · obtain ⟨hleaf, inner, heq, hinner⟩ := mem_leaves_inContext hx
      exact ⟨List.mem_append_left _ hleaf, inner, heq,
        fun g hg a ha => List.mem_append_left _ (hinner g hg a ha)⟩
    · obtain ⟨hleaf, inner, heq, hinner⟩ := mem_leaves_inContextAll hx
      exact ⟨List.mem_append_right _ hleaf, inner, heq,
        fun g hg a ha => List.mem_append_right _ (hinner g hg a ha)⟩

end

mutual

/-- A tree that matches a tree in context matches the tree itself. -/
theorem Matches.of_inContext {R : List (FilterGroup α) × α → β → Prop} :
    ∀ {t : Tree α} {above : List (FilterGroup α)} {u : Tree β}, (t.inContext above).Matches R u →
      t.Matches (fun a b => ∃ above, R (above, a) b) u
  | .leaf a, above, u, h => by
    rw [inContext_leaf] at h
    obtain ⟨b, rfl, hab⟩ := matches_leaf.1 h
    exact matches_leaf.2 ⟨b, rfl, above, hab⟩
  | .group logic children, above, u, h => by
    rw [inContext_group] at h
    obtain ⟨children', rfl, hall⟩ := matches_group.1 h
    exact matches_group.2 ⟨children', rfl, MatchesAll.of_inContextAll hall⟩

theorem MatchesAll.of_inContextAll {R : List (FilterGroup α) × α → β → Prop} :
    ∀ {ts : List (Tree α)} {above : List (FilterGroup α)} {us : List (Tree β)},
      MatchesAll R (inContextAll above ts) us →
        MatchesAll (fun a b => ∃ above, R (above, a) b) ts us
  | [], above, us, h => by
    rw [inContextAll_nil] at h
    exact matchesAll_nil.2 (matchesAll_nil.1 h)
  | t :: ts, above, us, h => by
    rw [inContextAll_cons] at h
    obtain ⟨u, us', rfl, hu, hus⟩ := matchesAll_cons.1 h
    exact matchesAll_cons.2 ⟨u, us', rfl, Matches.of_inContext hu, MatchesAll.of_inContextAll hus⟩

end

end Tree

end ReportSql
