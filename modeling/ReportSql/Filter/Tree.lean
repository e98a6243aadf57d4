/-!
# Logical trees

Trees of conditions joined by AND and OR.  The leaves are of any type, so that one shape serves a
filter as it is requested and a filter as it is compiled.

## Main definitions

* `Logic` — AND and OR.
* `Tree α` — a leaf, or a group of trees under one logic.
* `FilterGroup α` — the root group of a tree.
* `Tree.leaves`, `Tree.traverse` — the leaves in order, and a pass over them in order.
-/

namespace ReportSql

/-- How the members of a group are joined. -/
inductive Logic where
  | and
  | or
deriving DecidableEq, Repr

namespace Logic

/-- The keyword of a logic. -/
def keyword : Logic → String
  | .and => "AND"
  | .or => "OR"

/-- The logics under their names in requests. -/
def choices : List (String × Logic) := [("AND", .and), ("and", .and), ("OR", .or), ("or", .or)]

end Logic

/-- A leaf, or a group of trees under one logic. -/
inductive Tree (α : Type) where
  | leaf (value : α)
  | group (logic : Logic) (children : List (Tree α))

/-- A group of trees under one logic. -/
structure FilterGroup (α : Type) where
  logic : Logic := .and
  children : List (Tree α) := []

variable {α β : Type}

namespace Tree

mutual

/-- The leaves of a tree, in order. -/
def leaves : Tree α → List α
  | .leaf a => [a]
  | .group _ children => leavesAll children

@[inherit_doc leaves] def leavesAll : List (Tree α) → List α
  | [] => []
  | t :: ts => t.leaves ++ leavesAll ts

end

mutual

/-- The tree of the images of the leaves, found in order of the leaves. -/
def traverse {m : Type → Type} [Monad m] (f : α → m β) : Tree α → m (Tree β)
  | .leaf a => do return .leaf (← f a)
  | .group logic children => do return .group logic (← traverseAll f children)

@[inherit_doc traverse] def traverseAll {m : Type → Type} [Monad m] (f : α → m β) :
    List (Tree α) → m (List (Tree β))
  | [] => pure []
  | t :: ts => do
    let u ← t.traverse f
    return u :: (← traverseAll f ts)

end

mutual

/-- The tree of the images of the leaves that have one.  A group that loses all its leaves goes with
them. -/
def prune (f : α → Option β) : Tree α → Option (Tree β)
  | .leaf a => (f a).map .leaf
  | .group logic children =>
    match pruneAll f children with
    | [] => none
    | kept => some (.group logic kept)

@[inherit_doc prune] def pruneAll (f : α → Option β) : List (Tree α) → List (Tree β)
  | [] => []
  | t :: ts =>
    match t.prune f with
    | some u => u :: pruneAll f ts
    | none => pruneAll f ts

end

@[simp] theorem leaves_leaf (a : α) : (leaf a).leaves = [a] := by rw [leaves]

@[simp] theorem leaves_group (logic : Logic) (children : List (Tree α)) :
    (group logic children).leaves = leavesAll children := by rw [leaves]

@[simp] theorem leavesAll_nil : leavesAll ([] : List (Tree α)) = [] := by rw [leavesAll]

@[simp] theorem leavesAll_cons (t : Tree α) (ts : List (Tree α)) :
    leavesAll (t :: ts) = t.leaves ++ leavesAll ts := by rw [leavesAll]

@[simp] theorem leavesAll_append (ts us : List (Tree α)) :
    leavesAll (ts ++ us) = leavesAll ts ++ leavesAll us := by
  induction ts with
  | nil => simp
  | cons t ts ih => simp [ih]

end Tree

namespace FilterGroup

/-- A group as a tree. -/
def toTree (g : FilterGroup α) : Tree α := .group g.logic g.children

/-- A group without children. -/
def isEmpty (g : FilterGroup α) : Bool := g.children.isEmpty

/-- The leaves of a group, in order. -/
def leaves (g : FilterGroup α) : List α := Tree.leavesAll g.children

@[simp] theorem leaves_toTree (g : FilterGroup α) : g.toTree.leaves = g.leaves := by
  simp [toTree, leaves]

end FilterGroup

end ReportSql
