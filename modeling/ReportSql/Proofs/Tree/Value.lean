import ReportSql.Filter.Tree

/-!
# The value of a logical tree

A condition is true, false or unknown of a row, and AND and OR combine the three truth values as a
database does.  A group without leaves says nothing: it is skipped inside its parent, and a whole
tree without leaves is true of every row.

## Main definitions

* `Truth` — the three truth values.
* `Tree.value?` — the value of a tree whose leaves have values, none when it has no leaves.
* `Tree.value`, `FilterGroup.value` — the same, true when there are no leaves.
-/

namespace ReportSql

/-- The truth of a condition. -/
inductive Truth where
  | no
  | unknown
  | yes
deriving DecidableEq, Repr

namespace Truth

/-- The lesser of two truth values. -/
protected def and : Truth → Truth → Truth
  | .no, _ => .no
  | .unknown, .no => .no
  | .unknown, _ => .unknown
  | .yes, b => b

/-- The greater of two truth values. -/
protected def or : Truth → Truth → Truth
  | .yes, _ => .yes
  | .unknown, .yes => .yes
  | .unknown, _ => .unknown
  | .no, b => b

/-- Whether a condition keeps a row: an unknown one does not. -/
def holds (t : Truth) : Bool := t = .yes

@[simp] theorem and_yes (a : Truth) : a.and .yes = a := by cases a <;> rfl

@[simp] theorem yes_and (a : Truth) : Truth.yes.and a = a := rfl

theorem and_comm (a b : Truth) : a.and b = b.and a := by cases a <;> cases b <;> rfl

theorem and_assoc (a b c : Truth) : (a.and b).and c = a.and (b.and c) := by
  cases a <;> cases b <;> cases c <;> rfl

theorem or_assoc (a b c : Truth) : (a.or b).or c = a.or (b.or c) := by
  cases a <;> cases b <;> cases c <;> rfl

@[simp] theorem holds_yes : Truth.yes.holds = true := rfl

/-- An AND keeps a row when both its members do. -/
@[simp] theorem holds_and (a b : Truth) : (a.and b).holds = (a.holds && b.holds) := by
  cases a <;> cases b <;> rfl

end Truth

/-- The truth of two members of a group. -/
def Logic.truth : Logic → Truth → Truth → Truth
  | .and => Truth.and
  | .or => Truth.or

theorem Logic.truth_assoc (logic : Logic) (a b c : Truth) :
    logic.truth (logic.truth a b) c = logic.truth a (logic.truth b c) := by
  cases logic with
  | and => exact Truth.and_assoc a b c
  | or => exact Truth.or_assoc a b c

/-- The truth of two members of a group, either of which may say nothing. -/
def Logic.merge (logic : Logic) (a b : Option Truth) : Option Truth := a.merge logic.truth b

namespace Logic

@[simp] theorem merge_none (logic : Logic) (a : Option Truth) : logic.merge a none = a := by
  cases a <;> rfl

@[simp] theorem none_merge (logic : Logic) (a : Option Truth) : logic.merge none a = a := by
  cases a <;> rfl

@[simp] theorem merge_some (logic : Logic) (a b : Truth) :
    logic.merge (some a) (some b) = some (logic.truth a b) := rfl

theorem merge_assoc (logic : Logic) (a b c : Option Truth) :
    logic.merge (logic.merge a b) c = logic.merge a (logic.merge b c) := by
  cases a <;> cases b <;> cases c <;> simp [truth_assoc]

theorem merge_and_comm (a b : Option Truth) : Logic.and.merge a b = Logic.and.merge b a := by
  cases a <;> cases b <;> simp [truth, Truth.and_comm]

/-- The members of two ANDs may be regrouped pairwise. -/
theorem merge_and_merge_and_comm (a b c d : Option Truth) :
    Logic.and.merge (Logic.and.merge a b) (Logic.and.merge c d) =
      Logic.and.merge (Logic.and.merge a c) (Logic.and.merge b d) := by
  rw [merge_assoc, merge_assoc, ← merge_assoc .and b, ← merge_assoc .and c, merge_and_comm b c]

/-- Of two members of an AND, those that say nothing count as true. -/
theorem getD_merge_and (a b : Option Truth) :
    (Logic.and.merge a b).getD .yes = (a.getD .yes).and (b.getD .yes) := by
  cases a <;> cases b <;> simp [truth]

end Logic

variable {α β : Type}

namespace Tree

mutual

/-- The value of a tree whose leaves have values, none when it has no leaves. -/
def value? (v : α → Truth) : Tree α → Option Truth
  | .leaf a => some (v a)
  | .group logic children => valueAll? v logic children

/-- The value of some trees under one logic, none when they have no leaves. -/
def valueAll? (v : α → Truth) (logic : Logic) : List (Tree α) → Option Truth
  | [] => none
  | t :: ts => logic.merge (t.value? v) (valueAll? v logic ts)

end

/-- The value of a tree whose leaves have values; a tree without leaves is true. -/
def value (v : α → Truth) (t : Tree α) : Truth := (t.value? v).getD .yes

@[simp] theorem value?_leaf (v : α → Truth) (a : α) : (leaf a).value? v = some (v a) := by
  rw [value?]

@[simp] theorem value?_group (v : α → Truth) (logic : Logic) (children : List (Tree α)) :
    (group logic children).value? v = valueAll? v logic children := by rw [value?]

@[simp] theorem valueAll?_nil (v : α → Truth) (logic : Logic) :
    valueAll? v logic [] = none := by rw [valueAll?]

@[simp] theorem valueAll?_cons (v : α → Truth) (logic : Logic) (t : Tree α) (ts : List (Tree α)) :
    valueAll? v logic (t :: ts) = logic.merge (t.value? v) (valueAll? v logic ts) := by
  rw [valueAll?]

theorem valueAll?_append (v : α → Truth) (logic : Logic) (ts us : List (Tree α)) :
    valueAll? v logic (ts ++ us) = logic.merge (valueAll? v logic ts) (valueAll? v logic us) := by
  induction ts with
  | nil => simp
  | cons t ts ih => rw [List.cons_append, valueAll?_cons, valueAll?_cons, ih, Logic.merge_assoc]

mutual

/-- The value of a tree depends on the values of its own leaves alone. -/
theorem value?_congr {v w : α → Truth} :
    ∀ t : Tree α, (∀ a ∈ t.leaves, v a = w a) → t.value? v = t.value? w
  | .leaf a, h => by
    rw [value?_leaf, value?_leaf, h a (by simp)]
  | .group logic children, h => by
    rw [value?_group, value?_group]
    exact valueAll?_congr logic children (by simpa using h)

theorem valueAll?_congr {v w : α → Truth} (logic : Logic) :
    ∀ ts : List (Tree α), (∀ a ∈ leavesAll ts, v a = w a) →
      valueAll? v logic ts = valueAll? w logic ts
  | [], _ => by rw [valueAll?_nil, valueAll?_nil]
  | t :: ts, h => by
    have ht : ∀ a ∈ t.leaves, v a = w a := fun a ha => h a (by simp [ha])
    have hts : ∀ a ∈ leavesAll ts, v a = w a := fun a ha => h a (by simp [ha])
    rw [valueAll?_cons, valueAll?_cons, value?_congr t ht, valueAll?_congr logic ts hts]

end

end Tree

namespace FilterGroup

/-- The value of a filter whose leaves have values; a filter without leaves is true. -/
def value (v : α → Truth) (g : FilterGroup α) : Truth := g.toTree.value v

/-- The value of a filter depends on the values of its own leaves alone. -/
theorem value_congr {v w : α → Truth} {g : FilterGroup α} (h : ∀ a ∈ g.leaves, v a = w a) :
    g.value v = g.value w := by
  unfold value Tree.value
  rw [Tree.value?_congr g.toTree (by simpa using h)]

end FilterGroup

end ReportSql
