import Mathlib.Data.Multiset.Bind
import ReportSql.Proofs.Join.Plan
import ReportSql.Proofs.Tree.Value

/-!
# Joined rows

What the joins of a plan yield.  A joined row has a row or null for every occurrence.  A join pairs
the rows so far with those of the occurrence that it brings in; a row that pairs with none is kept,
with null on the other side, where the kind of the join says so.

## Main definitions

* `JoinedRow R` — a row or null for every occurrence.
* `Tables R` — the rows of the occurrences and the conditions of the joins.
* `PlannedJoin.execute` — one join.
* `SourcePlan.joinedRows` — all joins of a plan, in their order.
-/

namespace ReportSql

/-- A row or null for every occurrence of a plan. -/
abbrev JoinedRow (R : Type) := Nat → Option R

/-- The joined row that is null everywhere. -/
def nullRow {R : Type} : JoinedRow R := fun _ => none

/-- The rows of the occurrences, as bags, and the conditions of the joins.  A condition reads the
row or null of the left occurrence and the row of the right one. -/
structure Tables (R : Type) where
  rows : Nat → Multiset R
  on : PlannedJoin → Option R → R → Truth

variable {R : Type} (D : Tables R)

/-- The same conditions on those rows of each occurrence that pass a test. -/
def Tables.restrict (keep : Nat → R → Bool) : Tables R :=
  { D with rows := fun i => (D.rows i).filter fun b => keep i b }

namespace PlannedJoin

variable (j : PlannedJoin)

/-- Whether the condition of a join is true of a joined row and a row of its right occurrence. -/
def meets (m : JoinedRow R) (b : R) : Bool := (D.on j (m j.left) b).holds

/-- The rows so far, each with all the right rows that it meets. -/
def paired (acc : Multiset (JoinedRow R)) : Multiset (JoinedRow R) :=
  acc.bind fun m =>
    ((D.rows j.right).filter fun b => j.meets D m b).map fun b =>
      Function.update m j.right (some b)

/-- The rows so far that meet no right row, with null in its place. -/
def unpairedLeft (acc : Multiset (JoinedRow R)) : Multiset (JoinedRow R) :=
  (acc.filter fun m => ∀ b ∈ D.rows j.right, ¬j.meets D m b).map fun m =>
    Function.update m j.right none

/-- The right rows that no row so far meets, with null everywhere else. -/
def unpairedRight (acc : Multiset (JoinedRow R)) : Multiset (JoinedRow R) :=
  ((D.rows j.right).filter fun b => ∀ m ∈ acc, ¬j.meets D m b).map fun b =>
    Function.update nullRow j.right (some b)

/-- The rows so far joined with those of the right occurrence. -/
def execute (acc : Multiset (JoinedRow R)) : Multiset (JoinedRow R) :=
  j.paired D acc + (if j.spec.kind.keepsLeft then j.unpairedLeft D acc else 0) +
    (if j.spec.kind.keepsRight then j.unpairedRight D acc else 0)

end PlannedJoin

/-- The rows so far joined with those that some joins bring in, in order. -/
def executeAll (acc : Multiset (JoinedRow R)) (js : List PlannedJoin) : Multiset (JoinedRow R) :=
  js.foldl (fun acc j => j.execute D acc) acc

namespace SourcePlan

variable (p : SourcePlan)

/-- The rows of the base dataset, null everywhere else. -/
def baseRows : Multiset (JoinedRow R) :=
  (D.rows 0).map fun b => Function.update nullRow 0 (some b)

/-- The rows that the joins of a plan yield. -/
def joinedRows : Multiset (JoinedRow R) := executeAll D (baseRows D) p.joins

@[simp] theorem joinedRows_ofBase (dataset : String) :
    (ofBase dataset).joinedRows D = baseRows D := rfl

@[simp] theorem joinedRows_withJoin (spec : Join) (left : Nat) :
    (p.withJoin spec left).joinedRows D =
      PlannedJoin.execute D ⟨spec, left, p.occurrences.length⟩ (p.joinedRows D) := by
  simp [joinedRows, executeAll, withJoin]

end SourcePlan

namespace PlannedJoin

variable {D} {j : PlannedJoin} {acc : Multiset (JoinedRow R)} {m : JoinedRow R}

theorem mem_paired :
    m ∈ j.paired D acc ↔
      ∃ l ∈ acc, ∃ b ∈ D.rows j.right, j.meets D l b ∧ Function.update l j.right (some b) = m := by
  simp [paired, and_assoc]

theorem mem_unpairedLeft :
    m ∈ j.unpairedLeft D acc ↔
      ∃ l ∈ acc, (∀ b ∈ D.rows j.right, ¬j.meets D l b) ∧ Function.update l j.right none = m := by
  simp [unpairedLeft, and_assoc]

theorem mem_unpairedRight :
    m ∈ j.unpairedRight D acc ↔
      ∃ b ∈ D.rows j.right, (∀ l ∈ acc, ¬j.meets D l b) ∧
        Function.update nullRow j.right (some b) = m := by
  simp [unpairedRight, and_assoc]

/-- A joined row is a pair, or one side of a pair that did not come about. -/
theorem mem_execute :
    m ∈ j.execute D acc ↔
      m ∈ j.paired D acc ∨ (j.spec.kind.keepsLeft ∧ m ∈ j.unpairedLeft D acc) ∨
        (j.spec.kind.keepsRight ∧ m ∈ j.unpairedRight D acc) := by
  unfold execute
  cases j.spec.kind <;> simp [JoinKind.keepsLeft, JoinKind.keepsRight, or_assoc]

end PlannedJoin

end ReportSql
