import ReportSql.Proofs.Token.Statement
import ReportSql.Proofs.Tree.Value

/-!
# Reading conditions by precedence

A condition is read as a database reads it: what stands between parentheses is one unit, AND binds
tighter than OR, and the AND of a range belongs to its BETWEEN.

## Main definitions

* `Balanced` — tokens in which every parenthesis is closed.
* `parts logic` — the members that a logic joins outside parentheses.
* `readTruth` — the truth of a condition whose conjuncts are true, false or unknown.
* `Solid` — tokens that a reader takes as one unit.

## Main statements

* `Balanced.solid` — what stands between parentheses is one unit.
* `parts_intercalate` — units joined by AND are the members of one conjunction.
-/

namespace ReportSql

/-! ## Parentheses -/

/-- The number of open parentheses after some tokens, none when one is closed that was not
opened. -/
def depthAfter (d : Nat) : List Token → Option Nat
  | [] => some d
  | .symbol '(' :: ts => depthAfter (d + 1) ts
  | .symbol ')' :: ts => if d = 0 then none else depthAfter (d - 1) ts
  | _ :: ts => depthAfter d ts

/-- Tokens in which every parenthesis is closed. -/
def Balanced (ts : List Token) : Prop := depthAfter 0 ts = some 0

instance (ts : List Token) : Decidable (Balanced ts) :=
  inferInstanceAs (Decidable (depthAfter 0 ts = some 0))

/-- The parentheses that were open before stay open. -/
theorem depthAfter_add {d e : Nat} {ts : List Token} (h : depthAfter d ts = some e) (k : Nat) :
    depthAfter (d + k) ts = some (e + k) := by
  fun_induction depthAfter d ts with
  | case1 d =>
    cases h
    rfl
  | case2 d ts ih =>
    rw [depthAfter, Nat.add_right_comm]
    exact ih h
  | case3 => cases h
  | case4 d ts hd ih =>
    have hpos : d + k ≠ 0 := by omega
    have hsub : d + k - 1 = d - 1 + k := by omega
    rw [depthAfter, if_neg hpos, hsub]
    exact ih h
  | case5 d t ts hopen hclose ih =>
    rw [depthAfter]
    · exact ih h
    · exact hopen
    · exact hclose

theorem depthAfter_append (d : Nat) (ts us : List Token) :
    depthAfter d (ts ++ us) = (depthAfter d ts).bind fun e => depthAfter e us := by
  fun_induction depthAfter d ts with
  | case1 d => rfl
  | case2 d ts ih => rw [List.cons_append, depthAfter, ih]
  | case3 ts => rfl
  | case4 d ts hd ih => rw [List.cons_append, depthAfter, if_neg hd, ih]
  | case5 d t ts hopen hclose ih =>
    rw [List.cons_append, depthAfter]
    · exact ih
    · exact hopen
    · exact hclose

namespace Balanced

variable {ts us : List Token}

theorem depthAfter_eq (h : Balanced ts) (d : Nat) : depthAfter d ts = some d := by
  simpa using depthAfter_add h d

theorem nil : Balanced [] := rfl

theorem append (hts : Balanced ts) (hus : Balanced us) : Balanced (ts ++ us) := by
  rw [Balanced, depthAfter_append, hts]
  exact hus

/-- What is put between parentheses stays balanced. -/
theorem enclosed (h : Balanced ts) : Balanced ([Token.symbol '('] ++ ts ++ [Token.symbol ')']) := by
  rw [Balanced, depthAfter_append, depthAfter_append]
  change ((depthAfter 1 ts).bind fun e => depthAfter e [.symbol ')']) = some 0
  rw [h.depthAfter_eq 1]
  rfl

theorem intercalate {k : List Token} (hk : Balanced k) {tss : List (List Token)}
    (h : ∀ ts ∈ tss, Balanced ts) : Balanced (k.intercalate tss) :=
  intercalate_induction nil (fun _ _ => append) hk h

end Balanced

/-! ## Members -/

/-- Where a reader of a condition stands: the number of open parentheses, and whether a BETWEEN
outside them still waits for its AND. -/
structure Nesting where
  depth : Nat := 0
  inRange : Bool := false

namespace Nesting

/-- Where a reader stands after one token more. -/
def next (n : Nesting) : Token → Nesting
  | .symbol '(' => { n with depth := n.depth + 1 }
  | .symbol ')' => { n with depth := n.depth - 1 }
  | .word "BETWEEN" => if n.depth = 0 then { n with inRange := true } else n
  | .word "AND" => if n.depth = 0 then { n with inRange := false } else n
  | _ => n

/-- Whether a token joins two members under a logic. -/
def joins (n : Nesting) (logic : Logic) (t : Token) : Bool :=
  n.depth = 0 && t = logic.token && !(n.inRange && logic = .and)

end Nesting

/-- The members that a logic joins outside parentheses, from where a reader stands. -/
def partsFrom (logic : Logic) (n : Nesting) : List Token → List (List Token)
  | [] => [[]]
  | t :: ts =>
    if n.joins logic t then [] :: partsFrom logic (n.next t) ts
    else (partsFrom logic (n.next t) ts).modifyHead (t :: ·)

/-- The members that a logic joins outside parentheses. -/
def parts (logic : Logic) (ts : List Token) : List (List Token) := partsFrom logic {} ts

/-- The truth of a condition: that of its alternatives, each with the truth of its conjuncts. -/
def readTruth (v : List Token → Truth) (ts : List Token) : Truth :=
  ((parts .or ts).map fun alternative =>
    ((parts .and alternative).map v).foldr Truth.and .yes).foldr Truth.or .no

/-- Tokens that a reader takes as one unit, wherever they stand outside parentheses. -/
def Solid (ts : List Token) : Prop :=
  ∀ logic rest, partsFrom logic {} (ts ++ rest) =
    (partsFrom logic {} rest).modifyHead (ts ++ ·)

theorem modifyHead_nil_append (tss : List (List Token)) : tss.modifyHead ([] ++ ·) = tss := by
  cases tss <;> rfl

section Enclosed

variable (logic : Logic) (d : Nat) (inRange : Bool)

/-- Within parentheses no token joins members. -/
theorem partsFrom_cons_of_enclosed (t : Token) (ts : List Token) :
    partsFrom logic ⟨d + 1, inRange⟩ (t :: ts) =
      (partsFrom logic (Nesting.next ⟨d + 1, inRange⟩ t) ts).modifyHead (t :: ·) := by
  rw [partsFrom, if_neg]
  simp [Nesting.joins]

/-- Within parentheses only parentheses matter. -/
theorem next_of_enclosed {t : Token} (hopen : t ≠ .symbol '(') (hclose : t ≠ .symbol ')') :
    Nesting.next ⟨d + 1, inRange⟩ t = ⟨d + 1, inRange⟩ := by
  unfold Nesting.next
  split
  · exact absurd rfl hopen
  · exact absurd rfl hclose
  · rfl
  · rfl
  · rfl

theorem partsFrom_of_enclosed (rest : List Token) {d e : Nat} {ts : List Token}
    (h : depthAfter d ts = some e) :
    partsFrom logic ⟨d + 1, inRange⟩ (ts ++ rest) =
      (partsFrom logic ⟨e + 1, inRange⟩ rest).modifyHead (ts ++ ·) := by
  fun_induction depthAfter d ts with
  | case1 d =>
    cases h
    exact (modifyHead_nil_append _).symm
  | case2 d ts ih =>
    rw [List.cons_append, partsFrom_cons_of_enclosed, Nesting.next, ih h,
      List.modifyHead_modifyHead]
    rfl
  | case3 => cases h
  | case4 d ts hd ih =>
    have hsub : d = d - 1 + 1 := by omega
    rw [List.cons_append, partsFrom_cons_of_enclosed, Nesting.next, Nat.add_sub_cancel]
    conv_lhs => rw [hsub]
    rw [ih h, List.modifyHead_modifyHead]
    rfl
  | case5 d t ts hopen hclose ih =>
    rw [List.cons_append, partsFrom_cons_of_enclosed, next_of_enclosed d inRange hopen hclose, ih h,
      List.modifyHead_modifyHead]
    rfl

end Enclosed

/-- **What stands between parentheses is one unit.** -/
theorem Balanced.solid {ts : List Token} (h : Balanced ts) :
    Solid ([Token.symbol '('] ++ ts ++ [Token.symbol ')']) := by
  intro logic rest
  have hopen : partsFrom logic {} (.symbol '(' :: (ts ++ .symbol ')' :: rest)) =
      (partsFrom logic ⟨1, false⟩ (ts ++ .symbol ')' :: rest)).modifyHead (.symbol '(' :: ·) := by
    rw [partsFrom, if_neg (by cases logic <;> decide)]
    rfl
  have hclose : partsFrom logic ⟨1, false⟩ (.symbol ')' :: rest) =
      (partsFrom logic {} rest).modifyHead (.symbol ')' :: ·) := by
    rw [partsFrom_cons_of_enclosed]
    rfl
  have hinside := partsFrom_of_enclosed logic false (.symbol ')' :: rest) h
  rw [List.append_assoc, List.append_assoc, List.singleton_append, List.singleton_append, hopen,
    hinside, hclose, List.modifyHead_modifyHead, List.modifyHead_modifyHead]
  simp [Function.comp_def]

namespace Solid

variable {ts us : List Token}

theorem nil : Solid [] := fun _ _ => (modifyHead_nil_append _).symm

theorem append (hts : Solid ts) (hus : Solid us) : Solid (ts ++ us) := by
  intro logic rest
  rw [List.append_assoc, hts, hus, List.modifyHead_modifyHead]
  simp [Function.comp_def]

/-- A token that is no parenthesis and no word of a condition is one unit. -/
theorem singleton {t : Token} (h : ∀ n : Nesting, n.next t = n)
    (hlogic : ∀ logic : Logic, t ≠ logic.token) : Solid [t] := by
  intro logic rest
  rw [List.singleton_append, partsFrom, if_neg, h]
  · rfl
  · simp [Nesting.joins, hlogic logic]

/-- Two units joined by a logic are its members. -/
theorem partsFrom_join (logic : Logic) (hts : Solid ts) (rest : List Token) :
    partsFrom logic {} (ts ++ [logic.token] ++ rest) = ts :: partsFrom logic {} rest := by
  have hjoin : partsFrom logic {} (logic.token :: rest) = [] :: partsFrom logic {} rest := by
    cases logic <;> rfl
  rw [List.append_assoc, hts, List.singleton_append, hjoin]
  simp

theorem parts_eq (h : Solid ts) (logic : Logic) : parts logic ts = [ts] := by
  have hparts := h logic []
  rw [List.append_nil] at hparts
  rw [parts, hparts]
  simp [partsFrom]

end Solid

/-- **Units joined by a logic are its members.** -/
theorem parts_intercalate (logic : Logic) {tss : List (List Token)} (hne : tss ≠ [])
    (h : ∀ ts ∈ tss, Solid ts) : parts logic ([logic.token].intercalate tss) = tss := by
  induction tss with
  | nil => exact absurd rfl hne
  | cons ts tss ih =>
    have hts := h ts (by simp)
    cases tss with
    | nil => simpa [List.intercalate] using hts.parts_eq logic
    | cons us tss =>
      have htss := ih (by simp) fun vs hvs => h vs (by simp [hvs])
      have hjoin := hts.partsFrom_join logic ([logic.token].intercalate (us :: tss))
      rw [List.intercalate_cons_cons]
      exact hjoin.trans (congrArg _ htss)

/-- **Units joined by a logic are one unit to a reader of the other.** -/
theorem parts_intercalate_of_ne {logic other : Logic} (hne : logic ≠ other)
    {tss : List (List Token)} (h : ∀ ts ∈ tss, Solid ts) :
    parts logic ([other.token].intercalate tss) = [[other.token].intercalate tss] := by
  induction tss with
  | nil => rfl
  | cons ts tss ih =>
    have hts := h ts (by simp)
    have htss := ih fun us hus => h us (by simp [hus])
    cases tss with
    | nil => simpa [List.intercalate] using hts.parts_eq logic
    | cons us tss =>
      have hother : ∀ rest, partsFrom logic {} (other.token :: rest) =
          (partsFrom logic {} rest).modifyHead (other.token :: ·) := by
        intro rest
        match logic, other, hne with
        | .and, .or, _ => rfl
        | .or, .and, _ => rfl
      rw [parts] at htss
      rw [List.intercalate_cons_cons, parts, List.append_assoc, hts, List.singleton_append, hother,
        htss]
      rfl

/-- A member that two conjunctions share may be given by its own members. -/
theorem intercalate_append_singleton {k : List Token} (tss : List (List Token))
    {units : List (List Token)} (h : units ≠ []) :
    k.intercalate (tss ++ [k.intercalate units]) = k.intercalate (tss ++ units) := by
  obtain ⟨u, us, rfl⟩ := List.exists_cons_of_ne_nil h
  induction tss with
  | nil => simp [List.intercalate]
  | cons ts tss ih =>
    cases tss with
    | nil =>
      rw [List.singleton_append, List.singleton_append, List.intercalate_cons_cons,
        List.intercalate_cons_cons]
      simp [List.intercalate]
    | cons us' tss =>
      simp only [List.cons_append, List.intercalate_cons_cons] at ih ⊢
      rw [ih]

theorem Truth.foldr_and_eq_yes_iff {ts : List Truth} :
    ts.foldr Truth.and .yes = .yes ↔ ∀ t ∈ ts, t = .yes := by
  induction ts with
  | nil => simp
  | cons t ts ih =>
    rw [List.foldr_cons, List.forall_mem_cons, ← ih]
    cases t <;> cases ts.foldr Truth.and .yes <;> decide

/-- **A conjunction that is true has true conjuncts.** -/
theorem eq_yes_of_readTruth {v : List Token → Truth} {ts : List Token} (hor : parts .or ts = [ts])
    (h : readTruth v ts = .yes) : ∀ conjunct ∈ parts .and ts, v conjunct = .yes := by
  have hno : ∀ t : Truth, t.or .no = t := by
    intro t
    cases t <;> rfl
  rw [readTruth, hor] at h
  simp only [List.map_cons, List.map_nil, List.foldr_cons, List.foldr_nil, hno] at h
  rw [Truth.foldr_and_eq_yes_iff] at h
  intro conjunct hconjunct
  exact h _ (List.mem_map_of_mem hconjunct)

end ReportSql
