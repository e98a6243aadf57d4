import ReportSql.Compile
import ReportSql.Proofs.Compare.Patterns

/-!
# Searches for a text

A condition searches its column for a needle by a pattern.  The needle goes into the pattern as it
is, so the wildcards that it holds stand for other characters: the search finds the runs that fit
the needle, and these are the needle alone if and only if it holds no wildcard.

## Main definitions

* `Predicate.findsAt?` — whether a search passes a row whose column has a given text.
* `Operator.Finds` — whether a text has a run of some kind where an operator looks for it.

## Main statements

* `Condition.findsFits` — a condition finds the runs that fit its needle.
* `Condition.findsNeedle_iff` — when it finds its needle alone.
* `not_findsNeedle_fiftyPercent` — a needle with a wildcard that finds other texts.
-/

namespace ReportSql

open Text

/-! ## Searches of rows -/

/-- The text of a bound value; none of a value that is no text. -/
def BindValue.text? : BindValue → Option String
  | .text s => some s
  | _ => none

/-- The text of an expression in a row whose column has the text `t`.  A text that is cast to text
stays as it is. -/
def Expr.textAt? (column : Expr) (t : String) : Expr → Option String
  | .castText type e =>
    if .castText type e = column then some t else textAt? column t e
  | e => if e = column then some t else none

@[simp] theorem Expr.textAt?_self (e : Expr) (t : String) : e.textAt? t e = some t := by
  cases e <;> simp [textAt?]

@[simp] theorem Expr.textAt?_castText (e : Expr) (t type : String) :
    e.textAt? t (.castText type e) = some t := by
  have hne : Expr.castText type e ≠ e := by
    intro heq
    have hsize := congrArg sizeOf heq
    simp at hsize
  simp [textAt?, hne]

/-- Whether a search passes a row whose column has the text `t`, with the text and the pattern in
upper case; none for a predicate that searches for nothing. -/
def Predicate.findsAt? (column : Expr) (t : String) : Predicate Hole → Option Bool
  | .like negated e pattern => do
    let text ← column.textAt? t e
    let pattern ← pattern.value.text?
    return fits (upper pattern).toList (upper text).toList != negated
  | _ => none

/-! ## What operators look for -/

/-- Whether a text has a run of characters of some kind where an operator looks for it: at the
beginning, at the end, or anywhere. -/
def Operator.Finds (p : List Char → Prop) (text : List Char) : Operator → Prop
  | .startsWith => ∃ run, run <+: text ∧ p run
  | .endsWith => ∃ run, run <:+ text ∧ p run
  | .lacks => ¬∃ run, run <:+: text ∧ p run
  | _ => ∃ run, run <:+: text ∧ p run

theorem Operator.finds_congr {p q : List Char → Prop} (hpq : ∀ run, p run ↔ q run)
    (operator : Operator) (text : List Char) : operator.Finds p text ↔ operator.Finds q text := by
  have heq : p = q := funext fun run => propext (hpq run)
  rw [heq]

/-- A text that is of the kind itself, where an operator looks for it. -/
theorem Operator.finds_of_self {p : List Char → Prop} {text : List Char} (hself : p text)
    (operator : Operator) : operator.Finds p text ↔ operator ≠ .lacks := by
  have hinfix : ∃ run, run <:+: text ∧ p run := ⟨text, List.infix_rfl, hself⟩
  cases operator with
  | startsWith => simpa [Finds] using ⟨text, List.prefix_rfl, hself⟩
  | endsWith => simpa [Finds] using ⟨text, List.suffix_rfl, hself⟩
  | lacks => simpa [Finds] using hinfix
  | _ => simpa [Finds] using hinfix

/-- A run as long as the text stands in it nowhere, unless it is the text. -/
theorem Operator.finds_eq_of_ne {needle text : List Char} (hne : needle ≠ text)
    (hlength : needle.length = text.length) (operator : Operator) :
    operator.Finds (· = needle) text ↔ operator = .lacks := by
  have hinfix : ¬∃ run, run <:+: text ∧ run = needle := by
    rintro ⟨_, hrun, rfl⟩
    exact hne (hrun.eq_of_length hlength)
  cases operator with
  | startsWith =>
    refine iff_of_false ?_ (by decide)
    rintro ⟨run, hrun, heq⟩
    exact hinfix ⟨run, hrun.isInfix, heq⟩
  | endsWith =>
    refine iff_of_false ?_ (by decide)
    rintro ⟨run, hrun, heq⟩
    exact hinfix ⟨run, hrun.isInfix, heq⟩
  | lacks => exact iff_of_true hinfix rfl
  | _ => exact iff_of_false hinfix (by decide)

/-! ## Patterns of conditions -/

/-- The pattern of a search in upper case, with the needle in upper case inside. -/
theorem upper_searchPattern_iff {operator : Operator} (hoperator : operator.isSearch = true)
    (needle : String) (text : List Char) :
    (fits (upper (searchPattern operator (upper needle))).toList text !=
        (operator == .lacks)) = true ↔
      operator.Finds (fun run => fits (upper needle).toList run = true) text := by
  have hpercent : (upper "%").toList = ['%'] := by decide
  have hanywhere : (upper ("%" ++ upper needle ++ "%")).toList =
      '%' :: ((upper needle).toList ++ ['%']) := by
    rw [upper_append, upper_append, upper_upper, String.toList_append, String.toList_append,
      hpercent, List.append_assoc, List.singleton_append]
  have hshown : ∀ {operator : Operator} (found : Bool), operator ≠ .lacks →
      ((found != (operator == .lacks)) = true ↔ found = true) := by
    intro operator found hne
    rw [beq_false_of_ne hne, Bool.bne_false]
  cases operator with
  | startsWith =>
    have hpattern : (upper (upper needle ++ "%")).toList = (upper needle).toList ++ ['%'] := by
      rw [upper_append, upper_upper, String.toList_append, hpercent]
    rw [searchPattern, hpattern, hshown _ (by decide), fits_append_percent_iff, Operator.Finds]
  | endsWith =>
    have hpattern : (upper ("%" ++ upper needle)).toList = '%' :: (upper needle).toList := by
      rw [upper_append, upper_upper, String.toList_append, hpercent, List.singleton_append]
    rw [searchPattern, hpattern, hshown _ (by decide), fits_percent_cons_iff, Operator.Finds]
  | contains =>
    have hpattern : searchPattern .contains (upper needle) = "%" ++ upper needle ++ "%" := rfl
    rw [hpattern, hanywhere, hshown _ (by decide), fits_percent_append_percent_iff]
    exact Iff.rfl
  | lacks =>
    have hpattern : searchPattern .lacks (upper needle) = "%" ++ upper needle ++ "%" := rfl
    rw [hpattern, hanywhere, Operator.Finds, ← fits_percent_append_percent_iff]
    simp
  | _ => cases hoperator

section

variable (options : Options) (e : Expr) {c : Condition} {s : Scalar}

/-- The predicate of a search in a column of text. -/
theorem conditionPredicate_of_isSearch (hoperator : c.operator.isSearch = true)
    (hvalue : c.value = .scalar s) :
    conditionPredicate options e .text c =
      pure (.like (c.operator == .lacks) (.castText options.textType e)
        (textHole (searchPattern c.operator (upper s.spelling)))) := by
  have hunary : unaryPredicate? e .text c.operator = none := by
    cases hc : c.operator with
    | isNull | isNotNull | isEmpty | isNotEmpty =>
      rw [hc] at hoperator
      cases hoperator
    | _ => rfl
  rw [conditionPredicate, hunary, hvalue]
  simp [scalarPredicate?, hoperator, searchPredicate, searchedExpr, patternText]

/-- **A condition finds the runs that fit its needle**, where a percent sign stands for any run and
an underscore for any character. -/
theorem Condition.findsFits (hoperator : c.operator.isSearch = true)
    (hvalue : c.value = .scalar s) :
    ∃ p, conditionPredicate options e .text c = pure p ∧
      ∀ t, ∃ found, p.findsAt? e t = some found ∧
        (found = true ↔
          c.operator.Finds (fun run => fits (upper s.spelling).toList run = true)
            (upper t).toList) := by
  refine ⟨_, conditionPredicate_of_isSearch options e hoperator hvalue, fun t => ?_⟩
  refine ⟨fits (upper (searchPattern c.operator (upper s.spelling))).toList (upper t).toList !=
    (c.operator == .lacks), ?_, ?_⟩
  · simp only [Predicate.findsAt?, Expr.textAt?_castText, textHole, BindValue.text?]
    rfl
  · exact upper_searchPattern_iff hoperator s.spelling (upper t).toList

/-- Where a needle holds a wildcard, a text with a letter in its place tells what fits the needle
from the needle. -/
theorem Operator.exists_finds_of_isWildcard (operator : Operator) {needle : String}
    (hwildcard : ∃ x ∈ needle.toList, isWildcard x = true) :
    ∃ t, ¬(operator.Finds (fun run => fits (upper needle).toList run = true) (upper t).toList ↔
      operator.Finds (· = (upper needle).toList) (upper t).toList) := by
  have hupper : ∃ y ∈ (upper needle).toList, isWildcard y = true := by
    by_contra! hnone
    simp only [ne_eq, Bool.not_eq_true] at hnone
    obtain ⟨x, hmem, hx⟩ := hwildcard
    rw [(forall_isWildcard_upper_iff needle).1 hnone x hmem] at hx
    cases hx
  obtain ⟨y, hy, hwild⟩ := hupper
  refine ⟨String.ofList (masked (upper needle).toList), ?_⟩
  have htext : (upper (String.ofList (masked (upper needle).toList))).toList =
      masked (upper needle).toList := by
    rw [toList_upper (String.ofList _), String.toList_ofList, flatMap_upperChar_masked_upper]
  have hlength : (upper needle).toList.length = (masked (upper needle).toList).length :=
    (length_masked _).symm
  rw [htext, operator.finds_of_self (fits_masked _),
    operator.finds_eq_of_ne (masked_ne hy hwild).symm hlength]
  by_cases hlacks : operator = .lacks <;> simp [hlacks]

/-- **When a condition finds its needle alone.**  It finds what fits the needle, and this is the
needle in every text if and only if the needle holds no wildcard. -/
theorem Condition.findsNeedle_iff (hoperator : c.operator.isSearch = true)
    (hvalue : c.value = .scalar s) :
    ∃ p, conditionPredicate options e .text c = pure p ∧
      (∀ t, ∃ found, p.findsAt? e t = some found ∧
        (found = true ↔
          c.operator.Finds (fun run => fits (upper s.spelling).toList run = true)
            (upper t).toList)) ∧
      ((∀ t, p.findsAt? e t = some true ↔
          c.operator.Finds (· = (upper s.spelling).toList) (upper t).toList) ↔
        ∀ x ∈ s.spelling.toList, isWildcard x = false) := by
  obtain ⟨p, hp, hfinds⟩ := Condition.findsFits options e hoperator hvalue
  have hfits : ∀ t, p.findsAt? e t = some true ↔
      c.operator.Finds (fun run => fits (upper s.spelling).toList run = true)
        (upper t).toList := by
    intro t
    obtain ⟨found, hfound, hiff⟩ := hfinds t
    rw [hfound, Option.some_inj, hiff]
  refine ⟨p, hp, hfinds, ?_⟩
  simp only [hfits]
  constructor
  · intro hneedle
    by_contra! hwildcard
    simp only [ne_eq, Bool.not_eq_false] at hwildcard
    obtain ⟨t, ht⟩ := c.operator.exists_finds_of_isWildcard hwildcard
    exact ht (hneedle t)
  · intro hnone t
    exact c.operator.finds_congr
      (fun run => fits_iff_eq ((forall_isWildcard_upper_iff s.spelling).2 hnone)) _

end

/-- Names that contain a text. -/
def Condition.nameContains (needle : String) : Condition :=
  ⟨"NAME", .text, .contains, .scalar (.text needle)⟩

/-- A needle of letters is found alone, in any case. -/
theorem findsNeedle_jo :
    ∃ p, conditionPredicate {} (.column (.bare "NAME")) .text (.nameContains "Jo") = pure p ∧
      ∀ t, p.findsAt? (.column (.bare "NAME")) t = some true ↔
        Operator.contains.Finds (· = "JO".toList) (upper t).toList := by
  have hupper : upper "Jo" = "JO" := by decide
  obtain ⟨p, hp, -, halone⟩ := Condition.findsNeedle_iff {} (.column (.bare "NAME"))
    (c := .nameContains "Jo") (s := .text "Jo") rfl rfl
  have hfinds := halone.2 (by simp [Scalar.spelling, isWildcard])
  refine ⟨p, hp, fun t => ?_⟩
  rw [hfinds t]
  simp only [Scalar.spelling, hupper]
  exact Iff.rfl

/-- Employees with a percent sign after a number in their names. -/
def employeesOfFiftyPercent : Request where
  dataset := "EMP"
  columns? := some ["ID"]
  filters? := some ⟨.and, [.leaf (.nameContains "50%")]⟩

/-- **A needle with a percent sign is found in texts that do not have it**: the query goes with the
sign unmarked in its pattern. -/
theorem not_findsNeedle_fiftyPercent :
    (compile (.ofCatalog .empty) employeesOfFiftyPercent).outcome.toOption =
        some ⟨"SELECT \"EMP\".\"ID\" AS \"EMP.ID\"\n" ++
          "FROM (SELECT * FROM \"EMP\" WHERE " ++
          "(UPPER(CAST(\"NAME\" AS VARCHAR2(4000))) LIKE UPPER(:p_1))) \"EMP\"\n" ++
          "OFFSET 0 ROWS FETCH NEXT 100 ROWS ONLY",
          .ofList [("p_1", .text "%50%%")]⟩ ∧
      ∃ p, conditionPredicate {} (.column (.bare "NAME")) .text (.nameContains "50%") = pure p ∧
        p.findsAt? (.column (.bare "NAME")) "50 cents" = some true ∧
        ¬Operator.contains.Finds (· = (upper "50%").toList) (upper "50 cents").toList := by
  refine ⟨by decide +kernel, _, conditionPredicate_of_isSearch {} (.column (.bare "NAME"))
    (c := .nameContains "50%") (s := .text "50%") rfl rfl, by decide +kernel, ?_⟩
  rintro ⟨_, hinfix, rfl⟩
  revert hinfix
  decide +kernel

end ReportSql
