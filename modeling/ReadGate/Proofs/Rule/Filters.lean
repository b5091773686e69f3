import ReadGate.Proofs.Number.Numeral
import ReadGate.Proofs.Rule.Names

/-!
# Queries that filter

Two rules read a comparison of a column, with a text and with a number.  Their queries select all
columns of the rows that a filter lets through, and a limit that they read can be read again.

* `isShort_of_natOf`, `isWritable_of_operandOf` — a number that is read from digits has no more of
  them than are read, and can be written.
* `Filters`, `translate_filters` — what the query of such a rule consists of.
-/

namespace ReadGate.Grammar

open Text Shape

/-! ## Limits -/

/-- A number that was read from digits is read again from those that are written for it. -/
theorem isShort_of_natOf {digits : Name} {n : Nat} (h : Rule.natOf digits = .ok n) :
    Numeral.IsShort n := by
  refine Numeral.isShort_of_natOfDigits (fun d hd => ?_) h
  obtain ⟨c, -, hvalue⟩ := List.mem_filterMap.1 hd
  exact Numeral.digitValue?_lt hvalue

theorem isShort_of_limitOf {digits : Option Name} {limit : Option Nat}
    (h : Rule.limitOf digits = .ok limit) : ∀ n ∈ limit, Numeral.IsShort n := by
  cases digits with
  | none =>
    cases h
    exact nofun
  | some digits =>
    cases hread : Rule.natOf digits with
    | error e =>
      rw [Rule.limitOf, hread] at h
      cases h
    | ok n =>
      rw [Rule.limitOf, hread] at h
      cases h
      rintro m ⟨⟩
      exact isShort_of_natOf hread

/-- An operand that was read from digits can be written. -/
theorem isWritable_of_operandOf {number : Numeric} {operand : Operand}
    (h : Rule.operandOf number = .ok operand) : operand.value.isWritable = true := by
  unfold Rule.operandOf at h
  split at h
  · cases h
    rfl
  · cases hread : Rule.natOf number.whole with
    | error e =>
      rw [hread] at h
      cases h
    | ok n =>
      rw [hread] at h
      cases h
      refine decide_eq_true ?_
      split <;> simpa using isShort_of_natOf hread

/-! ## Filters -/

/-- The rules that read a comparison. -/
def filterRules : List Rule :=
  [.whereString, .whereNumber]

/-- The query selects all columns of the rows that a filter lets through, in no order.  Its numbers
are short enough to be written. -/
structure Filters (p : Predicate) (q : StructuredQuery) : Prop where
  columns : q.columns = .all
  predicate : q.predicate = some p
  operand : p.operand.value.isWritable = true
  orderBy : q.orderBy = none
  limit : ∀ n ∈ q.limit, Numeral.IsShort n

variable {ls : List Lexeme} {q : StructuredQuery}

theorem filters_of_whereString (h : Rule.whereString.query ls = .ok (some q)) :
    ∃ p, Filters p q := by
  rcases hshape : Shape.whereString ls with _ | ⟨table, column, literal, digits⟩ <;>
    simp only [Rule.query, hshape] at h
  · cases h
  · cases hlimit : Rule.limitOf digits <;> rw [hlimit] at h <;> cases h
    exact ⟨_, rfl, rfl, rfl, rfl, isShort_of_limitOf hlimit⟩

theorem filters_of_whereNumber (h : Rule.whereNumber.query ls = .ok (some q)) :
    ∃ p, Filters p q := by
  rcases hshape : Shape.whereNumber ls with _ | ⟨table, column, number, digits⟩ <;>
    simp only [Rule.query, hshape] at h
  · cases h
  · cases hoperand : Rule.operandOf number <;> rw [hoperand] at h
    · cases h
    · cases hlimit : Rule.limitOf digits <;> rw [hlimit] at h <;> cases h
      exact ⟨_, rfl, rfl, isWritable_of_operandOf hoperand, rfl, isShort_of_limitOf hlimit⟩

/-- **The query of a rule that reads a comparison has a filter**, and all columns in no order. -/
theorem translate_filters {text : String} {rule : Rule} (hrule : rule ∈ filterRules)
    (h : translate text = .ok (some (rule, q))) : ∃ p, Filters p q := by
  have hquery := (firstMatch_query h).2
  simp only [filterRules, List.mem_cons, List.not_mem_nil, or_false] at hrule
  rcases hrule with rfl | rfl
  · exact filters_of_whereString hquery
  · exact filters_of_whereNumber hquery

end ReadGate.Grammar
