import ReadGate.Proofs.Rule.Names
import ReadGate.Proofs.Rule.Order

/-!
# Integers in translated texts

A rule may read integers: a limit, and an operand that has no fraction.  An integer is read only up
to a number of digits, and this is all that a translation can fail for.  Only one rule makes a query
that counts groups.

* `integers` — the digits of the integers that a rule reads, in the order in which it reads them.
* `Reading`, `reading_query` — what reads integers fails for the first that is too long.
* `translate_eq_error_iff` — the texts whose translation fails, and how.
* `translate_groupCount_iff` — the texts that are translated to a grouped count.
-/

namespace ReadGate.Grammar

open Text Lexeme Shape

variable {cs : List Char} {ls : List Lexeme} {rule : Rule} {digits : Name} {e : NumeralError}
  {text : String} {q : StructuredQuery}

/-! ## One integer -/

/-- There are more digits than an integer may have. -/
def isOverlong (digits : Name) : Bool :=
  decide (maxDigits < digits.length)

theorem length_filterMap_digits (h : digits.all isDigit = true) :
    (digits.filterMap digitValue?).length = digits.length := by
  induction digits with
  | nil => rfl
  | cons c rest ih =>
    simp only [List.all_cons, Bool.and_eq_true] at h
    obtain ⟨d, hd⟩ := Option.isSome_iff_exists.1 h.1
    rw [List.filterMap_cons_some hd, List.length_cons, List.length_cons, ih h.2]

/-- Digits are read unless they are too many. -/
theorem natOf_cases (h : digits.all isDigit = true) :
    Rule.natOf digits =
      if isOverlong digits then .error (.tooManyDigits digits.length)
      else .ok (valueOf digits) := by
  by_cases hlong : maxDigits < digits.length
  · rw [Rule.natOf, Numeral.natOfDigits, length_filterMap_digits h, if_pos hlong, isOverlong,
      decide_eq_true hlong, if_pos rfl]
  · rw [natOf_eq (by omega), isOverlong, decide_eq_false hlong, if_neg Bool.false_ne_true]

/-! ## The integers of a text -/

/-- The digits of an operand that has no fraction. -/
def operandDigits (number : Numeric) : List Name :=
  match number.fraction with
  | some _ => []
  | none => [number.whole]

/-- The digits of the integers that a rule reads, in the order in which it reads them. -/
def integers (rule : Rule) (ls : List Lexeme) : List Name :=
  match rule with
  | .selectAll => (Shape.selectAll ls).elim [] fun (_, limit) => limit.toList
  | .whereString => (Shape.whereString ls).elim [] fun (_, _, _, limit) => limit.toList
  | .whereNumber => (Shape.whereNumber ls).elim [] fun (_, _, number, limit) =>
    operandDigits number ++ limit.toList
  | .selectColumns => (Shape.selectColumns ls).elim [] fun (_, _, limit) => limit.toList
  | .countAll | .groupCount | .looseSelectAll => []

/-- The first of some integers that has too many digits. -/
def overlong? (integers : List Name) : Option Name :=
  integers.find? isOverlong

/-- What reading integers comes to: a failure for the first that is too long. -/
def Reading {α : Type} (integers : List Name) (result : Except NumeralError α) : Prop :=
  ∀ e, result = .error e ↔ ∃ digits, overlong? integers = some digits ∧
    e = .tooManyDigits digits.length

namespace Reading

variable {α β : Type} {a : α} {result : Except NumeralError α} {before after : List Name}

theorem ok : Reading [] (.ok a : Except NumeralError α) := by
  intro e
  simp [overlong?]

theorem natOf (h : digits.all isDigit = true) : Reading [digits] (Rule.natOf digits) := by
  intro e
  rw [natOf_cases h]
  cases hlong : isOverlong digits <;> simp [overlong?, hlong, eq_comm]

/-- What is read later fails only if nothing failed before. -/
theorem bind {next : α → Except NumeralError β} (hfirst : Reading before result)
    (hnext : ∀ a, Reading after (next a)) : Reading (before ++ after) (result >>= next) := by
  intro e
  rw [overlong?, List.find?_append]
  rcases hresult : result with e' | a
  · obtain ⟨digits, hdigits, rfl⟩ := (hfirst e').1 hresult
    have hfound : before.find? isOverlong = some digits := hdigits
    rw [hfound]
    show Except.error _ = .error e ↔ _
    simp [eq_comm]
  · have hnone : before.find? isOverlong = none := by
      rcases hfound : before.find? isOverlong with _ | digits
      · rfl
      · have herror := (hfirst _).2 ⟨digits, hfound, rfl⟩
        rw [hresult] at herror
        cases herror
    rw [hnone]
    exact hnext a e

theorem map (h : Reading before result) (f : α → β) : Reading before (result.map f) := by
  intro e
  rw [← h e]
  cases result <;> simp [Except.map]

end Reading

theorem reading_limitOf {limit : Option Name} (h : Limited limit cs) :
    Reading limit.toList (Rule.limitOf limit) := by
  cases limit with
  | none => exact .ok
  | some digits =>
    have hdigits := (h.digits digits rfl).1
    exact (Reading.natOf (List.all_eq_true.2 hdigits.all)).map some

theorem reading_operandOf {number : Numeric} (h : IsNumber number) :
    Reading (operandDigits number) (Rule.operandOf number) := by
  obtain ⟨negative, whole, fraction⟩ := number
  cases fraction with
  | some fraction => exact .ok
  | none =>
    have hwhole : Reading [whole] (Rule.natOf whole) := .natOf (List.all_eq_true.2 h.whole.all)
    intro e
    rw [operandDigits, ← hwhole e, Rule.operandOf]
    cases Rule.natOf whole <;> simp [Except.map]

/-! ## Translations -/

/-- What a rule makes of a text, read from its integers. -/
theorem reading_query (rule : Rule) (cs : List Char) :
    Reading (integers rule (scan cs)) (rule.query (scan cs)) := by
  cases rule with
  | selectAll =>
    rcases hshape : Shape.selectAll (scan cs) with _ | ⟨table, limit⟩ <;>
      simp only [integers, Rule.query, hshape, Option.elim]
    · exact .ok
    · obtain ⟨s, l, -, -, hl⟩ := selectAll_sound hshape
      exact (reading_limitOf hl).map _
  | countAll =>
    rcases hshape : Shape.countAll (scan cs) with _ | ⟨name, table⟩ <;>
      simp only [integers, Rule.query, hshape] <;> exact .ok
  | whereString =>
    rcases hshape : Shape.whereString (scan cs) with _ | ⟨table, column, text, limit⟩ <;>
      simp only [integers, Rule.query, hshape, Option.elim]
    · exact .ok
    · obtain ⟨s, w, l, -, -, -, hl⟩ := whereString_sound hshape
      exact (reading_limitOf hl).map _
  | whereNumber =>
    rcases hshape : Shape.whereNumber (scan cs) with _ | ⟨table, column, number, limit⟩ <;>
      simp only [integers, Rule.query, hshape, Option.elim]
    · exact .ok
    · obtain ⟨s, w, l, -, -, -, hn, hl⟩ := whereNumber_sound hshape
      exact (reading_operandOf hn).bind fun operand => (reading_limitOf hl).map _
  | selectColumns =>
    rcases hshape : Shape.selectColumns (scan cs) with _ | ⟨columns, table, limit⟩ <;>
      simp only [integers, Rule.query, hshape, Option.elim]
    · exact .ok
    · obtain ⟨s, c, f, l, -, -, -, -, hl⟩ := selectColumns_sound hshape
      exact (reading_limitOf hl).map _
  | groupCount =>
    rcases hshape : Shape.groupCount (scan cs) with _ | ⟨column, name, table, group⟩ <;>
      simp only [integers, Rule.query, hshape]
    · exact .ok
    · split <;> exact .ok
  | looseSelectAll => exact .ok

theorem firstMatch_error {rules : List Rule} (h : Rule.firstMatch ls rules = .error e) :
    ∃ rule ∈ rules, rule.query ls = .error e := by
  induction rules with
  | nil => cases h
  | cons first rest ih =>
    unfold Rule.firstMatch at h
    split at h
    · rename_i hquery
      cases h
      exact ⟨first, List.mem_cons_self, hquery⟩
    · cases h
    · obtain ⟨rule, hmem, hquery⟩ := ih h
      exact ⟨rule, List.mem_cons_of_mem first hmem, hquery⟩

/-- **A text has no translation if an integer in it is too long**, and for no other reason: the
first integer of the rule that applies which has too many digits is reported. -/
theorem translate_eq_error_iff :
    translate text = .error e ↔ ∃ rule digits,
      overlong? (integers rule (scan text.toList)) = some digits ∧
        e = .tooManyDigits digits.length := by
  constructor
  · intro h
    obtain ⟨rule, -, hquery⟩ := firstMatch_error h
    exact ⟨rule, (reading_query rule text.toList e).1 hquery⟩
  · rintro ⟨rule, hdigits⟩
    have hquery := (reading_query rule text.toList e).2 hdigits
    have hfull : rule.isLoose = false := by
      cases rule <;> first | rfl | cases hquery
    rw [translate_of_applies hfull (by simp [hquery]), named, hquery]
    rfl

/-- What the queries of a rule ask for. -/
def aggregateOf : Rule → Aggregate
  | .countAll => .count
  | .groupCount => .groupCount
  | _ => .rows

theorem aggregate_of_query (h : rule.query ls = .ok (some q)) : q.aggregate = aggregateOf rule := by
  cases rule with
  | selectAll | whereString | selectColumns =>
    simp only [Rule.query] at h
    split at h
    · rename_i limit _
      cases hlimit : Rule.limitOf limit <;> rw [hlimit] at h <;> cases h
      rfl
    · cases h
  | whereNumber =>
    simp only [Rule.query] at h
    split at h
    · rename_i number limit _
      cases hoperand : Rule.operandOf number <;> rw [hoperand] at h
      · cases h
      · cases hlimit : Rule.limitOf limit <;> rw [hlimit] at h <;> cases h
        rfl
    · cases h
  | countAll =>
    simp only [Rule.query] at h
    split at h <;> cases h
    rfl
  | groupCount =>
    simp only [Rule.query] at h
    split at h
    · split at h <;> cases h
      rfl
    · cases h
  | looseSelectAll =>
    rcases htable : Shape.looseTable ls with _ | table <;> simp only [Rule.query, htable] at h <;>
      cases h
    rfl

/-- **A text is translated to a grouped count** if the rule for these reads one from it. -/
theorem translate_groupCount_iff :
    (∃ rule, translate text = .ok (some (rule, q)) ∧ q.aggregate = .groupCount) ↔
      Rule.groupCount.apply text = .ok (some q) := by
  constructor
  · rintro ⟨rule, htr, hq⟩
    have hquery := (firstMatch_query htr).2
    have hrule := aggregate_of_query hquery
    rw [hq] at hrule
    cases rule <;> first | exact hquery | cases hrule
  · intro h
    have hquery : Rule.groupCount.query (scan text.toList) = .ok (some q) := h
    have happlies : Rule.groupCount.query (scan text.toList) ≠ .ok none := by simp [hquery]
    refine ⟨.groupCount, ?_, aggregate_of_query hquery⟩
    rw [translate_of_applies rfl happlies, named, hquery]
    rfl

end ReadGate.Grammar
