import ReadGate.Proofs.Rule.Order
import ReadGate.Proofs.Rule.Recognition
import ReadGate.Proofs.Rule.Search

/-!
# Rules that select all columns

Three of the rules that match a whole text select all columns of the rows of a table.  The query
that one of them reads from a text is the translation of the text.  The loose rule applies to all
these texts too, whatever a text literal in them holds: it finds the same star and the same table,
but reads neither filter nor limit.

* `exists_of_starRule` — the table of the star is that of the query.
* `translate_of_apply` — the query of a star rule is the translation, and asks for all columns.
* `looseTable_of_starFrom` — the search for a star ends at the first one.
* `looseSelectAll_shadows` — the loose rule hides a star rule that is tried after it.
-/

namespace ReadGate.Grammar

open Lexeme Shape

variable {ls rest : List Lexeme} {table : Name} {q : StructuredQuery} {rule : Rule}

/-- The rules that select all columns of the rows of a table. -/
def starRules : List Rule :=
  [.selectAll, .whereString, .whereNumber]

theorem isLoose_of_mem_starRules (h : rule ∈ starRules) : rule.isLoose = false := by
  simp only [starRules, List.mem_cons, List.not_mem_nil, or_false] at h
  rcases h with rfl | rfl | rfl <;> rfl

/-- The query asks for all columns of the rows of a table, in no order. -/
structure AllColumns (q : StructuredQuery) : Prop where
  columns : q.columns = .all
  orderBy : q.orderBy = none
  aggregate : q.aggregate = .rows

/-- The table of the star is that of the query. -/
theorem exists_of_starRule (hrule : rule ∈ starRules) (h : rule.query ls = .ok (some q)) :
    ∃ table rest, starFrom ls = some (table, rest) ∧ q.table = Rule.ident table ∧
      AllColumns q := by
  simp only [starRules, List.mem_cons, List.not_mem_nil, or_false] at hrule
  rcases hrule with rfl | rfl | rfl
  · rcases hshape : Shape.selectAll ls with _ | ⟨table, limit⟩ <;>
      simp only [Rule.query, hshape] at h
    · cases h
    · simp only [Shape.selectAll, Option.bind_eq_bind, Option.bind_eq_some_iff] at hshape
      obtain ⟨⟨_, rest⟩, hstar, _, -, heq⟩ := hshape
      cases heq
      cases hlimit : Rule.limitOf limit <;> rw [hlimit] at h <;> cases h
      exact ⟨_, rest, hstar, rfl, rfl, rfl, rfl⟩
  · rcases hshape : Shape.whereString ls with _ | ⟨table, column, text, limit⟩ <;>
      simp only [Rule.query, hshape] at h
    · cases h
    · simp only [Shape.whereString, Option.bind_eq_bind, Option.bind_eq_some_iff] at hshape
      obtain ⟨⟨_, rest⟩, hstar, _, -, _, -, _, -, heq⟩ := hshape
      cases heq
      cases hlimit : Rule.limitOf limit <;> rw [hlimit] at h <;> cases h
      exact ⟨_, rest, hstar, rfl, rfl, rfl, rfl⟩
  · rcases hshape : Shape.whereNumber ls with _ | ⟨table, column, number, limit⟩ <;>
      simp only [Rule.query, hshape] at h
    · cases h
    · simp only [Shape.whereNumber, Option.bind_eq_bind, Option.bind_eq_some_iff] at hshape
      obtain ⟨⟨_, rest⟩, hstar, _, -, ⟨number, _⟩, -, _, -, heq⟩ := hshape
      cases heq
      cases hoperand : Rule.operandOf number <;> rw [hoperand] at h
      · cases h
      · cases hlimit : Rule.limitOf limit <;> rw [hlimit] at h <;> cases h
        exact ⟨_, rest, hstar, rfl, rfl, rfl, rfl⟩

/-- **The query of a star rule is the translation**, and asks for all columns. -/
theorem translate_of_apply {text : String} (hrule : rule ∈ starRules)
    (h : rule.apply text = .ok (some q)) :
    translate text = .ok (some (rule, q)) ∧ AllColumns q := by
  have hquery : rule.query (scan text.toList) = .ok (some q) := h
  have happlies : rule.query (scan text.toList) ≠ .ok none := by simp [hquery]
  obtain ⟨_, _, -, -, hall⟩ := exists_of_starRule hrule hquery
  refine ⟨?_, hall⟩
  rw [translate_of_applies (isLoose_of_mem_starRules hrule) happlies, named, hquery]
  rfl

/-! ## The loose rule -/

/-- The search for a star ends at the first one, if a table is selected from it at once. -/
theorem looseTable_of_starFrom (h : starFrom ls = some (table, rest)) :
    looseTable ls = some table := by
  unfold starFrom at h
  split at h
  · rename_i projection hselect
    unfold select at hselect
    split at hselect
    · rename_i w g tail
      split at hselect
      · rename_i hkeyword
        cases hselect
        unfold fromTable at h
        split at h
        · rename_i h' f g' table' tail
          split at h
          · rename_i hfrom
            cases h
            have hselect : isKeyword "select" (.word w) = true := hkeyword
            simp [looseTable, hselect, starTable, admitsStar, tableAfterStar, skipGap, tableHere,
              hfrom]
          · cases h
        · cases h
      · cases hselect
    · cases hselect
  · cases h

/-- Tried before a rule that applies, the loose rule wins if it finds a table. -/
theorem firstMatch_loose {before : List Rule} (hrule : rule.isLoose = false)
    (h : rule.query ls ≠ .ok none) (htable : looseTable ls = some table) (hnot : rule ∉ before)
    (after : List Rule) :
    Rule.firstMatch ls (before ++ .looseSelectAll :: after) =
      .ok (some (.looseSelectAll, allOf table)) := by
  have hloose : Rule.looseSelectAll.query ls = .ok (some (allOf table)) := by
    rw [Rule.query, htable]
    rfl
  induction before with
  | nil => rw [List.nil_append, Rule.firstMatch, hloose]
  | cons first before ih =>
    obtain ⟨hne, hnot⟩ := List.ne_and_not_mem_of_not_mem_cons hnot
    rw [List.cons_append, Rule.firstMatch]
    cases hfirst : first.isLoose with
    | true =>
      obtain rfl : first = .looseSelectAll := by
        cases first <;> first | rfl | cases hfirst
      rw [hloose]
    | false =>
      rw [query_of_applies hrule h hfirst hne.symm]
      exact ih hnot

/-- **The loose rule shadows the rules that select all columns.**  Where one of these matches a text
whose numbers are short, it reads a query, and this is the translation.  The loose rule applies to
the text as well, with the same table and without filter and limit; so in every order in which it is
tried first, it takes the text. -/
theorem looseSelectAll_shadows {text : String} (hrule : rule ∈ starRules)
    (hshort : ShortNumbers text.toList) (h : rule.apply text ≠ .ok none) :
    ∃ q, rule.apply text = .ok (some q) ∧ translate text = .ok (some (rule, q)) ∧
      Rule.looseSelectAll.apply text = .ok (some { table := q.table }) ∧
      ∀ before after, rule ∉ before →
        Rule.firstMatch (scan text.toList) (before ++ .looseSelectAll :: after) =
          .ok (some (.looseSelectAll, { table := q.table })) := by
  have hfull : rule.isLoose = false := isLoose_of_mem_starRules hrule
  obtain ⟨result, hresult, -⟩ := query_sound hfull hshort
  cases result with
  | none => exact absurd hresult h
  | some q =>
    obtain ⟨table, rest, hstar, htable, -⟩ := exists_of_starRule hrule hresult
    have hloose : looseTable (scan text.toList) = some table := looseTable_of_starFrom hstar
    have happly : Rule.looseSelectAll.apply text = .ok (some (allOf table)) := by
      rw [Rule.apply, Rule.query, hloose]
      rfl
    refine ⟨q, hresult, (translate_of_apply hrule hresult).1, ?_, fun before after hnot => ?_⟩
    · rw [happly, allOf, htable]
    · rw [firstMatch_loose hfull h hloose hnot after, allOf, htable]

/-- A filtered selection with a quote, a terminator and another selection in its literal. -/
def selectionQuoted : String :=
  "SELECT * FROM notes WHERE body = 'it''s; SELECT * FROM users' LIMIT 3"

/-- The loose rule finds the table of the text, not that of its literal. -/
theorem looseSelectAll_shadows_quoted :
    translate selectionQuoted = .ok (some (.whereString,
        { table := "notes"
          predicate := some ⟨"body", .text "it's; SELECT * FROM users"⟩
          limit := some 3 })) ∧
      Rule.looseSelectAll.apply selectionQuoted = .ok (some { table := "notes" }) ∧
      Rule.firstMatch (scan selectionQuoted.toList) (.looseSelectAll :: Rule.all) =
        .ok (some (.looseSelectAll, { table := "notes" })) := by
  have hshort : ShortNumbers selectionQuoted.toList :=
    shortNumbers_of_length (by decide)
  obtain ⟨q, hq, htranslate, hloose, hfirst⟩ :=
    @looseSelectAll_shadows .whereString selectionQuoted (by decide) hshort (by decide)
  have hquery : Rule.whereString.apply selectionQuoted = .ok (some
      { table := "notes"
        predicate := some ⟨"body", .text "it's; SELECT * FROM users"⟩
        limit := some 3 }) := by decide
  obtain rfl := Option.some.inj (Except.ok.inj (hq.symm.trans hquery))
  exact ⟨htranslate, hloose, hfirst [] Rule.all List.not_mem_nil⟩

end ReadGate.Grammar
