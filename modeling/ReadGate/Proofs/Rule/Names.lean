import ReadGate.Proofs.Rule.Recognition

/-!
# Names in translated queries

Whatever a rule recognizes, the loose one included, the table and the columns of its query are words
of the text in lower case.  Nothing else of the text becomes part of a name.

* `looseTable_mem` — the search for a star ends at a word of the text.
* `Named`, `NamesOnly` — a name, and a query that has no other names.
* `translate_namesOnly` — every translated query has names only.
-/

namespace ReadGate.Grammar

open Text Lexeme Shape

variable {cs : List Char} {ls : List Lexeme} {table : Name}

/-! ## Words -/

theorem mem_wordsOf {w : List Char} (h : .word w ∈ ls) : w ∈ wordsOf ls := by
  induction ls with
  | nil => cases h
  | cons l rest ih =>
    rcases List.mem_cons.1 h with rfl | hrest
    · exact List.mem_cons_self
    · cases l with
      | word u => exact List.mem_cons_of_mem u (ih hrest)
      | gap g => exact ih hrest
      | mark c => exact ih hrest

theorem word_of_mem_scan {w : List Char} (h : .word w ∈ scan cs) : Word w :=
  (mem_wordsOf_scan.1 (mem_wordsOf h)).isRun

/-! ## The search for a star -/

theorem mem_of_mem_skipGap {l : Lexeme} (h : l ∈ skipGap ls) : l ∈ ls := by
  unfold skipGap at h
  split at h
  · exact List.mem_cons_of_mem _ h
  · exact h

theorem tableHere_mem (h : tableHere ls = some table) : .word table ∈ ls := by
  unfold tableHere at h
  split at h
  · split at h <;> cases h
    simp
  · cases h

theorem tableLater_mem (h : tableLater ls = some table) : .word table ∈ ls := by
  induction ls with
  | nil => cases h
  | cons l rest ih =>
    unfold tableLater at h
    split at h
    · rename_i found hhere
      cases h
      exact tableHere_mem hhere
    · split at h
      · cases h
      · exact List.mem_cons_of_mem l (ih h)

theorem tableAfterStar_mem (h : tableAfterStar ls = some table) : .word table ∈ ls := by
  unfold tableAfterStar at h
  split at h
  · rename_i rest hskip
    apply mem_of_mem_skipGap
    rw [hskip]
    exact List.mem_cons_of_mem _ (tableLater_mem h)
  · exact mem_of_mem_skipGap (tableHere_mem h)

theorem starTable_mem (before : Lexeme) (h : starTable before ls = some table) :
    .word table ∈ ls := by
  induction ls generalizing before with
  | nil => cases h
  | cons l rest ih =>
    unfold starTable at h
    split at h
    · cases h
    · split at h
      · split at h
        · rename_i found hfound
          cases h
          exact List.mem_cons_of_mem l (tableAfterStar_mem hfound)
        · exact List.mem_cons_of_mem l (ih l h)
      · exact List.mem_cons_of_mem l (ih l h)

theorem looseTable_mem (h : looseTable ls = some table) : .word table ∈ ls := by
  induction ls with
  | nil => cases h
  | cons l rest ih =>
    unfold looseTable at h
    split at h
    · split at h
      · rename_i found hfound
        cases h
        exact List.mem_cons_of_mem l (starTable_mem l hfound)
      · exact List.mem_cons_of_mem l (ih h)
    · exact List.mem_cons_of_mem l (ih h)

/-! ## Names -/

/-- A name that a text writes: a word in lower case. -/
def Named (name : String) : Prop :=
  ∃ w, Word w ∧ Rule.ident w = name

/-- All names of a query are words in lower case, and it asks for no order. -/
structure NamesOnly (q : StructuredQuery) : Prop where
  table : Named q.table
  columns : ∀ name ∈ q.columns.names, Named name
  predicate : ∀ p ∈ q.predicate, Named p.column
  groupBy : ∀ name ∈ q.groupBy, Named name
  unordered : q.orderBy = none

theorem FromTable.named {f : List Char} (h : FromTable table f) : Named (Rule.ident table) := by
  obtain ⟨-, -, -, ht⟩ := h
  exact ⟨table, ht, rfl⟩

theorem StarFrom.named {s : List Char} (h : StarFrom table s) : Named (Rule.ident table) := by
  obtain ⟨-, hf⟩ := h
  exact hf.named

theorem WhereColumn.named {column w : List Char} (h : WhereColumn column w) :
    Named (Rule.ident column) := by
  obtain ⟨-, -, -, hc, -, -⟩ := h
  exact ⟨column, hc, rfl⟩

theorem Names.named {names : List Name} {c : List Char} (h : Names names c) :
    ∀ name ∈ names.map Rule.ident, Named name := by
  induction h with
  | @one word hn =>
    intro name hname
    rw [List.map_singleton, List.mem_singleton] at hname
    exact ⟨word, hn, hname.symm⟩
  | @more word _ _ _ _ hn _ _ _ ih =>
    intro name hname
    rcases List.mem_cons.1 hname with rfl | hrest
    · exact ⟨word, hn, rfl⟩
    · exact ih name hrest

/-- The query that a rule reads from a text has names only. -/
theorem query_namesOnly {rule : Rule} {q : StructuredQuery}
    (h : rule.query (scan cs) = .ok (some q)) : NamesOnly q := by
  cases rule with
  | selectAll =>
    rcases hshape : Shape.selectAll (scan cs) with _ | ⟨table, limit⟩ <;>
      simp only [Rule.query, hshape] at h
    · cases h
    · obtain ⟨s, l, -, hs, -⟩ := selectAll_sound hshape
      cases hlimit : Rule.limitOf limit <;> rw [hlimit] at h <;> cases h
      exact ⟨hs.named, by simp [Columns.names], by simp, by simp, rfl⟩
  | countAll =>
    rcases hshape : Shape.countAll (scan cs) with _ | ⟨name, table⟩ <;>
      simp only [Rule.query, hshape] at h
    · cases h
    · obtain ⟨s, c, a, f, e, -, -, -, -, hf, -⟩ := countAll_sound hshape
      cases h
      exact ⟨hf.named, by simp [Columns.names], by simp, by simp, rfl⟩
  | whereString =>
    rcases hshape : Shape.whereString (scan cs) with _ | ⟨table, column, text, limit⟩ <;>
      simp only [Rule.query, hshape] at h
    · cases h
    · obtain ⟨s, w, l, -, hs, hw, -⟩ := whereString_sound hshape
      cases hlimit : Rule.limitOf limit <;> rw [hlimit] at h <;> cases h
      exact ⟨hs.named, by simp [Columns.names], by simpa using hw.named, by simp, rfl⟩
  | whereNumber =>
    rcases hshape : Shape.whereNumber (scan cs) with _ | ⟨table, column, number, limit⟩ <;>
      simp only [Rule.query, hshape] at h
    · cases h
    · obtain ⟨s, w, l, -, hs, hw, -, -⟩ := whereNumber_sound hshape
      cases hoperand : Rule.operandOf number <;> rw [hoperand] at h
      · cases h
      · cases hlimit : Rule.limitOf limit <;> rw [hlimit] at h <;> cases h
        exact ⟨hs.named, by simp [Columns.names], by simpa using hw.named, by simp, rfl⟩
  | selectColumns =>
    rcases hshape : Shape.selectColumns (scan cs) with _ | ⟨columns, table, limit⟩ <;>
      simp only [Rule.query, hshape] at h
    · cases h
    · obtain ⟨s, c, f, l, -, -, hc, hf, -⟩ := selectColumns_sound hshape
      cases hlimit : Rule.limitOf limit <;> rw [hlimit] at h <;> cases h
      exact ⟨hf.named, hc.named, by simp, by simp, rfl⟩
  | groupCount =>
    rcases hshape : Shape.groupCount (scan cs) with _ | ⟨column, name, table, group⟩ <;>
      simp only [Rule.query, hshape] at h
    · cases h
    · obtain ⟨s, p, q, c, a, f, b, e, -, -, hcol, -, -, -, -, hf, -, -⟩ := groupCount_sound hshape
      have hcolumn : Named (Rule.ident column) := ⟨column, hcol, rfl⟩
      split at h <;> cases h
      exact ⟨hf.named, by simpa [Columns.names] using hcolumn, by simp,
        by simpa using hcolumn, rfl⟩
  | looseSelectAll =>
    rcases htable : Shape.looseTable (scan cs) with _ | table <;>
      simp only [Rule.query, htable] at h
    · cases h
    · cases h
      exact ⟨⟨table, word_of_mem_scan (looseTable_mem htable), rfl⟩, by simp [Columns.names],
        by simp, by simp, rfl⟩

theorem firstMatch_query {rules : List Rule} {rule : Rule} {q : StructuredQuery}
    (h : Rule.firstMatch ls rules = .ok (some (rule, q))) :
    rule ∈ rules ∧ rule.query ls = .ok (some q) := by
  induction rules with
  | nil => cases h
  | cons first rest ih =>
    unfold Rule.firstMatch at h
    split at h
    · cases h
    · rename_i q' hquery
      cases h
      exact ⟨List.mem_cons_self, hquery⟩
    · obtain ⟨hmem, hquery⟩ := ih h
      exact ⟨List.mem_cons_of_mem first hmem, hquery⟩

/-- **Every translated query has names only.** -/
theorem translate_namesOnly {text : String} {rule : Rule} {q : StructuredQuery}
    (h : translate text = .ok (some (rule, q))) : NamesOnly q :=
  query_namesOnly (firstMatch_query h).2

end ReadGate.Grammar
