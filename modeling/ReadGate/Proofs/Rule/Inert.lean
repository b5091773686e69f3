import ReadGate.Proofs.Rule.Names
import ReadGate.Proofs.Text.Lower

/-!
# Names in lower case are inert

A name that a text writes may have characters of any script.  But its ASCII characters are small
letters, digits and underscores, also where lower-casing makes one of them out of a letter of
another script, or two characters out of one.  So whatever a rule recognizes, no name of its query
has a sign in it that means something elsewhere.

* `Inert` — a name without signs; `inert_of_named` — every name that a text writes is one.
* `InertNames`, `query_inert` — so is every name of the query of a rule, its alias included.
-/

namespace ReadGate.Grammar

open Text Lexeme Shape

variable {cs : List Char}

/-! ## Names -/

/-- The name is not empty, and its ASCII characters are small letters, digits and underscores. -/
structure Inert (name : String) : Prop where
  ne_empty : name ≠ ""
  ascii : ∀ c ∈ name.toList, c.toNat < 0x80 → c.isLower = true ∨ c.isDigit = true ∨ c = '_'

/-- **A name that a text writes is inert.** -/
theorem inert_of_named {name : String} (h : Named name) : Inert name := by
  obtain ⟨w, hw, rfl⟩ := h
  refine ⟨lower_ne_empty hw.ne_nil, fun c hc hascii => ?_⟩
  rcases ascii_mem_lower hc hascii with hsmall | ⟨hmem, hcapital⟩
  · exact .inl hsmall
  · rw [String.toList_ofList] at hmem
    have hword := hw.all c hmem
    rw [isWord, if_pos hascii] at hword
    exact of_ascii (P := fun c => isAsciiWord c = true → c.isUpper = false →
      c.isLower = true ∨ c.isDigit = true ∨ c = '_') (by decide) hascii hword hcapital

theorem Alias.named {name : Option Name} (h : Alias name cs) : Named (Rule.aliasOf name) := by
  cases h with
  | without => exact ⟨"count".toList, ⟨by decide, List.all_eq_true.1 (by decide)⟩, by decide⟩
  | called _ _ _ hn => exact ⟨_, hn, rfl⟩

/-! ## Queries -/

/-- All names of a query are inert, as far as it has them. -/
structure InertNames (q : StructuredQuery) : Prop where
  table : Inert q.table
  columns : ∀ name ∈ q.columns.names, Inert name
  predicate : ∀ p ∈ q.predicate, Inert p.column
  groupBy : ∀ name ∈ q.groupBy, Inert name
  resultAlias : ∀ name ∈ q.resultAlias, Inert name

/-- A query with a limit that was read is the same apart from it. -/
theorem exists_of_limitOf {digits : Option Name} {f : Option Nat → StructuredQuery}
    {q : StructuredQuery}
    (h : (Rule.limitOf digits >>= fun limit => pure (some (f limit))) = .ok (some q)) :
    ∃ limit, q = f limit := by
  cases hlimit : Rule.limitOf digits <;> rw [hlimit] at h <;> cases h
  exact ⟨_, rfl⟩

/-- The alias of a query is a name that the text writes, or the usual one. -/
theorem query_aliasNamed {rule : Rule} {q : StructuredQuery}
    (h : rule.query (scan cs) = .ok (some q)) : ∀ name ∈ q.resultAlias, Named name := by
  cases rule with
  | selectAll =>
    rcases hshape : Shape.selectAll (scan cs) with _ | ⟨table, limit⟩ <;>
      simp only [Rule.query, hshape] at h
    · cases h
    · obtain ⟨limit, rfl⟩ := exists_of_limitOf h
      rintro name ⟨⟩
  | countAll =>
    rcases hshape : Shape.countAll (scan cs) with _ | ⟨given, table⟩ <;>
      simp only [Rule.query, hshape] at h
    · cases h
    · obtain ⟨s, c, a, f, e, -, -, -, halias, -, -⟩ := countAll_sound hshape
      cases h
      rintro name ⟨⟩
      exact halias.named
  | whereString =>
    rcases hshape : Shape.whereString (scan cs) with _ | ⟨table, column, text, limit⟩ <;>
      simp only [Rule.query, hshape] at h
    · cases h
    · obtain ⟨limit, rfl⟩ := exists_of_limitOf h
      rintro name ⟨⟩
  | whereNumber =>
    rcases hshape : Shape.whereNumber (scan cs) with _ | ⟨table, column, number, limit⟩ <;>
      simp only [Rule.query, hshape] at h
    · cases h
    · cases hoperand : Rule.operandOf number <;> rw [hoperand] at h
      · cases h
      · obtain ⟨limit, rfl⟩ := exists_of_limitOf h
        rintro name ⟨⟩
  | selectColumns =>
    rcases hshape : Shape.selectColumns (scan cs) with _ | ⟨columns, table, limit⟩ <;>
      simp only [Rule.query, hshape] at h
    · cases h
    · obtain ⟨limit, rfl⟩ := exists_of_limitOf h
      rintro name ⟨⟩
  | groupCount =>
    rcases hshape : Shape.groupCount (scan cs) with _ | ⟨column, given, table, group⟩ <;>
      simp only [Rule.query, hshape] at h
    · cases h
    · obtain ⟨s, p, q, c, a, f, b, e, -, -, -, -, -, -, halias, -, -, -⟩ := groupCount_sound hshape
      split at h <;> cases h
      rintro name ⟨⟩
      exact halias.named
  | looseSelectAll =>
    rcases htable : Shape.looseTable (scan cs) with _ | table <;>
      simp only [Rule.query, htable] at h <;> cases h
    rintro name ⟨⟩

/-- **All names of the query of a rule are inert.** -/
theorem query_inert {rule : Rule} {q : StructuredQuery} (h : rule.query (scan cs) = .ok (some q)) :
    InertNames q := by
  have hnames := query_namesOnly h
  exact ⟨inert_of_named hnames.table, fun name hname => inert_of_named (hnames.columns name hname),
    fun p hp => inert_of_named (hnames.predicate p hp),
    fun name hname => inert_of_named (hnames.groupBy name hname),
    fun name hname => inert_of_named (query_aliasNamed h name hname)⟩

end ReadGate.Grammar
