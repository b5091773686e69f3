import ReadGate.Postgres.Adapter
import ReadGate.Proofs.Rule.Names
import ReadGate.Proofs.Text.Lower
import ReadGate.Proofs.Validation.Language

/-!
# Composed statements are single reads

Every statement that is composed begins with the word that reads.  A terminator could come into it
with a name only, and the names of a translated query are words in lower case, which have none.

* `SingleRead` — a statement that begins with the word that reads and has no terminator.
* `single_of_validate` — an accepted text is one.
* `ofSelection_single`, `countRows_single`, `listColumn_single`, `callFunction_single` — so is every
  statement that is composed of names without terminators.
-/

namespace ReadGate.Postgres

open Text

/-- A statement begins with the word that reads, in any letter case, and has no terminator. -/
structure SingleRead (sql : String) : Prop where
  reads : Validation.Reads sql.toList
  single : ';' ∉ sql.toList

/-- An accepted text is a single statement that reads. -/
theorem single_of_validate {raw : Option String} {text : String}
    (h : Validation.validate raw = .ok text) : SingleRead text := by
  rcases raw with _ | raw
  · cases h
  · by_cases hne : Validation.clean raw.toList = []
    · rcases Validation.validate_nothing hne with hv | hv <;> rw [hv] at h <;> cases h
    · have hslice : (Validation.normalize raw).toList = Validation.clean raw.toList := by
        simp [Validation.normalize]
      have hends : Stops Validation.isTrailer (Validation.normalize raw).toList.reverse :=
        hslice ▸ (Validation.isSlice_clean hne).ends
      have hcases := Validation.verdict_cases hends
      rw [← Validation.validate_some hne, h] at hcases
      rcases hcases with ⟨-, hv⟩ | ⟨-, -, keyword, hv⟩ | ⟨-, -, -, hv⟩ | ⟨hreads, -, hsingle, hv⟩
      · cases hv
      · cases hv
      · cases hv
      · cases hv
        exact ⟨hreads, hsingle⟩

/-! ## Names -/

/-- The name has no terminator. -/
def Plain (name : String) : Prop :=
  ';' ∉ name.toList

instance (name : String) : Decidable (Plain name) :=
  inferInstanceAs (Decidable (¬ _ ∈ _))

theorem plain_of_named {name : String} (h : Grammar.Named name) : Plain name := by
  obtain ⟨w, hw, rfl⟩ := h
  intro hmem
  rcases ascii_mem_lower hmem (by decide) with hsmall | ⟨hin, -⟩
  · exact absurd hsmall (by decide)
  · rw [String.toList_ofList] at hin
    exact absurd (hw.all ';' hin) (by decide)

theorem mem_doubleQuotes {c : Char} {cs : List Char} (hc : c ≠ '"') (h : c ∈ doubleQuotes cs) :
    c ∈ cs := by
  induction cs with
  | nil => exact h
  | cons d rest ih =>
    unfold doubleQuotes at h
    split at h
    · simp only [List.mem_cons, hc, false_or] at h
      exact List.mem_cons_of_mem d (ih h)
    · rcases List.mem_cons.1 h with rfl | hrest
      · exact List.mem_cons_self
      · exact List.mem_cons_of_mem d (ih hrest)

/-- Quotes around a name bring no terminator into it. -/
theorem identifier_plain {name : String} (h : Plain name) : Plain (identifier name) := by
  unfold Plain identifier
  rw [String.toList_ofList]
  intro hmem
  simp only [List.mem_cons, List.mem_append, List.cons_append, List.not_mem_nil, or_false] at hmem
  rcases hmem with hquote | hname | hquote
  · exact absurd hquote (by decide)
  · exact h (mem_doubleQuotes (by decide) hname)
  · exact absurd hquote (by decide)

theorem plain_append {a b : String} (ha : Plain a) (hb : Plain b) : Plain (a ++ b) := by
  unfold Plain
  rw [String.toList_append, List.mem_append]
  exact fun h => h.elim ha hb

theorem joined_plain {separator : String} (hseparator : Plain separator) {parts : List String}
    (h : ∀ part ∈ parts, Plain part) : Plain (joined separator parts) := by
  induction parts with
  | nil => exact List.not_mem_nil
  | cons part rest ih =>
    have hpart := h part List.mem_cons_self
    have hrest := ih fun p hp => h p (List.mem_cons_of_mem part hp)
    cases rest with
    | nil => exact hpart
    | cons next rest => exact plain_append (plain_append hpart hseparator) hrest

/-- Texts that are joined begin with the first of them. -/
theorem joined_cons {separator : String} (hseparator : Plain separator) (part : String)
    {rest : List String} (h : ∀ p ∈ rest, Plain p) :
    ∃ tail, joined separator (part :: rest) = part ++ tail ∧ Plain tail := by
  cases rest with
  | nil => exact ⟨"", (String.append_empty ..).symm, List.not_mem_nil⟩
  | cons next rest =>
    exact ⟨separator ++ joined separator (next :: rest), String.append_assoc ..,
      plain_append hseparator (joined_plain hseparator h)⟩

/-! ## Statements -/

/-- What begins with the word that reads and a blank does so. -/
theorem singleRead_of_select {sql : String} (rest : String) (hsql : sql = "SELECT " ++ rest)
    (hplain : Plain rest) : SingleRead sql := by
  have hselect : ("SELECT " : String).toList = "SELECT".toList ++ [' '] := by decide
  rw [hsql]
  refine ⟨⟨"SELECT".toList, ' ' :: rest.toList, ?_, by decide, ?_⟩, ?_⟩
  · rw [String.toList_append, hselect, List.append_assoc]
    rfl
  · exact stops_cons.2 (by decide)
  · exact plain_append (by decide) hplain

theorem callFunction_single {name : String} (h : Plain name) :
    SingleRead (Statement.callFunction name) := by
  refine singleRead_of_select (identifier name ++ "(%s) AS result") ?_ ?_
  · exact String.append_assoc ..
  · exact plain_append (identifier_plain h) (by decide)

theorem countRows_single {table : String} (h : Plain table) :
    SingleRead (Statement.countRows table) := by
  refine singleRead_of_select ("COUNT(*) AS n FROM " ++ identifier table) ?_ ?_
  · have hcount : ("SELECT COUNT(*) AS n FROM " : String) = "SELECT " ++ "COUNT(*) AS n FROM " := by
      decide
    rw [← String.append_assoc, ← hcount]
    rfl
  · exact plain_append (by decide) (identifier_plain h)

theorem listColumn_single {table column : String} (h : Plain table) (hc : Plain column) :
    SingleRead (Statement.listColumn table column) := by
  refine singleRead_of_select (identifier column ++ " AS v FROM " ++ identifier table) ?_ ?_
  · rw [String.append_assoc, ← String.append_assoc, ← String.append_assoc]
    rfl
  · refine plain_append (plain_append (identifier_plain hc) ?_) (identifier_plain h)
    decide

theorem projection_plain {columns : Columns} (h : ∀ name ∈ columns.names, Plain name) :
    Plain (Statement.projection columns) := by
  have hnames : Plain (joined ", " (columns.names.map identifier)) := by
    refine joined_plain (by decide) fun part hpart => ?_
    obtain ⟨name, hname, rfl⟩ := List.mem_map.1 hpart
    exact identifier_plain (h name hname)
  unfold Statement.projection
  split
  · decide
  · exact hnames

/-- The names of a selection have no terminator. -/
structure PlainNames (q : Selection) : Prop where
  table : Plain q.table
  columns : ∀ name ∈ q.columns.names, Plain name
  predicate : ∀ p ∈ q.predicate, Plain p.column
  orderBy : ∀ o ∈ q.orderBy, Plain o.column

/-- The clauses behind the first one, which a selection may lack. -/
theorem furtherClauses_plain {q : Selection} (h : PlainNames q) :
    ∀ clause ∈ (q.predicate.map Statement.filterClause).toList ++
      (q.orderBy.map Statement.orderClause).toList ++
      (q.limit.map Statement.limitClause).toList, Plain clause.sql := by
  intro clause hclause
  simp only [List.mem_append, Option.mem_toList, Option.map_eq_some_iff] at hclause
  rcases hclause with (⟨p, hp, rfl⟩ | ⟨o, ho, rfl⟩) | ⟨n, -, rfl⟩
  · refine plain_append (plain_append ?_ (identifier_plain (h.predicate p hp))) ?_ <;>
      decide
  · have hdirection : Plain (if o.ascending then "ASC" else "DESC") := by
      split <;> decide
    refine plain_append (plain_append (plain_append ?_ (identifier_plain (h.orderBy o ho))) ?_)
      hdirection <;> decide
  · exact show Plain "LIMIT %s" by decide

theorem ofSelection_single {q : Selection} (h : PlainNames q) :
    SingleRead (Statement.ofSelection q).sql := by
  have hblank : Plain " " := by decide
  obtain ⟨tail, htail, hplain⟩ := joined_cons hblank
    s!"SELECT {Statement.projection q.columns} FROM {identifier q.table}"
    (List.forall_mem_map.2 (furtherClauses_plain h))
  refine singleRead_of_select
    (Statement.projection q.columns ++ " FROM " ++ identifier q.table ++ tail) ?_ ?_
  · refine htail.trans ?_
    simp only [← String.append_assoc]
    rfl
  · refine plain_append (plain_append (plain_append (projection_plain h.columns) ?_)
      (identifier_plain h.table)) hplain
    decide

end ReadGate.Postgres
