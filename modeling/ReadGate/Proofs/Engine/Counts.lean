import ReadGate.Proofs.Engine.Groups
import ReadGate.Proofs.Memory.Calls
import ReadGate.Proofs.Value.Tally

/-!
# Counts of groups

A grouped count of scalars is answered with one row for each of the distinct ones, in the order in
which they first appear.  The row shows the first of them and how often it occurs, and the counts of
all rows add up to the number of rows of the table.

* `countRows`, `Counts` — the rows, and what holds of their counts.
* `count_of_columnValues` — tables in memory have a value in a column for each of their rows.
* `executeStructured_counts` — the answer to a grouped count, whatever the backend is.
-/

namespace ReadGate

/-- The count that a row holds in a column. -/
def Row.countIn (row : Row) (column : String) : Nat :=
  match Row.get? row column with
  | some (.int n) => n.toNat
  | _ => 0

/-! ## Tables in memory -/

namespace Memory

variable {guarded guarded' : Bool} {table : String} {column : Option String} {values : List Value}
  {w w₁ w₂ : World MemoryStore}

theorem values_length {s : MemoryStore} (h : s.values table column = .ok values) :
    (s.rows table).map (fun rows => (rows.length : Int)) = .ok (values.length : Int) := by
  unfold MemoryStore.values at h
  rcases hrows : s.rows table with trouble | rows <;> rw [hrows] at h
  · cases h
  · cases hknown : MemoryStore.requireColumn table rows column <;>
      simp only [bind, Except.bind, hknown, pure, Except.pure] at h <;> cases h
    simp [Except.map]

/-- A column that is fetched has as many values as are counted in the table. -/
theorem count_of_columnValues
    (h : adapter.columnValues guarded table column w = (.ok values, w₁))
    (htables : w₂.remote.tables = w.remote.tables)
    (hfree : (guarded' && w₂.token.cancelled) = false) :
    (adapter.count guarded' table w₂).1 = .ok (values.length : Int) := by
  cases hc : guarded && w.token.cancelled with
  | true =>
    replace h : call .columnValues guarded (.values table column) (·.values table column) w =
      (.ok values, w₁) := h
    rw [call_stopped hc] at h
    cases h
  | false =>
    obtain ⟨w', hvalues, -⟩ := columnValues_free table column hc
    obtain ⟨w'', hcount, -⟩ := count_free table hfree
    rw [hvalues] at h
    rw [hcount]
    have hlength := values_length (Prod.mk.inj h).1
    unfold MemoryStore.rows at hlength ⊢
    rw [htables]
    exact hlength

end Memory

/-! ## Rows of counts -/

namespace Engine

open Grouping

variable {column label : String} {values : List Value}

/-- The rows that count scalars: one for each that no earlier one equals. -/
def countRows (column label : String) (values : List Value) : List Row :=
  (distinct values).map fun v => [(column, v), (label, .int (occurrences v values))]

/-- The rows count the values: one for each distinct value, in the order in which they first appear,
with no group that is empty, and no value that is lost or counts twice. -/
structure Counts (column label : String) (values : List Value) (rows : List Row) : Prop where
  shown : rows = countRows column label values
  positive : ∀ row ∈ rows, 0 < Row.countIn row label
  total : (rows.map (Row.countIn · label)).sum = values.length

theorem occurrences_pos {v : Value} (h : v ∈ values) : 0 < occurrences v values :=
  List.countP_pos_iff.2 ⟨v, h, Value.equals_iff.2 rfl⟩

theorem countIn_row (hapart : column ≠ label) (v : Value) (n : Nat) :
    Row.countIn [(column, v), (label, .int n)] label = n := by
  simp [Row.countIn, Row.get?, hapart]

theorem counts_countRows (hapart : column ≠ label) (h : ∀ v ∈ values, v.IsScalar) :
    Counts column label values (countRows column label values) where
  shown := rfl
  positive row hrow := by
    obtain ⟨v, hv, rfl⟩ := List.mem_map.1 hrow
    rw [countIn_row hapart]
    exact occurrences_pos (mem_of_mem_distinct hv)
  total := by
    have hcounts : (countRows column label values).map (Row.countIn · label) =
        (tally values).map (·.2) := by
      rw [tally_of_isScalar h, countRows, List.map_map, List.map_map]
      exact List.map_congr_left fun v _ => countIn_row hapart v _
    rw [hcounts, ← total_eq_sum, total_tally]

/-- Scalars are grouped, unless the call is stopped before that. -/
theorem grouping_of_isScalar (stopped : Bool) (h : ∀ v ∈ values, v.IsScalar) :
    grouping stopped values =
      if stopped then .error (.failure (.cancelledBefore "group_count aggregation"))
      else .ok (tally values) := by
  have hnone : obstacle? values = none :=
    List.findSome?_eq_none_iff.2 fun v hv => Value.unhashable?_of_isScalar (h v hv)
  rw [grouping, hnone]

/-- **A grouped count counts every value once.**  Let a query group by a column under another name
than that of its counts.  Whenever a backend fetches scalars for the column, the query is answered
with the rows that count them, unless the call was cancelled by then; and the counts add up to what
tables in memory count for the whole table, as long as the table is the same. -/
theorem executeStructured_counts {q : StructuredQuery} (haggregate : q.aggregate = .groupCount)
    (hcolumn : q.groupBy = some column) (hapart : column ≠ q.countName)
    (hscalars : ∀ v ∈ values, v.IsScalar) :
    ∃ rows, Counts column q.countName values rows ∧
      (∀ (σ : Type) (backend : Adapter σ) (guarded : Bool) (w w₁ : World σ),
        backend.columnValues guarded q.table (some column) w = (.ok values, w₁) →
        (executeStructured backend guarded q w).1 =
          if guarded && w₁.token.cancelled then
            .error (.failure (.cancelledBefore "group_count aggregation"))
          else .ok rows) ∧
      ∀ (guarded guarded' : Bool) (w w₁ w₂ : World MemoryStore),
        Memory.adapter.columnValues guarded q.table (some column) w = (.ok values, w₁) →
        w₂.remote.tables = w.remote.tables → (guarded' && w₂.token.cancelled) = false →
        (Memory.adapter.count guarded' q.table w₂).1 =
          .ok ((rows.map (Row.countIn · q.countName)).sum : Int) := by
  have hcounts := counts_countRows hapart hscalars
  have hname : q.groupName = column := by
    rw [StructuredQuery.groupName, hcolumn]
    rfl
  have hrows : (tally values).map q.groupRow = countRows column q.countName values := by
    rw [tally_of_isScalar hscalars, List.map_map, countRows]
    refine List.map_congr_left fun v _ => ?_
    rw [Function.comp_apply, groupRow_eq, hname, groupFields, if_neg hapart]
  refine ⟨_, hcounts, ?_, ?_⟩
  · intro σ backend guarded w w₁ hvalues
    rw [executeStructured_groups backend guarded haggregate, hcolumn, hvalues]
    simp only [Except.bind, grouping_of_isScalar _ hscalars]
    cases guarded && w₁.token.cancelled with
    | true => rfl
    | false => exact congrArg Except.ok hrows
  · intro guarded guarded' w w₁ w₂ hvalues htables hfree
    rw [hcounts.total]
    exact Memory.count_of_columnValues hvalues htables hfree

/-- A column in which one stands as a number of both kinds and as a truth value. -/
def mixedColumn : List Value :=
  [.int 1, .null, .float (.ofInt 1), .text "1", .bool true, .null]

/-- A count of the groups in that column. -/
def mixedCount : StructuredQuery where
  table := "t"
  aggregate := .groupCount
  groupBy := some "v"

/-- A store with a table that has that column. -/
def mixedStore : World MemoryStore :=
  ⟨.fresh, [], ⟨[("t", mixedColumn.map fun v => [("v", v)])], none, none, [], []⟩⟩

/-- The rows that count it: all three are one value, which the text is not. -/
theorem countRows_mixedColumn :
    countRows "v" "count" mixedColumn =
      [[("v", .int 1), ("count", .int 3)], [("v", .null), ("count", .int 2)],
        [("v", .text "1"), ("count", .int 1)]] := by
  have hint : (Value.int 1).scalar? = some (.number (.finite 1)) := by
    simp [Value.scalar?, Value.amount?]
  have hbool : (Value.bool true).scalar? = some (.number (.finite 1)) := by
    simp [Value.scalar?, Value.amount?]
  have hfloat : (Value.float (.ofInt 1)).scalar? = some (.number (.finite 1)) := by
    have hone : Binary64.ofInt 1 = .finite false (2 ^ 52) (-52) := by decide
    rw [hone, Value.scalar?, Value.amount?, Binary64.amount?]
    norm_num
  have hnull : Value.null.scalar? = some .null := rfl
  have htext : (Value.text "1").scalar? = some (.text "1") := rfl
  have hdistinct : distinct mixedColumn = [.int 1, .null, .text "1"] := by
    simp [mixedColumn, distinct_cons, Value.equals, hint, hbool, hfloat, hnull, htext]
  rw [countRows, hdistinct]
  simp [occurrences, mixedColumn, List.countP_cons, Value.equals, hint, hbool, hfloat, hnull, htext]

/-- A grouped count of that column has these rows, which count all six rows of the table. -/
theorem executeStructured_counts_mixed :
    ∃ rows, Counts "v" "count" mixedColumn rows ∧
      rows = [[("v", .int 1), ("count", .int 3)], [("v", .null), ("count", .int 2)],
        [("v", .text "1"), ("count", .int 1)]] ∧
      (executeStructured Memory.adapter false mixedCount mixedStore).1 = .ok rows ∧
      (Memory.adapter.count false "t" mixedStore).1 = .ok 6 := by
  have hscalars : ∀ v ∈ mixedColumn, v.IsScalar := by
    have hone : (Value.float (.ofInt 1)).IsScalar := .float nofun
    simp only [mixedColumn, List.forall_mem_cons, List.not_mem_nil, false_implies, implies_true,
      and_true]
    exact ⟨.int 1, .null, hone, .text "1", .bool true, .null⟩
  obtain ⟨rows, hcounts, hanswer, hcount⟩ :=
    @executeStructured_counts "v" mixedColumn mixedCount rfl rfl (by decide) hscalars
  have hrows := hanswer _ Memory.adapter false mixedStore _ rfl
  have hsum := hcount false false mixedStore _ mixedStore rfl rfl rfl
  rw [hcounts.total] at hsum
  exact ⟨rows, hcounts, hcounts.shown.trans countRows_mixedColumn, hrows, hsum⟩

end Engine

end ReadGate
