import ReadGate.Proofs.Memory.Answers

/-!
# Columns of a selection

Whether a column exists is asked of the rows that are left when the filter and the limit have done
their work.  The table may have a column that none of these rows has, and then the selection is
refused; it may lack a column that is asked for, and then it is answered all the same if no row is
left.

* `Missing` — there are rows, and none of them has the column.
* `project_eq` — the columns of some rows, or the first one that they lack.
* `select_stages` — a selection is a projection of the rows that are left.
* `select_columns_iff` — when a selection is refused for one of its columns, and what it gives
  otherwise.
* `select_columns_iff_ragged` — a table where the columns of what is left are not its own.
-/

namespace ReadGate.Memory

open MemoryStore

/-! ## Columns of some rows -/

/-- There are rows, and none of them has the column. -/
def Missing (rows : List Row) (column : String) : Prop :=
  rows ≠ [] ∧ ∀ row ∈ rows, Row.has row column = false

instance (rows : List Row) (column : String) : Decidable (Missing rows column) :=
  inferInstanceAs (Decidable (_ ∧ _))

/-- The first of the columns that the rows lack. -/
def firstMissing? (names : List String) (rows : List Row) : Option String :=
  names.find? fun column => decide (Missing rows column)

/-- What a selection shows of a row. -/
def shown (columns : Columns) (row : Row) : Row :=
  match columns with
  | .all => row
  | columns => Row.ofPairs (columns.names.map fun column => (column, cell row column))

/-- The selection is refused for the column. -/
def RefusedFor (table column : String) (answer : Except Trouble (List Row)) : Prop :=
  answer = .error (.failure (unknownColumn table (some column)))

variable {rows left : List Row} {names : List String} {column : String}

theorem knowsColumn_iff : knowsColumn rows (some column) = true ↔ ¬ Missing rows column := by
  rw [Missing, ← knowsColumn_eq_false, Bool.not_eq_false]

theorem requireColumn_eq (table : String) (rows : List Row) (column : String) :
    requireColumn table rows (some column) =
      if Missing rows column then .error (.failure (unknownColumn table (some column)))
      else .ok () := by
  unfold requireColumn
  by_cases h : Missing rows column
  · rw [if_pos h, knowsColumn_eq_false.2 h]
    rfl
  · rw [if_neg h, knowsColumn_iff.2 h]
    rfl

theorem firstMissing?_eq_none :
    firstMissing? names rows = none ↔ ∀ column ∈ names, ¬ Missing rows column := by
  simp [firstMissing?]

theorem exists_firstMissing?_iff :
    (∃ column, firstMissing? names rows = some column) ↔ ∃ column ∈ names, Missing rows column := by
  rw [← Option.isSome_iff_exists, firstMissing?, List.find?_isSome]
  simp

/-- The loop over the columns ends at the first that the rows lack. -/
theorem requireColumns_eq (table : String) (rows : List Row) (names : List String) :
    (ForIn.forIn names PUnit.unit fun column _ => do
      requireColumn table rows (some column)
      pure (ForInStep.yield PUnit.unit)) =
    match firstMissing? names rows with
    | some column => .error (.failure (unknownColumn table (some column)))
    | none => .ok PUnit.unit := by
  induction names with
  | nil => rfl
  | cons name rest ih =>
    rw [List.forIn_cons, requireColumn_eq]
    by_cases h : Missing rows name
    · rw [if_pos h, firstMissing?, List.find?_cons_of_pos (by simpa using h)]
      rfl
    · rw [if_neg h, firstMissing?, List.find?_cons_of_neg (by simpa using h)]
      exact ih

/-- **Columns of rows** are shown if the rows know all of them; the first that is unknown is named
otherwise. -/
theorem project_eq (table : String) (columns : Columns) (rows : List Row) :
    project table columns rows =
      match firstMissing? columns.names rows with
      | some column => .error (.failure (unknownColumn table (some column)))
      | none => .ok (rows.map (shown columns)) := by
  cases columns with
  | all =>
    show Except.ok rows = Except.ok (rows.map fun row => row)
    rw [List.map_id']
  | letters s =>
    simp only [project, requireColumns_eq]
    cases firstMissing? (Columns.letters s).names rows <;> rfl
  | these names =>
    simp only [project, requireColumns_eq]
    cases firstMissing? (Columns.these names).names rows <;> rfl

theorem project_refused_iff {table : String} {columns : Columns} :
    RefusedFor table column (project table columns rows) ↔
      firstMissing? columns.names rows = some column := by
  rw [project_eq, RefusedFor]
  cases firstMissing? columns.names rows with
  | none => simp
  | some other =>
    simp only [Except.error.injEq, Trouble.failure.injEq, Option.some.injEq]
    refine ⟨fun h => ?_, fun h => congrArg _ (congrArg some h)⟩
    have hdetails := congrArg Failure.details h
    simpa [unknownColumn, Failure.permanent, Value.ofText?] using hdetails

theorem project_eq_ok_iff {table : String} {columns : Columns} {answer : List Row} :
    project table columns rows = .ok answer ↔
      firstMissing? columns.names rows = none ∧ rows.map (shown columns) = answer := by
  rw [project_eq]
  cases firstMissing? columns.names rows <;> simp

/-! ## Columns of a table and of what is left of it -/

theorem Missing.of_subset (h : Missing rows column) (hsub : left ⊆ rows) (hsome : left ≠ []) :
    Missing left column :=
  ⟨hsome, fun row hrow => h.2 row (hsub hrow)⟩

theorem satisfying_subset (predicate : Option Predicate) (rows : List Row) :
    satisfying predicate rows ⊆ rows := by
  cases predicate with
  | none => exact List.Subset.refl rows
  | some p => exact List.filter_subset_self _

theorem upTo_subset (limit : Option ℕ) (rows : List Row) : upTo limit rows ⊆ rows := by
  cases limit with
  | none => exact List.Subset.refl rows
  | some n => exact List.take_subset n rows

theorem upTo_map (limit : Option ℕ) (f : Row → Row) (rows : List Row) :
    upTo limit (rows.map f) = (upTo limit rows).map f := by
  cases limit with
  | none => rfl
  | some n => exact List.map_take.symm

/-! ## Selections -/

/-- One of the rows has a cell that cannot be compared with the operand of the filter. -/
def JamsOn (predicate : Option Predicate) (rows : List Row) : Prop :=
  ∃ p ∈ predicate, rows.any (fun row => p.operand.jams (cell row p.column)) = true

section Selection

variable {s : MemoryStore} {table : String} {columns : Columns} {predicate : Option Predicate}

theorem filter_missing {p : Predicate} (hp : p ∈ predicate) (hmissing : Missing rows p.column) :
    filter table predicate rows = .error (.failure (unknownColumn table (some p.column))) := by
  obtain rfl : predicate = some p := hp
  rw [filter_some, if_neg fun hknown => knowsColumn_iff.1 hknown hmissing]

theorem filter_jammed (hknown : ∀ p ∈ predicate, ¬ Missing rows p.column)
    (hjams : JamsOn predicate rows) :
    filter table predicate rows = .error (.mishap (.incomparable .undefinedDecimal)) := by
  obtain ⟨p, rfl, hjam⟩ := hjams
  rw [filter_some, if_pos (knowsColumn_iff.2 (hknown p rfl)), if_pos hjam]

theorem filter_calm (hknown : ∀ p ∈ predicate, ¬ Missing rows p.column)
    (hcalm : ¬ JamsOn predicate rows) :
    filter table predicate rows = .ok (satisfying predicate rows) := by
  cases predicate with
  | none => rfl
  | some p =>
    have hcalm' : ¬ rows.any (fun row => p.operand.jams (cell row p.column)) = true :=
      fun hjam => hcalm ⟨p, rfl, hjam⟩
    rw [filter_some, if_pos (knowsColumn_iff.2 (hknown p rfl)), if_neg hcalm']

/-- A selection in no order shows the columns of the rows that are left when its filter and its
limit have done their work. -/
theorem select_stages (htable : Row.get? s.tables table = some rows) (columns : Columns)
    (predicate : Option Predicate) (limit : Option ℕ) :
    s.select ⟨table, columns, predicate, limit.map Int.ofNat, none⟩ =
      filter table predicate rows >>= fun kept => project table columns (upTo limit kept) := by
  unfold MemoryStore.select
  simp only [MemoryStore.rows, htable, arrange, limited_upTo]
  rfl

end Selection

/-- **When a column is unknown.**  Let the filter be on a column of the table, or the table be
empty.  A selection jams if its filter does.  Otherwise it is refused exactly if there are rows left
under the limit that all lack one of the columns, and the first such column is named; where the
table itself lacks a column, that means that rows are left at all.  In all other cases it shows the
rows that are left; these are the first ones of the answer without the limit, if there is one. -/
theorem select_columns_iff {s : MemoryStore} {table : String} {rows : List Row}
    (htable : Row.get? s.tables table = some rows) (columns : Columns)
    {predicate : Option Predicate} (hknown : ∀ p ∈ predicate, ¬ Missing rows p.column)
    (limit : Option ℕ) :
    let answer (limit : Option ℕ) :=
      s.select ⟨table, columns, predicate, limit.map Int.ofNat, none⟩
    let left := upTo limit (satisfying predicate rows)
    (JamsOn predicate rows → answer limit = .error (.mishap (.incomparable .undefinedDecimal))) ∧
    (¬ JamsOn predicate rows →
      ((∃ column, RefusedFor table column (answer limit)) ↔
        ∃ column ∈ columns.names, Missing left column) ∧
      (∀ column, RefusedFor table column (answer limit) ↔
        firstMissing? columns.names left = some column) ∧
      ((∃ column ∈ columns.names, Missing rows column) →
        ((∃ column, RefusedFor table column (answer limit)) ↔ left ≠ [])) ∧
      ((∀ column ∈ columns.names, ¬ Missing left column) →
        answer limit = .ok (left.map (shown columns))) ∧
      ∀ all first, answer none = .ok all → answer limit = .ok first → first = upTo limit all) := by
  intro answer left
  have hanswer (limit : Option ℕ) : answer limit =
      filter table predicate rows >>= fun kept => project table columns (upTo limit kept) :=
    select_stages htable columns predicate limit
  refine ⟨fun hjams => ?_, fun hcalm => ?_⟩
  · rw [hanswer, filter_jammed hknown hjams]
    rfl
  · have hprojected (limit : Option ℕ) :
        answer limit = project table columns (upTo limit (satisfying predicate rows)) := by
      rw [hanswer, filter_calm hknown hcalm]
      rfl
    have hrefused (column : String) : RefusedFor table column (answer limit) ↔
        firstMissing? columns.names left = some column := by
      rw [hprojected]
      exact project_refused_iff
    have hsome : (∃ column, RefusedFor table column (answer limit)) ↔
        ∃ column ∈ columns.names, Missing left column := by
      simp only [hrefused]
      exact exists_firstMissing?_iff
    refine ⟨hsome, hrefused, ?_, ?_, ?_⟩
    · rintro ⟨column, hcolumn, hmissing⟩
      rw [hsome]
      refine ⟨fun ⟨_, _, hleft⟩ => hleft.1, fun hleft => ⟨column, hcolumn, ?_⟩⟩
      have hsub : left ⊆ rows := List.Subset.trans (upTo_subset _ _) (satisfying_subset _ _)
      exact hmissing.of_subset hsub hleft
    · intro hnone
      rw [hprojected]
      exact project_eq_ok_iff.2 ⟨firstMissing?_eq_none.2 hnone, rfl⟩
    · intro all first hall hfirst
      rw [hprojected] at hall hfirst
      obtain ⟨-, rfl⟩ := project_eq_ok_iff.1 hall
      obtain ⟨-, rfl⟩ := project_eq_ok_iff.1 hfirst
      exact (upTo_map limit (shown columns) _).symm

/-! ## A table with ragged rows -/

/-- A table whose second row has a column that the first one lacks. -/
def raggedRows : List Row :=
  [[("a", .int 1)], [("a", .int 1), ("b", .int 2)]]

theorem satisfying_none_ragged : satisfying (some ⟨"a", .int 2⟩) (raggedRows.take 1) = [] := by
  have hother : (Operand.int 2).equals (.int 1) = false := by
    norm_num [Operand.equals, Operand.value, Value.amount?]
  simp [satisfying, raggedRows, cell, Row.get?, hother]

/-- Under a limit of one row, a column is unknown although the table has it; and under a filter that
no row satisfies, nothing is wrong with a column that the table lacks. -/
theorem select_columns_iff_ragged :
    (¬ Missing raggedRows "b" ∧
      RefusedFor "t" "b"
        ((tableOnly "t" raggedRows).select ⟨"t", .these ["b"], none, some 1, none⟩)) ∧
    (Missing (raggedRows.take 1) "b" ∧
      (tableOnly "t" (raggedRows.take 1)).select
        ⟨"t", .these ["b"], some ⟨"a", .int 2⟩, none, none⟩ = .ok []) := by
  refine ⟨⟨by decide, ?_⟩, by decide, ?_⟩
  · obtain ⟨-, hcalm⟩ := @select_columns_iff (tableOnly "t" raggedRows) "t" raggedRows rfl
      (.these ["b"]) none nofun (some 1)
    obtain ⟨-, hrefused, -⟩ := hcalm nofun
    exact (hrefused "b").2 (by decide)
  · obtain ⟨-, hcalm⟩ := @select_columns_iff (tableOnly "t" (raggedRows.take 1)) "t"
      (raggedRows.take 1) rfl (.these ["b"]) (some ⟨"a", .int 2⟩)
      (by rintro p ⟨⟩; decide) none
    have hnothing : ¬ JamsOn (some ⟨"a", .int 2⟩) (raggedRows.take 1) := by
      rintro ⟨p, ⟨⟩, hjam⟩
      revert hjam
      decide
    obtain ⟨-, -, -, hanswer, -⟩ := hcalm hnothing
    rw [satisfying_none_ragged] at hanswer
    exact hanswer (by decide)

end ReadGate.Memory
