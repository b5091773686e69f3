import ReadGate.Backend.Memory
import ReadGate.Proofs.Value.Rows

/-!
# What the tables give

The tables give rows, values and numbers of rows, or they fail because a table or a column is
missing.  Nothing that they give was made up: each cell of an answer is a cell of some table, or
null where a row lacks the column.

* `Lacks`, `Drawn` — the failures of the tables, and the values that may be in an answer.
* `Gives` — an answer is as stated, or it is such a failure.
* `select_gives`, `values_gives`, `count_gives` — the answers of the structured path.
-/

namespace ReadGate.MemoryStore

/-! ## Answers -/

/-- The failure for a table that is missing. -/
def missingTable (table : String) : Failure :=
  .permanent s!"relation \"{table}\" does not exist" [("table", .text table)]

/-- The failure says that a table is missing, or that a table lacks a column. -/
inductive Lacks : Failure → Prop
  | table (table : String) : Lacks (missingTable table)
  | column (table : String) (column : Option String) : Lacks (unknownColumn table column)

/-- The value is a cell of some table, or null. -/
def Drawn (s : MemoryStore) (v : Value) : Prop :=
  v = .null ∨ ∃ t ∈ s.tables, ∃ row ∈ t.2, ∃ p ∈ row, p.2 = v

/-- The answer is good, or it fails for something that the tables lack. -/
structure Gives {α : Type} (good : α → Prop) (x : Except Trouble α) : Prop where
  result : ∀ a, x = .ok a → good a
  failure : ∀ f, x = .error (.failure f) → Lacks f

namespace Gives

variable {α β : Type} {good : α → Prop} {better : β → Prop} {a : α} {f : Failure}

theorem ok (h : good a) : Gives good (.ok a) := by
  refine ⟨?_, nofun⟩
  rintro _ ⟨⟩
  exact h

theorem lacks (h : Lacks f) : Gives good (.error (.failure f)) := by
  refine ⟨nofun, ?_⟩
  rintro _ ⟨⟩
  exact h

theorem mapError {ε : Type} {x : Except ε α} {m : ε → Mishap} (h : ∀ a, x = .ok a → good a) :
    Gives good (x.mapError fun e => Trouble.mishap (m e)) := by
  cases x with
  | ok a => exact ok (h a rfl)
  | error e => exact ⟨nofun, nofun⟩

theorem bind {x : Except Trouble α} {g : α → Except Trouble β} (hx : Gives good x)
    (hg : ∀ a, good a → Gives better (g a)) : Gives better (x >>= g) := by
  cases x with
  | ok a => exact hg a (hx.result a rfl)
  | error t =>
    refine ⟨nofun, ?_⟩
    rintro f ⟨⟩
    exact hx.failure f rfl

theorem imp {better : α → Prop} {x : Except Trouble α} (hx : Gives good x)
    (h : ∀ a, good a → better a) : Gives better x :=
  ⟨fun a ha => h a (hx.result a ha), hx.failure⟩

/-- A loop that only checks its items. -/
theorem forIn {check : α → Except Trouble Unit} (hcheck : ∀ a, Gives (fun _ => True) (check a))
    (items : List α) :
    Gives (fun _ => True) (ForIn.forIn items PUnit.unit fun a _ => do
      check a
      pure (ForInStep.yield PUnit.unit)) := by
  induction items with
  | nil => exact ok trivial
  | cons item rest ih =>
    rw [List.forIn_cons, bind_assoc]
    refine bind (hcheck item) fun _ _ => ?_
    rw [pure_bind]
    exact ih

end Gives

/-! ## The steps of a selection -/

variable (s : MemoryStore) (table : String) {rows kept : List Row}

theorem rows_gives : Gives (fun rows => ∃ t ∈ s.tables, t.2 = rows) (s.rows table) := by
  unfold MemoryStore.rows
  split
  · rename_i rows htable
    exact .ok (Row.mem_of_get? htable)
  · exact .lacks (.table table)

theorem requireColumn_gives (rows : List Row) (column : Option String) :
    Gives (fun _ => True) (requireColumn table rows column) := by
  unfold requireColumn
  split
  · exact .ok trivial
  · exact .lacks (.column table column)

theorem keep_subset {test : Row → Except Incomparable Bool} (h : keep test rows = .ok kept) :
    kept ⊆ rows := by
  induction rows generalizing kept with
  | nil =>
    cases h
    exact List.Subset.refl _
  | cons row rest ih =>
    unfold keep at h
    cases htest : test row with
    | error e =>
      rw [htest] at h
      cases h
    | ok held =>
      cases hrest : keep test rest with
      | error e =>
        rw [htest, hrest] at h
        cases h
      | ok others =>
        rw [htest, hrest] at h
        cases h
        have hothers := ih hrest
        cases held with
        | true => exact List.cons_subset_cons row hothers
        | false => exact List.subset_cons_of_subset row hothers

theorem filter_gives (predicate : Option Predicate) (rows : List Row) :
    Gives (· ⊆ rows) (filter table predicate rows) := by
  cases predicate with
  | none => exact .ok (List.Subset.refl rows)
  | some p =>
    exact .bind (requireColumn_gives table rows (some p.column)) fun _ _ =>
      .mapError fun kept hkept => keep_subset hkept

/-- Where no order is asked for, the rows stay as they are. -/
theorem arrange_gives (order : Option OrderBy) (rows : List Row) :
    Gives (fun arranged => order = none → arranged = rows) (arrange table order rows) := by
  cases order with
  | none => exact .ok fun _ => rfl
  | some o =>
    exact .bind (requireColumn_gives table rows (some o.column)) fun _ _ => .mapError nofun

theorem cell_drawn {row : Row} (h : ∀ p ∈ row, s.Drawn p.2) (column : String) :
    s.Drawn (cell row column) := by
  unfold cell
  cases hcell : Row.get? row column with
  | none => exact .inl rfl
  | some v =>
    obtain ⟨p, hp, rfl⟩ := Row.mem_of_get? hcell
    exact h p hp

theorem project_gives (columns : Columns) (rows : List Row) :
    Gives (fun projected => (∀ row ∈ rows, ∀ p ∈ row, s.Drawn p.2) →
      ∀ row ∈ projected, ∀ p ∈ row, s.Drawn p.2) (project table columns rows) := by
  unfold project
  split
  · exact .ok id
  · refine .bind (.forIn (fun _ => requireColumn_gives ..) _) fun _ _ => .ok ?_
    intro h projected hprojected p hp
    obtain ⟨row, hrow, rfl⟩ := List.mem_map.1 hprojected
    obtain ⟨column, -, rfl⟩ := List.mem_map.1 (Row.mem_ofPairs hp)
    exact cell_drawn s (h row hrow) column

theorem limited_subset (limit : Option Int) (rows : List Row) : limited limit rows ⊆ rows := by
  cases limit with
  | none => exact List.Subset.refl rows
  | some n => exact List.take_subset _ _

/-! ## The structured path -/

theorem drawn_of_table {t : String × List Row} (ht : t ∈ s.tables) :
    ∀ row ∈ t.2, ∀ p ∈ row, s.Drawn p.2 :=
  fun row hrow p hp => .inr ⟨t, ht, row, hrow, p, hp, rfl⟩

/-- **The cells of a selection in no order are drawn from the tables.** -/
theorem select_gives (q : Selection) :
    Gives (fun rows => q.orderBy = none → ∀ row ∈ rows, ∀ p ∈ row, s.Drawn p.2) (s.select q) := by
  unfold MemoryStore.select
  refine .bind (rows_gives s q.table) fun rows hrows => ?_
  refine .bind (filter_gives q.table q.predicate rows) fun kept hkept => ?_
  refine .bind (arrange_gives q.table q.orderBy kept) fun arranged harranged => ?_
  refine (project_gives s q.table q.columns _).imp fun answer hanswer horder => hanswer ?_
  obtain ⟨t, ht, rfl⟩ := hrows
  intro row hrow
  rw [harranged horder] at hrow
  exact drawn_of_table s ht row (hkept (limited_subset q.limit kept hrow))

/-- The values of a column are drawn from the tables, one from each row of a table. -/
theorem values_gives (column : Option String) :
    Gives (fun values => (∀ v ∈ values, s.Drawn v) ∧
      ∃ t ∈ s.tables, values.length = t.2.length) (s.values table column) := by
  unfold MemoryStore.values
  refine .bind (rows_gives s table) fun rows hrows => ?_
  refine .bind (requireColumn_gives table rows column) fun _ _ => .ok ?_
  obtain ⟨t, ht, rfl⟩ := hrows
  refine ⟨fun v hv => ?_, t, ht, List.length_map _⟩
  obtain ⟨row, hrow, rfl⟩ := List.mem_map.1 hv
  cases column with
  | none => exact .inl rfl
  | some column => exact cell_drawn s (drawn_of_table s ht row hrow) column

theorem count_gives :
    Gives (fun n : Int => ∃ t ∈ s.tables, n = t.2.length)
      ((s.rows table).map fun rows => (rows.length : Int)) := by
  have hrows := rows_gives s table
  cases h : s.rows table with
  | ok rows =>
    obtain ⟨t, ht, rfl⟩ := hrows.result rows h
    exact .ok ⟨t, ht, rfl⟩
  | error t =>
    refine ⟨nofun, ?_⟩
    rintro f ⟨⟩
    exact hrows.failure f h

end ReadGate.MemoryStore
