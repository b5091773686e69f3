import ReadGate.Proofs.Memory.Columns
import ReadGate.Proofs.Sorting.Stability
import ReadGate.Proofs.Value.Order

/-!
# Selections in order

Rows are ordered by the cells of a column, integers or texts, with null and missing cells at the end
that comes after all values: last in ascending order, first in descending order.  Rows whose cells
are equal keep the order in which they are stored, in both directions.  The column is asked of the
rows that the filter has kept, as the columns of a selection are.

* `Sortable` — the cells of a column are of one kind.
* `InOrder` — what it means that rows are the given ones in order.
* `sorted_inOrder` — cells of one kind are sorted, and no comparison fails.
* `select_inOrder` — when a selection in order is refused, and what it gives otherwise.
* `select_inOrder_uneven` — a table that has the column, while the rows kept lack it.
-/

namespace ReadGate.Memory

open MemoryStore Sorting

/-! ## Rows in order -/

/-- Where a row stands in the order of a column. -/
def standing (column : String) (row : Row) : WithTop (ℤ ⊕ₗ List ℕ) :=
  (cell row column).rank

/-- Apart from null, the cells of the column are all integers or all texts. -/
def Sortable (column : String) (rows : List Row) : Prop :=
  (∀ row ∈ rows, (cell row column).IsWhole) ∨ ∀ row ∈ rows, (cell row column).IsWords

/-- Some rows, put in order: the same rows, ascending or descending; those without a value last or
first; and rows that stand equal as they were. -/
structure InOrder (o : OrderBy) (rows out : List Row) : Prop where
  perm : out.Perm rows
  sorted : out.Pairwise fun a b =>
    if o.ascending then standing o.column a ≤ standing o.column b
    else standing o.column b ≤ standing o.column a
  nulls : out.Pairwise fun a b =>
    if o.ascending then (cell a o.column).isNull → (cell b o.column).isNull
    else (cell b o.column).isNull → (cell a o.column).isNull
  ties : KeepsTies (standing o.column) rows out

variable {o : OrderBy} {column : String} {rows out : List Row}

theorem Sortable.isNull_iff (h : Sortable column rows) {row : Row} (hrow : row ∈ rows) :
    (cell row column).isNull ↔ standing column row = ⊤ := by
  rcases h with h | h
  · exact (h row hrow).isNull_iff
  · exact (h row hrow).isNull_iff

/-- Rows are compared by where they stand. -/
theorem rowBefore_whole : Decided (rowBefore column) (standing column)
    fun row => (cell row column).IsWhole :=
  fun _ _ ha hb => ha.precedes hb

theorem rowBefore_words : Decided (rowBefore column) (standing column)
    fun row => (cell row column).IsWords :=
  fun _ _ ha hb => ha.precedes hb

/-- Rows that are arranged by where they stand are in order. -/
theorem InOrder.of_ascending (hrows : Sortable o.column rows) (ho : o.ascending = true)
    (h : Arranges (standing o.column) rows out) : InOrder o rows out where
  perm := h.ties.perm
  sorted := by
    simp only [ho, if_true]
    exact h.ascending
  nulls := by
    simp only [ho, if_true]
    refine h.ascending.imp_of_mem fun ha hb hle hnull => ?_
    rw [hrows.isNull_iff (h.ties.mem_iff.1 ha)] at hnull
    rw [hrows.isNull_iff (h.ties.mem_iff.1 hb)]
    exact top_le_iff.1 (hnull ▸ hle)
  ties := h.ties

theorem InOrder.of_descending (hrows : Sortable o.column rows) (ho : o.ascending = false)
    (h : Arranges (OrderDual.toDual ∘ standing o.column) rows out) : InOrder o rows out where
  perm := h.ties.perm
  sorted := by
    simp only [ho]
    exact h.ascending
  nulls := by
    simp only [ho]
    refine h.ascending.imp_of_mem fun {a b} ha hb hle hnull => ?_
    have hle' : standing o.column b ≤ standing o.column a := hle
    rw [hrows.isNull_iff (h.ties.mem_iff.1 hb)] at hnull
    rw [hrows.isNull_iff (h.ties.mem_iff.1 ha)]
    exact top_le_iff.1 (hnull ▸ hle')
  ties := h.ties.ofDual

/-- **Rows whose cells are of one kind are put in order**, and no comparison fails. -/
theorem sorted_inOrder (hrows : Sortable o.column rows) :
    ∃ out, MemoryStore.sorted o rows = .ok out ∧ InOrder o rows out := by
  -- whichever kind the cells are of, it decides all comparisons
  obtain ⟨kind, hdecided, hkind⟩ : ∃ kind : Row → Prop,
      Decided (rowBefore o.column) (standing o.column) kind ∧ ∀ row ∈ rows, kind row := by
    rcases hrows with hwhole | hwords
    · exact ⟨_, rowBefore_whole, hwhole⟩
    · exact ⟨_, rowBefore_words, hwords⟩
  unfold MemoryStore.sorted
  cases ho : o.ascending with
  | true =>
    obtain ⟨out, hout, harranged⟩ := sort_arranges hdecided hkind
    exact ⟨out, hout, .of_ascending hrows ho harranged⟩
  | false =>
    obtain ⟨out, hout, harranged⟩ := sortDescending_arranges hdecided hkind
    exact ⟨out, hout, .of_descending hrows ho harranged⟩

/-! ## Selections -/

theorem arrange_eq (table : String) (o : OrderBy) (rows : List Row) :
    arrange table (some o) rows =
      if Missing rows o.column then .error (.failure (unknownColumn table (some o.column)))
      else (MemoryStore.sorted o rows).mapError fun e => .mishap (.incomparable e) := by
  show (requireColumn table rows (some o.column) >>= fun _ => _) = _
  rw [requireColumn_eq]
  split <;> rfl

/-- A selection in order shows the first rows of those that its filter has kept, in order. -/
theorem select_ordered_stages {s : MemoryStore} {table : String}
    (htable : Row.get? s.tables table = some rows) (predicate : Option Predicate) (o : OrderBy)
    (limit : Option ℕ) :
    s.select ⟨table, .all, predicate, limit.map Int.ofNat, some o⟩ =
      filter table predicate rows >>= fun kept =>
        (arrange table (some o) kept).map (upTo limit) := by
  unfold MemoryStore.select
  simp only [MemoryStore.rows, htable, limited_upTo, project]
  show (filter table predicate rows >>= fun kept => _) = _
  refine bind_congr fun kept => ?_
  cases arrange table (some o) kept <;> rfl

/-- **Selections in order.**  A selection of all columns is refused for the column of its filter if
the table has rows and none of them has it, and it jams if the filter does.  Otherwise it is refused
for the column of its order exactly if there are rows that satisfy the filter and none of them has
the column.  In all other cases, if the cells of these rows are all integers or all texts, apart
from null, the answer is those rows in order, up to the limit. -/
theorem select_inOrder {s : MemoryStore} {table : String} {rows : List Row}
    (htable : Row.get? s.tables table = some rows) (predicate : Option Predicate) (o : OrderBy)
    (limit : Option ℕ) :
    let answer := s.select ⟨table, .all, predicate, limit.map Int.ofNat, some o⟩
    let kept := satisfying predicate rows
    (∀ p ∈ predicate, Missing rows p.column → RefusedFor table p.column answer) ∧
    ((∀ p ∈ predicate, ¬ Missing rows p.column) →
      (JamsOn predicate rows → answer = .error (.mishap (.incomparable .undefinedDecimal))) ∧
      (¬ JamsOn predicate rows →
        (RefusedFor table o.column answer ↔ Missing kept o.column) ∧
        (¬ Missing kept o.column → Sortable o.column kept →
          ∃ out, InOrder o kept out ∧ answer = .ok (upTo limit out)))) := by
  intro answer kept
  have hanswer : answer = filter table predicate rows >>= fun kept =>
      (arrange table (some o) kept).map (upTo limit) :=
    select_ordered_stages htable predicate o limit
  refine ⟨fun p hp hmissing => ?_, fun hknown => ⟨fun hjams => ?_, fun hcalm => ?_⟩⟩
  · rw [hanswer, filter_missing hp hmissing]
    rfl
  · rw [hanswer, filter_jammed hknown hjams]
    rfl
  · have harranged : answer = (arrange table (some o) kept).map (upTo limit) := by
      rw [hanswer, filter_calm hknown hcalm]
      rfl
    rw [harranged, arrange_eq]
    constructor
    · by_cases hmissing : Missing kept o.column
      · rw [if_pos hmissing]
        exact iff_of_true rfl hmissing
      · rw [if_neg hmissing]
        refine iff_of_false ?_ hmissing
        cases MemoryStore.sorted o kept <;> nofun
    · intro hfound hsortable
      obtain ⟨out, hout, hin⟩ := sorted_inOrder hsortable
      refine ⟨out, hin, ?_⟩
      rw [if_neg hfound, hout]
      rfl

/-! ## A table with uneven rows -/

/-- A table whose first row lacks a column that the others have. -/
def unevenRows : List Row :=
  [[("a", .int 1)], [("a", .int 2), ("b", .int 7)], [("a", .int 3), ("b", .int 7)]]

theorem satisfying_first_uneven :
    satisfying (some ⟨"a", .int 1⟩) unevenRows = unevenRows.take 1 := by
  have hsame : (Operand.int 1).equals (.int 1) = true := by
    norm_num [Operand.equals, Operand.value, Value.amount?]
  have hother : ∀ n ∈ [2, 3], (Operand.int 1).equals (.int n) = false := by
    norm_num [Operand.equals, Operand.value, Value.amount?]
  simp [satisfying, unevenRows, cell, Row.get?, hsame, hother]

/-- A filter keeps a row without the column of the order, and the selection is refused although the
table has the column; without the filter the row comes first in descending order. -/
theorem select_inOrder_uneven :
    (¬ Missing unevenRows "b" ∧
      RefusedFor "t" "b"
        ((tableOnly "t" unevenRows).select
          ⟨"t", .all, some ⟨"a", .int 1⟩, none, some ⟨"b", true⟩⟩)) ∧
    ∃ out, InOrder ⟨"b", false⟩ unevenRows out ∧
      (tableOnly "t" unevenRows).select ⟨"t", .all, none, some 2, some ⟨"b", false⟩⟩ =
        .ok (out.take 2) := by
  refine ⟨⟨by decide, ?_⟩, ?_⟩
  · obtain ⟨-, hknown⟩ := @select_inOrder (tableOnly "t" unevenRows) "t" unevenRows rfl
      (some ⟨"a", .int 1⟩) ⟨"b", true⟩ none
    obtain ⟨-, hcalm⟩ := hknown (by rintro p ⟨⟩; decide)
    have hquiet : ¬ JamsOn (some ⟨"a", .int 1⟩) unevenRows := by
      rintro ⟨p, ⟨⟩, hjam⟩
      revert hjam
      decide
    obtain ⟨hrefused, -⟩ := hcalm hquiet
    rw [satisfying_first_uneven] at hrefused
    exact hrefused.2 (by decide)
  · obtain ⟨-, hknown⟩ := @select_inOrder (tableOnly "t" unevenRows) "t" unevenRows rfl
      none ⟨"b", false⟩ (some 2)
    obtain ⟨-, hcalm⟩ := hknown nofun
    obtain ⟨-, hordered⟩ := hcalm nofun
    have hwhole : Sortable "b" unevenRows := by
      refine .inl fun row hrow => ?_
      simp only [unevenRows, List.mem_cons, List.not_mem_nil, or_false] at hrow
      rcases hrow with rfl | rfl | rfl
      · exact .inl rfl
      · exact .inr rfl
      · exact .inr rfl
    exact hordered (by decide) hwhole

end ReadGate.Memory
