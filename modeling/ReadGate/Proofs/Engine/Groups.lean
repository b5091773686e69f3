import Mathlib.Data.List.Forall2
import ReadGate.Backend.Memory
import ReadGate.Proofs.Engine.Course
import ReadGate.Proofs.Rule.Recognition
import ReadGate.Proofs.Text.Lower

/-!
# Rows of groups

A grouped count is answered with a row for each group.  The row is written in two steps: the value
of the group goes into the column by which the query groups, and its size under the alias.  Both
names come from the text, and nothing keeps them apart: where they are the same, the size replaces
the value, and the row does not tell which group it stands for.

* `groupRow_eq` — what is left in the row.
* `executeStructured_groups` — the answer to a grouped count, whatever the backend does.
* `groupCount_names` — the names in a query that is read from a text.
* `grouped_fields_iff` — the rows show their groups if and only if the names differ.
-/

namespace ReadGate

open Lexeme Grammar

/-! ## One row -/

/-- The row shows the value of a group in its column and the size of the group under its alias, and
these are two names. -/
structure Row.ShowsGroup (column label : String) (group : Value × Nat) (row : Row) : Prop where
  apart : column ≠ label
  value : Row.get? row column = some group.1
  size : Row.get? row label = some (.int group.2)

/-- The fields of the row of a group: its value and its size, or the size alone. -/
def groupFields (column label : String) (group : Value × Nat) : Row :=
  if column = label then [(label, .int group.2)] else [(column, group.1), (label, .int group.2)]

theorem groupRow_eq (q : StructuredQuery) (group : Value × Nat) :
    q.groupRow group = groupFields q.groupName q.countName group := by
  unfold StructuredQuery.groupRow groupFields
  split
  · rename_i hsame
    simp [Row.ofPairs, Row.putAll, Row.put, hsame]
  · rename_i hne
    simp [Row.ofPairs, Row.putAll, Row.put, hne]

theorem showsGroup_groupFields_iff (column label : String) (group : Value × Nat) :
    Row.ShowsGroup column label group (groupFields column label group) ↔ column ≠ label := by
  refine ⟨fun h => h.apart, fun hne => ⟨hne, ?_, ?_⟩⟩
  · simp [groupFields, Row.get?, hne]
  · simp [groupFields, Row.get?, hne]

/-! ## The names -/

/-- A query that is read from a text names its column and its alias. -/
theorem groupCount_names {text : String} {q : StructuredQuery}
    (h : Rule.groupCount.apply text = .ok (some q)) :
    q.aggregate = .groupCount ∧ q.groupBy = some q.groupName ∧ q.resultAlias = some q.countName := by
  rcases hshape : Shape.groupCount (scan text.toList) with _ | ⟨column, name, table, group⟩ <;>
    simp only [Rule.apply, Rule.query, hshape] at h
  · cases h
  · split at h <;> cases h
    refine ⟨rfl, rfl, ?_⟩
    have hname : (Rule.aliasOf name).isEmpty = false := by
      cases name with
      | none => rfl
      | some written =>
        obtain ⟨s, p, q, c, a, f, b, e, -, -, -, -, -, -, ha, -⟩ := groupCount_sound hshape
        obtain ⟨⟩ | ⟨-, -, -, hn⟩ := ha
        rw [String.isEmpty_eq_false_iff]
        exact Text.lower_ne_empty hn.ne_nil
    simp only [StructuredQuery.countName, hname, Bool.false_eq_true, if_false]

namespace Engine

variable {σ : Type}

/-! ## Answers -/

theorem tally_of_grouping {stopped : Bool} {values : List Value} {groups : List (Value × Nat)}
    (h : grouping stopped values = .ok groups) : groups = Grouping.tally values := by
  unfold grouping at h
  split at h
  · cases h
  · split at h <;> cases h
    rfl

/-- The answer to a grouped count: a row for each group of the values that the backend fetches. -/
theorem executeStructured_groups (backend : Adapter σ) (guarded : Bool) {q : StructuredQuery}
    (h : q.aggregate = .groupCount) (w : World σ) :
    (executeStructured backend guarded q w).1 =
      (((backend.columnValues guarded q.table q.groupBy w).1.bind
        (grouping (guarded &&
          (backend.columnValues guarded q.table q.groupBy w).2.token.cancelled))).map
        (·.map q.groupRow)) := by
  obtain ⟨lines, hgroups⟩ := countGroups_apply backend guarded q w
  simp only [executeStructured, h, Run.bind_apply, hgroups]
  rcases backend.columnValues guarded q.table q.groupBy w with ⟨trouble | values, w₁⟩
  · rfl
  · simp only [Except.bind]
    cases grouping (guarded && w₁.token.cancelled) values <;> rfl

/-- **The rows of a grouped count show their groups if and only if the names differ.**  Let the rule
read a query from a text, and let it be answered over any backend.  The values of a column, if they
can be grouped, are answered with rows: one for each group, in their order.  If the column and the
alias have two names, a row has these two fields, and they hold the value and the size of the group;
if they have one name, the row has this one field, and it holds the size. -/
theorem grouped_fields_iff {text : String} {q : StructuredQuery}
    (h : Rule.groupCount.apply text = .ok (some q)) (backend : Adapter σ) (guarded : Bool)
    (w : World σ) :
    ∃ column label, q.groupBy = some column ∧ q.resultAlias = some label ∧
      (∀ values w₁, backend.columnValues guarded q.table (some column) w = (.ok values, w₁) →
        (guarded && w₁.token.cancelled) = false → Grouping.obstacle? values = none →
        ∃ rows, (executeStructured backend guarded q w).1 = .ok rows) ∧
      ∀ rows, (executeStructured backend guarded q w).1 = .ok rows →
        ∃ values, (backend.columnValues guarded q.table (some column) w).1 = .ok values ∧
          List.Forall₂ (fun group row => row = groupFields column label group ∧
            (row.ShowsGroup column label group ↔ column ≠ label)) (Grouping.tally values) rows := by
  obtain ⟨haggregate, hcolumn, hlabel⟩ := groupCount_names h
  have hanswer := executeStructured_groups backend guarded haggregate w
  rw [hcolumn] at hanswer
  refine ⟨q.groupName, q.countName, hcolumn, hlabel, ?_, ?_⟩
  · intro values w₁ hvalues hfree hgroupable
    refine ⟨(Grouping.tally values).map q.groupRow, ?_⟩
    simp only [hanswer, hvalues, Except.bind, grouping, hfree, hgroupable, Bool.false_eq_true,
      if_false, Except.map]
  · intro rows hrows
    rcases hfetched : backend.columnValues guarded q.table (some q.groupName) w with
      ⟨trouble | values, w₁⟩
    · rw [hanswer, hfetched] at hrows
      cases hrows
    · rw [hanswer, hfetched] at hrows
      simp only [Except.bind] at hrows
      rcases hgroups : grouping (guarded && w₁.token.cancelled) values with trouble | groups <;>
        rw [hgroups] at hrows <;> cases hrows
      obtain rfl : groups = Grouping.tally values := tally_of_grouping hgroups
      refine ⟨values, rfl, ?_⟩
      rw [List.forall₂_map_right_iff, List.forall₂_same]
      intro group _
      rw [groupRow_eq]
      exact ⟨rfl, showsGroup_groupFields_iff ..⟩

/-- A count grouped by a column that has the name of the count. -/
def countOfCounts : String :=
  "SELECT count, COUNT(*) FROM t GROUP BY count"

/-- A store in which that column holds a letter twice. -/
def lettersCounted : World MemoryStore :=
  ⟨.fresh, [], ⟨[("t", [[("count", .text "a")], [("count", .text "a")]])], none, none, [], []⟩⟩

/-- The row of the one group tells that there are two, and not of what. -/
theorem grouped_fields_iff_count :
    ∃ q, Rule.groupCount.apply countOfCounts = .ok (some q) ∧
      (executeStructured Memory.adapter false q lettersCounted).1 = .ok [[("count", .int 2)]] ∧
      ¬ Row.ShowsGroup "count" "count" (.text "a", 2) [("count", .int 2)] := by
  have hq : Rule.groupCount.apply countOfCounts = .ok (some
      { table := "t"
        columns := .these ["count"]
        aggregate := .groupCount
        groupBy := some "count"
        resultAlias := some "count" }) := by decide
  obtain ⟨column, label, hcolumn, hlabel, hanswers, hrows⟩ :=
    grouped_fields_iff hq Memory.adapter false lettersCounted
  cases hcolumn
  cases hlabel
  obtain ⟨rows, hanswer⟩ := hanswers [.text "a", .text "a"] _ rfl rfl rfl
  obtain ⟨values, hvalues, hfields⟩ := hrows rows hanswer
  obtain rfl : [.text "a", .text "a"] = values := Except.ok.inj hvalues
  have htally : Grouping.tally [.text "a", .text "a"] = [(.text "a", 2)] := rfl
  rw [htally] at hfields
  obtain _ | ⟨⟨rfl, hshows⟩, ⟨⟩⟩ := hfields
  exact ⟨_, hq, hanswer, fun h => hshows.1 h rfl⟩

end Engine

end ReadGate
