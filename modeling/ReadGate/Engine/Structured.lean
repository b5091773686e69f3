import ReadGate.Backend.Basic
import ReadGate.Grouping
import ReadGate.Rule

/-!
# Answering structured queries

A structured query is answered by one call of the backend.  Counts come from the backend's own
count; a grouped count fetches all values of the column and groups them here.
-/

namespace ReadGate

namespace StructuredQuery

/-- The name of the count in an answer. -/
def countName (q : StructuredQuery) : String :=
  match q.resultAlias with
  | some name => if name.isEmpty then Rule.defaultAlias else name
  | none => Rule.defaultAlias

/-- The name of the column by which the query groups. -/
def groupName (q : StructuredQuery) : String :=
  (Value.ofText? q.groupBy).plain

/-- The selection that a query of rows makes. -/
def selection (q : StructuredQuery) : Selection :=
  ⟨q.table, q.columns, q.predicate, q.limit.map Int.ofNat, q.orderBy⟩

/-- The row of a group: its value and its size. -/
def groupRow (q : StructuredQuery) (group : Value × Nat) : Row :=
  Row.ofPairs [(q.groupName, group.1), (q.countName, .int group.2)]

end StructuredQuery

/-- A row of an answer; the column by which a query groups may lack a name. -/
abbrev AnswerRow := List (Option String × Value)

/-- A row whose columns all have names. -/
def AnswerRow.ofRow (row : Row) : AnswerRow :=
  row.map fun cell => (some cell.1, cell.2)

namespace Engine

variable {σ : Type}

/-- The groups of the values of a column. -/
def groupsOf (q : StructuredQuery) (values : List Value) : Run σ (List (Value × Nat)) := do
  if let some why := Grouping.obstacle? values then throw (.mishap (.unhashable why))
  let groups := Grouping.tally values
  Run.report .debug .translator
    (s!"Grouped {values.length} values of {q.table}.{q.groupName} into {groups.length} groups")
  return groups

/-- Fetches the values of the column by which a query groups, and groups them. -/
def countGroups (backend : Adapter σ) (guarded : Bool) (q : StructuredQuery) :
    Run σ (List (Value × Nat)) := do
  let values ← backend.columnValues guarded q.table q.groupBy
  Run.check guarded "group_count aggregation"
  groupsOf q values

/-- Answers a structured query. -/
def executeStructured (backend : Adapter σ) (guarded : Bool) (q : StructuredQuery) :
    Run σ (List Row) :=
  match q.aggregate with
  | .count => do
    let total ← backend.count guarded q.table
    return [[(q.countName, .int total)]]
  | .groupCount => do
    let groups ← countGroups backend guarded q
    return groups.map q.groupRow
  | .rows => backend.structuredQuery guarded q.selection

/-- Answers a structured query that need not name the column by which it groups. -/
def answerStructured (backend : Adapter σ) (guarded : Bool) (q : StructuredQuery) :
    Run σ (List AnswerRow) :=
  match q.aggregate, q.groupBy with
  | .groupCount, none => do
    let groups ← countGroups backend guarded q
    return groups.map fun group => [(none, group.1), (some q.countName, .int group.2)]
  | _, _ => do
    let rows ← executeStructured backend guarded q
    return rows.map .ofRow

end Engine

end ReadGate
