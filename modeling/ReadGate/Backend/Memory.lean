import ReadGate.Backend.Basic
import ReadGate.Sorting
import ReadGate.Value.Order

/-!
# Tables in memory

A backend that keeps its tables in memory and records every call that reaches them.  The execution
of query texts is a table of prepared results, fails always in the same way, or is absent.

* `MemoryStore` is the state: tables, prepared results and the calls so far.
* `MemoryStore.select` answers a selection.
* `Memory.adapter` makes the backend.
-/

namespace ReadGate

/-- The capabilities of a backend, by name. -/
inductive Capability
  | rawExecute
  | structuredQuery
  | count
  | columnValues
  deriving DecidableEq, Repr

/-- The name of a capability, also as a stage of a call. -/
def Capability.name : Capability → String
  | rawExecute => "raw_execute"
  | structuredQuery => "structured_query"
  | count => "count"
  | columnValues => "column_values"

/-- A call that reached the tables. -/
inductive MemoryCall
  | raw (text : String)
  | select (selection : Selection)
  | count (table : String)
  | values (table : String) (column : Option String)
  deriving DecidableEq, Repr

/-- The tables, the prepared results of query texts, and the calls so far.  The capabilities in
`cancelling` cancel the caller's token as they end. -/
structure MemoryStore where
  tables : List (String × List Row)
  results : Option (List (String × List Row))
  trouble : Option Trouble
  cancelling : List Capability
  calls : List MemoryCall

namespace MemoryStore

/-! ## Tables -/

/-- The rows of a table. -/
def rows (s : MemoryStore) (table : String) : Except Trouble (List Row) :=
  match Row.get? s.tables table with
  | some rows => .ok rows
  | none =>
    .error (.failure (.permanent s!"relation \"{table}\" does not exist" [("table", .text table)]))

/-- The name of a column that may be missing. -/
def columnText (column : Option String) : String :=
  (Value.ofText? column).plain

/-- The failure for a column that a table lacks. -/
def unknownColumn (table : String) (column : Option String) : Failure :=
  .permanent s!"column {table}.{columnText column} does not exist"
    [("table", .text table), ("column", .ofText? column)]

/-- Has any of the rows the column?  Without rows no column is known, and any will do. -/
def knowsColumn (rows : List Row) (column : Option String) : Bool :=
  rows.isEmpty || rows.any fun row => column.any (Row.has row)

/-- Fails unless the rows know the column. -/
def requireColumn (table : String) (rows : List Row) (column : Option String) :
    Except Trouble Unit :=
  if knowsColumn rows column then .ok () else .error (.failure (unknownColumn table column))

/-- The cell of a row, null if the row lacks the column. -/
def cell (row : Row) (column : String) : Value :=
  (Row.get? row column).getD .null

/-! ## Selections -/

/-- The rows of which a test holds. -/
def keep (test : Row → Except Incomparable Bool) : List Row → Except Incomparable (List Row)
  | [] => .ok []
  | row :: rest => do
    let kept ← test row
    let others ← keep test rest
    return if kept then row :: others else others

/-- The rows that satisfy a filter. -/
def filter (table : String) (predicate : Option Predicate) (rows : List Row) :
    Except Trouble (List Row) :=
  match predicate with
  | none => .ok rows
  | some p => do
    requireColumn table rows (some p.column)
    (keep (fun row => (cell row p.column).same p.operand.value) rows).mapError fun e =>
      .mishap (.incomparable e)

/-- Does a row come before another in a column?  Rows without a value come last. -/
def rowBefore (column : String) (a b : Row) : Except Incomparable Bool :=
  match (cell a column).isNull, (cell b column).isNull with
  | true, _ => .ok false
  | false, true => .ok true
  | false, false => do
    let (x, y) := (cell a column, cell b column)
    if ← x.coincides y then return false else x.before y

/-- The rows in ascending or descending order of a column. -/
def sorted (o : OrderBy) (rows : List Row) : Except Incomparable (List Row) :=
  if o.ascending then Sorting.sort (rowBefore o.column) rows
  else Sorting.sortDescending (rowBefore o.column) rows

/-- The rows in the order that is asked for. -/
def arrange (table : String) (order : Option OrderBy) (rows : List Row) :
    Except Trouble (List Row) :=
  match order with
  | none => .ok rows
  | some o => do
    requireColumn table rows (some o.column)
    (sorted o rows).mapError fun e => .mishap (.incomparable e)

/-- The columns of each row that are asked for. -/
def project (table : String) (columns : Columns) (rows : List Row) : Except Trouble (List Row) :=
  match columns with
  | .all => .ok rows
  | columns => do
    for column in columns.names do
      requireColumn table rows (some column)
    return rows.map fun row =>
      Row.ofPairs (columns.names.map fun column => (column, cell row column))

/-- The rows up to a limit. -/
def limited (limit : Option Int) (rows : List Row) : List Row :=
  match limit with
  | some n => Text.cutList rows n
  | none => rows

/-- The answer to a selection: filter, order, limit and columns, in this order. -/
def select (s : MemoryStore) (q : Selection) : Except Trouble (List Row) := do
  let rows ← s.rows q.table
  let rows ← filter q.table q.predicate rows
  let rows ← arrange q.table q.orderBy rows
  project q.table q.columns (limited q.limit rows)

/-- The values of a column, one for each row. -/
def values (s : MemoryStore) (table : String) (column : Option String) :
    Except Trouble (List Value) := do
  let rows ← s.rows table
  requireColumn table rows column
  return rows.map fun row => (column.map (cell row)).getD .null

/-! ## Query texts -/

/-- The failure of a backend that cannot execute query texts. -/
def noExecution : Failure :=
  .of .capabilityAbsent "function execute_sql(text) does not exist"

/-- The rows prepared for a query text. -/
def execute (s : MemoryStore) (text : String) : Except Trouble (List Row) :=
  match s.trouble, s.results with
  | some trouble, _ => .error trouble
  | none, none => .error (.failure noExecution)
  | none, some results =>
    match Row.get? results text with
    | some rows => .ok rows
    | none => .error (.failure (.of .backendExecution s!"No result registered for query: {text}"))

end MemoryStore

/-! ## The backend -/

namespace Memory

/-- Cancels the caller's token if the capability is one that does so.  Calls in memory register no
callbacks, so none fires. -/
def settle (capability : Capability) (w : World MemoryStore) : World MemoryStore :=
  if w.remote.cancelling.contains capability then { w with token := w.token.cancel.1 } else w

/-- A call of a capability: it is recorded unless the token is cancelled already. -/
def call {α : Type} (capability : Capability) (guarded : Bool) (record : MemoryCall)
    (answer : MemoryStore → Except Trouble α) : Run MemoryStore α := fun w =>
  let body : Run MemoryStore α := do
    Run.check guarded capability.name
    Run.change fun s => { s with calls := s.calls ++ [record] }
    answer (← get).remote
  let (result, w) := body w
  (result, settle capability w)

/-- The name of the backend. -/
def backendName : String := "memory"

/-- The backend over tables in memory. -/
def adapter : Adapter MemoryStore where
  name := backendName
  rawExecute guarded text :=
    call .rawExecute guarded (.raw text) (·.execute text)
  structuredQuery guarded selection :=
    call .structuredQuery guarded (.select selection) (·.select selection)
  count guarded table :=
    call .count guarded (.count table) fun s => (s.rows table).map fun rows => (rows.length : Int)
  columnValues guarded table column :=
    call .columnValues guarded (.values table column) (·.values table column)

end Memory

end ReadGate
