import ReadGate.Postgres.Connection

/-!
# The backend over a database

Query texts go to a function of the database, or run as they are if there is none; everything else
runs as a composed statement.
-/

namespace ReadGate.Postgres

/-! ## Statements and their answers -/

/-- Executes a statement and reads its answer, if that could be fetched. -/
def ask {α : Type} (c : Connection) (sql : String) (params : Option (List Value))
    (answer : Tried (Except Mishap α)) : Step (Tried α) := do
  match ← execute c sql params with
  | .error e => return .error e
  | .ok () =>
    match answer with
    | .error e => return .error e
    | .ok answer => return .ok (← Run.lift answer)

/-- The value of a column in a row that may be missing. -/
def cellOf (row : Option Row) (column : String) : Except Mishap Value :=
  match row with
  | some row => (Value.record row).part column
  | none => Value.null.part column

/-- The rows in the answer of the execution function.  A missing or empty row has none. -/
def rowsOfFunction (row : Option Row) : Except Mishap (List Row) :=
  match row with
  | some (cell :: rest) => do rowsOfResult .ok (← cellOf (some (cell :: rest)) "result")
  | _ => .ok []

/-- The rows that a text gives when it runs as it is.  Nothing is fetched if it has no result. -/
def rowsOfText (c : Connection) : Tried (Except Mishap (List Row)) :=
  if c.noResult.isSome then .ok (.ok []) else fetched c (c.rows.mapM toRow)

namespace Database

/-- Executes a query text. -/
def rawExecute (d : Database) (guarded : Bool) (text : String) : Step (List Row) := do
  Run.check guarded "raw_execute"
  session d ⟨"raw_execute", guarded, true⟩ fun c =>
    match d.rpcFunction with
    | some name =>
      ask c (Statement.callFunction name) (some [.text text]) (fetched c (rowsOfFunction c.row))
    | none => ask c text none (rowsOfText c)

/-- Answers a selection. -/
def structuredQuery (d : Database) (guarded : Bool) (q : Selection) : Step (List Row) := do
  Run.check guarded "structured_query"
  let statement := Statement.ofSelection q
  session d ⟨"structured_query", guarded, false⟩ fun c =>
    ask c statement.sql (some statement.params) (fetched c (c.rows.mapM toRow))

/-- Counts the rows of a table. -/
def count (d : Database) (guarded : Bool) (table : String) : Step Int := do
  Run.check guarded "count"
  session d ⟨"count", guarded, false⟩ fun c =>
    ask c (Statement.countRows table) none (fetched c (do (← cellOf c.row "n").toInteger))

/-- The values of a column. -/
def columnValues (d : Database) (guarded : Bool) (table : String) (column : Option String) :
    Step (List Value) := do
  Run.check guarded "column_values"
  match column with
  | none => throw (.mishap (.notIdentifier .null))
  | some column =>
    session d ⟨"column_values", guarded, false⟩ fun c =>
      ask c (Statement.listColumn table column) none
        (fetched c (c.rows.mapM fun row => do (← cellOf (some row) "v").toScalar))

/-- The backend. -/
def adapter (d : Database) : Adapter Server where
  name := backendName
  rawExecute := d.rawExecute
  structuredQuery := d.structuredQuery
  count := d.count
  columnValues := d.columnValues

/-- Does a connection to the database work? -/
def answers (d : Database) : Step Bool := do
  match ← withConnection d.connectionString fun _ c =>
      ask c "SELECT 1" none (fetched c (.ok ())) with
  | .ok () => return true
  | .error _ => return false

end Database

end ReadGate.Postgres
