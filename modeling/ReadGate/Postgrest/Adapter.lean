import ReadGate.Postgrest.Paging

/-!
# The backend behind an endpoint

Query texts go to an execution function of the endpoint; selections, counts and column values map to
requests for the table.
-/

namespace ReadGate.Postgrest

namespace Client

variable {σ : Type}

/-- The reply of a function of the endpoint. -/
def callFunction (c : Client σ) (operation name : String) (arguments : Row) :
    Run (Wire σ) Reply :=
  c.send operation (c.request .post s!"rpc/{name}" none (some (.record arguments)) [])

/-- The failure that a reply to a query text reports. -/
def executionFailure (c : Client σ) (r : Reply) : Except Mishap Failure := do
  let (message, code) ← errorOf r
  let fault ← BackendFault.classify message code (.text c.endpoint.rpcFunction)
  return fault.failure message (.record (details "raw_execute" r code))

/-- The rows in a body, which may be empty. -/
def rowsOfBody (r : Reply) : Run (Wire σ) (List Row) :=
  if r.body.isEmpty then return []
  else do
    let v ← decode "raw_execute" r
    Run.lift (rowsOfResult Value.toScalar v)

/-- Executes a query text. -/
def rawExecute (c : Client σ) (guarded : Bool) (text : String) : Run (Wire σ) (List Row) := do
  Run.check guarded "raw_execute"
  let reply ← c.callFunction "raw_execute" c.endpoint.rpcFunction [("sql_query", .text text)]
  if reply.isOk then rowsOfBody reply
  else Run.fail (← Run.lift (c.executionFailure reply))

/-- Answers a selection. -/
def structuredQuery (c : Client σ) (guarded : Bool) (q : Selection) :
    Run (Wire σ) (List Row) := do
  Run.check guarded "structured_query"
  let params ← Run.lift ((paramsOf q.columns q.predicate q.limit q.orderBy).mapError .numeral)
  let records ← c.selectAll ⟨q.table, params, "structured_query", guarded⟩
  Run.lift (records.mapM rowOfValue)

/-- Counts the rows of a table. -/
def count (c : Client σ) (guarded : Bool) (table : String) : Run (Wire σ) Int := do
  Run.check guarded "count"
  let reply ← c.send "count"
    (c.request .head table (some [("select", some (.whole "*"))]) none exactCount)
  requireOk "count" reply
  ExceptT.mk (pure (totalOf (reply.header "Content-Range")))

/-- The value of a column in a record, as a scalar; a record has nothing under no name. -/
def columnValue (column : Option String) (v : Value) : Except Mishap Value :=
  match column with
  | some name => do (← v.member name).toScalar
  | none => (v.member "").map fun _ => .null

/-- The values of a column. -/
def columnValues (c : Client σ) (guarded : Bool) (table : String) (column : Option String) :
    Run (Wire σ) (List Value) := do
  Run.check guarded "column_values"
  let records ← c.selectAll ⟨table, [("select", column.map .whole)], "column_values", guarded⟩
  Run.lift (records.mapM (columnValue column))

/-- The backend. -/
def adapter (c : Client σ) : Adapter (Wire σ) where
  name := backendName
  rawExecute := c.rawExecute
  structuredQuery := c.structuredQuery
  count := c.count
  columnValues := c.columnValues

end Client

end ReadGate.Postgrest
