import ReadGate.Postgrest.Adapter
import ReadGate.Schema

/-!
# Schemas from an endpoint

A function of the endpoint describes the tables.  If it fails, the columns of given tables are
inferred from one row of each.
-/

namespace ReadGate.Postgrest

variable {σ : Type}

/-- A column as the function describes it. -/
def columnOf (v : Value) : Except Mishap ColumnDescriptor := do
  let name ← v.part "column_name"
  let dataType ← v.part "data_type"
  let nullable := (← v.member "is_nullable").alike (.text "YES")
  let default ← v.member "column_default"
  (Record.columnDescriptor [("name", name), ("type", dataType), ("nullable", .bool nullable),
    ("default", default)]).mapError .invalid

/-- A table as the function describes it. -/
def tableOf (v : Value) : Except Mishap TableDescriptor := do
  let name ← v.part "table_name"
  let columns ← (← (← v.member "columns").itemsOrNone).mapM columnOf
  TableDescriptor.ofColumns name columns

/-- The tables of a description, each under its name. -/
def schemaOf (v : Value) : Except Mishap Schema := do
  let tables ← (← v.itemsOrNone).mapM tableOf
  return .ofTables tables

/-- A column as a cell of a row shows it. -/
def sampledColumn (cell : String × Value) : Checked ColumnDescriptor :=
  let dataType := if cell.2.isNull then "unknown" else cell.2.kind
  Record.columnDescriptor [("name", .text cell.1), ("type", .text dataType)]

/-- The columns as the first row shows them. -/
def sampledColumns : List Row → Except Mishap (List ColumnDescriptor)
  | [] => .ok []
  | row :: _ => row.mapM fun cell => (sampledColumn cell).mapError .invalid

namespace Client

/-- A table as one of its rows shows it. -/
def sampleTable (c : Client σ) (table : String) : Run (Wire σ) TableDescriptor := do
  let rows ← c.structuredQuery false ⟨table, .all, none, some 1, none⟩
  let columns ← Run.lift (sampledColumns rows)
  Run.lift (TableDescriptor.ofColumns (.text table) columns)

/-- The schema of the endpoint. -/
def fetchSchema (c : Client σ) (tables : List String) : Run (Wire σ) Schema := do
  let reply ← c.callFunction "fetch_schema" c.endpoint.schemaFunction
    [("schema_name", .text "public")]
  if reply.isOk then
    let v ← decode "fetch_schema" reply
    Run.lift (schemaOf v)
  else
    Run.report .info .postgrest
      s!"Schema function not available, sampling {tables.length} tables"
    return .ofTables (← tables.mapM c.sampleTable)

end Client

end ReadGate.Postgrest
