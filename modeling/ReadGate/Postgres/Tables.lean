import ReadGate.Postgres.Adapter
import ReadGate.Schema
import ReadGate.Value.Order

/-!
# Schemas from a database

The catalogue of a database lists one record per column.  Columns of the same table are put
together, and the tables stand in the order in which they first appear.
-/

namespace ReadGate.Postgres

/-- The query of the catalogue; its parameter is the name of the schema. -/
def catalogueQuery : String := "
    SELECT c.table_name, c.column_name, c.data_type, c.is_nullable, c.column_default
    FROM information_schema.columns c
    JOIN information_schema.tables t
      ON t.table_schema = c.table_schema AND t.table_name = c.table_name
    WHERE c.table_schema = %s AND t.table_type = 'BASE TABLE'
    ORDER BY c.table_name, c.ordinal_position
"

/-- Tables with their columns so far. -/
abbrev Catalogue := List (Value × List ColumnDescriptor)

/-- Adds a column to its table. -/
def addColumn (catalogue : Catalogue) (table : Value) (column : ColumnDescriptor) : Catalogue :=
  match catalogue with
  | [] => [(table, [column])]
  | (name, columns) :: rest =>
    if name.alike table then (name, columns ++ [column]) :: rest
    else (name, columns) :: addColumn rest table column

/-- A column as the catalogue describes it. -/
def columnOf (r : Value) : Except Mishap ColumnDescriptor := do
  let name ← r.part "column_name"
  let dataType ← r.part "data_type"
  let nullable := (← r.part "is_nullable").alike (.text "YES")
  let default ← r.part "column_default"
  (Record.columnDescriptor [("name", name), ("type", dataType), ("nullable", .bool nullable),
    ("default", default)]).mapError .invalid

/-- Adds a record of the catalogue. -/
def addRecord (catalogue : Catalogue) (record : Row) : Except Mishap Catalogue := do
  let table ← (Value.record record).part "table_name"
  match table.unhashable? with
  | some why => .error (.unhashable why)
  | none => return addColumn catalogue table (← columnOf (.record record))

/-- The schema that the records of the catalogue describe. -/
def schemaOf (records : List Row) : Except Mishap Schema := do
  let catalogue ← records.foldlM addRecord []
  let tables ← catalogue.mapM fun t => TableDescriptor.ofColumns t.1 t.2
  return .ofTables tables

/-- The schema of a database. -/
def Database.fetchSchema (d : Database) (schemaName : String) : Step Schema := do
  let records ← session d ⟨"fetch_schema", false, false⟩ fun c =>
    ask c catalogueQuery (some [.text schemaName]) (fetched c (.ok c.rows))
  Run.lift (schemaOf records)

end ReadGate.Postgres
