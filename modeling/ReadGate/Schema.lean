import ReadGate.Failure
import ReadGate.Json.Writer
import ReadGate.Text.Case

/-!
# Schemas

A schema describes tables by their columns.  Names are looked up without regard to letter case.

* `hasTable` and `hasColumn` look names up; of tables whose names differ in case only, the first
  counts.
* `promptText` is the schema as indented JSON, cut to a number of characters.
-/

namespace ReadGate

/-- A column of a table. -/
structure ColumnDescriptor where
  name : String
  dataType : WideText
  nullable : Bool
  default : Option WideText
  deriving DecidableEq, Repr

/-- A table with its columns. -/
structure TableDescriptor where
  name : String
  description : WideText
  columns : List ColumnDescriptor
  deriving DecidableEq, Repr

/-- Tables under the names by which they are looked up, in order. -/
structure Schema where
  tables : List (String × TableDescriptor)
  deriving DecidableEq, Repr

/-! ## Reading -/

namespace Record

open Checked

/-- A column. -/
def columnDescriptor (fields : Row) : Checked ColumnDescriptor :=
  (both (required "name" someText fields) <|
    both (required "type" text fields) <|
    both (optional "nullable" true truth fields) (nullable "default" text fields)).map
    fun (name, dataType, nullable, default) => ⟨name, dataType, nullable, default⟩

/-- A table. -/
def tableDescriptor (fields : Row) : Checked TableDescriptor :=
  (both (required "name" someText fields) <|
    both (optional "description" (.whole "") text fields)
      (optional "columns" [] (list (model columnDescriptor)) fields)).map
    fun (name, description, columns) => ⟨name, description, columns⟩

/-- A schema. -/
def schema (fields : Row) : Checked Schema :=
  (optional "tables" [] (fun v => do eachField (model tableDescriptor) (← mapping v)) fields).map
    Schema.mk

end Record

namespace TableDescriptor

/-- The table that columns make, with the usual description. -/
def ofColumns (name : Value) (columns : List ColumnDescriptor) : Except Mishap TableDescriptor := do
  let shown ← name.display.mapError Mishap.numeral
  let text ← ((Record.someText name).under (.field "name")).mapError Mishap.invalid
  return ⟨text, .whole "Table: " ++ shown, columns⟩

end TableDescriptor

namespace Schema

/-- The schema of tables, each under its own name. -/
def ofTables (tables : List TableDescriptor) : Schema :=
  ⟨Row.ofPairs (tables.map fun t => (t.name, t))⟩

/-! ## Looking up -/

/-- Are two names the same up to letter case? -/
def sameName (a b : String) : Bool :=
  Text.lower a == Text.lower b

/-- Is there a table of that name? -/
def hasTable (s : Schema) (table : String) : Bool :=
  s.tables.any fun t => sameName t.1 table

/-- Has the first table of that name a column of that name? -/
def hasColumn (s : Schema) (table column : String) : Bool :=
  match s.tables.find? fun t => sameName t.1 table with
  | some t => t.2.columns.any fun c => sameName c.name column
  | none => false

/-! ## The text for a prompt -/

/-- How many characters of a schema a prompt holds, unless told otherwise. -/
def promptChars : Int := 2000

/-- The mark of a text that was cut. -/
def cutMark : String := "\n... (truncated)"

/-- A column as a value. -/
def columnValue (c : ColumnDescriptor) : Value :=
  .record [("name", .text c.name), ("type", .ofWide c.dataType), ("nullable", .bool c.nullable),
    ("default", .ofWide? c.default)]

/-- A table as a value, without its name. -/
def tableValue (t : TableDescriptor) : Value :=
  .record [("description", .ofWide t.description), ("columns", .list (t.columns.map columnValue))]

/-- The schema as indented JSON, cut to a number of characters. -/
def promptText (s : Schema) (chars : Int) : String :=
  let text := Json.indented (.record (s.tables.map fun t => (t.1, tableValue t.2)))
  if chars < Text.size text then Text.cut text chars ++ cutMark else text

end Schema

end ReadGate
