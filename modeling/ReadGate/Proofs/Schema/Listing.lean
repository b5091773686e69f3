import ReadGate.Proofs.Record.Fields
import ReadGate.Proofs.Value.Rows
import ReadGate.Proofs.Value.Scalars
import ReadGate.Schema

/-!
# Tables as a remote side lists them

A remote side lists tables with their columns; each column comes as fields of a record.  Such fields
are read as the column that they describe, and the listed tables make a schema with these tables, in
order, and no others.

* `Listing` — a table that can be listed.
* `ColumnDescriptor.DescribedBy` — fields that describe a column.
* `Schema.ofListings` — the schema of listed tables.
* `Schema.entries` — the columns of a schema, each with the name of its table.
-/

namespace ReadGate

/-- A table as it is listed: it has a name, and columns with names. -/
structure Listing where
  name : String
  columns : List ColumnDescriptor
  named : name ≠ ""
  inhabited : columns ≠ []
  columnsNamed : ∀ c ∈ columns, c.name ≠ ""

/-- The descriptor of a listed table. -/
def Listing.descriptor (t : Listing) : TableDescriptor :=
  ⟨t.name, .whole "Table: " ++ .whole t.name, t.columns⟩

/-- The schema of listed tables, each with its columns under its name. -/
def Schema.ofListings (tables : List Listing) : Schema :=
  ⟨tables.map fun t => (t.name, t.descriptor)⟩

/-- A column with the name of its table. -/
abbrev Schema.Entry := String × ColumnDescriptor

/-- The columns of all tables, each with the name of its table. -/
def Schema.entries (s : Schema) : List Entry :=
  s.tables.flatMap fun t => t.2.columns.map fun c => (t.1, c)

/-- The word for whether a column may be null. -/
def nullability (nullable : Bool) : String :=
  if nullable then "YES" else "NO"

/-- The fields describe the column; without a default, its field is null or absent. -/
structure ColumnDescriptor.DescribedBy (c : ColumnDescriptor) (fields : Row) : Prop where
  name : Row.get? fields "column_name" = some (.text c.name)
  dataType : Row.get? fields "data_type" = some (.ofWide c.dataType)
  nullable : Row.get? fields "is_nullable" = some (.text (nullability c.nullable))
  default : (Row.get? fields "column_default").getD .null = .ofWide? c.default

/-! ## Columns and tables that are read -/

/-- A column may be null if its word says so, and not otherwise. -/
theorem alike_nullability (nullable : Bool) :
    (Value.text (nullability nullable)).alike (.text "YES") = nullable := by
  rw [Value.alike_texts]
  cases nullable <;> decide

/-- The parts of a column with a name are read as this column. -/
theorem ColumnDescriptor.read_parts {c : ColumnDescriptor} (h : c.name ≠ "") :
    Record.columnDescriptor [("name", .text c.name), ("type", .ofWide c.dataType),
      ("nullable", .bool c.nullable), ("default", .ofWide? c.default)] = .ok c := by
  unfold Record.columnDescriptor
  rw [Checked.map_eq_ok]
  refine ⟨(c.name, c.dataType, c.nullable, c.default), ?_, rfl⟩
  simp only [Checked.both_eq_ok]
  exact ⟨(Record.required_eq_ok rfl).2 (Record.someText_eq_ok.2 ⟨rfl, h⟩),
    (Record.required_eq_ok rfl).2 (Record.text_eq_ok.2 rfl),
    (Record.optional_eq_ok rfl).2 (Record.truth_eq_ok.2 rfl),
    (Record.nullable_eq_ok rfl).2 (Record.optionalText_eq_ok.2 rfl)⟩

theorem Listing.ofColumns_eq (t : Listing) :
    TableDescriptor.ofColumns (.text t.name) t.columns = .ok t.descriptor := by
  unfold TableDescriptor.ofColumns
  rw [Record.someText_eq_ok.2 ⟨rfl, t.named⟩]
  rfl

/-- The descriptors of tables with different names make the schema of these tables. -/
theorem Schema.ofTables_descriptors {tables : List Listing} (h : (tables.map (·.name)).Nodup) :
    ofTables (tables.map Listing.descriptor) = ofListings tables := by
  unfold ofTables ofListings
  rw [List.map_map]
  refine congrArg Schema.mk (Row.ofPairs_of_nodup ?_)
  rw [List.map_map]
  exact h

end ReadGate
