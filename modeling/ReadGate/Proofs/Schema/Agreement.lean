import ReadGate.Postgrest.Tables
import ReadGate.Proofs.Postgres.Catalogue

/-!
# Both backends describe a schema alike

A database lists the columns of all tables in one flat list of records, and the function of an
endpoint nests them in their tables.  Whatever stands between the columns of a table in the flat
list, both are read as the same schema.

* `Nests` — a value that describes tables with their columns in them.
* `Client.fetchSchema_nested` — the schema of an endpoint.
* `fetchSchema_agree` — a database and an endpoint with the same tables give the same schema.
-/

namespace ReadGate

open Run

variable {σ : Type} {tables : List Listing}

/-! ## The function of an endpoint -/

namespace Postgrest

/-- The value describes the column. -/
def NestsColumn (v : Value) (c : ColumnDescriptor) : Prop :=
  ∃ fields, v = .record fields ∧ c.DescribedBy fields

/-- The value names the table, and holds descriptions of its columns. -/
def NestsTable (v : Value) (t : Listing) : Prop :=
  ∃ fields items, v = .record fields ∧ Row.get? fields "table_name" = some (.text t.name) ∧
    Row.get? fields "columns" = some (.list items) ∧ List.Forall₂ NestsColumn items t.columns

/-- The value describes the tables. -/
def Nests (v : Value) (tables : List Listing) : Prop :=
  ∃ items, v = .list items ∧ List.Forall₂ NestsTable items tables

theorem columnOf_nested {v : Value} {c : ColumnDescriptor} (h : NestsColumn v c)
    (hname : c.name ≠ "") : columnOf v = .ok c := by
  obtain ⟨fields, rfl, hfields⟩ := h
  have hdefault : (Value.record fields).member "column_default" = .ok (.ofWide? c.default) := by
    rw [Value.member, hfields.default]
  simp only [columnOf, Value.part_record hfields.name, Value.part_record hfields.dataType,
    Value.member_record hfields.nullable, hdefault, bind, Except.bind, alike_nullability,
    ColumnDescriptor.read_parts hname]
  rfl

/-- A table is read with its columns, in order. -/
theorem tableOf_nested {v : Value} {t : Listing} (h : NestsTable v t) :
    tableOf v = .ok t.descriptor := by
  obtain ⟨fields, items, rfl, hname, hcolumns, hitems⟩ := h
  have hread : items.mapM columnOf = .ok t.columns := by
    have hnamed := (List.forall₂_and_left _ _).2 ⟨t.columnsNamed, hitems.flip⟩
    rw [mapM_eq_ok_iff]
    exact List.Forall₂.flip (hnamed.imp fun _ _ h => columnOf_nested h.2 h.1)
  simp only [tableOf, Value.part_record hname, Value.member_record hcolumns, itemsOrNone_list, hread,
    bind, Except.bind, t.ofColumns_eq]

/-- **Nested tables make the schema of these tables.** -/
theorem schemaOf_nested {v : Value} (h : Nests v tables) (hnodup : (tables.map (·.name)).Nodup) :
    schemaOf v = .ok (.ofListings tables) := by
  obtain ⟨items, rfl, hitems⟩ := h
  have hread : items.mapM tableOf = .ok (tables.map Listing.descriptor) := by
    rw [mapM_eq_ok_iff, List.forall₂_map_right_iff]
    exact hitems.imp fun _ _ => tableOf_nested
  simp only [schemaOf, itemsOrNone_list, hread, bind, Except.bind, Schema.ofTables_descriptors hnodup]
  rfl

/-- The request for the description of tables. -/
def Client.schemaRequest (c : Client σ) : Request :=
  c.request .post s!"rpc/{c.endpoint.schemaFunction}" none
    (some (.record [("schema_name", .text "public")])) []

/-- The function of the endpoint succeeds, and gives the value. -/
structure Client.Describes (c : Client σ) (w : World (Wire σ)) (v : Value) : Prop where
  reply : ∃ reply, reply.isOk = true ∧ Json.read Json.lenient reply.body = .ok v ∧
    (c.transport c.schemaRequest w.remote.server).1.exchange = .reply reply

/-- **The schema of an endpoint is read off the description of its tables**, whatever tables would
be sampled without it. -/
theorem Client.fetchSchema_nested (c : Client σ) (sampled : List String) {w : World (Wire σ)}
    {v : Value} (hendpoint : c.Describes w v) (h : Nests v tables)
    (hnodup : (tables.map (·.name)).Nodup) :
    (c.fetchSchema sampled w).1 = .ok (.ofListings tables) := by
  obtain ⟨reply, hok, hread, hreply⟩ := hendpoint.reply
  have hcall : c.callFunction "fetch_schema" c.endpoint.schemaFunction
      [("schema_name", .text "public")] w = (.ok reply, after c c.schemaRequest w) :=
    send_heard "fetch_schema" hreply
  unfold Client.fetchSchema
  simp only [bind_apply, hcall, hok, if_true, decode_apply _ hread, schemaOf_nested h hnodup, lift_ok]

end Postgrest

/-! ## Both -/

/-- **A database and an endpoint describe the same tables alike.**  Let a database list the columns
of tables in any order that keeps the tables' own and that of each table, so that no two tables have
one name, and let the function of an endpoint nest the columns of the same tables.  Both calls give
one schema: that of these tables, which has the listed columns, each as often and in the same table.
-/
theorem fetchSchema_agree (d : Postgres.Database) (schemaName : String) (c : Postgrest.Client σ)
    (sampled : List String) (w : World Postgres.Server) (w' : World (Postgrest.Wire σ))
    (tables : List Listing) (entries : List Schema.Entry) (records : List Row) (v : Value)
    (hflat : Postgres.Interleaves tables entries)
    (hrecords : List.Forall₂ Postgres.RecordOf records entries) (hnested : Postgrest.Nests v tables)
    (hdatabase : w.remote.Lists records) (hendpoint : c.Describes w' v) :
    (d.fetchSchema schemaName w).1 = .ok (.ofListings tables) ∧
    (c.fetchSchema sampled w').1 = .ok (.ofListings tables) ∧
    (Schema.ofListings tables).entries.Perm entries :=
  ⟨d.fetchSchema_records schemaName hdatabase hflat hrecords,
    c.fetchSchema_nested sampled hendpoint hnested hflat.nodup, hflat.entries_perm⟩

/-- A number that has to be there. -/
def idColumn : ColumnDescriptor :=
  ⟨"id", "integer", false, none⟩

/-- A text that may be null, with a default. -/
def nameColumn : ColumnDescriptor :=
  ⟨"name", "text", true, some "'x'"⟩

/-- Two tables. -/
def shopTables : List Listing := [
  ⟨"users", [idColumn, nameColumn], by decide, by decide, by decide⟩,
  ⟨"orders", [idColumn], by decide, by decide, by decide⟩]

/-- Their columns, with one table between the columns of the other. -/
def shopEntries : List Schema.Entry :=
  [("users", idColumn), ("orders", idColumn), ("users", nameColumn)]

/-- What describes a number that has to be there. -/
def idFields : Row :=
  [("column_name", .text "id"), ("data_type", .text "integer"), ("is_nullable", .text "NO"),
    ("column_default", .null)]

/-- What describes a text that may be null, with a default. -/
def nameFields : Row :=
  [("column_name", .text "name"), ("data_type", .text "text"), ("is_nullable", .text "YES"),
    ("column_default", .text "'x'")]

/-- The records of a catalogue with the tables. -/
def shopRecords : List Row :=
  [("table_name", .text "users") :: idFields, ("table_name", .text "orders") :: idFields,
    ("table_name", .text "users") :: nameFields]

/-- The description of the tables. -/
def shopDescription : Value :=
  .list [
    .record [("table_name", .text "users"), ("columns", .list [.record idFields, .record nameFields])],
    .record [("table_name", .text "orders"), ("columns", .list [.record idFields])]]

/-- The settings of a database. -/
def shopDatabase : Postgres.Database :=
  ⟨"localhost", Postgres.Database.usualPort, "postgres", "postgres", "postgres",
    Postgres.Database.usualTimeout, none⟩

/-- A call of the database, before its connection, which gives the records. -/
def shopConnections : World Postgres.Server :=
  ⟨.fresh, [], ⟨[⟨none, none, shopRecords, none, none, false, false⟩], [], []⟩⟩

/-- An endpoint that answers from a script. -/
def shopEndpoint : Postgrest.Client (List Postgrest.Response) :=
  ⟨⟨"https://x.test", "k", "execute_sql", "get_table_schema", .ofInt 30,
    Postgrest.Endpoint.usualPageSize⟩, Postgrest.scripted⟩

/-- A call of the endpoint, before its reply, which brings the description. -/
def shopReplies : World (Postgrest.Wire (List Postgrest.Response)) :=
  ⟨.fresh, [], ⟨[], [⟨false, .reply ⟨200, "OK", [], Json.indented shopDescription⟩⟩]⟩⟩

set_option maxRecDepth 4000 in
theorem read_shopDescription :
    Json.read Json.lenient (Json.indented shopDescription) = .ok shopDescription :=
  Json.read_of_chars (Json.indentedChars 0 shopDescription) String.toList_ofList (by decide) rfl rfl

/-- The columns of one table stand between those of the other on one side only. -/
theorem fetchSchema_agree_interleaved :
    (shopDatabase.fetchSchema "public" shopConnections).1 = .ok (.ofListings shopTables) ∧
    (shopEndpoint.fetchSchema [] shopReplies).1 = .ok (.ofListings shopTables) ∧
    (Schema.ofListings shopTables).entries.Perm shopEntries := by
  have hid : idColumn.DescribedBy idFields := ⟨rfl, rfl, rfl, rfl⟩
  have hname : nameColumn.DescribedBy nameFields := ⟨rfl, rfl, rfl, rfl⟩
  refine fetchSchema_agree shopDatabase "public" shopEndpoint [] shopConnections shopReplies shopTables
    shopEntries shopRecords shopDescription ⟨by decide, by decide⟩ ?_ ?_ ?_ ?_
  · exact .cons ⟨⟨rfl, rfl, rfl, rfl⟩, rfl, rfl⟩ (.cons ⟨⟨rfl, rfl, rfl, rfl⟩, rfl, rfl⟩
      (.cons ⟨⟨rfl, rfl, rfl, rfl⟩, rfl, rfl⟩ .nil))
  · exact ⟨_, rfl, .cons ⟨_, _, rfl, rfl, rfl, .cons ⟨_, rfl, hid⟩ (.cons ⟨_, rfl, hname⟩ .nil)⟩
      (.cons ⟨_, _, rfl, rfl, rfl, .cons ⟨_, rfl, hid⟩ .nil⟩ .nil)⟩
  · exact ⟨_, rfl, rfl, rfl, rfl, rfl⟩
  · exact ⟨⟨200, "OK", [], Json.indented shopDescription⟩, rfl, read_shopDescription, rfl⟩

end ReadGate
