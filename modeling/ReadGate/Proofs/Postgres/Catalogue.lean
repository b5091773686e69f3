import ReadGate.Postgres.Tables
import ReadGate.Proofs.Backend.Results
import ReadGate.Proofs.Schema.Listing

/-!
# Tables from the records of a catalogue

A catalogue gives one record per column, and the records of different tables may stand between each
other.  Each record adds its column to its own table and to no other, or opens the table; so the
catalogue of all records has each table once, where its first record stands, with its columns in the
order of their records.

* `Interleaves` — columns of tables, in an order that keeps the tables' and that of each table.
* `addColumn_ofEntries`, `foldlM_addRecord` — what one record adds, and what all of them do.
* `Interleaves.schemaOf_eq`, `Database.fetchSchema_records` — the schema of interleaved records.
* `Interleaves.entries_perm` — no column is lost, doubled or moved to another table.
-/

namespace ReadGate.Postgres

open Run

/-- The tables of entries, in the order in which they first appear. -/
def tablesIn (entries : List Schema.Entry) : List String :=
  (entries.map (·.1)).eraseDups

/-- The columns of one table among entries, in order. -/
def columnsIn (entries : List Schema.Entry) (table : String) : List ColumnDescriptor :=
  (entries.filter (·.1 == table)).map (·.2)

/-- The entries are the columns of the tables: the tables first appear in their order, and each has
its columns in theirs. -/
structure Interleaves (tables : List Listing) (entries : List Schema.Entry) : Prop where
  listed : tablesIn entries = tables.map (·.name)
  columns : ∀ t ∈ tables, columnsIn entries t.name = t.columns

/-- The record describes the column, and names its table. -/
structure RecordOf (record : Row) (entry : Schema.Entry) : Prop
    extends entry.2.DescribedBy record where
  table : Row.get? record "table_name" = some (.text entry.1)
  defaultGiven : (Row.get? record "column_default").isSome

/-- The catalogue with the columns of entries, each under its table. -/
def Catalogue.ofEntries (entries : List Schema.Entry) : Catalogue :=
  (tablesIn entries).map fun t => (.text t, columnsIn entries t)

/-! ## One entry more -/

section Entries

variable {entries : List Schema.Entry} {t u : String} {c : ColumnDescriptor}

theorem mem_tablesIn : t ∈ tablesIn entries ↔ ∃ entry ∈ entries, entry.1 = t := by
  rw [tablesIn, List.mem_eraseDups, List.mem_map]

theorem tablesIn_concat_of_mem (h : t ∈ tablesIn entries) :
    tablesIn (entries ++ [(t, c)]) = tablesIn entries := by
  rw [tablesIn, List.mem_eraseDups] at h
  simp [tablesIn, List.eraseDups_append, List.removeAll, h]

theorem tablesIn_concat_of_notMem (h : t ∉ tablesIn entries) :
    tablesIn (entries ++ [(t, c)]) = tablesIn entries ++ [t] := by
  rw [tablesIn, List.mem_eraseDups] at h
  have hsingle : ([t] : List String).eraseDups = [t] := by
    rw [List.eraseDups_cons]
    rfl
  simp only [tablesIn, List.map_append, List.map_cons, List.map_nil, List.eraseDups_append,
    List.removeAll, List.filter_cons, List.filter_nil, List.elem_eq_mem, h, decide_false,
    Bool.not_false, if_true, hsingle]

theorem tablesIn_nodup (entries : List Schema.Entry) : (tablesIn entries).Nodup := by
  induction entries using List.reverseRecOn with
  | nil => exact List.nodup_nil
  | append_singleton before entry ih =>
    obtain ⟨t, c⟩ := entry
    by_cases h : t ∈ tablesIn before
    · rwa [tablesIn_concat_of_mem h]
    · rw [tablesIn_concat_of_notMem h, List.nodup_append]
      refine ⟨ih, List.nodup_singleton t, fun a ha b hb => ?_⟩
      rw [List.mem_singleton.1 hb]
      rintro rfl
      exact h ha

theorem columnsIn_concat_self : columnsIn (entries ++ [(t, c)]) t = columnsIn entries t ++ [c] := by
  simp [columnsIn]

theorem columnsIn_concat_of_ne (h : t ≠ u) :
    columnsIn (entries ++ [(t, c)]) u = columnsIn entries u := by
  simp [columnsIn, h]

theorem columnsIn_of_notMem (h : t ∉ tablesIn entries) : columnsIn entries t = [] := by
  rw [columnsIn, List.map_eq_nil_iff, List.filter_eq_nil_iff]
  intro entry hentry heq
  exact h (mem_tablesIn.2 ⟨entry, hentry, beq_iff_eq.1 heq⟩)

/-! ## Adding a column -/

variable {names : List String} {before after : String → List ColumnDescriptor}

/-- A table that is not yet listed is opened behind the others. -/
theorem addColumn_of_notMem (h : t ∉ names) :
    addColumn (names.map fun u => (.text u, before u)) (.text t) c =
      (names.map fun u => (.text u, before u)) ++ [(.text t, [c])] := by
  induction names with
  | nil => rfl
  | cons u rest ih =>
    obtain ⟨hne, hrest⟩ := not_or.1 (mt List.mem_cons.2 h)
    have hother : (Value.text u).alike (.text t) = false := by
      rw [Value.alike_texts, beq_eq_false_iff_ne]
      exact Ne.symm hne
    rw [List.map_cons, addColumn, hother, ih hrest]
    rfl

/-- A table that is listed once gets the column, and no other table does. -/
theorem addColumn_of_mem (hnodup : names.Nodup) (h : t ∈ names) (hself : after t = before t ++ [c])
    (hothers : ∀ u, t ≠ u → after u = before u) :
    addColumn (names.map fun u => (.text u, before u)) (.text t) c =
      names.map fun u => (.text u, after u) := by
  induction names with
  | nil => exact absurd h List.not_mem_nil
  | cons u rest ih =>
    obtain ⟨hu, hrest⟩ := List.nodup_cons.1 hnodup
    rw [List.map_cons, List.map_cons, addColumn, Value.alike_texts]
    by_cases heq : u = t
    · subst heq
      have hkept : (rest.map fun u => (Value.text u, before u)) =
          rest.map fun u => (Value.text u, after u) :=
        List.map_congr_left fun v hv => by
          rw [hothers v fun huv => hu (huv ▸ hv)]
      rw [beq_self_eq_true, if_pos rfl, hself, hkept]
    · have hmem : t ∈ rest := (List.mem_cons.1 h).resolve_left (Ne.symm heq)
      rw [beq_eq_false_iff_ne.2 heq, if_neg Bool.false_ne_true, ih hrest hmem,
        hothers u (Ne.symm heq)]

/-- **One entry more adds its column to its table**, and opens the table if there is none. -/
theorem addColumn_ofEntries (entries : List Schema.Entry) (t : String) (c : ColumnDescriptor) :
    addColumn (.ofEntries entries) (.text t) c = .ofEntries (entries ++ [(t, c)]) := by
  unfold Catalogue.ofEntries
  by_cases h : t ∈ tablesIn entries
  · rw [tablesIn_concat_of_mem h]
    exact addColumn_of_mem (tablesIn_nodup entries) h columnsIn_concat_self
      fun u hne => columnsIn_concat_of_ne hne
  · have hcolumns : columnsIn (entries ++ [(t, c)]) t = [c] := by
      rw [columnsIn_concat_self, columnsIn_of_notMem h, List.nil_append]
    have hkept : ((tablesIn entries).map fun u => (Value.text u, columnsIn entries u)) =
        (tablesIn entries).map fun u => (Value.text u, columnsIn (entries ++ [(t, c)]) u) :=
      List.map_congr_left fun u hu => by
        rw [columnsIn_concat_of_ne fun (heq : t = u) => h (heq ▸ hu)]
    rw [tablesIn_concat_of_notMem h, addColumn_of_notMem h, List.map_append, ← hkept,
      List.map_singleton, hcolumns]

end Entries

/-! ## All records -/

variable {record : Row} {records : List Row} {entry : Schema.Entry} {entries : List Schema.Entry}
  {tables : List Listing}

theorem columnOf_record (h : RecordOf record entry) (hname : entry.2.name ≠ "") :
    columnOf (.record record) = .ok entry.2 := by
  obtain ⟨v, hv⟩ := Option.isSome_iff_exists.1 h.defaultGiven
  have hdefault : v = .ofWide? entry.2.default := by
    rw [← h.default, hv, Option.getD_some]
  simp only [columnOf, Value.part_record h.name, Value.part_record h.dataType,
    Value.part_record h.nullable, Value.part_record hv, hdefault, bind, Except.bind,
    alike_nullability, ColumnDescriptor.read_parts hname]
  rfl

/-- A record adds its column to its table. -/
theorem addRecord_ofEntries (h : RecordOf record entry) (hname : entry.2.name ≠ "") :
    addRecord (.ofEntries entries) record = .ok (.ofEntries (entries ++ [entry])) := by
  have hhashable : (Value.text entry.1).unhashable? = none :=
    Value.unhashable?_of_isScalar (.text entry.1)
  simp only [addRecord, Value.part_record h.table, bind, Except.bind, hhashable,
    columnOf_record h hname, addColumn_ofEntries]
  rfl

/-- **The catalogue of records has the columns that they describe, each under its table.** -/
theorem foldlM_addRecord (seen : List Schema.Entry) (h : List.Forall₂ RecordOf records entries)
    (hnames : ∀ entry ∈ entries, entry.2.name ≠ "") :
    records.foldlM addRecord (.ofEntries seen) = .ok (.ofEntries (seen ++ entries)) := by
  -- on the records; the catalogue is always that of the entries seen so far
  induction h generalizing seen with
  | nil =>
    rw [List.append_nil]
    rfl
  | @cons record entry records entries hfirst _ ih =>
    have hrest := ih (seen ++ [entry]) fun e he => hnames e (List.mem_cons_of_mem entry he)
    rw [List.append_assoc, List.singleton_append] at hrest
    rw [List.foldlM_cons, addRecord_ofEntries hfirst (hnames entry List.mem_cons_self)]
    exact hrest

/-- Entries are the entries of their tables, put behind each other. -/
theorem flatMap_filter_perm {names : List String} (hnodup : names.Nodup)
    (h : ∀ entry ∈ entries, entry.1 ∈ names) :
    (names.flatMap fun name => entries.filter (·.1 == name)).Perm entries := by
  induction names generalizing entries with
  | nil =>
    have hnone : entries = [] :=
      List.eq_nil_iff_forall_not_mem.2 fun entry hentry => List.not_mem_nil (h entry hentry)
    rw [hnone]
    rfl
  | cons name rest ih =>
    obtain ⟨hname, hrest⟩ := List.nodup_cons.1 hnodup
    -- the other tables have the same entries among those that the first one leaves
    have hothers : (rest.flatMap fun other => entries.filter (·.1 == other)) =
        rest.flatMap fun other =>
          (entries.filter fun entry => !entry.1 == name).filter (·.1 == other) := by
      refine List.flatMap_congr fun other hother => ?_
      rw [List.filter_filter]
      refine List.filter_congr fun entry _ => ?_
      by_cases heq : entry.1 = other
      · have hne : other ≠ name := fun hsame => hname (hsame ▸ hother)
        simp [heq, hne]
      · simp [heq]
    have hleft : ∀ entry ∈ entries.filter fun entry => !entry.1 == name, entry.1 ∈ rest := by
      intro entry hentry
      obtain ⟨hmem, hne⟩ := List.mem_filter.1 hentry
      exact (List.mem_cons.1 (h entry hmem)).resolve_left (by simpa using hne)
    rw [List.flatMap_cons, hothers]
    exact ((ih hrest hleft).append_left _).trans (List.filter_append_perm _ _)

namespace Interleaves

theorem mem_tables (h : Interleaves tables entries) :
    ∀ entry ∈ entries, entry.1 ∈ tables.map (·.name) := by
  intro entry hentry
  rw [← h.listed]
  exact mem_tablesIn.2 ⟨entry, hentry, rfl⟩

/-- Every column among the entries is one of its table. -/
theorem columns_named (h : Interleaves tables entries) : ∀ entry ∈ entries, entry.2.name ≠ "" := by
  intro entry hentry
  obtain ⟨t, ht, hname⟩ := List.mem_map.1 (h.mem_tables entry hentry)
  refine t.columnsNamed entry.2 ?_
  rw [← h.columns t ht, columnsIn]
  exact List.mem_map_of_mem (List.mem_filter.2 ⟨hentry, beq_iff_eq.2 hname.symm⟩)

theorem ofEntries_eq (h : Interleaves tables entries) :
    Catalogue.ofEntries entries = tables.map fun t => (.text t.name, t.columns) := by
  rw [Catalogue.ofEntries, h.listed, List.map_map]
  exact List.map_congr_left fun t ht => by rw [Function.comp_apply, h.columns t ht]

/-- Different tables have different names. -/
theorem nodup (h : Interleaves tables entries) : (tables.map (·.name)).Nodup := by
  rw [← h.listed]
  exact tablesIn_nodup entries

/-- **Records of interleaved columns make the schema of their tables.** -/
theorem schemaOf_eq (h : Interleaves tables entries)
    (hrecords : List.Forall₂ RecordOf records entries) :
    schemaOf records = .ok (.ofListings tables) := by
  have hcatalogue : records.foldlM addRecord [] =
      .ok (tables.map fun t => (Value.text t.name, t.columns)) := by
    rw [← h.ofEntries_eq]
    exact foldlM_addRecord [] hrecords h.columns_named
  have htables : (tables.map fun t => (Value.text t.name, t.columns)).mapM
      (fun t => TableDescriptor.ofColumns t.1 t.2) = .ok (tables.map Listing.descriptor) := by
    rw [mapM_eq_ok_iff, List.forall₂_map_left_iff, List.forall₂_map_right_iff, List.forall₂_same]
    intro t _
    rw [t.ofColumns_eq]
  simp only [schemaOf, hcatalogue, htables, bind, Except.bind, Schema.ofTables_descriptors h.nodup]
  rfl

/-- **No column is lost, doubled or moved to another table.** -/
theorem entries_perm (h : Interleaves tables entries) :
    (Schema.ofListings tables).entries.Perm entries := by
  have hgroups : (Schema.ofListings tables).entries =
      (tables.map (·.name)).flatMap fun name => entries.filter (·.1 == name) := by
    rw [Schema.entries, Schema.ofListings, List.flatMap_map, List.flatMap_map]
    refine List.flatMap_congr fun t ht => ?_
    rw [Listing.descriptor, ← h.columns t ht, columnsIn, List.map_map]
    refine (List.map_congr_left fun entry hentry => ?_).trans (List.map_id _)
    rw [Function.comp_apply, ← beq_iff_eq.1 (List.mem_filter.1 hentry).2]
    rfl
  rw [hgroups]
  exact flatMap_filter_perm h.nodup h.mem_tables

end Interleaves

/-! ## The database -/

/-- The next connection opens, executes the query of the catalogue, and gives the records as its
result. -/
structure Server.Lists (s : Server) (records : List Row) : Prop where
  connection : ∃ c, s.script.head? = some c ∧ c.connectFault = none ∧ c.executeFault = none ∧
    c.noResult = none ∧ c.rows = records

/-- **The schema of a database is read off the records of its catalogue.** -/
theorem Database.fetchSchema_records (d : Database) (schemaName : String) {w : World Server}
    (hserver : w.remote.Lists records) (h : Interleaves tables entries)
    (hrecords : List.Forall₂ RecordOf records entries) :
    (d.fetchSchema schemaName w).1 = .ok (.ofListings tables) := by
  obtain ⟨c, hgranted, hopens, hexecutes, hresult, rfl⟩ := hserver.connection
  have hsession := session_answered d ⟨"fetch_schema", false, false⟩ rfl hgranted hopens hexecutes
    hresult catalogueQuery (some [.text schemaName]) fun c => .ok c.rows
  unfold Database.fetchSchema
  rw [bind_apply]
  split
  · rename_i records w' heq
    rw [heq] at hsession
    cases hsession
    rw [h.schemaOf_eq hrecords]
    rfl
  · rename_i trouble w' heq
    rw [heq] at hsession
    cases hsession

end ReadGate.Postgres
