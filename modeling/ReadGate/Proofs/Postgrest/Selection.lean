import ReadGate.Proofs.Json.Contents
import ReadGate.Proofs.Postgrest.Paging
import ReadGate.Proofs.Text.Wide

/-!
# What a selection brings

The limit of a selection travels among its parameters, where a filter on a column called `limit` has
the same name.  A limit of the selection replaces the filter; without one, the filter is taken for
the limit and cannot be read.  So the rows that are wanted are fetched in all cases but that one and
the ones where a number has more digits than are read or written.

* `Writable`, `paramsOf_eq_ok`, `paramsOf_eq_error` — the parameters of a selection, if its filter
  and its limit can be written.
* `limitOf`, `selectAll_apply` — the limit is read first, and then all pages are fetched.
* `limitOf_written` — the limit that is read back from the parameters of a selection.
* `paging_exact` — when selections and column values are exactly the rows that are wanted, and
  how they fail in all other cases.
-/

namespace ReadGate.Postgrest

open Run

variable {σ : Type} {c : Client σ} {h : Holding}

/-! ## Parameters that can be written -/

/-- The text of a filter. -/
def equalsText (operand : Operand) : WideText :=
  .whole "eq." ++ operand.value.wide

/-- The filter and the limit of a selection can be written. -/
structure Writable (predicate : Option Predicate) (limit : Option Int) : Prop where
  filter : ∀ p ∈ predicate, p.operand.value.isWritable = true
  limit : ∀ n ∈ limit, Numeral.IsShort n.natAbs

/-- The parameters of such a selection. -/
def writtenParams (columns : Columns) (predicate : Option Predicate) (limit : Option Int)
    (orderBy : Option OrderBy) : Params :=
  let params : Params := [("select", some (columnsParam columns))]
  let params := putSome params (predicate.map fun p => (p.column, equalsText p.operand))
  let params := putSome params (orderBy.map fun o => ("order", orderParam o))
  putSome params (limit.map fun n => ("limit", .whole (toString n)))

theorem equals_eq_ok {operand : Operand} (h : operand.value.isWritable = true) :
    equals operand = .ok (equalsText operand) := by
  rw [equals, Value.display, if_pos h]
  rfl

theorem writeInt_eq_ok {n : Int} (h : Numeral.IsShort n.natAbs) :
    Numeral.writeInt n = .ok (toString n) :=
  if_pos h

theorem paramsOf_eq_ok {predicate : Option Predicate} {limit : Option Int}
    (h : Writable predicate limit) (columns : Columns) (orderBy : Option OrderBy) :
    paramsOf columns predicate limit orderBy =
      .ok (writtenParams columns predicate limit orderBy) := by
  have hfilter : filterParam predicate =
      .ok (predicate.map fun p => (p.column, equalsText p.operand)) := by
    cases predicate with
    | none => rfl
    | some p => rw [filterParam, equals_eq_ok (h.filter p rfl)]; rfl
  have hlimit : limitParam limit = .ok (limit.map fun n => ("limit", .whole (toString n))) := by
    cases limit with
    | none => rfl
    | some n => rw [limitParam, writeInt_eq_ok (h.limit n rfl)]; rfl
  rw [paramsOf, hfilter, hlimit]
  rfl

/-- Otherwise there are no parameters at all. -/
theorem paramsOf_eq_error {predicate : Option Predicate} {limit : Option Int}
    (h : ¬ Writable predicate limit) (columns : Columns) (orderBy : Option OrderBy) :
    paramsOf columns predicate limit orderBy = .error .unwritable := by
  by_cases hfilter : ∀ p ∈ predicate, p.operand.value.isWritable = true
  · have hlimit : ¬ ∀ n ∈ limit, Numeral.IsShort n.natAbs := fun hlimit => h ⟨hfilter, hlimit⟩
    cases limit with
    | none => exact absurd nofun hlimit
    | some n =>
      have hlong : ¬ Numeral.IsShort n.natAbs := fun hshort =>
        hlimit (by rintro m ⟨⟩; exact hshort)
      have hwrite : limitParam (some n) = .error .unwritable := by
        rw [limitParam, Numeral.writeInt, if_neg hlong]
        rfl
      obtain ⟨entry, hentry⟩ : ∃ entry, filterParam predicate = .ok entry := by
        cases predicate with
        | none => exact ⟨none, rfl⟩
        | some p => exact ⟨_, by rw [filterParam, equals_eq_ok (hfilter p rfl)]; rfl⟩
      rw [paramsOf, hentry, hwrite]
      rfl
  · cases predicate with
    | none => exact absurd nofun hfilter
    | some p =>
      have hlong : ¬ p.operand.value.isWritable = true := fun hwritable =>
        hfilter (by rintro m ⟨⟩; exact hwritable)
      have hwrite : filterParam (some p) = .error .unwritable := by
        rw [filterParam, equals, Value.display, if_neg hlong]
        rfl
      rw [paramsOf, hwrite]
      rfl

/-! ## The limit among the parameters -/

/-- The limit as it stands in the parameters. -/
def limitOf (params : Params) : Except NumeralError (Option Int) :=
  match (Row.get? params "limit").join with
  | some text => (Numeral.readWide text).map some
  | none => .ok none

/-- The limit of the selection is read back, and no filter is taken for it. -/
structure LimitReads (predicate : Option Predicate) (limit : Option Nat) : Prop where
  unfiltered : limit = none → ∀ p ∈ predicate, p.column ≠ "limit"
  short : ∀ n ∈ limit, Numeral.IsShort n

theorem get?_putSome_of_ne (params : Params) (entry : Option (String × WideText)) {name : String}
    (hne : ∀ e ∈ entry, name ≠ e.1) :
    Row.get? (putSome params entry) name = Row.get? params name := by
  cases entry with
  | none => rfl
  | some e => exact Row.get?_put_of_ne params _ (hne e rfl)

theorem get?_limit_some (columns : Columns) (predicate : Option Predicate) (n : Nat)
    (orderBy : Option OrderBy) :
    Row.get? (writtenParams columns predicate (some (n : Int)) orderBy) "limit" =
      some (some (.whole (toString n))) := by
  rw [writtenParams]
  exact Row.get?_put_self _ _ _

/-- Without a limit, what stands in its place is the filter, if that has its name. -/
theorem get?_limit_none (columns : Columns) (predicate : Option Predicate)
    (orderBy : Option OrderBy) :
    Row.get? (writtenParams columns predicate none orderBy) "limit" =
      Row.get? (putSome [("select", some (columnsParam columns))]
        (predicate.map fun p => (p.column, equalsText p.operand))) "limit" := by
  simp only [writtenParams, Option.map_none, putSome]
  refine get?_putSome_of_ne _ _ fun e he => ?_
  obtain ⟨o, -, rfl⟩ := Option.map_eq_some_iff.1 he
  show "limit" ≠ "order"
  decide

/-- A text without halves is read as it is. -/
theorem readWide_whole (s : String) : Numeral.readWide (.whole s) = Numeral.readInt s := by
  unfold Numeral.readWide
  show (Numeral.readInt s).mapError _ = _
  rcases hread : Numeral.readInt s with e | n
  · cases e with
    | notInteger text => rw [Numeral.text_of_notInteger hread]; rfl
    | _ => rfl
  · rfl

theorem readWide_equals (operand : Operand) :
    Numeral.readWide (equalsText operand) = .error (.notInteger (equalsText operand)) := by
  have hlist : (equalsText operand).plain.toList =
      'e' :: 'q' :: '.' :: operand.value.wide.plain.toList := by
    rw [equalsText, WideText.plain_append, String.toList_append]
    rfl
  rw [Numeral.readWide,
    Numeral.readInt_of_letter hlist (by decide) (by decide) (by decide) (by decide)]
  rfl

theorem limitOf_written (columns : Columns) (predicate : Option Predicate) (limit : Option Nat)
    (orderBy : Option OrderBy) :
    (LimitReads predicate limit →
      limitOf (writtenParams columns predicate (limit.map Int.ofNat) orderBy) =
        .ok (limit.map Int.ofNat)) ∧
    (¬ LimitReads predicate limit →
      ∃ e, limitOf (writtenParams columns predicate (limit.map Int.ofNat) orderBy) = .error e) := by
  cases limit with
  | some n =>
    have hget := get?_limit_some columns predicate n orderBy
    have hread := Numeral.readInt_repr n
    constructor
    · intro hreads
      simp only [limitOf, Option.map_some, Int.ofNat_eq_natCast, hget, Option.join_some,
        readWide_whole, hread.1 (hreads.short n rfl)]
      rfl
    · intro hreads
      have hlong : ¬ Numeral.IsShort n := fun hshort =>
        hreads ⟨nofun, by rintro m ⟨⟩; exact hshort⟩
      obtain ⟨count, herror⟩ := hread.2 hlong
      simp only [limitOf, Option.map_some, Int.ofNat_eq_natCast, hget, Option.join_some,
        readWide_whole, herror]
      exact ⟨_, rfl⟩
  | none =>
    rw [limitOf, Option.map_none, get?_limit_none]
    cases predicate with
    | none => exact ⟨fun _ => rfl, fun hreads => absurd ⟨nofun, nofun⟩ hreads⟩
    | some p =>
      by_cases hcolumn : p.column = "limit"
      · refine ⟨fun hreads => absurd hcolumn (hreads.unfiltered rfl p rfl), fun _ => ?_⟩
        simp only [Option.map_some, putSome, hcolumn, Row.get?_put_self, Option.join_some,
          readWide_equals]
        exact ⟨_, rfl⟩
      · refine ⟨fun _ => ?_, fun hreads => absurd ⟨fun _ => ?_, nofun⟩ hreads⟩
        · simp only [Option.map_some, putSome, Row.get?_put_of_ne _ _ (Ne.symm hcolumn)]
          rfl
        · rintro q ⟨⟩
          exact hcolumn

theorem limitOf_select (column : Option WideText) : limitOf [("select", column)] = .ok none := rfl

/-! ## All pages -/

/-- The limit is read first, and then all pages are fetched without it. -/
theorem selectAll_apply (c : Client σ) (source : Source) (w : World (Wire σ)) :
    c.selectAll source w =
      match limitOf source.params with
      | .error e => (.error (.mishap (.numeral e)), w)
      | .ok limit =>
        match c.pages { source with params := Row.erase source.params "limit" } limit w with
        | (.ok (records, total), w) => (.ok records, w.logged [⟨.debug, .postgrest,
            s!"Fetched {records.length} of {(Value.ofInt? total).plain} rows from {source.table}"⟩])
        | (.error t, w) => (.error t, w) := by
  unfold Client.selectAll limitOf
  rcases (Row.get? source.params "limit").join with _ | text
  · simp only [pure_apply, bind_apply]
    rcases c.pages _ none w with ⟨t | ⟨records, total⟩, w₁⟩ <;> rfl
  · simp only [bind_apply]
    rcases Numeral.readWide text with e | n
    · rfl
    · simp only [Except.map, lift_mapError_ok, pure_apply]
      rcases c.pages _ (some n) w with ⟨t | ⟨records, total⟩, w₁⟩ <;> rfl

theorem selectAll_conforming (hconf : Conforms c.transport h) (hsize : 1 ≤ c.endpoint.pageSize.value)
    (source : Source) (limit : Option Nat) {w : World (Wire σ)}
    (hcalm : Undisturbed source.guarded w c.transport)
    (hlimit : limitOf source.params = .ok (limit.map Int.ofNat))
    (htotal : limit ≠ some 0 → Numeral.IsShort h.rows.length) :
    ∃ w', c.selectAll source w = (.ok ((h.upTo limit).map .record), w') := by
  obtain ⟨total, w', hpages⟩ := pages_conforming hconf hsize
    { source with params := Row.erase source.params "limit" } hcalm htotal
  rw [selectAll_apply, hlimit]
  simp only [hpages]
  exact ⟨_, rfl⟩

theorem selectAll_of_long_total (hconf : Conforms c.transport h)
    (hsize : 1 ≤ c.endpoint.pageSize.value) (source : Source) (limit : Option Nat)
    {w : World (Wire σ)} (hcalm : Undisturbed source.guarded w c.transport)
    (hlimit : limitOf source.params = .ok (limit.map Int.ofNat)) (hne : limit ≠ some 0)
    (hlong : ¬ Numeral.IsShort h.rows.length) :
    ∃ e w', c.selectAll source w = (.error (.mishap (.numeral e)), w') := by
  obtain ⟨e, w', hpages⟩ := pages_of_long_total hconf hsize
    { source with params := Row.erase source.params "limit" } hcalm hne hlong
  rw [selectAll_apply, hlimit]
  simp only [hpages]
  exact ⟨e, _, rfl⟩

/-! ## Selections and column values -/

/-- The filter and the limit of a selection can be written, the limit is read back, and so is the
total, if a page is fetched at all. -/
structure Fetchable (h : Holding) (predicate : Option Predicate) (limit : Option Nat) : Prop
    extends LimitReads predicate limit where
  written : ∀ p ∈ predicate, p.operand.value.isWritable = true
  announced : limit ≠ some 0 → Numeral.IsShort h.rows.length

theorem Fetchable.writable {predicate : Option Predicate} {limit : Option Nat}
    (hfetch : Fetchable h predicate limit) : Writable predicate (limit.map Int.ofNat) where
  filter := hfetch.written
  limit n hn := by
    obtain ⟨m, hm, rfl⟩ := Option.map_eq_some_iff.1 hn
    exact hfetch.short m hm

/-- What a selection does that can be written. -/
theorem structuredQuery_eq (c : Client σ) (guarded : Bool) {q : Selection}
    (h : Writable q.predicate q.limit) :
    c.structuredQuery guarded q = (do
      Run.check guarded "structured_query"
      let records ← c.selectAll ⟨q.table,
        writtenParams q.columns q.predicate q.limit q.orderBy, "structured_query", guarded⟩
      Run.lift (records.mapM rowOfValue)) := by
  rw [Client.structuredQuery, paramsOf_eq_ok h]
  rfl

theorem structuredQuery_conforming (hconf : Conforms c.transport h)
    (hsize : 1 ≤ c.endpoint.pageSize.value) {guarded : Bool} {w : World (Wire σ)}
    (hcalm : Undisturbed guarded w c.transport) (table : String) (columns : Columns)
    {predicate : Option Predicate} {limit : Option Nat} (orderBy : Option OrderBy)
    (hfetch : Fetchable h predicate limit) :
    ∃ w', c.structuredQuery guarded ⟨table, columns, predicate, limit.map Int.ofNat, orderBy⟩ w =
      (.ok (h.upTo limit), w') := by
  have hlimit := (limitOf_written columns predicate limit orderBy).1 hfetch.toLimitReads
  obtain ⟨w', hall⟩ := selectAll_conforming hconf hsize
    ⟨table, writtenParams columns predicate (limit.map Int.ofNat) orderBy, "structured_query", guarded⟩
    limit hcalm hlimit hfetch.announced
  have hjson : ∀ row ∈ h.upTo limit, Value.allJsonFields row = true := fun row hrow =>
    h.json row (h.mem_of_mem_upTo hrow)
  refine ⟨w', ?_⟩
  rw [structuredQuery_eq c guarded hfetch.writable]
  simp only [bind_apply, check_pass hcalm.passes, hall, mapM_rowOfValue hjson, lift_ok]

/-- Whatever cannot be written or read makes the whole selection fail. -/
theorem structuredQuery_of_not_fetchable (hconf : Conforms c.transport h)
    (hsize : 1 ≤ c.endpoint.pageSize.value) {guarded : Bool} {w : World (Wire σ)}
    (hcalm : Undisturbed guarded w c.transport) (table : String) (columns : Columns)
    {predicate : Option Predicate} {limit : Option Nat} (orderBy : Option OrderBy)
    (hfetch : ¬ Fetchable h predicate limit) :
    ∃ e w', c.structuredQuery guarded ⟨table, columns, predicate, limit.map Int.ofNat, orderBy⟩ w =
      (.error (.mishap (.numeral e)), w') := by
  by_cases hwritable : Writable predicate (limit.map Int.ofNat)
  · have hlimit := limitOf_written columns predicate limit orderBy
    have hall : ∃ e w', c.selectAll ⟨table,
        writtenParams columns predicate (limit.map Int.ofNat) orderBy, "structured_query",
        guarded⟩ w = (.error (.mishap (.numeral e)), w') := by
      by_cases hreads : LimitReads predicate limit
      · have hlong : ¬ (limit ≠ some 0 → Numeral.IsShort h.rows.length) := fun hshort =>
          hfetch ⟨hreads, hwritable.filter, hshort⟩
        rw [Classical.not_imp] at hlong
        exact selectAll_of_long_total hconf hsize _ limit hcalm (hlimit.1 hreads) hlong.1 hlong.2
      · obtain ⟨e, herror⟩ := hlimit.2 hreads
        rw [selectAll_apply]
        simp only [herror]
        exact ⟨e, w, rfl⟩
    obtain ⟨e, w', hall⟩ := hall
    refine ⟨e, w', ?_⟩
    rw [structuredQuery_eq c guarded hwritable]
    simp only [bind_apply, check_pass hcalm.passes, hall]
  · refine ⟨.unwritable, w, ?_⟩
    simp only [Client.structuredQuery, bind_apply, check_pass hcalm.passes,
      paramsOf_eq_error hwritable, lift_mapError_error]

/-- Every row is on a page, and so it is read from a document. -/
theorem Conforms.legible {t : Transport σ} (hconf : Conforms t h) (state : σ) :
    ∀ row ∈ h.rows, Value.LegibleFields row := by
  intro row hrow
  obtain ⟨i, hi, rfl⟩ := List.getElem_of_mem hrow
  let params : Params :=
    [("limit", some (.whole (toString 1))), ("offset", some (.whole (toString i)))]
  obtain ⟨reply, -, hbrings⟩ := hconf ⟨.get, "", [], some params, none, .ofInt 0⟩ state params 1 i
    rfl rfl (by simp [params, Row.get?]) (by simp [params, Row.get?])
  have hpage : h.page 1 i = [h.rows[i]] := by
    rw [Holding.page, Nat.min_eq_left h.cap_pos, List.drop_eq_getElem_cons hi]
    rfl
  have hlegible := Json.legible_of_read hbrings.body
  rw [hpage] at hlegible
  exact (Value.legibleItems_cons.1 hlegible).1

theorem columnValues_conforming (hconf : Conforms c.transport h)
    (hsize : 1 ≤ c.endpoint.pageSize.value) {guarded : Bool} {w : World (Wire σ)}
    (hcalm : Undisturbed guarded w c.transport) (table : String) (column : Option String)
    (hshort : Numeral.IsShort h.rows.length) :
    ∃ values w', c.columnValues guarded table column w = (.ok values, w') ∧
      List.Forall₂ (fun row v => Client.columnValue column (.record row) = .ok v)
        h.rows values := by
  obtain ⟨w', hall⟩ := selectAll_conforming hconf hsize
    ⟨table, [("select", column.map .whole)], "column_values", guarded⟩ none hcalm
    (limitOf_select _) fun _ => hshort
  obtain ⟨values, hvalues, hforall⟩ := mapM_columnValue (hconf.legible w.remote.server) column
  refine ⟨values, w', ?_, hforall⟩
  simp only [Client.columnValues, bind_apply, check_pass hcalm.passes, hall, Holding.upTo,
    hvalues, lift_ok]

theorem columnValues_of_long_total (hconf : Conforms c.transport h)
    (hsize : 1 ≤ c.endpoint.pageSize.value) {guarded : Bool} {w : World (Wire σ)}
    (hcalm : Undisturbed guarded w c.transport) (table : String) (column : Option String)
    (hlong : ¬ Numeral.IsShort h.rows.length) :
    ∃ e w', c.columnValues guarded table column w = (.error (.mishap (.numeral e)), w') := by
  obtain ⟨e, w', hall⟩ := selectAll_of_long_total hconf hsize
    ⟨table, [("select", column.map .whole)], "column_values", guarded⟩ none hcalm
    (limitOf_select _) nofun hlong
  refine ⟨e, w', ?_⟩
  simp only [Client.columnValues, bind_apply, check_pass hcalm.passes, hall]

/-- **Paging is exact, unless a number is not written or read.**  A selection is the rows up to its
limit in their order, and fails if and only if its filter or its limit is not written, or the limit
or the total is not read; column values come one from each row in the order of the rows. -/
theorem paging_exact (c : Client σ) (h : Holding) (guarded : Bool) (w : World (Wire σ))
    (hconf : Conforms c.transport h) (hsize : 1 ≤ c.endpoint.pageSize.value)
    (hcalm : Undisturbed guarded w c.transport) :
    (∀ (table : String) (columns : Columns) (predicate : Option Predicate) (limit : Option Nat)
      (orderBy : Option OrderBy),
      let q : Selection := ⟨table, columns, predicate, limit.map Int.ofNat, orderBy⟩
      (Fetchable h predicate limit → (c.structuredQuery guarded q w).1 = .ok (h.upTo limit)) ∧
      (¬ Fetchable h predicate limit →
        ∃ e, (c.structuredQuery guarded q w).1 = .error (.mishap (.numeral e)))) ∧
    ∀ (table : String) (column : Option String),
      (Numeral.IsShort h.rows.length →
        ∃ values, (c.columnValues guarded table column w).1 = .ok values ∧
          List.Forall₂ (fun row v => Client.columnValue column (.record row) = .ok v)
            h.rows values) ∧
      (¬ Numeral.IsShort h.rows.length →
        ∃ e, (c.columnValues guarded table column w).1 = .error (.mishap (.numeral e))) := by
  refine ⟨fun table columns predicate limit orderBy => ⟨fun hfetch => ?_, fun hfetch => ?_⟩,
    fun table column => ⟨fun hshort => ?_, fun hlong => ?_⟩⟩
  · obtain ⟨w', hquery⟩ :=
      structuredQuery_conforming hconf hsize hcalm table columns orderBy hfetch
    rw [hquery]
  · obtain ⟨e, w', hquery⟩ :=
      structuredQuery_of_not_fetchable hconf hsize hcalm table columns orderBy hfetch
    exact ⟨e, by rw [hquery]⟩
  · obtain ⟨values, w', hvalues, hforall⟩ :=
      columnValues_conforming hconf hsize hcalm table column hshort
    exact ⟨values, by rw [hvalues], hforall⟩
  · obtain ⟨e, w', hvalues⟩ := columnValues_of_long_total hconf hsize hcalm table column hlong
    exact ⟨e, by rw [hvalues]⟩

/-! ### Two rows behind a cap of one -/

/-- Two rows, of which a reply never brings more than one. -/
def twoRows : Holding where
  rows := [[("id", .int 1)], [("id", .int 2)]]
  cap := 1
  json := by simp [Value.allJsonFields, Value.isJson]
  cap_pos := Nat.one_pos

/-- The number in a parameter of a request, if it can be read. -/
def numberIn (r : Request) (name : String) (otherwise : Nat) : Nat :=
  match (r.params.bind (Row.get? · name)).join with
  | some text => match Numeral.readWide text with
    | .ok n => n.toNat
    | .error _ => otherwise
  | none => otherwise

/-- The range and the body of a page. -/
def pageText (width offset : Nat) : String × String :=
  match width, offset with
  | _ + 1, 0 => ("0-0", "[\x7b\"id\": 1\x7d]")
  | _ + 1, 1 => ("1-1", "[\x7b\"id\": 2\x7d]")
  | _, _ => ("*", "[]")

/-- An endpoint that serves the two rows. -/
def serveTwoRows : Transport Unit := fun r _ =>
  let page := pageText (numberIn r "limit" 1) (numberIn r "offset" 2)
  (⟨false, .reply ⟨200, "OK", [("Content-Range", page.1 ++ "/" ++ toString 2)], page.2⟩⟩, ())

/-- A client of this endpoint that would take two rows at once. -/
def twoRowsClient : Client Unit :=
  ⟨⟨"https://rows.test", "key", "execute_sql", "get_table_schema", .ofInt 30, ⟨2, by decide⟩⟩,
    serveTwoRows⟩

/-- A call with a token that nobody has cancelled. -/
def calmWorld : World (Wire Unit) :=
  ⟨⟨false, []⟩, [], ⟨[], ()⟩⟩

/-- A number that is not read has more digits than all rows need. -/
theorem numberIn_of_param {r : Request} {params : Params} {name : String} {n : Nat}
    (hparams : r.params = some params)
    (hname : Row.get? params name = some (some (.whole (toString n)))) (otherwise : Nat) :
    numberIn r name otherwise = n ∨ (numberIn r name otherwise = otherwise ∧ 10 ≤ n) := by
  have hread := Numeral.readInt_repr n
  simp only [numberIn, hparams, Option.bind_some, hname, Option.join_some, readWide_whole]
  by_cases hshort : Numeral.IsShort n
  · left
    rw [hread.1 hshort]
    rfl
  · right
    obtain ⟨count, herror⟩ := hread.2 hshort
    rw [herror]
    have hsmall : ∀ m < 10, Numeral.IsShort m := by decide
    exact ⟨rfl, Nat.le_of_not_lt fun hn => hshort (hsmall n hn)⟩

theorem pageText_of_params {r : Request} {params : Params} {width offset : Nat}
    (hparams : r.params = some params)
    (hlimit : Row.get? params "limit" = some (some (.whole (toString width))))
    (hoffset : Row.get? params "offset" = some (some (.whole (toString offset)))) :
    pageText (numberIn r "limit" 1) (numberIn r "offset" 2) = pageText width offset := by
  have hwide (offset : Nat) (h : 10 ≤ width) : pageText 1 offset = pageText width offset := by
    obtain ⟨k, rfl⟩ := Nat.exists_eq_add_of_le' h
    rcases offset with _ | _ | offset <;> rfl
  have hfar (h : 10 ≤ offset) : pageText width 2 = pageText width offset := by
    obtain ⟨k, rfl⟩ := Nat.exists_eq_add_of_le' h
    cases width <;> rfl
  rcases numberIn_of_param hparams hlimit 1 with hl | ⟨hl, hwidth⟩ <;>
    rcases numberIn_of_param hparams hoffset 2 with ho | ⟨ho, hlast⟩
  · rw [hl, ho]
  · rw [hl, ho, hfar hlast]
  · rw [hl, ho, hwide offset hwidth]
  · rw [hl, ho, hwide 2 hwidth, hfar hlast]

theorem pageText_brings (width offset : Nat) :
    '/' ∉ (pageText width offset).1.toList ∧
    Json.read Json.lenient (pageText width offset).2 =
      .ok (.list ((twoRows.page width offset).map .record)) := by
  have hnone : Json.read Json.lenient "[]" = .ok (.list []) :=
    Json.read_of_chars ['[', ']'] (by decide) (by decide) rfl rfl
  have hfirst : Json.read Json.lenient "[\x7b\"id\": 1\x7d]" =
      .ok (.list [.record [("id", .int 1)]]) :=
    Json.read_of_chars ['[', '\x7b', '"', 'i', 'd', '"', ':', ' ', '1', '\x7d', ']'] (by decide)
      (by decide) rfl rfl
  have hsecond : Json.read Json.lenient "[\x7b\"id\": 2\x7d]" =
      .ok (.list [.record [("id", .int 2)]]) :=
    Json.read_of_chars ['[', '\x7b', '"', 'i', 'd', '"', ':', ' ', '2', '\x7d', ']'] (by decide)
      (by decide) rfl rfl
  rcases width with _ | width
  · refine ⟨by simp [pageText], ?_⟩
    simp [pageText, Holding.page, twoRows, hnone]
  · rcases offset with _ | _ | offset
    · refine ⟨by simp [pageText], ?_⟩
      simp [pageText, Holding.page, twoRows, hfirst]
    · refine ⟨by simp [pageText], ?_⟩
      simp [pageText, Holding.page, twoRows, hsecond]
    · refine ⟨by simp [pageText], ?_⟩
      simp [pageText, Holding.page, twoRows, hnone]

theorem serveTwoRows_conforms : Conforms serveTwoRows twoRows := by
  intro r state params width offset _ hparams hlimit hoffset
  obtain ⟨hrange, hbody⟩ := pageText_brings width offset
  refine ⟨_, rfl, ?_⟩
  rw [pageText_of_params hparams hlimit hoffset]
  exact ⟨rfl, hbody, _, hrange, by simp [Reply.header, twoRows]⟩

/-- Both rows are fetched, though one at a time; a filter on a column called `limit` fails. -/
theorem paging_exact_two_rows :
    (twoRowsClient.structuredQuery true ⟨"items", .all, none, none, none⟩ calmWorld).1 =
      .ok [[("id", .int 1)], [("id", .int 2)]] ∧
    ∃ e, (twoRowsClient.structuredQuery true
      ⟨"items", .all, some ⟨"limit", .int 5⟩, none, none⟩ calmWorld).1 =
        .error (.mishap (.numeral e)) := by
  obtain ⟨hselect, -⟩ := paging_exact twoRowsClient twoRows true calmWorld serveTwoRows_conforms
    (by decide) fun _ => ⟨rfl, fun _ _ => rfl⟩
  constructor
  · exact (hselect "items" .all none none none).1
      ⟨⟨nofun, nofun⟩, nofun, fun _ => by decide⟩
  · exact (hselect "items" .all (some ⟨"limit", .int 5⟩) none none).2
      fun hfetch => hfetch.unfiltered rfl _ rfl rfl

end ReadGate.Postgrest
