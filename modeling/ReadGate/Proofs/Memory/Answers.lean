import ReadGate.Proofs.Engine.Execution
import ReadGate.Proofs.Memory.Calls
import ReadGate.Proofs.Rule.LongLimit
import ReadGate.Proofs.Rule.Star
import ReadGate.Proofs.Value.Equality

/-!
# Answers from the tables

A query text that the tables cannot execute is answered by the fallback.  A text in one of the
shapes that select all columns means the rows of its table that satisfy its filter, in their order
and up to its limit.

* `Refused`, `Jams`, `meaning` — when there is no answer, and what the answer is.
* `keep_operand` — a filter keeps the cells that equal its operand, unless one of them jams.
* `select_answered` — a query for all columns is answered by its meaning.
* `execute_answered` — so is a call that holds the text of such a query.
* `execute_exceptions` — a filter that jams, a limit that cannot be read, and a text that is
  withheld.
-/

namespace ReadGate.Memory

open Engine Grammar MemoryStore Run

/-! ## What an answer is -/

/-- The table is missing, or there are rows and none of them has the column of the filter. -/
inductive Refused (tables : List (String × List Row)) (q : StructuredQuery) : Prop
  | table (h : Row.get? tables q.table = none)
  | column {rows : List Row} {p : Predicate} (htable : Row.get? tables q.table = some rows)
    (hp : q.predicate = some p) (hsome : rows ≠ [])
    (hlacks : ∀ row ∈ rows, Row.has row p.column = false)

/-- A cell of the table cannot be compared with the operand of the filter. -/
def Jams (tables : List (String × List Row)) (q : StructuredQuery) : Prop :=
  ∃ rows ∈ Row.get? tables q.table, ∃ p ∈ q.predicate, ∃ row ∈ rows,
    p.operand.jams (cell row p.column) = true

/-- The rows that satisfy a filter, in their order. -/
def satisfying (predicate : Option Predicate) (rows : List Row) : List Row :=
  match predicate with
  | some p => rows.filter fun row => p.operand.equals (cell row p.column)
  | none => rows

/-- The first rows, if there is a limit. -/
def upTo (limit : Option Nat) (rows : List Row) : List Row :=
  match limit with
  | some n => rows.take n
  | none => rows

/-- What a query of rows means: the rows of the table that satisfy the filter, up to the limit. -/
def meaning (q : StructuredQuery) (rows : List Row) : List Row :=
  upTo q.limit (satisfying q.predicate rows)

/-! ## Filters -/

variable {rows : List Row} {q : StructuredQuery}

theorem keep_operand (operand : Operand) (column : String) (rows : List Row) :
    keep (fun row => (cell row column).same operand.value) rows =
      if rows.any (fun row => operand.jams (cell row column)) then .error .undefinedDecimal
      else .ok (rows.filter fun row => operand.equals (cell row column)) := by
  induction rows with
  | nil => rfl
  | cons row rest ih =>
    unfold keep
    rw [Value.same_operand, ih]
    cases hjam : operand.jams (cell row column) with
    | true => simp [hjam]; rfl
    | false =>
      cases hrest : rest.any fun row => operand.jams (cell row column) with
      | true => simp [hjam, hrest]; rfl
      | false =>
        cases hequal : operand.equals (cell row column) <;> simp [hjam, hrest, hequal] <;> rfl

theorem knowsColumn_eq_false {column : String} :
    knowsColumn rows (some column) = false ↔
      rows ≠ [] ∧ ∀ row ∈ rows, Row.has row column = false := by
  simp [knowsColumn]

theorem filter_some (table : String) (p : Predicate) (rows : List Row) :
    filter table (some p) rows =
      if knowsColumn rows (some p.column) then
        if rows.any (fun row => p.operand.jams (cell row p.column)) then
          .error (.mishap (.incomparable .undefinedDecimal))
        else .ok (satisfying (some p) rows)
      else .error (.failure (unknownColumn table (some p.column))) := by
  simp only [filter, requireColumn, keep_operand]
  cases knowsColumn rows (some p.column) with
  | false => rfl
  | true => cases rows.any fun row => p.operand.jams (cell row p.column) <;> rfl

theorem limited_upTo (limit : Option Nat) (rows : List Row) :
    limited (limit.map Int.ofNat) rows = upTo limit rows := by
  cases limit with
  | none => rfl
  | some n => exact Text.cutList_nonneg rows n

/-! ## Selections -/

/-- A query for all columns in no order is answered by its filter and its limit. -/
theorem select_allColumns (hq : AllColumns q) (s : MemoryStore) :
    s.select q.selection = do
      let rows ← s.rows q.table
      let rows ← filter q.table q.predicate rows
      return upTo q.limit rows := by
  unfold MemoryStore.select
  simp only [StructuredQuery.selection, hq.columns, hq.orderBy, arrange, project, limited_upTo]
  rfl

/-- The ways in which a query of rows is answered. -/
inductive Answered (tables : List (String × List Row)) (q : StructuredQuery) :
    Except Trouble (List Row) → Prop
  | refused {f : Failure} (h : Refused tables q) (hkind : f.kind = .backendExecution)
    (hfinal : f.retryable = .bool false) : Answered tables q (.error (.failure f))
  | jammed (h : ¬ Refused tables q) (hjams : Jams tables q) :
    Answered tables q (.error (.mishap (.incomparable .undefinedDecimal)))
  | rows {rows : List Row} (h : ¬ Refused tables q) (hjams : ¬ Jams tables q)
    (htable : Row.get? tables q.table = some rows) : Answered tables q (.ok (meaning q rows))

section Table

variable {tables : List (String × List Row)}

/-- Where there is a table, a query is refused by its filter. -/
theorem refused_iff (htable : Row.get? tables q.table = some rows) :
    Refused tables q ↔ ∃ p ∈ q.predicate, knowsColumn rows (some p.column) = false := by
  constructor
  · rintro (hnone | ⟨hrows, hp, hsome, hlacks⟩)
    · rw [htable] at hnone
      cases hnone
    · rw [htable] at hrows
      cases hrows
      exact ⟨_, hp, knowsColumn_eq_false.2 ⟨hsome, hlacks⟩⟩
  · rintro ⟨p, hp, hknown⟩
    obtain ⟨hsome, hlacks⟩ := knowsColumn_eq_false.1 hknown
    exact .column htable hp hsome hlacks

/-- Where there is a table, a query jams on one of its rows. -/
theorem jams_iff (htable : Row.get? tables q.table = some rows) :
    Jams tables q ↔
      ∃ p ∈ q.predicate, rows.any (fun row => p.operand.jams (cell row p.column)) = true := by
  simp [Jams, htable]

end Table

/-- **A query of rows is answered by its meaning**, unless it is refused or jams. -/
theorem select_answered (hq : AllColumns q) (s : MemoryStore) :
    Answered s.tables q (s.select q.selection) := by
  rw [select_allColumns hq]
  unfold MemoryStore.rows
  cases htable : Row.get? s.tables q.table with
  | none => exact .refused (.table htable) rfl rfl
  | some rows =>
    cases hp : q.predicate with
    | none =>
      have hmeaning : meaning q rows = upTo q.limit rows := by simp [meaning, satisfying, hp]
      show Answered s.tables q (.ok (upTo q.limit rows))
      rw [← hmeaning]
      exact .rows (by simp [refused_iff htable, hp]) (by simp [jams_iff htable, hp]) htable
    | some p =>
      show Answered s.tables q ((do
        let kept ← filter q.table (some p) rows
        return upTo q.limit kept : Except Trouble (List Row)))
      rw [filter_some]
      cases hknown : knowsColumn rows (some p.column) with
      | false => exact .refused ((refused_iff htable).2 ⟨p, hp, hknown⟩) rfl rfl
      | true =>
        have hopen : ¬ Refused s.tables q := by simp [refused_iff htable, hp, hknown]
        cases hjams : rows.any fun row => p.operand.jams (cell row p.column) with
        | true => exact .jammed hopen ((jams_iff htable).2 ⟨p, hp, hjams⟩)
        | false =>
          have hmeaning : meaning q rows = upTo q.limit (satisfying (some p) rows) := by
            rw [meaning, hp]
          show Answered s.tables q (.ok (upTo q.limit (satisfying (some p) rows)))
          rw [← hmeaning]
          exact .rows hopen (by simpa [jams_iff htable, hp] using hjams) htable

/-! ## Executions -/

section Execution

variable {w : World MemoryStore} {text : String} {rule : Rule} {f : Failure}

theorem rawExecute_absent (habsent : w.remote.execute text = .error (.failure f)) :
    ∃ w₁, adapter.rawExecute false text w = (.error (.failure f), w₁) ∧
      w₁.remote.tables = w.remote.tables := by
  obtain ⟨w₁, hcall, hcalled⟩ := @rawExecute_free false w text rfl
  refine ⟨w₁, ?_, by rw [hcalled.remote]; rfl⟩
  rw [hcall, habsent]

theorem structuredQuery_answer (q : StructuredQuery) (w : World MemoryStore) :
    (adapter.structuredQuery false q.selection w).1 = w.remote.select q.selection := by
  obtain ⟨w₁, hcall, -⟩ := @structuredQuery_free false w q.selection rfl
  rw [hcall]

/-- Over tables that cannot execute the text, an unguarded call ends with what becomes of its
translation over the same tables. -/
theorem execute_translated {ρ : Type} (sink : Sink ρ) (schema : Option Schema) (freshId : String)
    (call : Call) (w : World MemoryStore) (reports : ρ)
    (hv : Validation.validateWide call.query = .ok (.whole text)) (hfree : call.guarded = false)
    (habsent : w.remote.execute text = .error (.failure f)) (hkind : f.kind = .capabilityAbsent) :
    ∃ w₁ before, w₁.remote.tables = w.remote.tables ∧
      ((⟨adapter, sink, schema⟩ : Engine MemoryStore ρ).execute freshId call w reports).1 =
        translated adapter text w₁ before := by
  obtain ⟨w₁, hraw, htables⟩ := rawExecute_absent habsent
  have hrecoverable : (Trouble.failure f).isRecoverable = true := by
    simp [Trouble.isRecoverable, hkind, FailureKind.isRecoverable]
  obtain ⟨before, hbefore⟩ := (execute_conduct ⟨adapter, sink, schema⟩ freshId call w
    reports).answered hfree hv hraw hrecoverable
  exact ⟨w₁, before, htables, hbefore⟩

/-- If a star rule reads a query from the text, that is the answer to the query. -/
theorem execute_ways {ρ : Type} (sink : Sink ρ) (schema : Option Schema) (freshId : String)
    (call : Call) (w : World MemoryStore) (reports : ρ)
    (hv : Validation.validateWide call.query = .ok (.whole text)) (hrule : rule ∈ starRules)
    (hq : rule.apply text = .ok (some q)) (hfree : call.guarded = false)
    (habsent : w.remote.execute text = .error (.failure f)) (hkind : f.kind = .capabilityAbsent) :
    ∃ answer, Answered w.remote.tables q answer ∧
      ((⟨adapter, sink, schema⟩ : Engine MemoryStore ρ).execute freshId call w reports).1 =
        answer.map (fallbackResult rule) := by
  obtain ⟨htr, hall⟩ := translate_of_apply hrule hq
  obtain ⟨w₁, before, htables, houtcome⟩ :=
    execute_translated sink schema freshId call w reports hv hfree habsent hkind
  refine ⟨w₁.remote.select q.selection, ?_, ?_⟩
  · rw [← htables]
    exact select_answered hall w₁.remote
  · simp only [houtcome, translated, htr, executeStructured, hall.aggregate, structuredQuery_answer,
      World.logged_remote]

end Execution

/-- **Fallback answers mean what the query says.**  Let the tables lack the execution of query
texts, and let an unguarded call hold a text from which a star rule reads a query.  The call fails
exactly if the query is refused, and then for good; otherwise it gives the rows that the query
means, under the name of the rule, unless one of the cells jams.  But if a half of a surrogate pair
stands alone in the text, it never comes to that. -/
theorem execute_answered {ρ : Type} (sink : Sink ρ) (schema : Option Schema) (freshId : String)
    (call : Call) (w : World MemoryStore) (reports : ρ) {text : WideText} {rule : Rule}
    {q : StructuredQuery} {absence : Failure}
    (hv : Validation.validateWide call.query = .ok text) (hrule : rule ∈ starRules)
    (hq : rule.apply text.plain = .ok (some q)) (hfree : call.guarded = false)
    (habsent : w.remote.execute text.plain = .error (.failure absence))
    (hkind : absence.kind = .capabilityAbsent) :
    let outcome :=
      ((⟨adapter, sink, schema⟩ : Engine MemoryStore ρ).execute freshId call w reports).1
    match text with
    | .broken .. => outcome = .error (.mishap brokenText)
    | .whole _ =>
      ((∃ f, outcome = .error (.failure f)) ↔ Refused w.remote.tables q) ∧
      (∀ f, outcome = .error (.failure f) →
        f.kind = .backendExecution ∧ f.retryable = .bool false) ∧
      (¬ Refused w.remote.tables q → ¬ Jams w.remote.tables q →
        ∃ rows, Row.get? w.remote.tables q.table = some rows ∧
          outcome = .ok ⟨meaning q rows, (meaning q rows).length, .fallback, some rule.name⟩) ∧
      (¬ Refused w.remote.tables q → Jams w.remote.tables q →
        outcome = .error (.mishap (.incomparable .undefinedDecimal))) := by
  intro outcome
  cases text with
  | broken codes half =>
    have houtcome : outcome = unsent (call.guarded && w.token.cancelled) :=
      ((execute_conduct ⟨adapter, sink, schema⟩ freshId call w reports).withheld hv).1
    rw [houtcome, hfree]
    rfl
  | whole text =>
    obtain ⟨answer, hanswered, houtcome⟩ : ∃ answer, Answered w.remote.tables q answer ∧
        outcome = answer.map (fallbackResult rule) :=
      execute_ways sink schema freshId call w reports hv hrule hq hfree habsent hkind
    dsimp only
    rw [houtcome]
    -- each way of an answer settles all four statements
    cases hanswered with
    | @refused f hrefused hkind' hfinal =>
      refine ⟨⟨fun _ => hrefused, fun _ => ⟨f, rfl⟩⟩, ?_, fun h => (h hrefused).elim,
        fun h => (h hrefused).elim⟩
      rintro g ⟨⟩
      exact ⟨hkind', hfinal⟩
    | jammed hopen hjams =>
      exact ⟨⟨nofun, fun h => (hopen h).elim⟩, nofun, fun _ h => (h hjams).elim, fun _ _ => rfl⟩
    | @rows rows hopen hjams htable =>
      exact ⟨⟨nofun, fun h => (hopen h).elim⟩, nofun, fun _ _ => ⟨rows, htable, rfl⟩,
        fun _ h => (hjams h).elim⟩

/-! ## Two stores -/

/-- A store with one table that cannot execute query texts. -/
def tableOnly (name : String) (rows : List Row) : MemoryStore :=
  ⟨[(name, rows)], none, none, [], []⟩

/-- What an unguarded call with a text comes to over a store. -/
def outcomeOver (s : MemoryStore) (text : WideText) : Except Trouble QueryResult :=
  ((⟨adapter, fun _ state => (.ok (), state), none⟩ : Engine MemoryStore Unit).execute "c-1"
    ⟨some text, false, none⟩ ⟨.fresh, [], s⟩ ()).1

/-- One in five kinds, and a row without it. -/
def manyOnes : List Row :=
  [[("n", .bool true)], [("n", .text "1")], [("id", .int 1)], [("n", .int 1)],
    [("n", .decimal (.finite false 100 (-2)))], [("n", .float (.finite false 1 0))]]

/-- The first three rows with a one. -/
def firstOnes : StructuredQuery :=
  { table := "items", predicate := some ⟨"n", .int 1⟩, limit := some 3 }

theorem meaning_firstOnes : meaning firstOnes manyOnes =
    [[("n", .bool true)], [("n", .int 1)], [("n", .decimal (.finite false 100 (-2)))]] := by
  have hkept : ∀ cell ∈ [Value.bool true, .int 1, .decimal (.finite false 100 (-2))],
      (Operand.int 1).equals cell = true := by
    norm_num [Operand.equals, Operand.value, Value.amount?, Decimal.amount?]
  have hdropped : ∀ cell ∈ [Value.text "1", .null], (Operand.int 1).equals cell = false := by
    simp [Operand.equals, Value.amount?]
  simp [meaning, satisfying, upTo, firstOnes, manyOnes, cell, Row.get?, hkept, hdropped]

/-- All numbers that are one satisfy the filter, a text does not, and the limit counts only those
that satisfy it. -/
theorem execute_answered_ones :
    outcomeOver (tableOnly "items" manyOnes) "SELECT * FROM Items WHERE N = 1 LIMIT 3;" =
      .ok ⟨[[("n", .bool true)], [("n", .int 1)], [("n", .decimal (.finite false 100 (-2)))]], 3,
        .fallback, some "where_number"⟩ := by
  obtain ⟨-, -, hrows, -⟩ := @execute_answered Unit (fun _ state => (.ok (), state)) none "c-1"
    ⟨some "SELECT * FROM Items WHERE N = 1 LIMIT 3;", false, none⟩
    ⟨.fresh, [], tableOnly "items" manyOnes⟩ () "SELECT * FROM Items WHERE N = 1 LIMIT 3"
    .whereNumber firstOnes noExecution
    (by decide +kernel) (by decide) (by decide +kernel) rfl rfl rfl
  have htable : Row.get? (tableOnly "items" manyOnes).tables firstOnes.table = some manyOnes := rfl
  have hopen : ¬ Refused (tableOnly "items" manyOnes).tables firstOnes := by
    rw [refused_iff htable]
    decide
  have hcalm : ¬ Jams (tableOnly "items" manyOnes).tables firstOnes := by
    rw [jams_iff htable]
    decide
  obtain ⟨rows, hget, houtcome⟩ := hrows hopen hcalm
  rw [htable] at hget
  cases hget
  rw [outcomeOver, houtcome, meaning_firstOnes]
  rfl

/-- A store whose one cell is a signaling decimal. -/
def signalingStore : MemoryStore :=
  tableOnly "t" [[("x", .decimal (.undefined false true 0))]]

/-- The rows with a one in that cell. -/
def signalingQuery : StructuredQuery :=
  { table := "t", predicate := some ⟨"x", .int 1⟩ }

theorem signalingQuery_jams :
    ¬ Refused signalingStore.tables signalingQuery ∧ Jams signalingStore.tables signalingQuery := by
  have htable : Row.get? signalingStore.tables signalingQuery.table =
    some [[("x", .decimal (.undefined false true 0))]] := rfl
  rw [refused_iff htable, jams_iff htable]
  decide

/-- A limit with too many digits ends the call, whatever the rows. -/
theorem outcomeOver_longLimit {n : ℕ} (hn : maxDigits < n) (rows : List Row) :
    outcomeOver (tableOnly "t" rows) (longLimit n) =
      .error (.mishap (.numeral (.tooManyDigits n))) := by
  obtain ⟨w₁, before, -, houtcome⟩ := execute_translated (fun _ state => (.ok (), state)) none "c-1"
    ⟨some (longLimit n), false, none⟩ ⟨.fresh, [], tableOnly "t" rows⟩ ()
    (Validation.validateWide_eq_whole.2 ⟨_, rfl, validate_longLimit (Nat.zero_lt_of_lt hn)⟩) rfl rfl
    rfl
  simp only [outcomeOver, houtcome, translated, translate_longLimit hn]

/-- An accepted text with a half ends the call, whatever the store. -/
theorem outcomeOver_withheld {text : WideText} {codes : List Nat}
    {half : codes.any Text.isHalf = true}
    (hv : Validation.validateWide (some text) = .ok (.broken codes half)) (s : MemoryStore) :
    outcomeOver s text = .error (.mishap brokenText) :=
  ((execute_conduct ⟨adapter, fun _ state => (.ok (), state), none⟩ "c-1"
    ⟨some text, false, none⟩ ⟨.fresh, [], s⟩ ()).withheld hv).1

/-- A filter for a text with a half. -/
def halfFilter : WideText :=
  withHalf "SELECT * FROM t WHERE x = '"

/-- The rows that its plain text asks for. -/
def halfQuery : StructuredQuery :=
  { table := "t", predicate := some ⟨"x", .text "\uFFFD"⟩ }

/-- Three calls give no rows, and fail with no failure of a backend either, although their table is
there and has the column: a number in a filter jams on a signaling decimal, a limit with too many
digits cannot be read, and a text with a half is withheld from the backend. -/
theorem execute_exceptions :
    (Validation.validate (some "SELECT * FROM t WHERE x = 1") = .ok "SELECT * FROM t WHERE x = 1" ∧
      Rule.whereNumber.apply "SELECT * FROM t WHERE x = 1" = .ok (some signalingQuery) ∧
      ¬ Refused signalingStore.tables signalingQuery ∧
      outcomeOver signalingStore "SELECT * FROM t WHERE x = 1" =
        .error (.mishap (.incomparable .undefinedDecimal))) ∧
    (Validation.validate (some (longLimit 4301)) = .ok (longLimit 4301) ∧
      Shape.selectAll (Lexeme.scan (longLimit 4301).toList) =
        some ("t".toList, some (ones 4301)) ∧
      outcomeOver signalingStore (longLimit 4301) =
        .error (.mishap (.numeral (.tooManyDigits 4301)))) ∧
    (Validation.validateWide (some halfFilter) = .ok halfFilter ∧
      Rule.whereString.apply halfFilter.plain = .ok (some halfQuery) ∧
      ¬ Refused signalingStore.tables halfQuery ∧
      outcomeOver signalingStore halfFilter = .error (.mishap brokenText)) := by
  have hv : Validation.validate (some "SELECT * FROM t WHERE x = 1") =
    .ok "SELECT * FROM t WHERE x = 1" := by decide +kernel
  have hq : Rule.whereNumber.apply "SELECT * FROM t WHERE x = 1" = .ok (some signalingQuery) := by
    decide +kernel
  have hbroken : Validation.validateWide (some halfFilter) = .ok halfFilter := by decide +kernel
  have htable : Row.get? signalingStore.tables halfQuery.table =
    some [[("x", .decimal (.undefined false true 0))]] := rfl
  obtain ⟨hopen, hjams⟩ := signalingQuery_jams
  have hdigits : maxDigits < 4301 := by decide
  have hsome : 0 < 4301 := by decide
  refine ⟨⟨hv, hq, hopen, ?_⟩, ⟨validate_longLimit hsome, selectAll_longLimit hsome,
    outcomeOver_longLimit hdigits _⟩, hbroken, by decide +kernel, ?_, ?_⟩
  · obtain ⟨answer, hanswered, houtcome⟩ := execute_ways (fun _ state => (.ok (), state)) none "c-1"
      ⟨some "SELECT * FROM t WHERE x = 1", false, none⟩ ⟨.fresh, [], signalingStore⟩ ()
      (Validation.validateWide_eq_whole.2 ⟨_, rfl, hv⟩) (by decide) hq rfl rfl rfl
    rw [outcomeOver, houtcome]
    cases hanswered with
    | refused hrefused => exact (hopen hrefused).elim
    | jammed => rfl
    | rows hopen' hcalm => exact (hcalm hjams).elim
  · rw [refused_iff htable]
    decide
  · exact outcomeOver_withheld hbroken signalingStore

end ReadGate.Memory
