import ReadGate.Proofs.Engine.Groups
import ReadGate.Proofs.Engine.Yield
import ReadGate.Proofs.Memory.Columns
import ReadGate.Proofs.Memory.Failures
import ReadGate.Proofs.Rule.Integers
import ReadGate.Proofs.Value.Decoding

/-!
# What escapes the tables in memory

A call over tables of JSON values ends with rows or in a failure of the engine's own, with two
exceptions, and both need a text that the tables cannot execute.  The text holds an integer with too
many digits, or it asks for a grouped count of a column in which a list or a record stands.

* `Value.isContainer`, `obstacle?_of_isJson` — of JSON values, lists and records cannot be grouped.
* `HoldsJson`, `select_typed` — a selection from tables of JSON values never jams.
* `Ungroupable`, `structured_escapes_iff` — the answers to structured queries.
* `FallsBack`, `Escapes` — a text that the tables cannot execute, and what its translation leads to.
* `execute_typed` — all calls.
-/

namespace ReadGate

/-! ## JSON values -/

namespace Value

variable {v : Value}

/-- Is the value a list or a record? -/
def isContainer : Value → Bool
  | list _ | record _ => true
  | _ => false

theorem unhashable?_of_isJson (h : v.isJson = true) :
    v.unhashable? = if v.isContainer then some (.kind v.kind) else none := by
  cases v with
  | null | bool _ | int _ | float _ | text _ | halves _ | list _ | record _ =>
    simp [unhashable?, isContainer, kind]
  | _ => cases h

theorem isSignaling_of_isJson (h : v.isJson = true) : v.isSignaling = false := by
  cases v <;> first | rfl | cases h

end Value

namespace Grouping

/-- The first list or record keeps JSON values from being grouped. -/
theorem obstacle?_of_isJson {values : List Value} (h : ∀ v ∈ values, v.isJson = true) :
    obstacle? values = (values.find? Value.isContainer).map fun v => .kind v.kind := by
  induction values with
  | nil => rfl
  | cons v rest ih =>
    obtain ⟨hv, hrest⟩ := List.forall_mem_cons.1 h
    rw [obstacle?, List.findSome?_cons, Value.unhashable?_of_isJson hv, List.find?_cons]
    cases v.isContainer with
    | true => rfl
    | false => exact ih hrest

end Grouping

/-- Grouping ends in a mishap if something keeps the values from it, unless it is stopped before. -/
theorem Engine.grouping_escapes_iff {stopped : Bool} {values : List Value} {m : Mishap} :
    grouping stopped values = .error (.mishap m) ↔
      stopped = false ∧ ∃ why, Grouping.obstacle? values = some why ∧ m = .unhashable why := by
  unfold grouping
  cases stopped with
  | true => simp
  | false => cases Grouping.obstacle? values <;> simp [eq_comm]

theorem map_eq_error_iff {α β ε : Type} {f : α → β} {x : Except ε α} {e : ε} :
    x.map f = .error e ↔ x = .error e := by
  cases x <;> simp [Except.map]

namespace Memory

open Engine Grammar Lexeme MemoryStore Run

/-! ## Tables of JSON values -/

/-- All cells of all tables are JSON values. -/
def HoldsJson (tables : List (String × List Row)) : Prop :=
  ∀ t ∈ tables, ∀ row ∈ t.2, Value.allJsonFields row = true

variable {s : MemoryStore} {q : StructuredQuery} {table : String} {rows : List Row}

theorem HoldsJson.cell (hs : HoldsJson s.tables) (htable : Row.get? s.tables table = some rows)
    {row : Row} (hrow : row ∈ rows) (column : String) : (cell row column).isJson = true := by
  obtain ⟨t, ht, rfl⟩ := Row.mem_of_get? htable
  exact Value.isJson_of_get? (hs t ht row hrow) column

theorem HoldsJson.column (hs : HoldsJson s.tables) (htable : Row.get? s.tables table = some rows)
    (column : String) : ∀ v ∈ rows.map fun row => MemoryStore.cell row column, v.isJson = true :=
  List.forall_mem_map.2 fun _ hrow => hs.cell htable hrow column

theorem HoldsJson.calm (hs : HoldsJson s.tables) (htable : Row.get? s.tables table = some rows)
    (predicate : Option Predicate) : ¬ JamsOn predicate rows := by
  rintro ⟨p, -, hjam⟩
  obtain ⟨row, hrow, hjam⟩ := List.any_eq_true.1 hjam
  rw [Operand.jams, Value.isSignaling_of_isJson (hs.cell htable hrow p.column), Bool.and_false]
    at hjam
  cases hjam

/-- **A selection from tables of JSON values never jams.** -/
theorem select_typed (hs : HoldsJson s.tables) (hq : q.orderBy = none) (m : Mishap) :
    s.select q.selection ≠ .error (.mishap m) := by
  unfold StructuredQuery.selection
  cases htable : Row.get? s.tables q.table with
  | none =>
    simp only [MemoryStore.select, MemoryStore.rows, htable]
    rintro ⟨⟩
  | some rows =>
    rw [hq, select_stages htable]
    by_cases hknown : ∀ p ∈ q.predicate, ¬ Missing rows p.column
    · rw [filter_calm hknown (hs.calm htable q.predicate)]
      show project q.table q.columns _ ≠ _
      rw [project_eq]
      split <;> rintro ⟨⟩
    · simp only [not_forall, not_not] at hknown
      obtain ⟨p, hp, hmissing⟩ := hknown
      rw [hp, filter_some, if_neg fun hknows => knowsColumn_iff.1 hknows hmissing]
      rintro ⟨⟩

/-! ## Grouped counts -/

/-- The first list or record in a column. -/
def firstContainer? (rows : List Row) (column : String) : Option Value :=
  (rows.map fun row => cell row column).find? Value.isContainer

/-- The query asks for a grouped count of a column in which a list or a record stands. -/
inductive Ungroupable (tables : List (String × List Row)) (q : StructuredQuery) : Mishap → Prop
  | intro {rows : List Row} {column : String} {v : Value} (hq : q.aggregate = .groupCount)
    (htable : Row.get? tables q.table = some rows) (hcolumn : q.groupBy = some column)
    (hv : firstContainer? rows column = some v) :
    Ungroupable tables q (.unhashable (.kind v.kind))

theorem Ungroupable.aggregate {tables : List (String × List Row)} {m : Mishap}
    (h : Ungroupable tables q m) : q.aggregate = .groupCount := by
  cases h
  assumption

/-- A column in which a list or a record stands is one that the rows have. -/
theorem knowsColumn_of_firstContainer {column : String} {v : Value}
    (hv : firstContainer? rows column = some v) : knowsColumn rows (some column) = true := by
  obtain ⟨row, hrow, rfl⟩ := List.mem_map.1 (List.mem_of_find?_eq_some hv)
  have hcontainer : (cell row column).isContainer = true := List.find?_some hv
  rw [knowsColumn_iff]
  rintro ⟨-, hlacks⟩
  have hget : Row.get? row column = none := by
    simpa [Row.get?, Row.has] using hlacks row hrow
  rw [MemoryStore.cell, hget] at hcontainer
  cases hcontainer

/-- The values of a column are those of its cells, if the rows know the column. -/
theorem values_eq (htable : Row.get? s.tables table = some rows) (column : Option String) :
    s.values table column =
      if knowsColumn rows column then
        .ok (rows.map fun row => (column.map (cell row)).getD .null)
      else .error (.failure (unknownColumn table column)) := by
  simp only [MemoryStore.values, MemoryStore.rows, htable, requireColumn]
  cases hknows : knowsColumn rows column <;> simp only [bind, Except.bind, hknows] <;> rfl

/-- The values of a column cannot be grouped if a list or a record is among them. -/
theorem values_ungroupable_iff (hs : HoldsJson s.tables) (hq : q.aggregate = .groupCount)
    {m : Mishap} :
    (∃ values why, s.values q.table q.groupBy = .ok values ∧
      Grouping.obstacle? values = some why ∧ m = .unhashable why) ↔ Ungroupable s.tables q m := by
  constructor
  · rintro ⟨values, why, hvalues, hwhy, rfl⟩
    cases htable : Row.get? s.tables q.table with
    | none =>
      simp only [MemoryStore.values, MemoryStore.rows, htable] at hvalues
      cases hvalues
    | some rows =>
      rw [values_eq htable] at hvalues
      split at hvalues <;> cases hvalues
      cases hcolumn : q.groupBy with
      | none =>
        -- without a column all values are null
        have hnone : Grouping.obstacle? (rows.map fun _ => Value.null) = none := by
          simp [Grouping.obstacle?, Value.unhashable?]
        rw [hcolumn] at hwhy
        cases hnone.symm.trans hwhy
      | some column =>
        have hobstacle := Grouping.obstacle?_of_isJson (hs.column htable column)
        rw [hcolumn] at hwhy
        obtain ⟨v, hv, rfl⟩ := Option.map_eq_some_iff.1 (hobstacle.symm.trans hwhy)
        exact .intro hq htable hcolumn hv
  · rintro @⟨rows, column, v, -, htable, hcolumn, hv⟩
    refine ⟨rows.map fun row => cell row column, .kind v.kind, ?_, ?_, rfl⟩
    · rw [values_eq htable, hcolumn, if_pos (knowsColumn_of_firstContainer hv)]
      rfl
    · rw [Grouping.obstacle?_of_isJson (hs.column htable column)]
      exact congrArg (Option.map fun v => Unhashable.kind v.kind) hv

/-! ## Calls -/

variable {guarded : Bool} {w w' : World MemoryStore} {record : MemoryCall} {m : Mishap}

theorem count_typed (s : MemoryStore) (table : String) :
    (s.rows table).map (fun rows => (rows.length : Int)) ≠ .error (.mishap m) := by
  unfold MemoryStore.rows
  split <;> rintro ⟨⟩

theorem values_typed (s : MemoryStore) (table : String) (column : Option String) :
    s.values table column ≠ .error (.mishap m) := by
  cases htable : Row.get? s.tables table with
  | none =>
    simp only [MemoryStore.values, MemoryStore.rows, htable]
    rintro ⟨⟩
  | some rows =>
    rw [values_eq htable]
    split <;> rintro ⟨⟩

/-- **What escapes the answer to a structured query**: a grouped count that is not stopped is tried
on values that cannot be grouped. -/
theorem structured_escapes_iff (hs : HoldsJson w.remote.tables) (hq : q.orderBy = none)
    (hfree : (guarded && w.token.cancelled) = false) :
    (executeStructured adapter guarded q w).1 = .error (.mishap m) ↔
      (guarded && w.remote.cancelling.contains .columnValues) = false ∧
        Ungroupable w.remote.tables q m := by
  cases haggregate : q.aggregate with
  | rows =>
    refine iff_of_false ?_ fun h => by simp [h.2.aggregate] at haggregate
    obtain ⟨w₁, hcall, -⟩ := structuredQuery_free q.selection hfree
    simp only [executeStructured, haggregate, hcall]
    exact select_typed hs hq m
  | count =>
    refine iff_of_false ?_ fun h => by simp [h.2.aggregate] at haggregate
    obtain ⟨w₁, hcall, -⟩ := count_free q.table hfree
    have htyped := @count_typed m w.remote q.table
    simp only [executeStructured, haggregate, bind_apply, hcall]
    cases hcount : (w.remote.rows q.table).map fun rows => (rows.length : Int) with
    | ok total => rintro ⟨⟩
    | error trouble =>
      rintro ⟨⟩
      exact htyped hcount
  | groupCount =>
    obtain ⟨w₁, hcall, hcalled⟩ := columnValues_free q.table q.groupBy hfree
    have htyped := @values_typed m w.remote q.table q.groupBy
    rw [executeStructured_groups adapter guarded haggregate, hcall, hcalled.stops,
      ← values_ungroupable_iff hs haggregate, map_eq_error_iff]
    cases hvalues : w.remote.values q.table q.groupBy with
    | error trouble =>
      refine iff_of_false ?_ (by rintro ⟨-, _, _, ⟨⟩, -⟩)
      rintro ⟨⟩
      exact htyped hvalues
    | ok values =>
      show grouping _ values = _ ↔ _
      rw [grouping_escapes_iff]
      simp only [Except.ok.injEq, exists_and_left, exists_eq_left', capabilityOf]

/-! ## Executions -/

/-- A call comes to the fallback with the text: the tables cannot execute it, and nothing stops the
call before or after this is tried. -/
structure FallsBack (guarded : Bool) (w : World MemoryStore) (text : String) : Prop where
  free : (guarded && w.token.cancelled) = false
  unable : ∃ f, w.remote.execute text = .error (.failure f) ∧ f.kind.isRecoverable = true
  unstopped : (guarded && w.remote.cancelling.contains .rawExecute) = false

/-- What a text leads to that comes to the fallback: an integer in it is too long, or it asks for a
grouped count of values that cannot be grouped, and nothing stops the call before this is tried. -/
inductive Escapes (guarded : Bool) (s : MemoryStore) (text : String) : Mishap → Prop
  | overlong {rule : Rule} {digits : Shape.Name}
    (h : overlong? (integers rule (scan text.toList)) = some digits) :
    Escapes guarded s text (.numeral (.tooManyDigits digits.length))
  | ungroupable {q : StructuredQuery} {m : Mishap}
    (hq : Rule.groupCount.apply text = .ok (some q)) (h : Ungroupable s.tables q m)
    (hstop : (guarded && s.cancelling.contains .columnValues) = false) : Escapes guarded s text m

/-- What the fallback lets escape is a mishap of the program. -/
theorem Escapes.isOwn {guarded : Bool} {s : MemoryStore} {text : String} {m : Mishap}
    (h : Escapes guarded s text m) : m.IsOwn := by
  cases h with
  | overlong h => exact nofun
  | ungroupable hq h hstop =>
    cases h
    exact nofun

/-- The failure rejects the text, or says that it is not supported; or it is one of a backend, or a
cancellation. -/
def EndsCall (f : Failure) : Prop :=
  f.kind.isValidation = true ∨ f.kind.isBackend = true ∨ f.kind = .unsupportedPattern ∨
    f.kind = .cancelled

section Execution

variable {ρ : Type} {e : Engine MemoryStore ρ} {call : Call} {text : String} {trouble : Trouble}

/-- A call that comes to the fallback has only been recorded by then. -/
theorem fallsBack_of_rawExecute (hfree : (guarded && w.token.cancelled) = false)
    (hraw : adapter.rawExecute guarded text w = (.error trouble, w'))
    (ht : trouble.isRecoverable = true) (hopen : (guarded && w'.token.cancelled) = false) :
    FallsBack guarded w text ∧ Called guarded w (.raw text) w' := by
  obtain ⟨w₁, hreply, hcalled⟩ := rawExecute_free text hfree
  rw [hraw, Prod.mk.injEq] at hreply
  obtain ⟨hexecute, rfl⟩ := hreply
  cases trouble with
  | mishap m => cases ht
  | failure f =>
    refine ⟨⟨hfree, ⟨f, hexecute.symm, ht⟩, ?_⟩, hcalled⟩
    rw [hcalled.stops] at hopen
    exact hopen

/-- What was prepared for a text is no mishap, if no mishap was prepared. -/
theorem execute_prepared {s : MemoryStore}
    (htrouble : ∀ trouble ∈ s.trouble, ∃ f, trouble = .failure f) (text : String) :
    s.execute text ≠ .error (.mishap m) := by
  unfold MemoryStore.execute
  split
  · rename_i hprepared
    obtain ⟨f, rfl⟩ := htrouble _ hprepared
    nofun
  · nofun
  · split <;> nofun

/-- What the tables let escape is the same after the call that came to the fallback. -/
theorem fallback_escapes_iff (hs : HoldsJson w.remote.tables) (hq : q.orderBy = none)
    (hcalled : Called guarded w (.raw text) w') (hopen : (guarded && w'.token.cancelled) = false)
    (before : List LogLine) :
    (executeStructured adapter guarded q (w'.logged before)).1 = .error (.mishap m) ↔
      (guarded && w.remote.cancelling.contains .columnValues) = false ∧
        Ungroupable w.remote.tables q m := by
  have hs' : HoldsJson (w'.logged before).remote.tables := by
    rw [World.logged_remote, hcalled.remote]
    exact hs
  have hopen' : (guarded && (w'.logged before).token.cancelled) = false := hopen
  rw [structured_escapes_iff hs' hq hopen', World.logged_remote, hcalled.remote]
  exact Iff.rfl

/-- Only the fallback lets anything escape. -/
theorem escapes_of_course {ticket : Ticket} (hs : HoldsJson w.remote.tables)
    (htrouble : ∀ trouble ∈ w.remote.trouble, ∃ f, trouble = .failure f)
    (h : Course adapter ticket text w (.error (.mishap m), w')) :
    FallsBack ticket.guarded w text ∧ Escapes ticket.guarded w.remote text m := by
  generalize houtcome : (.error (.mishap m) : Except Trouble QueryResult) = outcome at h
  cases h with
  | stopped hc => cases houtcome
  | generic lines hc hraw => cases houtcome
  | refused lines hc hraw ht =>
    cases houtcome
    obtain ⟨w₁, hreply, -⟩ := rawExecute_free text hc
    rw [hraw, Prod.mk.injEq] at hreply
    exact (execute_prepared htrouble text hreply.1.symm).elim
  | stoppedBetween lines hc hraw ht hc₁ => cases houtcome
  | unreadable lines hc hraw ht hc₁ htr =>
    cases houtcome
    obtain ⟨rule, digits, hdigits, rfl⟩ := translate_eq_error_iff.1 htr
    exact ⟨(fallsBack_of_rawExecute hc hraw ht hc₁).1, .overlong hdigits⟩
  | unsupported lines hc hraw ht hc₁ htr => cases houtcome
  | @fallback trouble w₁ w₂ rule q answer before after hc hraw ht hc₁ htr hq =>
    obtain ⟨hfalls, hcalled⟩ := fallsBack_of_rawExecute hc hraw ht hc₁
    have hanswer : (executeStructured adapter ticket.guarded q (w₁.logged before)).1 =
        .error (.mishap m) := by
      rw [hq]
      exact map_eq_error_iff.1 houtcome.symm
    obtain ⟨hstop, hungroupable⟩ := (fallback_escapes_iff hs (translate_namesOnly htr).unordered
      hcalled hc₁ before).1 hanswer
    have hgroup := translate_groupCount_iff.1 ⟨rule, htr, hungroupable.aggregate⟩
    exact ⟨hfalls, .ungroupable hgroup hungroupable hstop⟩

/-- And where the fallback does, that is what the call ends in. -/
theorem recovered_of_escapes (hs : HoldsJson w.remote.tables)
    (hcalled : Called guarded w (.raw text) w') (hopen : (guarded && w'.token.cancelled) = false)
    (before : List LogLine) (h : Escapes guarded w.remote text m) :
    recovered adapter guarded text w' before = .error (.mishap m) := by
  unfold recovered
  rw [hopen]
  cases h with
  | overlong hdigits =>
    rw [translate_eq_error_iff.2 ⟨_, _, hdigits, rfl⟩]
    rfl
  | @ungroupable q m hq hungroupable hstop =>
    obtain ⟨rule, htr, -⟩ := translate_groupCount_iff.2 hq
    have hanswer := (fallback_escapes_iff hs (translate_namesOnly htr).unordered hcalled hopen
      before).2 ⟨hstop, hungroupable⟩
    rw [htr]
    exact map_eq_error_iff.2 hanswer

/-- **What escapes a call whose text was accepted.** -/
theorem execute_escapes_iff (he : e.backend = adapter)
    (hv : Validation.validateWide call.query = .ok (.whole text)) (hs : HoldsJson w.remote.tables)
    (htrouble : ∀ trouble ∈ w.remote.trouble, ∃ f, trouble = .failure f) (freshId : String)
    (reports : ρ) :
    (e.execute freshId call w reports).1 = .error (.mishap m) ↔
      FallsBack call.guarded w text ∧ Escapes call.guarded w.remote text m := by
  obtain ⟨backend, sink, schema⟩ := e
  subst he
  have hconduct := execute_conduct ⟨adapter, sink, schema⟩ freshId call w reports
  generalize (Engine.execute ⟨adapter, sink, schema⟩ freshId call w reports).1 = outcome at hconduct
  generalize (Engine.execute ⟨adapter, sink, schema⟩ freshId call w reports).2.1 = w' at hconduct
  constructor
  · rintro rfl
    generalize hends : (.error (.mishap m) : Except Trouble QueryResult) = outcome at hconduct
    cases hconduct with
    | rejected lines hother | broken lines hother =>
      rw [hv] at hother
      cases hother
    | dispatched lines hother course =>
      rw [hv] at hother
      cases hother
      rw [← hends] at course
      exact escapes_of_course hs htrouble course
  · rintro ⟨hfalls, hescapes⟩
    obtain ⟨f, hexecute, hkind⟩ := hfalls.unable
    obtain ⟨w₁, hraw, hcalled⟩ := rawExecute_free text hfalls.free
    rw [hexecute] at hraw
    have hopen : (call.guarded && w₁.token.cancelled) = false := by
      rw [hcalled.stops]
      exact hfalls.unstopped
    have hrecoverable : (Trouble.failure f).isRecoverable = true := hkind
    obtain ⟨before, houtcome⟩ := hconduct.recovered hfalls.free hv hraw hrecoverable
    rw [houtcome]
    exact recovered_of_escapes hs hcalled hopen before hescapes

end Execution

/-! ## Failures -/

section Failures

variable {trouble : Option Trouble}

theorem endsCall_of_isBackend {f : Failure} (h : f.kind.isBackend = true) : EndsCall f :=
  .inr (.inl h)

theorem endsCall_cancelledBefore (stage : String) : EndsCall (.cancelledBefore stage) :=
  .inr (.inr (.inr rfl))

/-- What is answered from the tables fails as backends do. -/
theorem call_ends {α : Type} {answer : MemoryStore → Except Trouble α} (record : MemoryCall)
    (hanswer : ∀ s, EndsForGood (answer s)) :
    Confined (fun s => s.trouble = trouble) EndsCall
      (call (capabilityOf record) guarded record answer) := by
  refine call_confined endsCall_cancelledBefore record (fun _ h => h) fun s f _ hf => ?_
  obtain ⟨message, details, rfl⟩ := (hanswer s).permanent f hf
  exact endsCall_of_isBackend rfl

theorem rawExecute_ends
    (htrouble : ∀ t ∈ trouble, ∃ f, t = .failure f ∧ f.kind.isBackend = true) (text : String) :
    Confined (fun s => s.trouble = trouble) EndsCall (adapter.rawExecute guarded text) := by
  show Confined _ _ (call (capabilityOf (.raw text)) guarded (.raw text) (·.execute text))
  refine call_confined endsCall_cancelledBefore (.raw text) (fun _ h => h) fun s f hkept hf => ?_
  unfold MemoryStore.execute at hf
  split at hf
  · rename_i prepared hprepared
    cases hf
    obtain ⟨f', heq, hkind⟩ := htrouble _ (hkept.symm.trans hprepared)
    cases heq
    exact endsCall_of_isBackend hkind
  · cases hf
    exact endsCall_of_isBackend rfl
  · split at hf <;> cases hf
    exact endsCall_of_isBackend rfl

theorem structured_ends (q : StructuredQuery) :
    Confined (fun s => s.trouble = trouble) EndsCall (executeStructured adapter guarded q) :=
  executeStructured_keeps (Confined.closed endsCall_cancelledBefore)
    (call_ends (.select q.selection) fun s => (s.select_gives q.selection).endsForGood)
    (call_ends (.count q.table) fun s => (s.count_gives q.table).endsForGood)
    (call_ends (.values q.table q.groupBy) fun s => (s.values_gives q.table q.groupBy).endsForGood)

end Failures

/-! ## All calls -/

theorem unsent_ends {stopped : Bool} {f : Failure} (h : unsent stopped = .error (.failure f)) :
    EndsCall f := by
  unfold unsent at h
  split at h
  · cases h
    exact endsCall_cancelledBefore _
  · cases h

theorem unsent_mishap_iff {stopped : Bool} {m : Mishap} :
    unsent stopped = .error (.mishap m) ↔ stopped = false ∧ m = brokenText := by
  cases stopped <;> simp [unsent, eq_comm]

/-- **What escapes a call.**  Let the tables hold JSON values, and let any trouble that they are set
up with be a failure of a backend.  A call fails with a rejection of its text, with a failure of a
backend, because the text is not supported, or because it was cancelled.  It ends in something else
exactly if its text is accepted and one of these holds, and the call is not stopped before that: a
half of a surrogate pair stands alone in the text; or the text comes to the fallback, and either an
integer in it has too many digits, or it asks for a grouped count of a column in which a list or a
record stands.  And then this is what it ends in. -/
theorem execute_typed {ρ : Type} (sink : Sink ρ) (schema : Option Schema) (freshId : String)
    (call : Call) (w : World MemoryStore) (reports : ρ) (hs : HoldsJson w.remote.tables)
    (htrouble : ∀ t ∈ w.remote.trouble, ∃ f, t = .failure f ∧ f.kind.isBackend = true) :
    let outcome :=
      ((⟨adapter, sink, schema⟩ : Engine MemoryStore ρ).execute freshId call w reports).1
    (∀ f, outcome = .error (.failure f) → EndsCall f) ∧
    ∀ m, outcome = .error (.mishap m) ↔
      (∃ text, Validation.validateWide call.query = .ok (.whole text) ∧
        FallsBack call.guarded w text ∧ Escapes call.guarded w.remote text m) ∨
      ∃ codes half, Validation.validateWide call.query = .ok (.broken codes half) ∧
        (call.guarded && w.token.cancelled) = false ∧ m = brokenText := by
  intro outcome
  rcases hv : Validation.validateWide call.query with rejection | (text | ⟨codes, half⟩)
  · have houtcome : outcome = .error (.failure rejection.failure) :=
      execute_rejected hv freshId w reports
    rw [houtcome]
    refine ⟨?_, fun m => iff_of_false nofun ?_⟩
    · rintro f ⟨⟩
      exact .inl (by cases rejection <;> rfl)
    · rintro (⟨text, ⟨⟩, -⟩ | ⟨codes, half, ⟨⟩, -⟩)
  · have hsettled : Settled (fun _ => True) EndsCall outcome :=
      execute_settled (e := ⟨adapter, sink, schema⟩) hv
        (.of_confined (rawExecute_ends htrouble text))
        (fun rule q _ => .of_confined (structured_ends q)) (fun f h _ => h)
        endsCall_cancelledBefore (.inr (.inr (.inl rfl))) rfl freshId reports
    refine ⟨hsettled.failure, fun m => ?_⟩
    have hprepared : ∀ t ∈ w.remote.trouble, ∃ f, t = .failure f := fun t ht =>
      (htrouble t ht).imp fun f hf => hf.1
    have hescapes : outcome = .error (.mishap m) ↔
        FallsBack call.guarded w text ∧ Escapes call.guarded w.remote text m :=
      execute_escapes_iff (e := ⟨adapter, sink, schema⟩) rfl hv hs hprepared freshId reports
    rw [hescapes]
    simp
  · have houtcome : outcome = unsent (call.guarded && w.token.cancelled) :=
      execute_withheld hv freshId w reports
    rw [houtcome]
    refine ⟨fun f hf => unsent_ends hf, fun m => ?_⟩
    rw [unsent_mishap_iff]
    constructor
    · exact fun h => .inr ⟨codes, half, rfl, h⟩
    · rintro (⟨text, ⟨⟩, -⟩ | ⟨_, _, -, h⟩)
      exact h

/-- A table with a list in it. -/
def listTable : MemoryStore :=
  tableOnly "t" [[("a", .list [.int 1])]]

/-- A grouped count of the column that holds the list. -/
def countOfLists : String :=
  "SELECT a, COUNT(*) FROM t GROUP BY a"

/-- A limit with too many digits lets an error escape, whatever the tables hold. -/
theorem escapes_longLimit {n : ℕ} (hn : maxDigits < n) :
    Escapes guarded s (longLimit n) (.numeral (.tooManyDigits n)) := by
  have hlength : (ones n).length = n := List.length_replicate
  have hlong : isOverlong (ones n) = true := by
    rw [isOverlong, hlength]
    exact decide_eq_true hn
  have hdigits : overlong? (integers .selectAll (scan (longLimit n).toList)) = some (ones n) := by
    simp only [integers, selectAll_longLimit (Nat.zero_lt_of_lt hn), Option.elim, Option.toList,
      overlong?, List.find?_cons_of_pos hlong]
  have hescapes : Escapes guarded s (longLimit n) _ := .overlong hdigits
  rwa [hlength] at hescapes

/-- Three accepted texts end in errors that are no failures: a grouped count of lists, a limit with
too many digits, and a text with a half. -/
theorem execute_typed_lists :
    outcomeOver listTable countOfLists = .error (.mishap (.unhashable (.kind "list"))) ∧
    outcomeOver listTable (longLimit 4301) = .error (.mishap (.numeral (.tooManyDigits 4301))) ∧
    outcomeOver listTable (withHalf "SELECT '") = .error (.mishap brokenText) := by
  have hs : HoldsJson listTable.tables := by
    simp [HoldsJson, listTable, tableOnly, Value.allJsonFields, Value.isJson, Value.allJson]
  have htrouble : ∀ t ∈ listTable.trouble, ∃ f, t = .failure f ∧ f.kind.isBackend = true := by
    rintro t ⟨⟩
  have hfalls (text : String) : FallsBack false ⟨.fresh, [], listTable⟩ text :=
    ⟨rfl, ⟨noExecution, rfl, rfl⟩, rfl⟩
  refine ⟨?_, ?_, ?_⟩
  · have hq : Rule.groupCount.apply countOfLists = .ok (some
        { table := "t"
          columns := .these ["a"]
          aggregate := .groupCount
          groupBy := some "a"
          resultAlias := some "count" }) := by decide
    have hcells : firstContainer? [[("a", Value.list [.int 1])]] "a" = some (.list [.int 1]) := rfl
    obtain ⟨-, hescapes⟩ := execute_typed (fun _ state => (.ok (), state)) none "c-1"
      ⟨some countOfLists, false, none⟩ ⟨.fresh, [], listTable⟩ () hs htrouble
    exact (hescapes _).2 (.inl ⟨countOfLists, by decide +kernel, hfalls _,
      .ungroupable hq (Ungroupable.intro rfl rfl rfl hcells) rfl⟩)
  · -- for any number of digits, so that these digits are not written out
    have hlong : ∀ n, maxDigits < n → outcomeOver listTable (longLimit n) =
        .error (.mishap (.numeral (.tooManyDigits n))) := by
      intro n hn
      obtain ⟨-, hescapes⟩ := execute_typed (fun _ state => (.ok (), state)) none "c-1"
        ⟨some (longLimit n), false, none⟩ ⟨.fresh, [], listTable⟩ () hs htrouble
      have hv : Validation.validateWide (some (longLimit n)) = .ok (longLimit n) :=
        Validation.validateWide_eq_whole.2 ⟨_, rfl, validate_longLimit (Nat.zero_lt_of_lt hn)⟩
      exact (hescapes _).2 (.inl ⟨longLimit n, hv, hfalls _, escapes_longLimit hn⟩)
    exact hlong 4301 (by decide)
  · obtain ⟨-, hescapes⟩ := execute_typed (fun _ state => (.ok (), state)) none "c-1"
      ⟨some (withHalf "SELECT '"), false, none⟩ ⟨.fresh, [], listTable⟩ () hs htrouble
    have hv : Validation.validateWide (some (withHalf "SELECT '")) =
        .ok (withHalf "SELECT '") := by decide +kernel
    exact (hescapes _).2 (.inr ⟨_, _, hv, rfl, rfl⟩)

end Memory

end ReadGate
