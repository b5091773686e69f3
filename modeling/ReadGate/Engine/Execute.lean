import ReadGate.Engine.Dispatch

/-!
# Calls of the engine

Every call is validated, dispatched, and reported to a sink exactly once, after its outcome is
known.  A sink that fails leaves a line in the log and nothing else.

* `Engine.execute` gives the rows or the trouble.
* `Engine.run` turns every trouble into a report.
-/

namespace ReadGate

/-- What a sink is told about a call. -/
structure CallReport where
  correlationId : String
  query : WideText
  success : Bool
  rowCount : Option Nat
  path : Option ExecutionPath
  errorKind : Option Value
  deriving Repr

/-- Where calls are reported: the state after a report, and the reason if the report failed. -/
abbrev Sink (ρ : Type) := CallReport → ρ → Except String Unit × ρ

/-- The sink that keeps nothing. -/
def Sink.null {ρ : Type} : Sink ρ :=
  fun _ reports => (.ok (), reports)

/-- A sink as a caller hands it over: what it does with a report, and whether it counts as true in a
state, as a sink that is a list of reports does unless it is empty. -/
structure HeldSink (ρ : Type) where
  record : Sink ρ
  truth : ρ → Bool

/-- A backend, a sink, and perhaps a schema to warn about unknown tables. -/
structure Engine (σ ρ : Type) where
  backend : Adapter σ
  sink : Sink ρ
  schema : Option Schema

/-- Makes an engine while the sink that it is handed is in the given state.  A sink that is absent,
or that does not count as true, is replaced by the one that keeps nothing. -/
def Engine.create {σ ρ : Type} (backend : Adapter σ) (held : Option (HeldSink ρ)) (reports : ρ)
    (schema : Option Schema) : Engine σ ρ :=
  let sink := match held with
    | some held => if held.truth reports then held.record else .null
    | none => .null
  ⟨backend, sink, schema⟩

/-- A call: the text, whether it was handed the token, and the caller's id, if any. -/
structure Call where
  query : Option WideText
  guarded : Bool
  id : Option String
  deriving DecidableEq, Repr

namespace Engine

variable {σ ρ : Type}

/-- The id of a call: the caller's, or a fresh one if the caller gave none. -/
def callId (freshId : String) (call : Call) : String :=
  match call.id with
  | some id => if id.isEmpty then freshId else id
  | none => freshId

/-- The report of an outcome. -/
def reportOf (id : String) (query : WideText) : Except Trouble QueryResult → CallReport
  | .ok result => ⟨id, query, true, some result.rows.length, some result.path, none⟩
  | .error trouble => ⟨id, query, false, none, none, trouble.toldKind⟩

/-- Adds a line to the log of a world. -/
def addLine (level : Level) (text : String) (w : World σ) : World σ :=
  { w with log := w.log ++ [⟨level, .dispatcher, text⟩] }

/-- Logs the rejection of a query. -/
def logRejection (id : String) (raw : WideText) (outcome : Except Trouble QueryResult)
    (w : World σ) : World σ :=
  match outcome with
  | .error (.failure f) =>
    if f.kind.isValidation then
      addLine .info s!"[{id}] query rejected ({f.kind.name}): {loggedQuery raw.plain}" w
    else w
  | _ => w

/-- Logs the failure of a report. -/
def logReport (id : String) (written : Except String Unit) (w : World σ) : World σ :=
  match written with
  | .ok () => w
  | .error reason => addLine .warning s!"[{id}] audit logging failed: {reason}" w

/-- The outcome of a call, the world after it, and the text that is reported. -/
def outcome (e : Engine σ ρ) (id : String) (call : Call) (w : World σ) :
    Except Trouble QueryResult × World σ × WideText :=
  match Validation.validateWide call.query with
  | .error rejection => (.error (.failure rejection.failure), w, call.query.getD "")
  | .ok text =>
    let (result, w) := dispatch e.backend e.schema ⟨id, call.guarded⟩ text w
    (result, w, text)

/-- Executes a call. -/
def execute (e : Engine σ ρ) (freshId : String) (call : Call) (w : World σ) (reports : ρ) :
    Except Trouble QueryResult × World σ × ρ :=
  let id := callId freshId call
  let (result, w, query) := e.outcome id call w
  let (written, reports) := e.sink (reportOf id query result) reports
  (result, logReport id written (logRejection id (call.query.getD "") result w), reports)

/-! ## Reports instead of trouble -/

/-- What became of a call. -/
inductive Outcome
  | result (r : QueryResult)
  | failed (error : QueryError) (note : Note)
  deriving Repr

/-- The report of a result, whose parts are read into their record. -/
def resultReport (r : QueryResult) : Except Mishap Outcome :=
  match Record.queryResult [("rows", .list (r.rows.map .record)), ("row_count", .int r.rowCount),
      ("path", .text r.path.name), ("rule", .ofWide? r.rule)] with
  | .ok result => .ok (.result result)
  | .error issues => .error (.invalid issues)

/-- The report of a failure.  A message that is not a text does not fit into it, nor do details that
are not a record. -/
def failureReport (f : Failure) : Except Mishap Outcome :=
  match Record.queryError [("error", f.message), ("kind", .text f.kind.name),
      ("details", f.details)] with
  | .ok error => .ok (.failed error f.kind.note)
  | .error issues => .error (.invalid issues)

/-- The report of a mishap, with its wording.  Issues are reported without any. -/
def mishapReport (m : Mishap) : Outcome :=
  .failed ⟨.whole "Query failed: " ++ m.text, Trouble.unknownKind, []⟩ .executionError

/-- Executes a call, and reports trouble as an outcome. -/
def run (e : Engine σ ρ) (freshId : String) (call : Call) (w : World σ) (reports : ρ) :
    Except Mishap Outcome × World σ × ρ :=
  let (result, w, reports) := e.execute freshId call w reports
  match result.bind fun r => (resultReport r).mapError .mishap with
  | .ok outcome => (.ok outcome, w, reports)
  | .error (.failure f) => (failureReport f, w, reports)
  | .error (.mishap m) =>
    (.ok (mishapReport m), addLine .error "Unexpected failure executing query" w, reports)

end Engine

end ReadGate
