import ReadGate.Engine.Execute
import ReadGate.Http.Description
import ReadGate.Settings
import ReadGate.Summary

/-!
# The service

The service answers queries, describes the tables of its backend, and tells that it is alive.  Each
outcome of a query has a status of its own.

* `Service.handle` answers a request.
* `statusOf` is the status of a failure.
-/

namespace ReadGate.Http

/-- An engine with its settings, and the schema of its backend if it has one. -/
structure Service (σ ρ : Type) where
  engine : Engine σ ρ
  settings : Settings
  schema : Option (Run σ Schema)

/-- The status of a failure. -/
def statusOf : Note → Nat
  | .validationError => 400
  | .unsupportedPattern => 422
  | .backendError => 502
  | .cancelled => 499
  | .executionError => 500

/-! ## Routes -/

/-- What can be asked for. -/
inductive Route
  | description
  | manual
  | health
  | metrics
  | schema
  | query
  deriving DecidableEq, Repr

/-- The routes by path.  The pages of the manual show the description. -/
def routes : List (String × Route) :=
  [("/openapi.json", .description), ("/docs", .manual), ("/docs/oauth2-redirect", .manual),
    ("/redoc", .manual), ("/health", .health), ("/metrics", .metrics), ("/schema", .schema),
    ("/query", .query)]

/-- The methods of a route. -/
def Route.methods : Route → List String
  | description | manual => ["GET", "HEAD"]
  | query => ["POST"]
  | _ => ["GET"]

/-- The path without a line end after it. -/
def withoutLineEnd (path : String) : String :=
  if path.endsWith "\n" then (path.dropEnd 1).toString else path

/-- The path without the slashes at its end. -/
def withoutSlashes (path : String) : String :=
  String.ofList (Text.dropEnd (· == '/') path.toList)

/-- The route of a path; slashes at its end do not matter, nor does a line end. -/
def routeOf? (path : String) : Option Route :=
  (Row.get? routes (withoutLineEnd path)).or
    (Row.get? routes (withoutLineEnd (withoutSlashes path)))

/-! ## Answers -/

/-- The response that reports a failure, if its message and its details can be written. -/
def failureResponse (id : String) (error : QueryError) (note : Note) (tally : Option Tally) :
    Response :=
  match writtenFields? [("error", .ofWide error.error), ("kind", .ofWide error.kind),
      ("details", .record error.details), ("trace_id", .text id), ("notes", .text note.text)] with
  | some fields => { Response.json (statusOf note) id fields with tally }
  | none => .broken tally

/-- The response with the rows of a query, if they, the name of their rule and their summary can be
written. -/
def resultResponse (id : String) (summary : WideText) (r : QueryResult) (tally : Tally) :
    Response :=
  match r.rows.mapM serializedRow?, written? (.ofWide? r.rule), summary with
  | some rows, some rule, .whole summary =>
    { Response.json 200 id [("rows", .list rows), ("row_count", .int r.rowCount),
        ("path", .text r.path.name), ("rule", rule), ("masked_summary", .text summary),
        ("trace_id", .text id)] with tally := some tally }
  | _, _, _ => .broken (some tally)

/-- A table in the description of a schema. -/
def tableValue (t : TableDescriptor) : Value :=
  .record [("name", .text t.name), ("description", .ofWide t.description),
    ("columns", .list (t.columns.map Schema.columnValue))]

/-- The response with a schema, as far as its tables are shown, if their texts can be written. -/
def schemaResponse (id : String) (s : Schema) : Response :=
  match writtenFields? ((s.tables.filter fun t => isShown t.1).map fun t => (t.1, tableValue t.2)) with
  | some tables => .json 200 id [("tables", .record tables)]
  | none => .broken none

namespace Service

variable {σ ρ : Type}

/-- The response to the outcome of a query. -/
def outcomeResponse (s : Service σ ρ) (id : String) (role : Option WideText) :
    Engine.Outcome → Response
  | .failed error note => failureResponse id error note (some ⟨"none", note.text⟩)
  | .result r =>
    let tally : Tally := ⟨r.path.name, "success"⟩
    match (do Summary.summaryFor (← s.settings.redactFields role) r.rows) with
    | .ok summary => resultResponse id summary r tally
    | .error _ => .broken (some tally)

/-- Answers a query. -/
def query (s : Service σ ρ) (id : String) (r : Request) (w : World σ) (reports : ρ) :
    Response × World σ × ρ :=
  match r.queryRequest with
  | .error e => (.refused id e, w, reports)
  | .ok q =>
    let (outcome, w, reports) := s.engine.run id ⟨some q.query, false, some id⟩ w reports
    match outcome with
    | .ok outcome => (s.outcomeResponse id q.role outcome, w, reports)
    | .error _ => (.broken none, w, reports)

/-- The response to an attempt to describe the tables. -/
def describedResponse (id : String) : Except Trouble Schema → Response
  | .ok schema => schemaResponse id schema
  | .error (.failure f) =>
    match Engine.failureReport f with
    | .ok (.failed error note) => failureResponse id error note none
    | _ => .broken none
  | .error (.mishap _) => .broken none

/-- Describes the tables of the backend. -/
def describe (s : Service σ ρ) (id : String) (w : World σ) : Response × World σ :=
  match s.schema with
  | none =>
    (.detail 404 id s!"Backend '{s.engine.backend.name}' does not expose a schema", w)
  | some fetch =>
    let (result, w) := fetch.run w
    (describedResponse id result, w)

/-- The response to a request, with its body. -/
def respond (s : Service σ ρ) (id : String) (r : Request) (w : World σ) (reports : ρ) :
    Response × World σ × ρ :=
  match (Address.path? r.path).bind routeOf? with
  | none => (.detail 404 id "Not Found", w, reports)
  | some route =>
    if r.verb ∉ route.methods then (.detail 405 id "Method Not Allowed", w, reports)
    else
      match route with
      | .description => (.json 200 id Description.document, w, reports)
      | .manual => (⟨200, some id, .plain "", none⟩, w, reports)
      | .health =>
        (.json 200 id [("status", .text "ok"), ("service", .text s.settings.serviceName)], w,
          reports)
      | .metrics => (⟨200, some id, .metrics, none⟩, w, reports)
      | .schema =>
        let (response, w) := s.describe id w
        (response, w, reports)
      | .query => s.query id r w reports

/-- Answers a request. -/
def handle (s : Service σ ρ) (freshId : String) (r : Request) (w : World σ) (reports : ρ) :
    Response × World σ × ρ :=
  let (response, w, reports) := s.respond (r.id freshId) r w reports
  (response.sentTo r, w, reports)

end Service

end ReadGate.Http
