import ReadGate.Http.Service
import ReadGate.Proofs.Engine.Outcome
import ReadGate.Proofs.Memory.Plain
import ReadGate.Proofs.Value.Summary

/-!
# Responses to queries

A request that asks a query reaches the engine with it, and the response shows what the query came
to: the rows of a result, or the kind of trouble with a status that tells of which kind it is.

* `Settings.IsTyped`, `summaryFor_of_isServed` — every role has its list of hidden fields, so that
  rows that can be shown as they are have a summary.
* `Request.Asks`, `handle_of_asks` — a request that asks a query, and what is done with it.
* `Shows`, `responseTo_shows` — the response to an outcome that can be shown as it is.
* `statusOf_note` — the status of a failure tells of which kind it is.
-/

namespace ReadGate

/-! ## Summaries -/

/-- The settings name the hidden fields of each role in a list of texts. -/
def Settings.IsTyped (s : Settings) : Prop :=
  ∃ roles, s.redactFieldsForRoles = .record roles ∧ ∀ p ∈ roles, ∃ names, p.2 = .texts names

theorem Settings.redactFields_of_isTyped {s : Settings} (h : s.IsTyped) (role : Option WideText) :
    ∃ names, s.redactFields role = .ok (.texts names) := by
  obtain ⟨roles, hroles, hnames⟩ := h
  have hfields : s.redactFields role =
      .ok ((hiddenAmong roles (s.roleOf role)).getD (.list [])) := by
    simp only [redactFields, hroles]
  rw [hfields]
  cases s.roleOf role with
  | broken codes half =>
    refine ⟨[], ?_⟩
    simp only [hiddenAmong]
    split
    · rename_i own hidden hrole
      obtain ⟨p, hp, hpair⟩ := Row.mem_of_get? hrole
      obtain ⟨names, hname⟩ := hnames p hp
      -- a list of texts begins with no codes
      rw [hpair] at hname
      cases names <;> cases hname
    · rfl
  | whole name =>
    cases hrole : Row.get? roles name with
    | none => exact ⟨[], by simp only [hiddenAmong, hrole]; rfl⟩
    | some v =>
      obtain ⟨p, hp, rfl⟩ := Row.mem_of_get? hrole
      obtain ⟨names, hname⟩ := hnames p hp
      exact ⟨names, by simp only [hiddenAmong, hrole, Option.getD_some, hname]⟩

theorem Summary.fieldNames_texts (names : List String) :
    ∃ hidden, fieldNames (.texts names) = .ok hidden := by
  have hhashable : (names.map Value.text).findSome? Value.unhashable? = none := by
    simp [Value.unhashable?]
  refine ⟨(names.map Value.text).filterMap nameOf?, ?_⟩
  simp only [fieldNames, Value.texts, Value.items, bind, Except.bind, hhashable]
  rfl

/-- The fields that the settings hide from a role, if they can be read. -/
def Settings.hiddenFrom (s : Settings) (role : Option WideText) : List String :=
  match (do Summary.fieldNames (← s.redactFields role)) with
  | .ok hidden => hidden
  | .error _ => []

/-- What typed settings show of rows to a role is the summary without the fields that they hide from
it. -/
theorem Settings.summaryFor_of_isTyped {s : Settings} (h : s.IsTyped) (role : Option WideText)
    (rows : List Row) :
    (do Summary.summaryFor (← s.redactFields role) rows) =
      (Summary.summary (s.hiddenFrom role) rows).mapError Mishap.numeral := by
  obtain ⟨names, hnames⟩ := s.redactFields_of_isTyped h role
  obtain ⟨hidden, hhidden⟩ := Summary.fieldNames_texts names
  have hfrom : s.hiddenFrom role = hidden := by
    simp only [hiddenFrom, hnames, bind, Except.bind, hhidden]
  rw [hnames, hfrom]
  cases rows with
  | nil => rfl
  | cons row rest =>
    have hread : Summary.summaryFor (.texts names) (row :: rest) =
        (Summary.summary hidden (row :: rest)).mapError Mishap.numeral := by
      simp only [Summary.summaryFor, hhidden]
      rfl
    exact hread

/-- Rows that a result shows as they are have a summary for every role. -/
theorem Settings.summaryFor_of_isServed {s : Settings} (h : s.IsTyped) (role : Option WideText)
    {rows : List Row} (hrows : ∀ row ∈ rows, ∀ p ∈ row, Http.IsServed p.2) :
    ∃ text : String, (do Summary.summaryFor (← s.redactFields role) rows) =
      .ok (.whole text) := by
  obtain ⟨text, htext⟩ := (Summary.summary_isOk_iff (s.hiddenFrom role) rows).2
    fun row hrow p hp _ => (Summary.shows_iff p.2).2 (.inr (hrows row hrow p hp).writable)
  obtain ⟨whole, rfl⟩ := Summary.summary_whole
    (fun row hrow p hp => (hrows row hrow p hp).serialized) htext
  refine ⟨whole, ?_⟩
  rw [s.summaryFor_of_isTyped h role rows, htext]
  rfl

namespace Http

open Engine

variable {σ ρ : Type}

/-! ## Requests -/

/-- The request asks a query on behalf of a role, and both are written as they should be. -/
structure Request.Asks (r : Request) (query : String) (role : Option WideText) : Prop where
  verb : r.verb = "POST"
  route : (Address.path? r.path).bind routeOf? = some .query
  body : ∃ fields, r.value? = .ok (some (.record fields)) ∧
    Row.get? fields "query" = some (.text query) ∧
    (Row.get? fields "role" = some (.ofWide? role) ∨ Row.get? fields "role" = none ∧ role = none)
  least : 1 ≤ Text.size query
  most : Text.size query ≤ maxQueryChars

section Requests

variable {r : Request} {query : String} {role : Option WideText}

/-- A body that is JSON and says so is read as a document. -/
theorem value?_of_read {document : String} {v : Value} (hbody : r.body.isEmpty = false)
    (hjson : r.isJson = true) (hdecode : Text.decode? r.body = some document)
    (hread : Json.read Json.served document = .ok v) : r.value? = .ok (some v) := by
  simp only [Request.value?, hbody, hjson, hdecode, hread, Bool.not_true, Bool.false_eq_true,
    if_false]

/-- A query that is asked as it should be is read from the body. -/
theorem queryRequest_of_asks (h : r.Asks query role) : r.queryRequest = .ok ⟨query, role⟩ := by
  obtain ⟨fields, hvalue, hquery, hrole⟩ := h.body
  have hread : Record.required "query" (Record.sizedText 1 (some maxQueryChars)) fields =
      .ok query :=
    (Record.required_eq_ok hquery).2
      (Record.sizedText_eq_ok.2 ⟨Record.wholeText_eq_ok.2 rfl, h.least, h.most⟩)
  have hreadRole : Record.nullable "role" Record.text fields = .ok role := by
    rcases hrole with hgiven | ⟨habsent, rfl⟩
    · exact (Record.nullable_eq_ok hgiven).2 (Record.optionalText_eq_ok.2 rfl)
    · simp only [Record.nullable, Record.optional, habsent]
  simp only [Request.queryRequest, hvalue, bind, Except.bind, queryIn, Record.queryRequest, hread,
    hreadRole]
  rfl

theorem id_of_given {freshId given : String} (h : r.header? Request.idHeader = some given)
    (hgiven : given ≠ "") : r.id freshId = given := by
  simp [Request.id, h, hgiven]

theorem id_ne_empty {freshId : String} (hfresh : freshId ≠ "") : r.id freshId ≠ "" := by
  unfold Request.id
  split
  · split
    · exact hfresh
    · rename_i hid
      simpa using hid
  · exact hfresh

/-- Such a request reaches the engine, and gets the response to its query. -/
theorem handle_of_asks (h : r.Asks query role) (s : Service σ ρ) (freshId : String) (w : World σ)
    (reports : ρ) :
    s.handle freshId r w reports = s.query (r.id freshId) r w reports := by
  have hhead : r.verb ≠ "HEAD" := by
    rw [h.verb]
    decide
  have hmethod : ¬ "POST" ∉ Route.query.methods := by decide
  have hrespond : s.respond (r.id freshId) r w reports = s.query (r.id freshId) r w reports := by
    simp only [Service.respond, h.route, h.verb, if_neg hmethod]
  simp only [Service.handle, hrespond, Response.sentTo, if_neg hhead]

end Requests

/-! ## Responses -/

/-- A field of the body of a response. -/
def Response.field? (response : Response) (name : String) : Option Value :=
  match response.body with
  | .json (.record fields) => Row.get? fields name
  | _ => none

/-- The response shows a result: its rows, how many they are, and how they were found. -/
structure ShowsResult (response : Response) (id : String) (r : QueryResult) : Prop where
  status : response.status = 200
  header : response.id = some id
  traceId : response.field? "trace_id" = some (.text id)
  rows : response.field? "rows" = some (.list (r.rows.map .record))
  rowCount : response.field? "row_count" = some (.int r.rowCount)
  path : response.field? "path" = some (.text r.path.name)
  rule : response.field? "rule" = some (.ofWide? r.rule)

/-- The response shows that a query failed, and in which kind of trouble. -/
structure ShowsFailure (response : Response) (id kind : String) (note : Note) : Prop where
  status : response.status = statusOf note
  header : response.id = some id
  traceId : response.field? "trace_id" = some (.text id)
  kind : response.field? "kind" = some (.text kind)

/-- The name of a rule without halves is written as it is. -/
theorem written?_rule {rule : Option WideText} {name : Option String}
    (h : rule = name.map .whole) : written? (.ofWide? rule) = some (.ofWide? rule) := by
  rw [h]
  cases name <;> rfl

theorem resultResponse_shows {r : QueryResult} (h : AllCells IsSerialized r.rows)
    {name : Option String} (hname : r.rule = name.map .whole) (id summary : String) (tally : Tally) :
    ShowsResult (resultResponse id (.whole summary) r tally) id r := by
  have hrows := serializedRows_of_isSerialized h
  unfold resultResponse
  rw [hrows, written?_rule hname]
  exact ⟨rfl, rfl, rfl, rfl, rfl, rfl, rfl⟩

theorem failureResponse_shows {message kind : String} {details : Row}
    (h : writtenFields? details = some details) (id : String) (note : Note) (tally : Option Tally) :
    ShowsFailure (failureResponse id ⟨message, kind, details⟩ note tally) id kind note := by
  have hfields : writtenFields? [("error", .text message), ("kind", .text kind),
      ("details", .record details), ("trace_id", .text id), ("notes", .text note.text)] =
      some [("error", .text message), ("kind", .text kind), ("details", .record details),
        ("trace_id", .text id), ("notes", .text note.text)] := by
    refine writtenFields?_of_parts fun p hp => ?_
    simp only [List.mem_cons, List.not_mem_nil, or_false] at hp
    rcases hp with rfl | rfl | rfl | rfl | rfl
    · rfl
    · rfl
    · exact congrArg (Option.map Value.record) h
    · rfl
    · rfl
  unfold failureResponse
  simp only [Value.ofWide, hfields]
  exact ⟨rfl, rfl, rfl, rfl⟩

/-- A failure that can be shown as it is has a report that shows it. -/
theorem failureReport_of_isShown {f : Failure} (h : f.IsShown) :
    ∃ message details, failureReport f = .ok (.failed ⟨.whole message, f.kind.name, details⟩
      f.kind.note) ∧ writtenFields? details = some details := by
  obtain ⟨⟨message, hmessage⟩, details, hdetails, hwritten⟩ := h
  have hreport : Record.queryError [("error", f.message), ("kind", .text f.kind.name),
      ("details", f.details)] = .ok ⟨message, f.kind.name, details⟩ :=
    queryError_eq_ok.2 ⟨by rw [hmessage]; rfl, rfl, hdetails⟩
  exact ⟨message, details, by rw [failureReport, hreport], hwritten⟩

/-- What the client is shown of an outcome. -/
def Shows (response : Response) (id : String) : Except Trouble QueryResult → Prop
  | .ok r => ShowsResult response id r
  | .error trouble => ShowsFailure response id trouble.kindName trouble.note

/-- The outcome can be shown as it is. -/
structure IsShowable (outcome : Except Trouble QueryResult) : Prop
    extends Settled (AllCells IsServed) Failure.IsShown outcome where
  own : ∀ m, outcome = .error (.mishap m) → m.IsOwn

/-- The response to what a run comes to. -/
def responseTo (s : Service σ ρ) (id : String) (role : Option WideText) :
    Except Mishap Outcome → Response
  | .ok outcome => s.outcomeResponse id role outcome
  | .error _ => .broken none

theorem query_of_asks {s : Service σ ρ} {r : Request} {query : String} {role : Option WideText}
    (h : r.Asks query role) (id : String) (w : World σ) (reports : ρ) :
    s.query id r w reports =
      let run := s.engine.run id ⟨some query, false, some id⟩ w reports
      (responseTo s id role run.1, run.2) := by
  simp only [Service.query, queryRequest_of_asks h]
  rcases s.engine.run id ⟨some query, false, some id⟩ w reports with ⟨_ | _, _, _⟩ <;> rfl

/-- The response to a run shows what its execution came to, if this can be shown. -/
theorem responseTo_shows {s : Service σ ρ} (hsettings : s.settings.IsTyped) (id : String)
    (role : Option WideText) {call : Call} {w : World σ} {reports : ρ}
    (h : IsShowable (s.engine.execute id call w reports).1) :
    Shows (responseTo s id role (s.engine.run id call w reports).1) id
      (s.engine.execute id call w reports).1 := by
  rw [run_apply]
  rcases hexecute : (s.engine.execute id call w reports).1 with (f | m) | result <;>
    rw [hexecute] at h
  · obtain ⟨message, details, hreport, hwritten⟩ := failureReport_of_isShown (h.failure f rfl)
    dsimp only
    rw [hreport]
    exact failureResponse_shows hwritten id f.kind.note (some ⟨"none", f.kind.note.text⟩)
  · have hnone : writtenFields? [] = some [] := rfl
    have hmessage : (.whole "Query failed: " ++ m.text : WideText) =
        .whole ("Query failed: " ++ m.message) := by
      rw [(h.own m rfl).text_eq]
      rfl
    simp only [responseTo, Service.outcomeResponse, mishapReport, hmessage]
    exact failureResponse_shows hnone id .executionError
      (some ⟨"none", Note.executionError.text⟩)
  · have hrows := h.rows result rfl
    have hconduct := execute_conduct s.engine id call w reports
    rw [hexecute] at hconduct
    obtain ⟨name, hname⟩ := hconduct.named
    obtain ⟨summary, hsummary⟩ := Settings.summaryFor_of_isServed hsettings role hrows
    simp only [responseTo, Service.outcomeResponse, hsummary]
    exact resultResponse_shows (fun row hrow p hp => (hrows row hrow p hp).serialized) hname id
      summary ⟨result.path.name, "success"⟩

/-- The status of a failure tells of which kind it is, unless the settings are to blame. -/
theorem statusOf_note {kind : FailureKind} (hkind : kind ≠ .configuration) :
    (statusOf kind.note = 400 ↔ kind.isValidation = true) ∧
    (statusOf kind.note = 422 ↔ kind.name = "UnsupportedPattern") ∧
    (statusOf kind.note = 502 ↔ kind.isBackend = true) ∧
    (statusOf kind.note = 500 ↔ kind.name = "Unknown") ∧ statusOf kind.note ≠ 200 := by
  cases kind with
  | configuration => exact absurd rfl hkind
  | general category severity =>
    refine ⟨?_, ?_, ?_, ?_, ?_⟩ <;> simp [FailureKind.note, FailureKind.name, FailureKind.isValidation,
      FailureKind.isBackend, statusOf]
  | _ => exact ⟨by decide, by decide, by decide, by decide, by decide⟩

end Http

end ReadGate
