import ReadGate.Proofs.Engine.Report
import ReadGate.Proofs.Http.Responses

/-!
# What is told of a query

Three parties hear of a query that was asked for: the client gets a response, the sink a report, and
the engine an outcome.  Over tables of plain values they are told the same, under the same id.

* `Service.recording`, `handle_reported` — a query that is asked for is reported once.
* `Concluded` — what a query over plain tables may come to.
* `Agrees`, `handle_agrees` — response, report and outcome of such a query agree.
-/

namespace ReadGate.Http

open Engine

variable {σ ρ : Type}

/-! ## Agreement -/

/-- The response and the report tell of the same result. -/
structure ResultAgrees (r : QueryResult) (report : CallReport) (response : Response) : Prop where
  rows : response.field? "rows" = some (.list (r.rows.map .record))
  rowCount : response.field? "row_count" = some (.int r.rows.length)
  reportedRowCount : report.rowCount = some r.rows.length
  path : response.field? "path" = some (.text r.path.name)
  reportedPath : report.path = some r.path
  rule : response.field? "rule" = some (.ofWide? r.rule)

/-- The response and the report tell of trouble of the same kind, and the status says what kind of
trouble it is. -/
structure TroubleAgrees (query : String) (trouble : Trouble) (report : CallReport)
    (response : Response) : Prop where
  kind : response.field? "kind" = some (.text trouble.kindName)
  reportedKind : report.errorKind = some (.text trouble.kindName)
  rejected : response.status = 400 ↔
    ∃ rejection, Validation.validate (some query) = .error rejection
  unsupported : response.status = 422 ↔ trouble.kindName = "UnsupportedPattern"
  backend : response.status = 502 ↔ ∃ f, trouble = .failure f ∧ f.kind.isBackend = true
  unknown : response.status = 500 ↔ trouble.kindName = "Unknown"

/-- The response to a query, its report and its outcome tell the same, under the same id. -/
structure Agrees (query id : String) (outcome : Except Trouble QueryResult) (report : CallReport)
    (response : Response) : Prop where
  header : response.id = some id
  traceId : response.field? "trace_id" = some (.text id)
  reportedId : report.correlationId = id
  success : response.status = 200 ↔ report.success = true
  result : report.success = true → ∃ r, outcome = .ok r ∧ ResultAgrees r report response
  trouble : report.success = false →
    ∃ trouble, outcome = .error trouble ∧ TroubleAgrees query trouble report response

section Agreement

variable {query id : String} {report : CallReport} {response : Response} {call : Call}

theorem agrees_of_result {r : QueryResult} (hcount : r.rowCount = r.rows.length)
    (hid : report.correlationId = id) (htrue : Truthful call (.ok r) report)
    (hshows : ShowsResult response id r) : Agrees query id (.ok r) report response := by
  have hsuccess : report.success = true := htrue.success.2 ⟨r, rfl⟩
  obtain ⟨hrowCount, hpath, -⟩ := htrue.result r rfl
  have hagrees : ResultAgrees r report response :=
    ⟨hshows.rows, by rw [hshows.rowCount, hcount], hrowCount, hshows.path, hpath, hshows.rule⟩
  refine ⟨hshows.header, hshows.traceId, hid, iff_of_true hshows.status hsuccess,
    fun _ => ⟨r, rfl, hagrees⟩, fun hfailed => ?_⟩
  rw [hsuccess] at hfailed
  cases hfailed

theorem agrees_of_trouble {trouble : Trouble} (hid : report.correlationId = id)
    (htrue : Truthful call (.error trouble) report)
    (hshows : ShowsFailure response id trouble.kindName trouble.note) (hstatus : response.status ≠ 200)
    (hagrees : TroubleAgrees query trouble report response) :
    Agrees query id (.error trouble) report response := by
  have hfailed : ¬ report.success = true := by
    rw [htrue.success]
    rintro ⟨r, ⟨⟩⟩
  exact ⟨hshows.header, hshows.traceId, hid, iff_of_false hstatus hfailed,
    fun hsuccess => absurd hsuccess hfailed, fun _ => ⟨trouble, rfl, hagrees⟩⟩

theorem agrees_of_failure {f : Failure} (hid : report.correlationId = id)
    (htrue : Truthful call (.error (.failure f)) report)
    (hshows : ShowsFailure response id f.kind.name f.kind.note) (hkind : f.kind ≠ .configuration)
    (hrejected : f.kind.isValidation = true ↔
      ∃ rejection, Validation.validate (some query) = .error rejection) :
    Agrees query id (.error (.failure f)) report response := by
  obtain ⟨hvalidation, hunsupported, hbackend, hunknown, hstatus⟩ := statusOf_note hkind
  rw [← hshows.status] at hvalidation hunsupported hbackend hunknown hstatus
  have hmine : (∃ f', Trouble.failure f = .failure f' ∧ f'.kind.isBackend = true) ↔
      f.kind.isBackend = true := by
    constructor
    · rintro ⟨_, ⟨⟩, hf⟩
      exact hf
    · exact fun hf => ⟨f, rfl, hf⟩
  exact agrees_of_trouble hid htrue hshows hstatus
    ⟨hshows.kind, htrue.failure f rfl, hvalidation.trans hrejected, hunsupported,
      hbackend.trans hmine.symm, hunknown⟩

theorem agrees_of_mishap {m : Mishap} (hown : m.IsOwn) (hid : report.correlationId = id)
    (htrue : Truthful call (.error (.mishap m)) report)
    (hshows : ShowsFailure response id Trouble.unknownKind .executionError)
    (haccepted : ∃ text, Validation.validate (some query) = .ok text) :
    Agrees query id (.error (.mishap m)) report response := by
  have hstatus : response.status = 500 := hshows.status
  obtain ⟨text, hv⟩ := haccepted
  refine agrees_of_trouble hid htrue hshows (by simp [hstatus]) ?_
  refine ⟨hshows.kind, htrue.mishap m rfl hown, ?_, ?_, ?_, ?_⟩
  · simp [hstatus, hv]
  · simp [hstatus, Trouble.kindName, Trouble.unknownKind]
  · simp [hstatus]
  · simp [hstatus, Trouble.kindName, Trouble.unknownKind]

end Agreement

/-! ## Queries over plain tables -/

/-- What a query over plain tables may come to. -/
inductive Concluded (query : String) : Except Trouble QueryResult → Prop
  | rejected {rejection : Validation.Rejection}
    (hv : Validation.validate (some query) = .error rejection) :
    Concluded query (.error (.failure rejection.failure))
  | answered {text : String} {outcome : Except Trouble QueryResult}
    (hv : Validation.validate (some query) = .ok text)
    (h : Settled (AllCells IsServed) Failure.IsAnswer outcome)
    (own : ∀ m, outcome = .error (.mishap m) → m.IsOwn) : Concluded query outcome

theorem execute_concluded {e : Engine MemoryStore ρ} (hbackend : e.backend = Memory.adapter)
    {w : World MemoryStore} (hstore : w.remote.IsPlain) (query id : String) (reports : ρ) :
    Concluded query (e.execute id ⟨some query, false, some id⟩ w reports).1 := by
  cases hv : Validation.validate (some query) with
  | error rejection =>
    have houtcome : (e.execute id ⟨some query, false, some id⟩ w reports).1 =
        .error (.failure rejection.failure) :=
      execute_rejected (Validation.validateWide_of_error hv) id w reports
    rw [houtcome]
    exact .rejected hv
  | ok text =>
    have hwide : Validation.validateWide (some query) = .ok text :=
      Validation.validateWide_eq_whole.2 ⟨query, rfl, hv⟩
    exact .answered hv (Memory.execute_plain hbackend hwide hstore id reports)
      fun m hm => Memory.execute_own hbackend hwide hstore id reports hm

/-- Whatever such a query comes to can be shown. -/
theorem Concluded.isShowable {query : String} {outcome : Except Trouble QueryResult}
    (h : Concluded query outcome) : IsShowable outcome := by
  cases h with
  | @rejected rejection hv => exact ⟨.failed (Validation.rejection_isShown hv), nofun⟩
  | answered hv hsettled hown =>
    exact ⟨⟨hsettled.rows, hsettled.counted, fun f hf => (hsettled.failure f hf).1⟩, hown⟩

/-- A report that tells the truth agrees with a response that shows the outcome. -/
theorem Concluded.agrees {query id : String} {outcome : Except Trouble QueryResult}
    {report : CallReport} {response : Response} {call : Call} (h : Concluded query outcome)
    (hid : report.correlationId = id) (htrue : Truthful call outcome report)
    (hshows : Shows response id outcome) : Agrees query id outcome report response := by
  cases h with
  | @rejected rejection hv =>
    have hkind := rejection.failure_isValidation
    refine agrees_of_failure hid htrue hshows ?_ (iff_of_true hkind ⟨rejection, hv⟩)
    intro hconfiguration
    rw [hconfiguration] at hkind
    cases hkind
  | @answered text outcome hv hsettled hown =>
    rcases outcome with (f | m) | r
    · obtain ⟨hkind, haccepted⟩ := (hsettled.failure f rfl).kind
      exact agrees_of_failure hid htrue hshows hkind (by simp [haccepted, hv])
    · exact agrees_of_mishap (hown m rfl) hid htrue hshows ⟨text, hv⟩
    · exact agrees_of_result (hsettled.counted r rfl) hid htrue hshows

/-- The same service, whose sink keeps every report that it is given. -/
def Service.recording (s : Service σ ρ) : Service σ (ρ × List CallReport) :=
  ⟨s.engine.withSink s.engine.sink.recording, s.settings, s.schema⟩

/-- Recording does not change what is responded. -/
theorem responseTo_recording (s : Service σ ρ) (id : String) (role : Option WideText)
    (run : Except Mishap Outcome) : responseTo s.recording id role run = responseTo s id role run := by
  rcases run with m | r | ⟨error, note⟩ <;> rfl

/-- **A query that is asked for is reported once**, whatever backend it is asked of. -/
theorem handle_reported (s : Service σ ρ) {r : Request} {query : String} {role : Option WideText}
    (hasks : r.Asks query role) {freshId : String} (hfresh : freshId ≠ "") (w : World σ)
    (reports : ρ) (seen : List CallReport) :
    let call : Call := ⟨some query, false, some (r.id freshId)⟩
    let answer := s.handle freshId r w reports
    ∃ report,
      s.recording.handle freshId r w (reports, seen) =
        (answer.1, answer.2.1, answer.2.2, seen ++ [report]) ∧
      report.correlationId = r.id freshId ∧
      Truthful call (s.engine.execute (r.id freshId) call w reports).1 report := by
  intro call answer
  obtain ⟨report, hexecute, htrue⟩ :=
    execute_recording s.engine (id_ne_empty hfresh) call w reports seen
  refine ⟨report, ?_, htrue.identity _ rfl (id_ne_empty hfresh), htrue⟩
  have hrun : s.recording.engine.run (r.id freshId) call w (reports, seen) = _ :=
    run_of_execute hexecute
  show s.recording.handle freshId r w (reports, seen) = ((s.handle freshId r w reports).1,
    (s.handle freshId r w reports).2.1, (s.handle freshId r w reports).2.2, seen ++ [report])
  rw [handle_of_asks hasks, handle_of_asks hasks, query_of_asks hasks, query_of_asks hasks, hrun]
  simp only [responseTo_recording, run_reports]
  rfl

/-- **The response to a query, its report and its outcome agree.** -/
theorem handle_agrees {s : Service MemoryStore ρ} (hbackend : s.engine.backend = Memory.adapter)
    (hsettings : s.settings.IsTyped) {w : World MemoryStore} (hstore : w.remote.IsPlain)
    {r : Request} {query : String} {role : Option WideText} (hasks : r.Asks query role)
    {freshId : String} (hfresh : freshId ≠ "") (reports : ρ) (seen : List CallReport) :
    let id := r.id freshId
    let answer := s.handle freshId r w reports
    (∀ given, r.header? Request.idHeader = some given → given ≠ "" → id = given) ∧
    ∃ report,
      s.recording.handle freshId r w (reports, seen) =
        (answer.1, answer.2.1, answer.2.2, seen ++ [report]) ∧
      Agrees query id (s.engine.execute id ⟨some query, false, some id⟩ w reports).1 report
        answer.1 := by
  intro id answer
  refine ⟨fun given hheader hgiven => id_of_given hheader hgiven, ?_⟩
  obtain ⟨report, hrecorded, hid, htrue⟩ := handle_reported s hasks hfresh w reports seen
  refine ⟨report, hrecorded, ?_⟩
  have hanswer : answer.1 = responseTo s id role
      (s.engine.run id ⟨some query, false, some id⟩ w reports).1 := by
    show (s.handle freshId r w reports).1 = _
    rw [handle_of_asks hasks, query_of_asks hasks]
  have hconcluded := execute_concluded hbackend hstore query id reports
  have hshows := responseTo_shows hsettings id role hconcluded.isShowable
  rw [← hanswer] at hshows
  exact hconcluded.agrees hid htrue hshows

/-! ### A table with one row -/

/-- So many lists, each in the next, and an empty one in the last. -/
def nestedLists : Nat → Value
  | 0 => .list []
  | n + 1 => .list [nestedLists n]

theorem nestedLists_plain (n : Nat) : (nestedLists n).Plain (n + 1) := by
  induction n with
  | zero => exact .list nofun
  | succ n ih =>
    refine .list fun v hv => ?_
    rw [List.mem_singleton.1 hv]
    exact ih

/-- A service over tables in memory, with what it hides from the roles. -/
def tableService (hidden : Value) : Service MemoryStore Unit :=
  ⟨⟨Memory.adapter, fun _ state => (.ok (), state), none⟩,
    ⟨"data-query-engine", "dev", "INFO", "memory", "", 200, hidden, "guest"⟩, none⟩

theorem tableService_isTyped : (tableService Settings.usualRedaction).settings.IsTyped := by
  refine ⟨[("guest", .texts ["email", "phone"])], rfl, fun p hp => ⟨["email", "phone"], ?_⟩⟩
  rw [List.mem_singleton.1 hp]

/-- A world with one table, which has one row. -/
def oneRow (cell : Value) : World MemoryStore :=
  ⟨.fresh, [], ⟨[("items", [[("tags", cell)]])], none, none, [], []⟩⟩

/-- A request for the rows of the table, with more fields in its body. -/
def askingFor (more : String) : Request :=
  ⟨"POST", "/query", [("Content-Type", "application/json"), ("X-Correlation-ID", "c-1")],
    "\x7b\"query\": \"SELECT * FROM items\"" ++ more ++ "\x7d"⟩

/-- The status and the id of the response, and of each report whether it is one of success. -/
def toldOf (hidden cell : Value) (more : String) : Nat × Option String × List Bool :=
  let answer := (tableService hidden).recording.handle "f-1" (askingFor more) (oneRow cell) ((), [])
  (answer.1.status, answer.1.id, answer.2.2.2.map (·.success))

theorem askingFor_asks : (askingFor "").Asks "SELECT * FROM items" none := by
  have hread : Json.read Json.served "\x7b\"query\": \"SELECT * FROM items\"\x7d" =
      .ok (.record [("query", .text "SELECT * FROM items")]) :=
    Json.read_of_chars ['\x7b', '"', 'q', 'u', 'e', 'r', 'y', '"', ':', ' ', '"', 'S', 'E', 'L', 'E',
      'C', 'T', ' ', '*', ' ', 'F', 'R', 'O', 'M', ' ', 'i', 't', 'e', 'm', 's', '"', '\x7d']
      (by decide) (by decide) rfl rfl
  have hvalue : (askingFor "").value? =
      .ok (some (.record [("query", .text "SELECT * FROM items")])) :=
    value?_of_read (by decide +kernel) (by decide +kernel) (by decide +kernel) hread
  exact ⟨by decide +kernel, by decide +kernel, ⟨_, hvalue, rfl, .inr ⟨rfl, rfl⟩⟩, by decide +kernel,
    by decide +kernel⟩

theorem oneRow_isPlain {cell : Value} (h : cell.Plain resultDepth) : (oneRow cell).remote.IsPlain := by
  refine ⟨?_, ?_, nofun, nofun⟩
  · intro t ht row hrow p hp
    cases List.mem_singleton.1 ht
    cases List.mem_singleton.1 hrow
    cases List.mem_singleton.1 hp
    exact h
  · intro t ht
    cases List.mem_singleton.1 ht
    have hone : Numeral.IsShort 1 := by decide
    exact hone

/-- Of a cell that nests as deep as is shown, all are told. -/
theorem handle_agrees_deepest :
    (tableService Settings.usualRedaction).settings.IsTyped ∧
    (oneRow (nestedLists 254)).remote.IsPlain ∧ (askingFor "").Asks "SELECT * FROM items" none ∧
    ∃ report, ((tableService Settings.usualRedaction).recording.handle "f-1" (askingFor "")
        (oneRow (nestedLists 254)) ((), [])).2.2.2 = [report] ∧
      report.success = true ∧ report.correlationId = "c-1" ∧ report.rowCount = some 1 ∧
      ((tableService Settings.usualRedaction).handle "f-1" (askingFor "")
        (oneRow (nestedLists 254)) ()).1.field? "row_count" = some (.int 1) := by
  have hplain := oneRow_isPlain (nestedLists_plain 254)
  refine ⟨tableService_isTyped, hplain, askingFor_asks, ?_⟩
  obtain ⟨hid, report, hrecorded, hagrees⟩ :=
    handle_agrees rfl tableService_isTyped hplain askingFor_asks (by decide : "f-1" ≠ "") () []
  have hreports : ((tableService Settings.usualRedaction).recording.handle "f-1" (askingFor "")
      (oneRow (nestedLists 254)) ((), [])).2.2.2 = [report] := by
    rw [hrecorded]
    rfl
  have htold : (((tableService Settings.usualRedaction).recording.handle "f-1" (askingFor "")
      (oneRow (nestedLists 254)) ((), [])).2.2.2.map fun r =>
        (r.correlationId, r.success, r.rowCount)) = [("c-1", true, some 1)] := by decide +kernel
  rw [hreports, List.map_singleton, List.singleton_inj, Prod.mk.injEq, Prod.mk.injEq] at htold
  obtain ⟨hid', hsuccess, hrowCount⟩ := htold
  obtain ⟨r, -, hresult⟩ := hagrees.result hsuccess
  have hlength : r.rows.length = 1 :=
    Option.some.inj (hresult.reportedRowCount.symm.trans hrowCount)
  refine ⟨report, hreports, hsuccess, hid', hrowCount, ?_⟩
  rw [hresult.rowCount, hlength]
  rfl

/-- Not all rows can be shown, a role need not be a text, and the settings need not be typed.  A
client is then told of a failure, or refused, while the report tells of a success, or there is
none. -/
theorem handle_disagrees :
    (nestedLists 255).Plain 256 ∧
    toldOf Settings.usualRedaction (nestedLists 255) "" = (500, none, [true]) ∧
    toldOf Settings.usualRedaction (.halves [0xD800]) "" = (500, none, [true]) ∧
    toldOf Settings.usualRedaction .null ", \"role\": 5" = (422, some "c-1", []) ∧
    toldOf (.list []) .null "" = (500, none, [true]) := by
  refine ⟨nestedLists_plain 255, ?_, ?_, ?_, ?_⟩ <;> decide +kernel

end ReadGate.Http
