import Mathlib.Control.Monad.Basic
import ReadGate.Backend.Memory
import ReadGate.Proofs.Backend.Failures
import ReadGate.Proofs.Engine.Execution

/-!
# Reports of executions

The sink of an engine is called once for each execution, with what became of it, and by then the
outcome is settled: nothing that the sink does reaches the backend, the token or the caller.  That
is the sink with which the engine was made if it counted as true then, and otherwise one that keeps
nothing.

* `Sink.recording` — a sink that keeps the reports it is given, beside what it does itself.
* `Truthful`, `reportOf_truthful` — what a report has to say about a call and its outcome.
* `execute_withSink` — an execution hands one report to its sink, whichever sink that is.
* `execute_recording`, `execute_withSink_alike` — the one report, and all that no sink changes.
* `execute_reported` — the same of an engine that was made with a sink.
* `execute_untold` — an empty list of reports is never told, and a kind that is not in the taxonomy.
-/

namespace ReadGate

/-- The same sink, keeping every report that it is given. -/
def Sink.recording {ρ : Type} (sink : Sink ρ) : Sink (ρ × List CallReport) := fun report state =>
  ((sink report state.1).1, (sink report state.1).2, state.2 ++ [report])

/-- What is handed over as a sink, keeping every report that it is given. -/
def HeldSink.recording {ρ : Type} (held : HeldSink ρ) : HeldSink (ρ × List CallReport) :=
  ⟨held.record.recording, fun state => held.truth state.1⟩

namespace Engine

variable {σ ρ ρ' : Type}

/-- The same engine with another sink. -/
def withSink (e : Engine σ ρ) (sink : Sink ρ') : Engine σ ρ' :=
  ⟨e.backend, sink, e.schema⟩

/-- A report tells the truth about a call and its outcome. -/
structure Truthful (call : Call) (outcome : Except Trouble QueryResult) (report : CallReport) :
    Prop where
  /-- No report is without an id. -/
  identified : report.correlationId ≠ ""
  /-- The id is the caller's, if the caller gave one. -/
  identity : ∀ id, call.id = some id → id ≠ "" → report.correlationId = id
  /-- An accepted text is reported as it was accepted. -/
  accepted : ∀ text, Validation.validateWide call.query = .ok text → report.query = text
  /-- A rejected text is reported as it came. -/
  rejected : ∀ rejection, Validation.validateWide call.query = .error rejection →
    report.query = call.query.getD ""
  /-- A success is reported exactly if there is a result. -/
  success : report.success = true ↔ ∃ result, outcome = .ok result
  /-- The report of a result holds the number of its rows and its path. -/
  result : ∀ result, outcome = .ok result → report.rowCount = some result.rows.length ∧
    report.path = some result.path ∧ report.errorKind = none
  /-- The report of trouble holds neither. -/
  trouble : ∀ t, outcome = .error t → report.rowCount = none ∧ report.path = none
  /-- The report of a failure holds its kind. -/
  failure : ∀ f, outcome = .error (.failure f) → report.errorKind = some (.text f.kind.name)
  /-- Whatever else went wrong in the program has no kind of its own. -/
  mishap : ∀ m, outcome = .error (.mishap m) → m.IsOwn →
    report.errorKind = some (.text "Unknown")
  /-- An error from outside is reported under the kind that it has, if it has one, and under none if
  it does not count as true. -/
  foreign : ∀ error, outcome = .error (.mishap (.foreign error)) → report.errorKind =
    if error.truth then some (error.ownKind.getD (.text "Unknown")) else none

theorem callId_of_some {freshId id : String} {call : Call} (hcall : call.id = some id)
    (hid : id ≠ "") : callId freshId call = id := by
  simp [callId, hcall, hid]

theorem callId_ne_empty {freshId : String} (hfresh : freshId ≠ "") (call : Call) :
    callId freshId call ≠ "" := by
  rcases hcall : call.id with _ | id
  · simpa [callId, hcall] using hfresh
  · by_cases hid : id = ""
    · simpa [callId, hcall, hid] using hfresh
    · rwa [callId_of_some hcall hid]

/-- The text that is reported is the accepted one, or the raw one if none was accepted. -/
theorem outcome_query (e : Engine σ ρ) (id : String) (call : Call) (w : World σ) :
    (e.outcome id call w).2.2 = match Validation.validateWide call.query with
      | .ok text => text
      | .error _ => call.query.getD "" := by
  unfold outcome
  cases Validation.validateWide call.query <;> rfl

/-- The report that is made of an outcome is truthful, if it is made under the id of the call and
with the text that is to be reported. -/
theorem reportOf_truthful {freshId : String} {query : WideText} (hfresh : freshId ≠ "") (call : Call)
    (outcome : Except Trouble QueryResult)
    (hquery : query = match Validation.validateWide call.query with
      | .ok text => text
      | .error _ => call.query.getD "") :
    Truthful call outcome (reportOf (callId freshId call) query outcome) := by
  have hid : (reportOf (callId freshId call) query outcome).correlationId = callId freshId call := by
    rcases outcome with t | result <;> rfl
  have htext : (reportOf (callId freshId call) query outcome).query = query := by
    rcases outcome with t | result <;> rfl
  refine {
    identified := by rw [hid]; exact callId_ne_empty hfresh call
    identity := fun id hcall hne => hid.trans (callId_of_some hcall hne)
    accepted := fun text hv => by rw [htext, hquery, hv]
    rejected := fun rejection hv => by rw [htext, hquery, hv]
    success := ?_
    result := ?_
    trouble := ?_
    failure := ?_
    mishap := ?_
    foreign := ?_ }
  · rcases outcome with t | result <;> simp [reportOf]
  · rintro result rfl
    exact ⟨rfl, rfl, rfl⟩
  · rintro t rfl
    exact ⟨rfl, rfl⟩
  · rintro f rfl
    rfl
  · rintro m rfl hm
    show (Trouble.mishap m).toldKind = _
    unfold Trouble.toldKind
    split
    · contradiction
    · rename_i error heq
      cases heq
      exact absurd rfl (hm error)
    · rfl
  · rintro error rfl
    rfl

/-- An execution makes its report of the outcome, hands it to the sink, and logs whether the sink
failed. -/
theorem execute_withSink (e : Engine σ ρ) (sink : Sink ρ') (freshId : String) (call : Call)
    (w : World σ) (reports : ρ') :
    (e.withSink sink).execute freshId call w reports =
      let id := callId freshId call
      let outcome := e.outcome id call w
      let told := sink (reportOf id outcome.2.2 outcome.1) reports
      (outcome.1,
        logReport id told.1 (logRejection id (call.query.getD "") outcome.1 outcome.2.1),
        told.2) := rfl

/-- Engines that execute a call alike run it alike. -/
theorem run_of_execute {e : Engine σ ρ} {e' : Engine σ ρ'} {freshId : String}
    {call : Call} {w : World σ} {reports : ρ} {reports' told : ρ'}
    (h : e'.execute freshId call w reports' =
      ((e.execute freshId call w reports).1, (e.execute freshId call w reports).2.1, told)) :
    e'.run freshId call w reports' =
      ((e.run freshId call w reports).1, (e.run freshId call w reports).2.1, told) := by
  rw [run_eq, run_eq, h]
  rcases e.execute freshId call w reports with ⟨(f | m) | r, w₁, reports₁⟩ <;> rfl

/-- A run leaves the reports of its execution. -/
theorem run_reports (e : Engine σ ρ) (freshId : String) (call : Call) (w : World σ) (reports : ρ) :
    (e.run freshId call w reports).2.2 = (e.execute freshId call w reports).2.2 := by
  rw [run_eq]
  rcases e.execute freshId call w reports with ⟨(f | m) | r, w₁, reports₁⟩ <;> rfl

/-- What a sink replies changes the log at most. -/
theorem logReport_token_remote (id : String) (written : Except String Unit) (w : World σ) :
    (logReport id written w).token = w.token ∧ (logReport id written w).remote = w.remote := by
  obtain ⟨lines, hlines⟩ := logReport_logged id written w
  rw [hlines]
  exact ⟨rfl, rfl⟩

/-- A sink that keeps its reports is told of an execution once and truthfully, and does otherwise
what it did without keeping them. -/
theorem execute_recording (e : Engine σ ρ) {freshId : String} (hfresh : freshId ≠ "") (call : Call)
    (w : World σ) (reports : ρ) (seen : List CallReport) :
    ∃ report,
      (e.withSink e.sink.recording).execute freshId call w (reports, seen) =
        ((e.execute freshId call w reports).1, (e.execute freshId call w reports).2.1,
          (e.execute freshId call w reports).2.2, seen ++ [report]) ∧
      Truthful call (e.execute freshId call w reports).1 report := by
  have hself : e.execute freshId call w reports =
      (e.withSink e.sink).execute freshId call w reports := rfl
  rw [hself, execute_withSink e e.sink, execute_withSink e e.sink.recording]
  exact ⟨_, rfl, reportOf_truthful hfresh call _ (outcome_query e _ call w)⟩

/-- An execution ends with the same outcome, token and remote side over any sink. -/
theorem execute_withSink_alike (e : Engine σ ρ) (sink : Sink ρ') (freshId : String) (call : Call)
    (w : World σ) (reports : ρ) (reports' : ρ') :
    ((e.withSink sink).execute freshId call w reports').1 =
      (e.execute freshId call w reports).1 ∧
    ((e.withSink sink).execute freshId call w reports').2.1.token =
      (e.execute freshId call w reports).2.1.token ∧
    ((e.withSink sink).execute freshId call w reports').2.1.remote =
      (e.execute freshId call w reports).2.1.remote := by
  have hself : e.execute freshId call w reports =
      (e.withSink e.sink).execute freshId call w reports := rfl
  rw [hself, execute_withSink e e.sink, execute_withSink e sink]
  -- both worlds are the one after the outcome, up to a line in the log
  simp only [logReport_token_remote, and_self]

/-! ## Engines that are made with a sink -/

variable {backend : Adapter σ} {schema : Option Schema} {held : HeldSink ρ} {built : ρ}

/-- A sink that counts as true is the sink of the engine. -/
theorem create_of_truth (h : held.truth built = true) :
    create backend (some held) built schema = ⟨backend, held.record, schema⟩ := by
  unfold create
  dsimp only
  rw [if_pos h]

theorem create_eq_withSink (e : Engine σ ρ') (held : Option (HeldSink ρ)) (built : ρ) :
    ∃ sink, create e.backend held built e.schema = e.withSink sink :=
  ⟨_, rfl⟩

/-- **Every execution is reported once and truthfully, and no sink changes it.**  Whatever the
backend does, a sink that keeps its reports, and that counts as true when the engine is made,
receives one report of the outcome that the caller sees, and does otherwise what it did without
keeping them; and the same call ends with the same outcome, token and remote side in an engine that
is made with any other sink or with none, one that fails included. -/
theorem execute_reported (backend : Adapter σ) (held : HeldSink ρ) (built : ρ)
    (schema : Option Schema) (hheld : held.truth built = true) (freshId : String)
    (hfresh : freshId ≠ "") (call : Call) (w : World σ) (reports : ρ) (seen : List CallReport) :
    let e := create backend (some held) built schema
    (∃ report,
      (create backend (some held.recording) (built, []) schema).execute freshId call w
          (reports, seen) =
        ((e.execute freshId call w reports).1, (e.execute freshId call w reports).2.1,
          (e.execute freshId call w reports).2.2, seen ++ [report]) ∧
      Truthful call (e.execute freshId call w reports).1 report) ∧
    ∀ (ρ' : Type) (other : Option (HeldSink ρ')) (built' reports' : ρ'),
      let e' := create backend other built' schema
      (e'.execute freshId call w reports').1 = (e.execute freshId call w reports).1 ∧
      (e'.execute freshId call w reports').2.1.token =
        (e.execute freshId call w reports).2.1.token ∧
      (e'.execute freshId call w reports').2.1.remote =
        (e.execute freshId call w reports).2.1.remote := by
  intro e
  have he : e = ⟨backend, held.record, schema⟩ := create_of_truth hheld
  have htold : create backend (some held.recording) (built, []) schema =
      e.withSink e.sink.recording := by
    have hrecording : held.recording.truth (built, []) = true := hheld
    rw [he]
    exact create_of_truth hrecording
  refine ⟨?_, fun ρ' other built' reports' => ?_⟩
  · rw [htold]
    exact execute_recording e hfresh call w reports seen
  · obtain ⟨sink, hsink⟩ := create_eq_withSink e other built'
    rw [he] at hsink
    rw [hsink, ← he]
    exact execute_withSink_alike e sink freshId call w reports reports'

/-- A sink that always fails. -/
def fullDisk : HeldSink Unit :=
  ⟨fun _ state => (.error "disk full", state), fun _ => true⟩

/-- A call without a text reaches the failing sink as an empty query, under a fresh id. -/
theorem execute_reported_full_disk : ∃ report,
    ((create Memory.adapter (some fullDisk.recording) ((), []) none).execute "c-1"
      ⟨none, true, none⟩ ⟨.fresh, [], ⟨[], none, none, [], []⟩⟩ ((), [])).2.2.2 = [report] ∧
    report.correlationId ≠ "" ∧ report.query = "" ∧
    report.errorKind = some (.text "EmptyQuery") := by
  obtain ⟨⟨report, hexecute, htruth⟩, -⟩ := execute_reported Memory.adapter fullDisk () none rfl
    "c-1" (by decide) ⟨none, true, none⟩ ⟨.fresh, [], ⟨[], none, none, [], []⟩⟩ () []
  refine ⟨report, ?_, htruth.identified, htruth.rejected _ rfl, htruth.failure _ rfl⟩
  rw [hexecute]
  rfl

/-- A list that keeps its reports; like every list, it counts as true unless it is empty. -/
def listSink : HeldSink (List CallReport) :=
  ⟨fun report reports => (.ok (), reports ++ [report]), fun reports => !reports.isEmpty⟩

/-- A backend that runs into an error of another library, which has a kind. -/
def timingOut : Adapter MemoryStore :=
  { Memory.adapter with
    rawExecute := fun _ _ =>
      throw (.mishap (.foreign
        { className := "Timeout", text := "late", ownKind := some (.text "slow") })) }

/-- **An empty list of reports is never told, and a kind that is not in the taxonomy is.** -/
theorem execute_untold :
    let w : World MemoryStore := ⟨.fresh, [], ⟨[], none, none, [], []⟩⟩
    ((create Memory.adapter (some listSink) [] none).execute "c-1" ⟨none, false, none⟩ w []).2.2 =
      [] ∧
    ∃ report,
      ((create timingOut (some fullDisk.recording) ((), []) none).execute "c-1"
        ⟨some "SELECT 1", false, none⟩ w ((), [])).2.2.2 = [report] ∧
      report.errorKind = some (.text "slow") := by
  have hv : Validation.validateWide (some "SELECT 1") = .ok "SELECT 1" := by decide +kernel
  refine ⟨rfl, ?_⟩
  simp only [execute, outcome, hv]
  exact ⟨_, rfl, rfl⟩

end Engine

end ReadGate
