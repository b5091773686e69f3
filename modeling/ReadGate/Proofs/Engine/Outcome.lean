import ReadGate.Proofs.Engine.Failures
import ReadGate.Proofs.Record.Fields

/-!
# Outcomes of runs

A run tells the result of its execution, or reports the trouble in which it ended.  A report holds
the message of a failure as a text.  An endpoint's messages are passed on as they come, so a failure
may have a message that no report can hold; the run of such an execution has no outcome.

* `Tells` — an outcome tells what an execution ended in.
* `Concludes` — a run gives such an outcome, unless it would have to report a failure that fits no
  report; and where such a failure comes from.
* `run_concludes` — the runs over the three backends.
* `run_concludes_numbered` — an endpoint that numbers its errors leaves a run without an outcome.
-/

namespace ReadGate.Engine

variable {σ ρ : Type}

/-! ## Reports -/

/-- The outcome tells what the call ended in.  The wording of issues is left open. -/
inductive Tells : Except Trouble QueryResult → Outcome → Prop
  | result (r : QueryResult) : Tells (.ok r) (.result r)
  | failure {f : Failure} {message : WideText} {details : Row}
    (hmessage : Record.text f.message = .ok message) (hdetails : f.details = .record details) :
    Tells (.error (.failure f)) (.failed ⟨message, f.kind.name, details⟩ f.kind.note)
  | mishap {m : Mishap} (hnamed : ∀ issues, m ≠ .invalid issues) :
    Tells (.error (.mishap m))
      (.failed ⟨.whole "Query failed: " ++ m.text, "Unknown", []⟩ .executionError)
  | invalid (issues : List Issue) (wording : WideText) :
    Tells (.error (.mishap (.invalid issues)))
      (.failed ⟨.whole "Query failed: " ++ wording, "Unknown", []⟩ .executionError)

/-- The parts of a failure are read into a report as they are. -/
theorem queryError_eq_ok {message details : Value} {kind : String} {error : QueryError} :
    Record.queryError [("error", message), ("kind", .text kind), ("details", details)] =
        .ok error ↔
      Record.text message = .ok error.error ∧ error.kind = .whole kind ∧
        details = .record error.details := by
  obtain ⟨text, name, fields⟩ := error
  have herror : Row.get? [("error", message), ("kind", Value.text kind), ("details", details)]
    "error" = some message := rfl
  have hkind : Row.get? [("error", message), ("kind", Value.text kind), ("details", details)]
    "kind" = some (.text kind) := rfl
  have hdetails : Row.get? [("error", message), ("kind", Value.text kind), ("details", details)]
    "details" = some details := rfl
  unfold Record.queryError
  simp only [Checked.map_eq_ok, Checked.both_eq_ok, Record.required_eq_ok herror,
    Record.required_eq_ok hkind, Record.optional_eq_ok hdetails, Record.mapping_eq_ok]
  constructor
  · rintro ⟨⟨text', name', fields'⟩, ⟨htext, hname, hfields⟩, heq⟩
    cases heq
    cases hname
    exact ⟨htext, rfl, hfields⟩
  · rintro ⟨htext, rfl, hfields⟩
    exact ⟨(text, _, fields), ⟨htext, rfl, hfields⟩, rfl⟩

/-- The report of a failure tells it. -/
theorem failureReport_tells {f : Failure} {outcome : Outcome}
    (h : failureReport f = .ok outcome) : Tells (.error (.failure f)) outcome := by
  unfold failureReport at h
  split at h
  · rename_i error hread
    cases h
    obtain ⟨hmessage, hkind, hdetails⟩ := queryError_eq_ok.1 hread
    obtain ⟨text, name, fields⟩ := error
    subst hkind
    exact .failure hmessage hdetails
  · cases h

/-- The report of a mishap tells it. -/
theorem mishapReport_tells (m : Mishap) : Tells (.error (.mishap m)) (mishapReport m) := by
  by_cases hissues : ∃ issues, m = .invalid issues
  · obtain ⟨issues, rfl⟩ := hissues
    exact .invalid issues (Mishap.invalid issues).text
  · exact .mishap fun issues heq => hissues ⟨issues, heq⟩

/-- A failure has a report if it fits into one, and only then. -/
theorem failureReport_cases (f : Failure) :
    (f.IsReportable ∧ ∃ outcome, failureReport f = .ok outcome) ∨
    (¬ f.IsReportable ∧ ∃ issues, failureReport f = .error (.invalid issues)) := by
  unfold failureReport
  rcases hread : Record.queryError [("error", f.message), ("kind", .text f.kind.name),
    ("details", f.details)] with issues | error
  · refine .inr ⟨fun hfits => ?_, issues, rfl⟩
    obtain ⟨⟨message, hmessage⟩, ⟨details, hdetails⟩⟩ := hfits
    let error : QueryError := ⟨message, f.kind.name, details⟩
    have hreads : Record.queryError [("error", f.message), ("kind", .text f.kind.name),
        ("details", f.details)] = .ok error := queryError_eq_ok.2 ⟨hmessage, rfl, hdetails⟩
    cases hread.symm.trans hreads
  · obtain ⟨hmessage, -, hdetails⟩ := queryError_eq_ok.1 hread
    exact .inl ⟨⟨⟨_, hmessage⟩, ⟨_, hdetails⟩⟩, _, rfl⟩

/-! ## Runs -/

/-- A run gives an outcome that tells what its execution ended in, unless this is a failure that
fits no report; and a failure that fits none comes from the origin. -/
structure Concludes (origin : Failure → Prop) (e : Engine σ ρ) (freshId : String) (call : Call)
    (w : World σ) (reports : ρ) : Prop where
  /-- There is an outcome, or the report itself is refused. -/
  ends : (∃ outcome, (e.run freshId call w reports).1 = .ok outcome) ∨
    ∃ issues, (e.run freshId call w reports).1 = .error (.invalid issues)
  /-- An outcome is told truly. -/
  told : ∀ outcome, (e.run freshId call w reports).1 = .ok outcome →
    Tells (e.execute freshId call w reports).1 outcome
  /-- There is one unless the execution ended in a failure that fits no report. -/
  outcome_iff : (∃ outcome, (e.run freshId call w reports).1 = .ok outcome) ↔
    ∀ f, (e.execute freshId call w reports).1 = .error (.failure f) → f.IsReportable
  /-- Only the origin has such failures. -/
  unfit : ∀ f, (e.execute freshId call w reports).1 = .error (.failure f) → ¬ f.IsReportable →
    origin f

/-- What becomes of a run, from what became of its execution. -/
theorem run_apply (e : Engine σ ρ) (freshId : String) (call : Call) (w : World σ) (reports : ρ) :
    (e.run freshId call w reports).1 =
      match (e.execute freshId call w reports).1 with
      | .ok r => .ok (.result r)
      | .error (.failure f) => failureReport f
      | .error (.mishap m) => .ok (mishapReport m) := by
  rw [run_eq]
  rcases e.execute freshId call w reports with ⟨(f | m) | r, w₁, reports₁⟩ <;> rfl

/-- After its execution, a run does nothing to the remote side. -/
theorem run_remote (e : Engine σ ρ) (freshId : String) (call : Call) (w : World σ) (reports : ρ) :
    (e.run freshId call w reports).2.1.remote = (e.execute freshId call w reports).2.1.remote := by
  rw [run_eq]
  rcases e.execute freshId call w reports with ⟨(f | m) | r, w₁, reports₁⟩ <;> rfl

/-- The failures of a run are those of its backend. -/
theorem concludes_of_accountable {kept : σ → Prop} {origin : Failure → Prop} {e : Engine σ ρ}
    {call : Call} {w : World σ} (hbackend : Accountable kept origin call.guarded e.backend)
    (hkept : kept w.remote) (freshId : String) (reports : ρ) :
    Concludes origin e freshId call w reports := by
  have hunfit : ∀ f, (e.execute freshId call w reports).1 = .error (.failure f) →
      ¬ f.IsReportable → origin f := fun f hf hfits =>
    (execute_blames hbackend hkept hf).2.resolve_left hfits
  have hrun := run_apply e freshId call w reports
  rcases hexecute : (e.execute freshId call w reports).1 with (f | m) | r <;>
    rw [hexecute] at hrun
  · rcases failureReport_cases f with ⟨hfits, outcome, hreport⟩ | ⟨hfits, issues, hreport⟩
    · have houtcome : (e.run freshId call w reports).1 = .ok outcome := hrun.trans hreport
      refine ⟨.inl ⟨outcome, houtcome⟩, fun outcome' houtcome' => ?_, ?_, hunfit⟩
      · rw [hexecute]
        exact failureReport_tells (hrun.symm.trans houtcome')
      · refine iff_of_true ⟨outcome, houtcome⟩ fun f' hf' => ?_
        cases hexecute.symm.trans hf'
        exact hfits
    · have hraised : (e.run freshId call w reports).1 = .error (.invalid issues) :=
        hrun.trans hreport
      refine ⟨.inr ⟨issues, hraised⟩, fun outcome houtcome => ?_, ?_, hunfit⟩
      · cases hraised.symm.trans houtcome
      · refine iff_of_false ?_ fun hall => hfits (hall f hexecute)
        rintro ⟨outcome, houtcome⟩
        cases hraised.symm.trans houtcome
  · refine ⟨.inl ⟨_, hrun⟩, fun outcome houtcome => ?_, ?_, hunfit⟩
    · rw [hexecute]
      cases hrun.symm.trans houtcome
      exact mishapReport_tells m
    · refine iff_of_true ⟨_, hrun⟩ fun f hf => ?_
      cases hexecute.symm.trans hf
  · refine ⟨.inl ⟨_, hrun⟩, fun outcome houtcome => ?_, ?_, hunfit⟩
    · rw [hexecute]
      cases hrun.symm.trans houtcome
      exact .result r
    · refine iff_of_true ⟨_, hrun⟩ fun f hf => ?_
      cases hexecute.symm.trans hf

/-- **A run gives an outcome unless it would have to report a failure that fits no report.**  Over
tables in memory this is the failure that they were set up with; over an endpoint, one that carries
the message of an error reply.  Over a database there is always an outcome. -/
theorem run_concludes (sink : Sink ρ) (schema : Option Schema) (freshId : String) (call : Call)
    (reports : ρ) :
    (∀ w, Concludes (fun f => w.remote.trouble = some (.failure f)) ⟨Memory.adapter, sink, schema⟩
      freshId call w reports) ∧
    (∀ (c : Postgrest.Client σ) (w), Concludes (Postgrest.Carried c w.remote.server)
      ⟨c.adapter, sink, schema⟩ freshId call w reports) ∧
    (∀ (d : Postgres.Database) (w), Concludes (fun _ => False) ⟨d.adapter, sink, schema⟩
      freshId call w reports) := by
  refine ⟨fun w => ?_, fun c w => ?_, fun d w => ?_⟩
  · refine concludes_of_accountable (Memory.accountable w.remote.trouble call.guarded) ?_ freshId
      reports
    rfl
  · exact concludes_of_accountable (Postgrest.accountable c w.remote.server call.guarded)
      (fun _ hheard => hheard) freshId reports
  · exact concludes_of_accountable (Postgres.accountable d call.guarded) trivial freshId reports

/-- An endpoint that does not offer the execution of query texts, and that numbers its errors. -/
def numberingReplies : List Postgrest.Response :=
  [⟨false, .reply ⟨404, "Not Found", [],
      "\x7b\"code\": \"PGRST202\", \"message\": \"Could not find the function\"\x7d"⟩⟩,
    ⟨false, .reply ⟨400, "Bad Request", [], "\x7b\"message\": 5\x7d"⟩⟩]

/-- An engine over a scripted endpoint. -/
def scriptedEngine : Engine (Postgrest.Wire (List Postgrest.Response)) Unit :=
  let endpoint : Postgrest.Endpoint :=
    ⟨"https://x.test", "k", "execute_sql", "get_table_schema", .ofInt 30,
      Postgrest.Endpoint.usualPageSize⟩
  ⟨(⟨endpoint, Postgrest.scripted⟩ : Postgrest.Client _).adapter,
    fun _ state => (.ok (), state), none⟩

/-- The issues of a report that was refused. -/
def issuesOf : Except Mishap Outcome → Option (List Issue)
  | .error (.invalid issues) => some issues
  | _ => none

/-- The fallback ends in an error with a number as its message, and no report holds that. -/
theorem run_concludes_numbered :
    let call : Call := ⟨some "SELECT * FROM t", false, some "c-1"⟩
    let w : World (Postgrest.Wire (List Postgrest.Response)) := ⟨.fresh, [], ⟨[], numberingReplies⟩⟩
    issuesOf (scriptedEngine.run "c-1" call w ()).1 =
        some [⟨.stringType, [.field "error"]⟩] ∧
      ∃ f, (scriptedEngine.execute "c-1" call w ()).1 = .error (.failure f) ∧
        ¬ f.IsReportable ∧ ∃ reply, Postgrest.Hears Postgrest.scripted numberingReplies reply ∧
          reply.Reports f.message := by
  intro call w
  have hissues : issuesOf (scriptedEngine.run "c-1" call w ()).1 =
      some [⟨.stringType, [.field "error"]⟩] := by decide +kernel
  obtain ⟨-, hconcludes, -⟩ := @run_concludes (List Postgrest.Response) Unit scriptedEngine.sink none
    "c-1" call ()
  have hrun : Concludes (Postgrest.Carried ⟨_, Postgrest.scripted⟩ numberingReplies) scriptedEngine
    "c-1" call w () := hconcludes _ w
  -- the report was refused, so there is a failure that fits none
  have hnone : ¬ ∃ outcome, (scriptedEngine.run "c-1" call w ()).1 = .ok outcome := by
    rintro ⟨outcome, houtcome⟩
    rw [houtcome] at hissues
    cases hissues
  rw [hrun.outcome_iff] at hnone
  obtain ⟨f, hf⟩ := Classical.not_forall.1 hnone
  obtain ⟨hexecute, hfits⟩ := Classical.not_imp.1 hf
  exact ⟨hissues, f, hexecute, hfits, hrun.unfit f hexecute hfits⟩

end ReadGate.Engine
