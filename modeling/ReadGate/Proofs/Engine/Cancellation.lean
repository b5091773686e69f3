import ReadGate.Proofs.Engine.Execution
import ReadGate.Proofs.Engine.Protocol
import ReadGate.Proofs.Memory.Calls
import ReadGate.Proofs.Postgres.Calls
import ReadGate.Proofs.Postgrest.Requests

/-!
# Cancelled executions

A call that was handed the token starts no request once the token is cancelled, whichever backend it
runs over and whenever that happens: not the next page of a selection, not the structured query
after the text, and no count of values that were fetched before.  And no call ends as cancelled
whose token is not, unless a backend in memory was prepared to say so.

* `Protocol.grouped` — what becomes of a grouped count whose values were fetched too late.
* `Prompt`, `prompt_of_traces` — what cancellation means for an execution.
* `execute_cancellation` — it means this over each of the three backends.
-/

namespace ReadGate.Engine

open Run

variable {σ ρ ι : Type}

/-! ## Grouped counts -/

/-- Why a grouped count ends whose call finds its token cancelled behind the values: for that
reason, or because they could not be fetched. -/
def countStopped : Except Trouble (List Value) → Trouble
  | .ok _ => .failure (.cancelledBefore "group_count aggregation")
  | .error trouble => trouble

/-- A grouped count among the calls does not end in counts if the token was cancelled by then. -/
def NoLateCounts (calls : List Entry) (outcome : Except Trouble QueryResult) : Prop :=
  ∀ entry ∈ calls, ∀ table column reply, entry.exchange = .values table column reply →
    (entry.guarded && entry.cancelled) = true → outcome = .error (countStopped reply)

theorem noLateCounts_nil (outcome : Except Trouble QueryResult) : NoLateCounts [] outcome := by
  intro entry hentry
  cases hentry

theorem AfterGeneric.grouped {guarded stopped : Bool} {text : String}
    {reply : Except Trouble (List Row)} {calls : List Entry} {outcome : Except Trouble QueryResult}
    (h : AfterGeneric guarded text stopped reply calls outcome) : NoLateCounts calls outcome := by
  intro entry hentry table column fetched hexchange hlate
  obtain ⟨trouble, rule, q, rfl, ht, rfl, htr⟩ :=
    h.second_call_iff.2.1 (List.ne_nil_of_mem hentry)
  simp only [AfterGeneric, ht, htr, Bool.true_eq_false, Bool.false_eq_true, if_false] at h
  obtain ⟨exchange, cancelled, answer, rfl, hanswers, rfl⟩ := h
  rw [List.mem_singleton] at hentry
  subst hentry
  cases hanswers with
  | rows | count => cases hexchange
  | groups hq =>
    cases hexchange
    replace hlate : (guarded && cancelled) = true := hlate
    rw [hlate]
    cases fetched <;> rfl

theorem Protocol.grouped {call : Call} {cancelled : Bool} {calls : List Entry}
    {outcome : Except Trouble QueryResult} (h : Protocol call cancelled calls outcome) :
    NoLateCounts calls outcome := by
  unfold Protocol at h
  rcases hv : Validation.validateWide call.query with rejection | (text | ⟨codes, half⟩) <;>
    rw [hv] at h
  · obtain ⟨rfl, -⟩ := h
    exact noLateCounts_nil _
  · cases hc : call.guarded && cancelled with
    | true =>
      simp only [hc, if_true] at h
      obtain ⟨rfl, -⟩ := h
      exact noLateCounts_nil _
    | false =>
      simp only [hc, Bool.false_eq_true, if_false] at h
      obtain ⟨reply, late, more, rfl, hafter⟩ := h
      intro entry hentry table column fetched hexchange
      rcases List.mem_cons.1 hentry with rfl | hmore
      · cases hexchange
      · exact hafter.grouped entry hmore table column fetched hexchange
  · obtain ⟨rfl, -⟩ := h
    exact noLateCounts_nil _

/-! ## Executions -/

/-- An execution keeps to its token, over a backend whose requests are the given steps. -/
structure Prompt (step : World σ → ι → World σ → Prop) (ending : Ending ι) (e : Engine σ ρ)
    (freshId : String) (call : Call) (w : World σ) (reports : ρ) : Prop where
  /-- Whatever reaches the backend is one request after the other, and a fatal one is the last. -/
  requests : ∃ requests, Trace step w requests (e.execute freshId call w reports).2.1 ∧
    ending.Explains requests (e.execute freshId call w reports).1
      (e.execute freshId call w reports).2.1.token
  /-- An accepted text whose token was cancelled before ends so, and nothing reaches the backend. -/
  before : ∀ text, Validation.validateWide call.query = .ok text →
    (call.guarded && w.token.cancelled) = true →
    (e.execute freshId call w reports).1 =
        .error (.failure (.cancelledBefore "generic execution")) ∧
      (e.execute freshId call w reports).2.1.remote = w.remote
  /-- No counts are made of values that were fetched too late. -/
  late : ∃ calls,
    e.recording.execute freshId call (w.withRecord []) reports =
      ((e.execute freshId call w reports).1,
        (e.execute freshId call w reports).2.1.withRecord calls,
        (e.execute freshId call w reports).2.2) ∧
    NoLateCounts calls (e.execute freshId call w reports).1

/-- An execution over an honest backend keeps to its token, and does not end as cancelled if the
token is not. -/
structure PromptAndHonest (step : World σ → ι → World σ → Prop) (ending : Ending ι)
    (e : Engine σ ρ) (freshId : String) (call : Call) (w : World σ) (reports : ρ) : Prop
    extends Prompt step ending e freshId call w reports where
  honest : ∀ f, (e.execute freshId call w reports).1 = .error (.failure f) →
    f.IsHonest call.guarded (e.execute freshId call w reports).2.1.token

section

variable {step : World σ → ι → World σ → Prop} {ending : Ending ι} {e : Engine σ ρ}

/-- A dispatched query whose token was cancelled before makes no request. -/
theorem Conduct.before {call : Call} {w w' : World σ} {text : WideText}
    {outcome : Except Trouble QueryResult} (hv : Validation.validateWide call.query = .ok text)
    (hc : (call.guarded && w.token.cancelled) = true) (h : Conduct e call w (outcome, w')) :
    outcome = .error (.failure (.cancelledBefore "generic execution")) ∧
      w'.remote = w.remote := by
  cases h with
  | rejected lines hrejected =>
    rw [hrejected] at hv
    cases hv
  | broken lines hbroken =>
    rw [hc]
    exact ⟨rfl, rfl⟩
  | dispatched lines haccepted course =>
    cases course with
    | stopped => exact ⟨rfl, rfl⟩
    | generic _ hfree | refused _ hfree | stoppedBetween _ hfree | unreadable _ hfree
    | unsupported _ hfree | fallback _ _ hfree =>
      rw [show (call.guarded && w.token.cancelled) = false from hfree] at hc
      cases hc

/-- An execution keeps to its token if the calls of its backend do. -/
theorem prompt_of_traces
    (hfinal : ∀ trouble token, ending.blame trouble token → trouble.isRecoverable = false)
    {call : Call} (hraw : ∀ text, Traces step ending (e.backend.rawExecute call.guarded text))
    (hstructured : ∀ q, Traces step ending (executeStructured e.backend call.guarded q))
    (freshId : String) (w : World σ) (reports : ρ) :
    Prompt step ending e freshId call w reports := by
  have hconduct := execute_conduct e freshId call w reports
  obtain ⟨calls, houtcome, hprotocol⟩ := outcome_protocol e (callId freshId call) call w
  refine ⟨?_, fun text hv hc => hconduct.before hv hc, calls, ?_, hprotocol.grouped⟩
  · exact hconduct.trace hfinal (fun text _ => hraw text) fun text rule q _ _ => hstructured q
  · simp only [execute, houtcome, logRejection_withRecord, logReport_withRecord]
    rfl

end

/-! ## The three backends -/

theorem memory_structured_traces (guarded : Bool) (q : StructuredQuery) :
    Traces (Memory.Called guarded) .none (executeStructured Memory.adapter guarded q) :=
  executeStructured_keeps (Traces.closed guarded) (Memory.structuredQuery_traces guarded _)
    (Memory.count_traces guarded _) (Memory.columnValues_traces guarded _ _)

/-- Whatever holds of a checked request to an endpoint holds of the answer to a structured query. -/
theorem postgrest_structured_keeps {c : Postgrest.Client σ} {guarded : Bool}
    {P : (α : Type) → Run (Postgrest.Wire σ) α → Prop} (h : Closed guarded P)
    (hasking : ∀ stage operation r, P _ (Postgrest.asking c guarded stage operation r))
    (q : StructuredQuery) : P _ (executeStructured c.adapter guarded q) := by
  have hserving := Postgrest.Serving.of_asking h hasking
  exact executeStructured_keeps h (Postgrest.structuredQuery_keeps hserving _)
    (Postgrest.count_keeps hserving _) (Postgrest.columnValues_keeps hserving _ _)

theorem postgres_structured_traces (d : Postgres.Database) (guarded : Bool) (q : StructuredQuery) :
    Traces (Postgres.Visited guarded fun _ => True) (Postgres.interruption guarded)
      (executeStructured d.adapter guarded q) :=
  executeStructured_keeps (Traces.closed guarded) (Postgres.structuredQuery_traces trivial)
    (Postgres.count_traces trivial) (Postgres.columnValues_traces fun _ _ => trivial)

theorem postgres_structured_honest (d : Postgres.Database) (guarded : Bool) (q : StructuredQuery) :
    Honest guarded (executeStructured d.adapter guarded q) :=
  executeStructured_keeps Honest.closed (Postgres.structuredQuery_honest _)
    (Postgres.count_honest _) (Postgres.columnValues_honest _ _)

/-- **Executions keep to their token over each of the three backends**, and over the two remote ones
they end as cancelled only if the token is.  A statement that the database itself cancels ends the
execution: as cancelled if the token is, and as a failed execution of the backend if it is not. -/
theorem execute_cancellation (sink : Sink ρ) (schema : Option Schema) (freshId : String)
    (call : Call) (reports : ρ) :
    (∀ w, Prompt (Memory.Called call.guarded) .none ⟨Memory.adapter, sink, schema⟩ freshId call w
      reports) ∧
    (∀ (c : Postgrest.Client σ) (w), PromptAndHonest (Postgrest.Sent c call.guarded) .none
      ⟨c.adapter, sink, schema⟩ freshId call w reports) ∧
    (∀ (d : Postgres.Database) (w), PromptAndHonest
      (Postgres.Visited call.guarded fun _ => True) (Postgres.interruption call.guarded)
      ⟨d.adapter, sink, schema⟩ freshId call w reports) := by
  refine ⟨fun w => ?_, fun c w => ?_, fun d w => ?_⟩
  · exact prompt_of_traces none_final (Memory.rawExecute_traces call.guarded)
      (memory_structured_traces call.guarded) freshId w reports
  · have htraces := Postgrest.asking_traces c call.guarded
    have hhonest := Postgrest.asking_honest c call.guarded
    refine ⟨prompt_of_traces none_final
      (Postgrest.rawExecute_keeps (Traces.closed _) htraces)
      (postgrest_structured_keeps (Traces.closed _) htraces) freshId w reports, fun f hf => ?_⟩
    have hconduct := execute_conduct ⟨c.adapter, sink, schema⟩ freshId call w reports
    rw [hf] at hconduct
    exact hconduct.honest (Postgrest.rawExecute_keeps Honest.closed hhonest)
      (postgrest_structured_keeps Honest.closed hhonest)
  · refine ⟨prompt_of_traces Postgres.interruption_final
      (fun text => Postgres.rawExecute_traces trivial)
      (postgres_structured_traces d call.guarded) freshId w reports, fun f hf => ?_⟩
    have hconduct := execute_conduct ⟨d.adapter, sink, schema⟩ freshId call w reports
    rw [hf] at hconduct
    exact hconduct.honest Postgres.rawExecute_honest (postgres_structured_honest d call.guarded)

end ReadGate.Engine
