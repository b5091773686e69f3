import Mathlib.Control.Monad.Basic
import ReadGate.Proofs.Backend.Recording
import ReadGate.Proofs.Engine.Execution

/-!
# The protocol between the engine and a backend

The engine calls a backend at most twice for one query: first with the cleaned text, and then, only
if the backend cannot execute it, with what the text translates to.  The record of a recording
backend shows these calls, and the outcome follows from what the record says.  A text in which
halves of surrogate pairs stand alone is accepted and then not handed over, so it is in no record.

* `records_dispatch` — a recorder changes nothing about a dispatched query.
* `Answers`, `AfterGeneric`, `Protocol` — what the record and the outcome of a call have to be.
* `execute_protocol` — every execution follows the protocol, whatever the backend replies.
* `execute_withholds_halves` — an accepted text of which the backend is not told.
-/

namespace ReadGate.Engine

variable {σ ρ : Type} {backend : Adapter σ}

/-! ## The engine over a recording backend -/

/-- The same engine over the recording backend. -/
def recording (e : Engine σ ρ) : Engine (Recorded σ) ρ :=
  ⟨e.backend.recording, e.sink, e.schema⟩

theorem records_giveUp {α : Type} (ticket : Ticket) (path : ExecutionPath) (trouble : Trouble) :
    Records (σ := σ) (α := α) (giveUp ticket path trouble) (giveUp ticket path trouble) := by
  cases trouble with
  | mishap m => exact .throw _
  | failure f =>
    unfold giveUp
    cases hf : f.kind.isBackend with
    | true =>
      simp only [hf, if_true]
      exact .bind (.report ..) fun _ => .throw _
    | false =>
      simp only [hf, Bool.false_eq_true, if_false]
      exact .throw _

theorem records_tryGeneric (ticket : Ticket) (text : String) :
    Records (tryGeneric backend.recording ticket text) (tryGeneric backend ticket text) := by
  unfold tryGeneric
  refine .tryCatch ?_ fun trouble => ?_
  · exact .bind (.recorded ..) fun rows => .bind (.report ..) fun _ => .pure _
  · cases trouble with
    | mishap m => exact records_giveUp ..
    | failure f =>
      cases hf : f.kind.isRecoverable with
      | true =>
        simp only [hf, if_true]
        exact .bind (.report ..) fun _ => .pure _
      | false =>
        simp only [hf, Bool.false_eq_true, if_false]
        exact records_giveUp ..

theorem records_groupsOf (q : StructuredQuery) (values : List Value) :
    Records (σ := σ) (groupsOf q values) (groupsOf q values) := by
  unfold groupsOf
  cases Grouping.obstacle? values with
  | some why => exact .bind (.throw _) fun _ => .bind (.report ..) fun _ => .pure _
  | none => exact .bind (.report ..) fun _ => .pure _

theorem records_executeStructured (guarded : Bool) (q : StructuredQuery) :
    Records (executeStructured backend.recording guarded q)
      (executeStructured backend guarded q) := by
  unfold executeStructured
  cases q.aggregate with
  | rows => exact .recorded ..
  | count => exact .bind (.recorded ..) fun total => .pure _
  | groupCount =>
    refine .bind ?_ fun groups => .pure _
    exact .bind (.recorded ..) fun values => .bind (.check ..) fun _ => records_groupsOf q values

theorem records_fallback (schema : Option Schema) (ticket : Ticket) (text : String) :
    Records (fallback backend.recording schema ticket text)
      (fallback backend schema ticket text) := by
  unfold fallback
  refine .bind (.lift _) fun translated => ?_
  rcases translated with _ | ⟨rule, q⟩
  · exact .bind (.report ..) fun _ => .throw _
  · have hanswer : Records
        (tryCatch (executeStructured backend.recording ticket.guarded q)
          (giveUp ticket .fallback) >>= fun rows => pure (fallbackResult rule rows))
        (tryCatch (executeStructured backend ticket.guarded q)
          (giveUp ticket .fallback) >>= fun rows => pure (fallbackResult rule rows)) :=
      .bind (.tryCatch (records_executeStructured ..) fun _ => records_giveUp ..) fun _ => .pure _
    refine .bind (.report ..) fun _ => ?_
    cases hs : schema.any fun s => !s.hasTable q.table with
    | true =>
      rw [if_pos rfl]
      exact .bind (.report ..) fun _ => hanswer
    | false =>
      rw [if_neg Bool.false_ne_true]
      exact hanswer

/-- **A recorder changes nothing about a dispatched query.** -/
theorem records_dispatch (backend : Adapter σ) (schema : Option Schema) (ticket : Ticket)
    (text : WideText) :
    Records (dispatch backend.recording schema ticket text)
      (dispatch backend schema ticket text) := by
  unfold dispatch pursue
  refine .bind (.check ..) fun _ => .bind (.lift _) fun text =>
    .bind (records_tryGeneric ..) fun rows => ?_
  cases rows with
  | some rows => exact .pure _
  | none => exact .bind (.check ..) fun _ => records_fallback ..

/-! ## The protocol -/

/-- The one exchange by which a structured query is answered, and the answer that is made of its
reply.  `stopped` says that the call found its token cancelled after the reply. -/
inductive Answers (q : StructuredQuery) (stopped : Bool) :
    Exchange → Except Trouble (List Row) → Prop
  | rows (h : q.aggregate = .rows) (reply : Except Trouble (List Row)) :
    Answers q stopped
      (.select ⟨q.table, q.columns, q.predicate, q.limit.map Int.ofNat, q.orderBy⟩ reply) reply
  | count (h : q.aggregate = .count) (reply : Except Trouble Int) :
    Answers q stopped (.count q.table reply) (reply.map fun n => [[(q.countName, .int n)]])
  | groups (h : q.aggregate = .groupCount) (reply : Except Trouble (List Value)) :
    Answers q stopped (.values q.table q.groupBy reply)
      ((reply.bind (grouping stopped)).map fun groups => groups.map q.groupRow)

/-- The calls after the first one, and the outcome.  `stopped` says that the call found its token
cancelled after the first reply. -/
def AfterGeneric (guarded : Bool) (text : String) (stopped : Bool)
    (reply : Except Trouble (List Row)) (calls : List Entry)
    (outcome : Except Trouble QueryResult) : Prop :=
  match reply with
  | .ok rows => calls = [] ∧ outcome = .ok ⟨rows, rows.length, .generic, none⟩
  | .error trouble =>
    if trouble.isRecoverable = false then calls = [] ∧ outcome = .error trouble
    else if stopped then
      calls = [] ∧ outcome = .error (.failure (.cancelledBefore "fallback translation"))
    else
      match translate text with
      | .error e => calls = [] ∧ outcome = .error (.mishap (.numeral e))
      | .ok none => calls = [] ∧ outcome = .error (.failure (unsupported text))
      | .ok (some (rule, q)) => ∃ exchange cancelled answer,
          calls = [⟨guarded, exchange, cancelled⟩] ∧
          Answers q (guarded && cancelled) exchange answer ∧
          outcome = answer.map fun rows => ⟨rows, rows.length, .fallback, some rule.name⟩

/-- The calls of an execution and its outcome; `cancelled` is the state of the token before it. -/
def Protocol (call : Call) (cancelled : Bool) (calls : List Entry)
    (outcome : Except Trouble QueryResult) : Prop :=
  match Validation.validateWide call.query with
  | .error rejection => calls = [] ∧ outcome = .error (.failure rejection.failure)
  | .ok (.broken ..) => calls = [] ∧ outcome = unsent (call.guarded && cancelled)
  | .ok (.whole text) =>
    if call.guarded && cancelled then
      calls = [] ∧ outcome = .error (.failure (.cancelledBefore "generic execution"))
    else ∃ reply cancelled more,
      calls = ⟨call.guarded, .raw text reply, cancelled⟩ :: more ∧
      AfterGeneric call.guarded text (call.guarded && cancelled) reply more outcome

/-- A second call is made exactly if the first one ended in recoverable trouble, the call did not
find its token cancelled then, and a rule recognizes the text.  There is never a third. -/
theorem AfterGeneric.second_call_iff {guarded stopped : Bool} {text : String}
    {reply : Except Trouble (List Row)} {calls : List Entry} {outcome : Except Trouble QueryResult}
    (h : AfterGeneric guarded text stopped reply calls outcome) :
    calls.length ≤ 1 ∧ (calls ≠ [] ↔ ∃ trouble rule q, reply = .error trouble ∧
      trouble.isRecoverable = true ∧ stopped = false ∧ translate text = .ok (some (rule, q))) := by
  rcases reply with trouble | rows
  · unfold AfterGeneric at h
    cases ht : trouble.isRecoverable with
    | false =>
      simp only [ht, if_true] at h
      simp [h.1, ht]
    | true =>
      cases stopped with
      | true =>
        simp only [ht, Bool.true_eq_false, if_false, if_true] at h
        simp [h.1]
      | false =>
        simp only [ht, Bool.true_eq_false, Bool.false_eq_true, if_false] at h
        rcases htr : translate text with e | _ | ⟨rule, q⟩ <;> rw [htr] at h
        · simp [h.1]
        · simp [h.1]
        · obtain ⟨exchange, cancelled, answer, rfl, -, -⟩ := h
          exact ⟨Nat.le_refl 1, fun _ => ⟨trouble, rule, q, rfl, ht, rfl, rfl⟩,
            fun _ => List.cons_ne_nil _ _⟩
  · obtain ⟨rfl, -⟩ := h
    simp

/-- A structured query makes one call of the backend. -/
theorem executeStructured_answers {guarded : Bool} {q : StructuredQuery} {w w₁ : World (Recorded σ)}
    {answer : Except Trouble (List Row)}
    (h : executeStructured backend.recording guarded q w = (answer, w₁)) :
    ∃ exchange cancelled, w₁.record = w.record ++ [⟨guarded, exchange, cancelled⟩] ∧
      Answers q (guarded && cancelled) exchange answer := by
  unfold executeStructured at h
  cases hq : q.aggregate with
  | rows =>
    simp only [hq] at h
    exact ⟨_, _, record_of_recorded h, .rows hq answer⟩
  | count =>
    simp only [hq, Run.bind_apply] at h
    rcases hcall : backend.recording.count guarded q.table w with ⟨reply, w₂⟩
    rw [hcall] at h
    have hanswer : answer = reply.map (fun n => [[(q.countName, .int n)]]) ∧ w₁ = w₂ := by
      cases reply <;> cases h <;> exact ⟨rfl, rfl⟩
    obtain ⟨rfl, rfl⟩ := hanswer
    exact ⟨_, _, record_of_recorded hcall, .count hq reply⟩
  | groupCount =>
    obtain ⟨lines, hgroups⟩ := countGroups_apply backend.recording guarded q w
    simp only [hq, Run.bind_apply, hgroups] at h
    rcases hcall : backend.recording.columnValues guarded q.table q.groupBy w with ⟨reply, w₂⟩
    rw [hcall] at h
    have hanswer : answer = (reply.bind (grouping (guarded && w₂.token.cancelled))).map
        (fun groups => groups.map q.groupRow) ∧ w₁.record = w₂.record := by
      rcases reply with trouble | values
      · cases h
        exact ⟨rfl, rfl⟩
      · simp only [Except.bind]
        rcases hg : grouping (guarded && w₂.token.cancelled) values with trouble | groups <;>
          simp only [hg] at h <;> cases h <;> exact ⟨rfl, rfl⟩
    obtain ⟨rfl, hrecord⟩ := hanswer
    refine ⟨_, w₂.token.cancelled, ?_, .groups hq reply⟩
    rw [hrecord]
    exact record_of_recorded hcall

/-- A dispatched query over a recording backend follows the protocol. -/
theorem Course.protocol {ticket : Ticket} {text : String} {w w' : World (Recorded σ)}
    {outcome : Except Trouble QueryResult}
    (h : Course backend.recording ticket text w (outcome, w')) :
    if ticket.guarded && w.token.cancelled then
      w'.record = w.record ∧ outcome = .error (.failure (.cancelledBefore "generic execution"))
    else ∃ reply cancelled more,
      w'.record = w.record ++ ⟨ticket.guarded, .raw text reply, cancelled⟩ :: more ∧
      AfterGeneric ticket.guarded text (ticket.guarded && cancelled) reply more outcome := by
  cases h with
  | stopped hc =>
    rw [if_pos hc]
    exact ⟨rfl, rfl⟩
  | generic lines hc hraw =>
    rw [hc]
    have hrecord := record_of_recorded hraw
    exact ⟨_, _, [], hrecord, rfl, rfl⟩
  | refused lines hc hraw ht =>
    rw [hc]
    have hrecord := record_of_recorded hraw
    refine ⟨_, _, [], hrecord, ?_⟩
    simp only [AfterGeneric, ht, if_true, and_self]
  | stoppedBetween lines hc hraw ht hc₁ =>
    rw [hc]
    have hrecord := record_of_recorded hraw
    refine ⟨_, _, [], hrecord, ?_⟩
    simp only [AfterGeneric, ht, hc₁, Bool.true_eq_false, if_false, if_true, and_self]
  | unreadable lines hc hraw ht hc₁ htr =>
    rw [hc]
    have hrecord := record_of_recorded hraw
    refine ⟨_, _, [], hrecord, ?_⟩
    simp only [AfterGeneric, ht, hc₁, htr, Bool.true_eq_false, Bool.false_eq_true, if_false,
      and_self]
  | unsupported lines hc hraw ht hc₁ htr =>
    rw [hc]
    have hrecord := record_of_recorded hraw
    refine ⟨_, _, [], hrecord, ?_⟩
    simp only [AfterGeneric, ht, hc₁, htr, Bool.true_eq_false, Bool.false_eq_true, if_false,
      and_self]
  | fallback before after hc hraw ht hc₁ htr hq =>
    rename_i trouble w₁ w₂ rule q answer
    rw [hc]
    have hrecord := record_of_recorded hraw
    obtain ⟨exchange, cancelled, hrecord', hanswers⟩ := executeStructured_answers hq
    refine ⟨.error trouble, w₁.token.cancelled, [⟨ticket.guarded, exchange, cancelled⟩], ?_, ?_⟩
    · rw [World.record_logged, hrecord', World.record_logged, hrecord, List.append_assoc]
      rfl
    · simp only [AfterGeneric, ht, hc₁, htr, Bool.true_eq_false, Bool.false_eq_true, if_false]
      exact ⟨exchange, cancelled, _, rfl, hanswers, rfl⟩

/-! ## Executions -/

theorem logRejection_withRecord (id : String) (raw : WideText)
    (result : Except Trouble QueryResult) (w : World σ) (record : List Entry) :
    logRejection id raw result (w.withRecord record) =
      (logRejection id raw result w).withRecord record := by
  rcases result with (f | m) | r
  · simp only [logRejection]
    split <;> rfl
  · rfl
  · rfl

theorem logReport_withRecord (id : String) (written : Except String Unit) (w : World σ)
    (record : List Entry) :
    logReport id written (w.withRecord record) = (logReport id written w).withRecord record := by
  cases written <;> rfl

/-- The outcome of a call, before it is reported, follows the protocol. -/
theorem outcome_protocol (e : Engine σ ρ) (id : String) (call : Call) (w : World σ) :
    ∃ calls,
      e.recording.outcome id call (w.withRecord []) =
        ((e.outcome id call w).1, (e.outcome id call w).2.1.withRecord calls,
          (e.outcome id call w).2.2) ∧
      Protocol call w.token.cancelled calls (e.outcome id call w).1 := by
  unfold Protocol outcome
  rcases hv : Validation.validateWide call.query with rejection | (text | ⟨codes, half⟩)
  · exact ⟨[], rfl, rfl, rfl⟩
  · obtain ⟨calls, hcalls⟩ :=
      (records_dispatch e.backend e.schema ⟨id, call.guarded⟩ text).erases w []
    have hcourse := dispatch_course e.backend.recording e.schema ⟨id, call.guarded⟩
      (Validation.ne_empty_of_validateWide hv) (w.withRecord [])
    rw [hcalls] at hcourse
    refine ⟨calls, ?_, hcourse.protocol⟩
    simp only [recording, hcalls, List.nil_append]
    rfl
  · refine ⟨[], ?_, rfl, ?_⟩
    · simp only [recording, dispatch_broken]
      rfl
    · simp only [dispatch_broken]

/-- **Every execution follows the protocol**, whatever the backend replies and whenever the token is
cancelled: an engine over the recording backend gives the same outcome and leaves the same world as
the engine over the backend itself, and what it records are the calls that the protocol allows, with
the outcome that follows from their replies. -/
theorem execute_protocol (e : Engine σ ρ) (freshId : String) (call : Call) (w : World σ)
    (reports : ρ) :
    ∃ calls,
      e.recording.execute freshId call (w.withRecord []) reports =
        ((e.execute freshId call w reports).1,
          (e.execute freshId call w reports).2.1.withRecord calls,
          (e.execute freshId call w reports).2.2) ∧
      Protocol call w.token.cancelled calls (e.execute freshId call w reports).1 := by
  obtain ⟨calls, houtcome, hprotocol⟩ := outcome_protocol e (callId freshId call) call w
  refine ⟨calls, ?_, hprotocol⟩
  simp only [execute, houtcome, logRejection_withRecord, logReport_withRecord]
  rfl

/-- **An accepted text with a half reaches no backend**, although nothing was cancelled: the call
that would hand it over refuses it. -/
theorem execute_withholds_halves :
    let call : Call := ⟨some (withHalf "SELECT '"), false, none⟩
    let w : World MemoryStore := ⟨.fresh, [], ⟨[], none, none, [], []⟩⟩
    let after := overMemory.recording.execute "c-1" call (w.withRecord []) ()
    Validation.validateWide call.query = .ok (withHalf "SELECT '") ∧ w.token.cancelled = false ∧
      after.2.1.record = [] ∧ after.1 = .error (.mishap brokenText) := by
  have hv : Validation.validateWide (some (withHalf "SELECT '")) = .ok (withHalf "SELECT '") := by
    decide +kernel
  refine ⟨hv, rfl, ?_, ?_⟩
  · simp only [execute, outcome, hv]
    rfl
  · simp only [execute, outcome, hv]
    rfl

end ReadGate.Engine
