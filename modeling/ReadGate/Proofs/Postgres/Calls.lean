import ReadGate.Proofs.Engine.Execution
import ReadGate.Proofs.Postgres.Session

/-!
# Calls of the database

Every capability of the database checks the token and then visits the database once, with a
statement of its own.  A visit in which the server cancels the statement ends the call: as cancelled
if the call finds its token cancelled, and as a failed execution if not.

* `Database.statementOf` — the statement that executes a query text.
* `rawExecute_traces` and the like — each capability visits the database with its statement.
* `rawExecute_honest` and the like — none claims to be cancelled if its token is not.
-/

namespace ReadGate.Postgres

open Run

variable {α : Type} {d : Database} {guarded : Bool} {allowed : String → Prop}

/-! ## Cancelled statements -/

/-- The server cancelled the statement of the visit, or refused the connection with that state. -/
def Visit.Interrupted (v : Visit) : Prop :=
  ∃ e : DatabaseError, v.course = .error (.database e) ∧ e.state = some cancelledState

/-- A call whose visit the server interrupts ends with it. -/
def interruption (guarded : Bool) : Ending Visit where
  fatal := Visit.Interrupted
  blame trouble token := ∃ f, trouble = .failure f ∧
    f.kind = if guarded && token.cancelled then .cancelled else .backendExecution

/-- An interruption is not a reason to try the structured path. -/
theorem interruption_final (trouble : Trouble) (token : Token Nat)
    (h : (interruption guarded).blame trouble token) : trouble.isRecoverable = false := by
  obtain ⟨f, rfl, hkind⟩ := h
  show f.kind.isRecoverable = false
  rw [hkind]
  split <;> rfl

theorem refusal_interrupted (d : Database) (op : Operation) (stopped : Bool) {e : DatabaseError}
    (hstate : e.state = some cancelledState) :
    (refusal d op stopped e).kind = if stopped then .cancelled else .backendExecution := by
  unfold refusal
  rw [if_pos hstate]
  cases stopped <;> rfl

/-- A failure of the database is a cancellation only if the call found its token cancelled. -/
theorem refusal_honest (d : Database) (op : Operation) (stopped : Bool) (e : DatabaseError)
    (hkind : (refusal d op stopped e).kind = .cancelled) : stopped = true := by
  by_cases hstate : e.state = some cancelledState
  · rw [refusal_interrupted d op stopped hstate] at hkind
    cases stopped with
    | true => rfl
    | false => cases hkind
  · unfold refusal at hkind
    rw [if_neg hstate] at hkind
    cases hfault : faultOf d op e <;> rw [hfault] at hkind <;> cases hkind

/-! ## One call -/

section Call

variable {stage sql : String} {params : Option (List Value)}
  {answer : Connection → Tried (Except Mishap α)}

/-- What every capability does: it checks the token, and then visits the database. -/
def visiting (d : Database) (op : Operation) (stage sql : String) (params : Option (List Value))
    (answer : Connection → Tried (Except Mishap α)) : Step α := do
  Run.check op.guarded stage
  session d op fun c => ask c sql params (answer c)

theorem visiting_traces (op : Operation) (hsql : allowed sql) :
    Traces (Visited op.guarded allowed) (interruption op.guarded)
      (visiting d op stage sql params answer) := by
  refine .checked fun w hfree => ?_
  obtain ⟨v, w₁, lines, hvisited, hsession⟩ := session_visit d hfree sql params answer
  rw [hsession]
  have hvisit : Visited op.guarded allowed w v w₁ :=
    ⟨hvisited.free, hvisited.statement ▸ hsql, hvisited.progress⟩
  refine ⟨[v], (Trace.one hvisit).logged lines, ?_⟩
  rintro i hi ⟨e, hcourse, hstate⟩
  rw [List.mem_singleton.1 hi] at hcourse
  refine ⟨_, by rw [Visit.reply, Visit.outcome, hcourse], _, rfl, ?_⟩
  exact refusal_interrupted d op _ hstate

theorem reply_honest (v : Visit) (op : Operation) (stopped : Bool) {f : Failure}
    (hf : v.reply d op stopped answer = .error (.failure f)) (hkind : f.kind = .cancelled) :
    stopped = true := by
  unfold Visit.reply at hf
  rcases houtcome : v.outcome answer with (e | text) | a <;> rw [houtcome] at hf
  · cases hf
    exact refusal_honest d op stopped e hkind
  · cases hf
  · cases a <;> cases hf

theorem visiting_honest (op : Operation) :
    Honest op.guarded (visiting d op stage sql params answer) := by
  refine .checked fun w f hfree hf => ?_
  obtain ⟨v, w₁, lines, -, hsession⟩ := session_visit d hfree sql params answer
  rw [hsession] at hf ⊢
  exact reply_honest v op _ hf

end Call

/-! ## The capabilities -/

/-- The statement that executes a query text. -/
def Database.statementOf (d : Database) (text : String) : String :=
  match d.rpcFunction with
  | some name => Statement.callFunction name
  | none => text

/-- Executing a query text is one visit. -/
theorem rawExecute_visiting (d : Database) (guarded : Bool) (text : String) :
    ∃ params answer, d.rawExecute guarded text =
      visiting d ⟨"raw_execute", guarded, true⟩ "raw_execute" (d.statementOf text) params
        answer := by
  unfold Database.rawExecute Database.statementOf
  cases d.rpcFunction with
  | some name => exact ⟨_, fun c => fetched c (rowsOfFunction c.row), rfl⟩
  | none => exact ⟨_, rowsOfText, rfl⟩

theorem rawExecute_traces {text : String} (h : allowed (d.statementOf text)) :
    Traces (Visited guarded allowed) (interruption guarded) (d.rawExecute guarded text) := by
  obtain ⟨params, answer, hvisiting⟩ := rawExecute_visiting d guarded text
  rw [hvisiting]
  exact visiting_traces ⟨"raw_execute", guarded, true⟩ h

theorem structuredQuery_traces {q : Selection} (h : allowed (Statement.ofSelection q).sql) :
    Traces (Visited guarded allowed) (interruption guarded) (d.structuredQuery guarded q) :=
  visiting_traces ⟨"structured_query", guarded, false⟩ h

theorem count_traces {table : String} (h : allowed (Statement.countRows table)) :
    Traces (Visited guarded allowed) (interruption guarded) (d.count guarded table) :=
  visiting_traces ⟨"count", guarded, false⟩ h

theorem columnValues_traces {table : String} {column : Option String}
    (h : ∀ name, column = some name → allowed (Statement.listColumn table name)) :
    Traces (Visited guarded allowed) (interruption guarded)
      (d.columnValues guarded table column) := by
  cases column with
  | none => exact .checked fun w _ => ⟨[], .refl w, Ending.explains_nil _⟩
  | some name => exact visiting_traces ⟨"column_values", guarded, false⟩ (h name rfl)

theorem rawExecute_honest (text : String) : Honest guarded (d.rawExecute guarded text) := by
  obtain ⟨params, answer, hvisiting⟩ := rawExecute_visiting d guarded text
  rw [hvisiting]
  exact visiting_honest ⟨"raw_execute", guarded, true⟩

theorem structuredQuery_honest (q : Selection) : Honest guarded (d.structuredQuery guarded q) :=
  visiting_honest ⟨"structured_query", guarded, false⟩

theorem count_honest (table : String) : Honest guarded (d.count guarded table) :=
  visiting_honest ⟨"count", guarded, false⟩

theorem columnValues_honest (table : String) (column : Option String) :
    Honest guarded (d.columnValues guarded table column) := by
  cases column with
  | none => exact .bind (.check _) fun _ => Honest.closed.mishap _
  | some name => exact visiting_honest ⟨"column_values", guarded, false⟩

end ReadGate.Postgres
