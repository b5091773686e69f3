import ReadGate.Proofs.Backend.Failures
import ReadGate.Proofs.Postgres.Calls

/-!
# Failures of the database

Whatever error the database reports, the failure that it means has a text as its message and a
record as its details.  Errors are classified on the generic path only, so no statement of the
structured path is taken for one that the backend could not execute, whatever its error says.
-/

namespace ReadGate.Postgres

open Run

variable {α : Type} {d : Database} {allowed : Failure → Prop}

theorem refusal_reportable (d : Database) (op : Operation) (stopped : Bool) (e : DatabaseError) :
    (refusal d op stopped e).IsReportable := by
  unfold refusal
  split
  · split
    · exact Failure.cancelledDuring_reportable op.name
    · exact BackendFault.failure_reportable ..
  · exact BackendFault.failure_reportable ..

/-- The engine does not recover from an error that is not classified. -/
theorem refusal_final {op : Operation} (hop : op.classified = false) (stopped : Bool)
    (e : DatabaseError) : (refusal d op stopped e).kind.isRecoverable = false := by
  have hother : faultOf d op e = .other := by
    unfold faultOf
    rw [hop]
    rfl
  unfold refusal
  rw [hother]
  split
  · cases stopped <;> rfl
  · rfl

theorem visiting_confined {op : Operation} {stage sql : String} {params : Option (List Value)}
    {answer : Connection → Tried (Except Mishap α)}
    (hstopped : ∀ stage, allowed (.cancelledBefore stage))
    (hrefused : ∀ stopped e, allowed (refusal d op stopped e)) :
    Confined (fun _ => True) allowed (visiting d op stage sql params answer) := by
  refine ⟨fun w _ => ⟨trivial, fun f hf => ?_⟩⟩
  unfold visiting at hf
  rw [bind_apply] at hf
  cases hc : op.guarded && w.token.cancelled with
  | true =>
    rw [check_stop hc] at hf
    cases hf
    exact hstopped stage
  | false =>
    obtain ⟨v, w₁, lines, -, hsession⟩ := session_visit d hc sql params answer
    rw [check_pass hc] at hf
    simp only [hsession] at hf
    unfold Visit.reply at hf
    -- only an error of the database is told as a failure
    rcases houtcome : v.outcome answer with (e | text) | a <;> rw [houtcome] at hf
    · cases hf
      exact hrefused _ e
    · cases hf
    · cases a <;> cases hf

/-- What a call of the structured path does. -/
theorem visiting_final (name : String) (guarded : Bool) {stage sql : String}
    {params : Option (List Value)} {answer : Connection → Tried (Except Mishap α)}
    (origin : Failure → Prop) :
    Confined (fun _ => True) (Failure.BlamesFinally origin)
      (visiting d ⟨name, guarded, false⟩ stage sql params answer) :=
  visiting_confined (Failure.blamesFinally_cancelledBefore origin) fun stopped e =>
    ⟨refusal_final rfl stopped e, .inl (refusal_reportable d _ stopped e)⟩

/-- Every failure of the database fits a report. -/
theorem accountable (d : Database) (guarded : Bool) :
    Accountable (fun _ => True) (fun _ => False) guarded d.adapter where
  rawExecute text := by
    obtain ⟨params, answer, hvisiting⟩ := rawExecute_visiting d guarded text
    show Confined _ _ (d.rawExecute guarded text)
    rw [hvisiting]
    exact visiting_confined (fun stage => .inl (Failure.cancelledBefore_reportable stage))
      fun stopped e => .inl (refusal_reportable d _ stopped e)
  structuredQuery _ := visiting_final "structured_query" guarded _
  count _ := visiting_final "count" guarded _
  columnValues table column := by
    cases column with
    | none =>
      exact .bind (.check (Failure.blamesFinally_cancelledBefore _) _) fun _ =>
        .of_still fun w => ⟨rfl, nofun⟩
    | some name => exact visiting_final "column_values" guarded _

end ReadGate.Postgres
