import ReadGate.Proofs.Backend.Yield
import ReadGate.Proofs.Engine.Execution

/-!
# What executions yield

An execution of an accepted text ends with the rows that its backend gives, with a failure of its
backend that the engine does not recover from, or with one of its own.  So what is known of all rows
and failures of the backend is known of those of an execution.

* `Settled` — what is known of an outcome.
* `execute_settled` — the outcome of an accepted text without halves.
* `execute_rejected`, `execute_withheld` — that of a rejected one, and of one with halves.
-/

namespace ReadGate.Engine

variable {σ ρ : Type} {kept : σ → Prop} {good : List Row → Prop} {raw allowed : Failure → Prop}
  {w w' : World σ} {outcome : Except Trouble QueryResult}

/-- The rows of the outcome are good, and counted; its failure is an allowed one. -/
structure Settled (good : List Row → Prop) (allowed : Failure → Prop)
    (outcome : Except Trouble QueryResult) : Prop where
  rows : ∀ r, outcome = .ok r → good r.rows
  counted : ∀ r, outcome = .ok r → r.rowCount = r.rows.length
  failure : ∀ f, outcome = .error (.failure f) → allowed f

theorem Settled.ok {r : QueryResult} (hgood : good r.rows) (hcount : r.rowCount = r.rows.length) :
    Settled good allowed (.ok r) := by
  refine ⟨?_, ?_, nofun⟩
  · rintro _ ⟨⟩
    exact hgood
  · rintro _ ⟨⟩
    exact hcount

theorem Settled.failed {f : Failure} (h : allowed f) :
    Settled good allowed (.error (.failure f)) := by
  refine ⟨nofun, nofun, ?_⟩
  rintro _ ⟨⟩
  exact h

theorem Settled.mishap (m : Mishap) : Settled good allowed (.error (.mishap m)) :=
  ⟨nofun, nofun, nofun⟩

/-- A dispatched query is settled if its calls are, and if the failures of the engine are allowed.
Of the failures of the generic path, this has to be so of the final ones only. -/
theorem Course.settled {backend : Adapter σ} {ticket : Ticket} {text : String}
    (hraw : Yields kept good raw (backend.rawExecute ticket.guarded text))
    (hstructured : ∀ rule q, translate text = .ok (some (rule, q)) →
      Yields kept good allowed (executeStructured backend ticket.guarded q))
    (hfinal : ∀ f, raw f → f.kind.isRecoverable = false → allowed f)
    (hstopped : ∀ stage, allowed (.cancelledBefore stage))
    (hunsupported : allowed (ReadGate.unsupported text)) (hkept : kept w.remote)
    (h : Course backend ticket text w (outcome, w')) : Settled good allowed outcome := by
  have hfirst := hraw.confined w hkept
  have hrows := fun rows => hraw.result w rows hkept
  cases h with
  | stopped hc => exact .failed (hstopped _)
  | generic lines hc hreply =>
    rw [hreply] at hrows
    exact .ok (hrows _ rfl) rfl
  | @refused trouble w₁ lines hc hreply ht =>
    rw [hreply] at hfirst
    rcases trouble with f | m
    · exact .failed (hfinal f (hfirst.2 f rfl) ht)
    · exact .mishap m
  | stoppedBetween lines hc hreply ht hc₁ => exact .failed (hstopped _)
  | unreadable lines hc hreply ht hc₁ htr => exact .mishap _
  | unsupported lines hc hreply ht hc₁ htr => exact .failed hunsupported
  | @fallback trouble w₁ w₂ rule q answer before after hc hreply ht hc₁ htr hq =>
    -- the structured path starts from what the generic path left
    rw [hreply] at hfirst
    have hanswer := hstructured rule q htr
    have hends := hanswer.confined (w₁.logged before) hfirst.1
    have hresult := fun rows => hanswer.result (w₁.logged before) rows hfirst.1
    rw [hq] at hends hresult
    rcases answer with (f | m) | rows
    · exact .failed (hends.2 f rfl)
    · exact .mishap m
    · exact .ok (hresult rows rfl) rfl

/-- The execution of a rejected text ends in its rejection. -/
theorem execute_rejected {e : Engine σ ρ} {call : Call} {rejection : Validation.Rejection}
    (hv : Validation.validateWide call.query = .error rejection) (freshId : String) (w : World σ)
    (reports : ρ) :
    (e.execute freshId call w reports).1 = .error (.failure rejection.failure) := by
  show (e.outcome (callId freshId call) call w).1 = _
  simp only [outcome, hv]

/-- The execution of an accepted text with halves ends as it is withheld. -/
theorem execute_withheld {e : Engine σ ρ} {call : Call} {codes : List Nat}
    {half : codes.any Text.isHalf = true}
    (hv : Validation.validateWide call.query = .ok (.broken codes half)) (freshId : String)
    (w : World σ) (reports : ρ) :
    (e.execute freshId call w reports).1 = unsent (call.guarded && w.token.cancelled) :=
  ((execute_conduct e freshId call w reports).withheld hv).1

/-- **The outcome of an accepted text is settled** if the calls that it may make are. -/
theorem execute_settled {e : Engine σ ρ} {call : Call} {text : String}
    (hv : Validation.validateWide call.query = .ok (.whole text))
    (hraw : Yields kept good raw (e.backend.rawExecute call.guarded text))
    (hstructured : ∀ rule q, translate text = .ok (some (rule, q)) →
      Yields kept good allowed (executeStructured e.backend call.guarded q))
    (hfinal : ∀ f, raw f → f.kind.isRecoverable = false → allowed f)
    (hstopped : ∀ stage, allowed (.cancelledBefore stage))
    (hunsupported : allowed (unsupported text)) (hkept : kept w.remote) (freshId : String)
    (reports : ρ) : Settled good allowed (e.execute freshId call w reports).1 := by
  have hconduct := execute_conduct e freshId call w reports
  generalize (e.execute freshId call w reports).1 = outcome at hconduct
  generalize (e.execute freshId call w reports).2.1 = w' at hconduct
  cases hconduct with
  | rejected lines hother | broken lines hother =>
    rw [hv] at hother
    cases hother
  | dispatched lines hother course =>
    rw [hv] at hother
    cases hother
    exact course.settled hraw hstructured hfinal hstopped hunsupported hkept

end ReadGate.Engine
