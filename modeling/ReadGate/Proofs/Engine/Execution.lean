import ReadGate.Backend.Memory
import ReadGate.Proofs.Backend.Cancellation
import ReadGate.Proofs.Backend.Trace
import ReadGate.Proofs.Engine.Course
import ReadGate.Proofs.Validation.Wide

/-!
# Executions

An execution ends where validation rejects the text, or where the accepted text cannot be handed
over, or takes one of the courses of the accepted text; reporting it adds lines to the log and
nothing else.  So what the calls of the backend keep, an execution keeps.

* `Conduct`, `execute_conduct` — how an execution goes.
* `Conduct.trace` — an execution is a sequence of requests if the calls that it makes are.
* `Conduct.honest` — an execution over an honest backend is cancelled only with its token.
* `Conduct.recovered`, `Conduct.answered` — an execution ends with the answer to the translation if
  the backend cannot execute the text, unless its token stops it.
-/

namespace ReadGate.Engine

open Run

variable {σ ρ ι : Type}

/-- How an execution goes, and how it ends. -/
inductive Conduct (e : Engine σ ρ) (call : Call) (w : World σ) :
    Except Trouble QueryResult × World σ → Prop
  /-- The text is rejected, and the backend is not called. -/
  | rejected {rejection : Validation.Rejection} (lines : List LogLine)
    (hv : Validation.validateWide call.query = .error rejection) :
    Conduct e call w (.error (.failure rejection.failure), w.logged lines)
  /-- The text is accepted with its halves, and the backend is not called. -/
  | broken {codes : List Nat} {half : codes.any Text.isHalf = true} (lines : List LogLine)
    (hv : Validation.validateWide call.query = .ok (.broken codes half)) :
    Conduct e call w (unsent (call.guarded && w.token.cancelled), w.logged lines)
  /-- The accepted text takes its course. -/
  | dispatched {id text : String} {outcome : Except Trouble QueryResult} {w₁ : World σ}
    (lines : List LogLine) (hv : Validation.validateWide call.query = .ok (.whole text))
    (course : Course e.backend ⟨id, call.guarded⟩ text w (outcome, w₁)) :
    Conduct e call w (outcome, w₁.logged lines)

theorem logRejection_logged (id : String) (raw : WideText) (outcome : Except Trouble QueryResult)
    (w : World σ) : ∃ lines, logRejection id raw outcome w = w.logged lines := by
  rcases outcome with (f | m) | result
  · cases hf : f.kind.isValidation with
    | true =>
      simp only [logRejection, hf, if_true]
      exact ⟨_, rfl⟩
    | false =>
      refine ⟨[], ?_⟩
      simp only [logRejection, hf, Bool.false_eq_true, if_false, World.logged_nil]
  · exact ⟨[], (World.logged_nil w).symm⟩
  · exact ⟨[], (World.logged_nil w).symm⟩

theorem logReport_logged (id : String) (written : Except String Unit) (w : World σ) :
    ∃ lines, logReport id written w = w.logged lines := by
  cases written with
  | ok u => exact ⟨[], (World.logged_nil w).symm⟩
  | error reason => exact ⟨_, rfl⟩

/-- **Every execution ends at its text or takes a course.** -/
theorem execute_conduct (e : Engine σ ρ) (freshId : String) (call : Call) (w : World σ)
    (reports : ρ) :
    Conduct e call w ((e.execute freshId call w reports).1,
      (e.execute freshId call w reports).2.1) := by
  -- after the outcome, only the log changes
  obtain ⟨lines, hlines⟩ : ∃ lines, (e.execute freshId call w reports).2.1 =
      (e.outcome (callId freshId call) call w).2.1.logged lines := by
    obtain ⟨first, hfirst⟩ := logRejection_logged (callId freshId call) (call.query.getD "")
      (e.outcome (callId freshId call) call w).1 (e.outcome (callId freshId call) call w).2.1
    obtain ⟨second, hsecond⟩ := logReport_logged (callId freshId call)
      (e.sink (reportOf (callId freshId call) (e.outcome (callId freshId call) call w).2.2
        (e.outcome (callId freshId call) call w).1) reports).1
      ((e.outcome (callId freshId call) call w).2.1.logged first)
    refine ⟨first ++ second, ?_⟩
    rw [← World.logged_logged, ← hsecond, ← hfirst]
    rfl
  rw [hlines, show (e.execute freshId call w reports).1 =
    (e.outcome (callId freshId call) call w).1 from rfl]
  unfold outcome
  rcases hv : Validation.validateWide call.query with rejection | (text | ⟨codes, half⟩)
  · exact .rejected lines hv
  · exact .dispatched lines hv (dispatch_course e.backend e.schema
      ⟨callId freshId call, call.guarded⟩ (Validation.ne_empty_of_validateWide hv) w)
  · dsimp only
    rw [dispatch_broken]
    exact .broken lines hv

/-- An accepted text with halves ends as it is withheld, and nothing reaches the backend. -/
theorem Conduct.withheld {e : Engine σ ρ} {call : Call} {w w' : World σ} {codes : List Nat}
    {half : codes.any Text.isHalf = true} {outcome : Except Trouble QueryResult}
    (hv : Validation.validateWide call.query = .ok (.broken codes half))
    (h : Conduct e call w (outcome, w')) :
    outcome = unsent (call.guarded && w.token.cancelled) ∧ w'.remote = w.remote := by
  cases h with
  | rejected lines hother | dispatched lines hother course =>
    rw [hv] at hother
    cases hother
  | broken lines hother => exact ⟨rfl, rfl⟩

/-- The name of a rule has no halves. -/
theorem Conduct.named {e : Engine σ ρ} {call : Call} {w w' : World σ} {r : QueryResult}
    (h : Conduct e call w (.ok r, w')) : ∃ name : Option String, r.rule = name.map .whole := by
  generalize houtcome : (.ok r : Except Trouble QueryResult) = outcome at h
  cases h with
  | rejected lines hv => cases houtcome
  | broken lines hv =>
    unfold unsent at houtcome
    split at houtcome <;> cases houtcome
  | dispatched lines hv course =>
    subst houtcome
    generalize houtcome : (.ok r : Except Trouble QueryResult) = outcome at course
    cases course with
    | generic lines hc hraw =>
      cases houtcome
      exact ⟨none, rfl⟩
    | @fallback trouble w₁ w₂ rule q answer before after hc hraw ht hc₁ htr hq =>
      rcases answer with trouble | rows <;> cases houtcome
      exact ⟨some rule.name, rfl⟩
    | _ => cases houtcome

/-! ## Requests -/

section Requests

variable {step : World σ → ι → World σ → Prop} {ending : Ending ι} {backend : Adapter σ}

/-- Where no request is fatal, none is blamed. -/
theorem none_final (trouble : Trouble) (token : Token Nat)
    (h : (Ending.none : Ending ι).blame trouble token) : trouble.isRecoverable = false :=
  h.elim

/-- A dispatched query makes the requests of its calls, and ends behind a fatal one.  So it has to
be if a fatal request is not blamed for trouble that the engine recovers from. -/
theorem Course.trace {ticket : Ticket} {text : String} {w w' : World σ}
    {outcome : Except Trouble QueryResult}
    (hfinal : ∀ trouble token, ending.blame trouble token → trouble.isRecoverable = false)
    (hraw : Traces step ending (backend.rawExecute ticket.guarded text))
    (hstructured : ∀ rule q, translate text = .ok (some (rule, q)) →
      Traces step ending (executeStructured backend ticket.guarded q))
    (h : Course backend ticket text w (outcome, w')) :
    ∃ requests, Trace step w requests w' ∧ ending.Explains requests outcome w'.token := by
  obtain ⟨requests, hrequests, hends⟩ := hraw.trace w
  -- recoverable trouble leaves nothing to be explained
  have hharmless : ∀ {trouble : Trouble} {w₁ : World σ}, trouble.isRecoverable = true →
      backend.rawExecute ticket.guarded text w = (.error trouble, w₁) →
      ∀ i ∈ requests, ¬ ending.fatal i := by
    intro trouble w₁ ht hreply
    rw [hreply] at hends
    exact Ending.harmless_of_error (fun hblame => by simp [hfinal _ _ hblame] at ht) hends
  cases h with
  | stopped => exact ⟨[], .refl w, Ending.explains_nil _⟩
  | generic lines hc hraw =>
    rw [hraw] at hrequests hends
    exact ⟨requests, hrequests.logged lines,
      Ending.explains_of_harmless (Ending.harmless_of_ok hends) _⟩
  | refused lines hc hraw =>
    rw [hraw] at hrequests hends
    exact ⟨requests, hrequests.logged lines, Ending.explains_error hends⟩
  | stoppedBetween lines hc hraw ht =>
    rw [hraw] at hrequests
    exact ⟨requests, hrequests.logged lines, Ending.explains_of_harmless (hharmless ht hraw) _⟩
  | unreadable lines hc hraw ht =>
    rw [hraw] at hrequests
    exact ⟨requests, hrequests.logged lines, Ending.explains_of_harmless (hharmless ht hraw) _⟩
  | unsupported lines hc hraw ht =>
    rw [hraw] at hrequests
    exact ⟨requests, hrequests.logged lines, Ending.explains_of_harmless (hharmless ht hraw) _⟩
  | @fallback trouble w₁ w₂ rule q answer before after hc hraw ht hc₁ htr hq =>
    rw [hraw] at hrequests
    obtain ⟨more, hmore, hends'⟩ := (hstructured rule q htr).trace (w₁.logged before)
    rw [hq] at hmore hends'
    refine ⟨requests ++ more, (hrequests.trans (.of_logged before hmore)).logged after, ?_⟩
    refine Ending.explains_append (hharmless ht hraw) ?_
    intro i hi hfatal
    obtain ⟨t, rfl, hblame⟩ := hends' i hi hfatal
    exact ⟨t, rfl, hblame⟩

/-- **An execution makes the requests of its calls**, with the text that was accepted and what it
translates to, and ends behind a fatal one. -/
theorem Conduct.trace {e : Engine σ ρ} {call : Call} {w w' : World σ}
    {outcome : Except Trouble QueryResult}
    (hfinal : ∀ trouble token, ending.blame trouble token → trouble.isRecoverable = false)
    (hraw : ∀ text, Validation.validateWide call.query = .ok (.whole text) →
      Traces step ending (e.backend.rawExecute call.guarded text))
    (hstructured : ∀ text rule q, Validation.validateWide call.query = .ok (.whole text) →
      translate text = .ok (some (rule, q)) →
      Traces step ending (executeStructured e.backend call.guarded q))
    (h : Conduct e call w (outcome, w')) :
    ∃ requests, Trace step w requests w' ∧ ending.Explains requests outcome w'.token := by
  cases h with
  | rejected lines => exact ⟨[], .done w lines, Ending.explains_nil _⟩
  | broken lines => exact ⟨[], .done w lines, Ending.explains_nil _⟩
  | @dispatched id text _ w₁ lines hv course =>
    obtain ⟨requests, hrequests, hends⟩ := course.trace hfinal (hraw text hv)
      fun rule q htr => hstructured text rule q hv htr
    exact ⟨requests, hrequests.logged lines, hends⟩

end Requests

/-! ## Cancellations -/

/-- A dispatched query over an honest backend is cancelled only with its token. -/
theorem Course.honest {backend : Adapter σ} {ticket : Ticket} {text : String} {w w' : World σ}
    {f : Failure}
    (hraw : Honest ticket.guarded (backend.rawExecute ticket.guarded text))
    (hstructured : ∀ q, Honest ticket.guarded (executeStructured backend ticket.guarded q))
    (h : Course backend ticket text w (.error (.failure f), w')) :
    f.IsHonest ticket.guarded w'.token := by
  generalize houtcome : (.error (.failure f) : Except Trouble QueryResult) = outcome at h
  cases h with
  | stopped hc => exact fun _ => hc
  | generic lines hc hreply => cases houtcome
  | refused lines hc hreply =>
    cases houtcome
    have hhonest := hraw.honest w f (by rw [hreply])
    rwa [hreply] at hhonest
  | stoppedBetween lines hc hreply ht hc₁ => exact fun _ => hc₁
  | unreadable lines hc hreply ht hc₁ htr => cases houtcome
  | unsupported lines hc hreply ht hc₁ htr =>
    cases houtcome
    exact nofun
  | @fallback trouble w₁ w₂ rule q answer before after hc hreply ht hc₁ htr hq =>
    rcases answer with t | rows
    · cases houtcome
      have hhonest := (hstructured q).honest (w₁.logged before) f (by rw [hq])
      rwa [hq] at hhonest
    · cases houtcome

/-- **An execution over an honest backend is cancelled only with its token.** -/
theorem Conduct.honest {e : Engine σ ρ} {call : Call} {w w' : World σ} {f : Failure}
    (hraw : ∀ text, Honest call.guarded (e.backend.rawExecute call.guarded text))
    (hstructured : ∀ q, Honest call.guarded (executeStructured e.backend call.guarded q))
    (h : Conduct e call w (.error (.failure f), w')) : f.IsHonest call.guarded w'.token := by
  generalize houtcome : (.error (.failure f) : Except Trouble QueryResult) = outcome at h
  cases h with
  | rejected lines hv =>
    rename_i rejection
    cases houtcome
    cases rejection <;> exact nofun
  | broken lines hv =>
    unfold unsent at houtcome
    split at houtcome
    · rename_i hstopped
      cases houtcome
      exact fun _ => hstopped
    · cases houtcome
  | dispatched lines hv course =>
    subst houtcome
    exact course.honest (hraw _) hstructured

/-! ## Fallbacks -/

/-- What becomes of a text that the backend could not execute: the answer to its translation, in a
world with the given lines in its log. -/
def translated (backend : Adapter σ) (text : String) (w : World σ) (before : List LogLine) :
    Except Trouble QueryResult :=
  match translate text with
  | .error e => .error (.mishap (.numeral e))
  | .ok none => .error (.failure (unsupported text))
  | .ok (some (rule, q)) =>
    (executeStructured backend false q (w.logged before)).1.map (fallbackResult rule)

/-- What becomes of a text that the backend could not execute, if the call may have been handed its
token. -/
def recovered (backend : Adapter σ) (guarded : Bool) (text : String) (w : World σ)
    (before : List LogLine) : Except Trouble QueryResult :=
  if guarded && w.token.cancelled then .error (.failure (.cancelledBefore "fallback translation"))
  else
    match translate text with
    | .error e => .error (.mishap (.numeral e))
    | .ok none => .error (.failure (unsupported text))
    | .ok (some (rule, q)) =>
      (executeStructured backend guarded q (w.logged before)).1.map (fallbackResult rule)

/-- A dispatched query that the backend cannot execute ends as the answer to its translation does,
unless its token stops it. -/
theorem Course.recovered {backend : Adapter σ} {ticket : Ticket} {text : String}
    {w w₁ w' : World σ} {trouble : Trouble} {outcome : Except Trouble QueryResult}
    (hfree : (ticket.guarded && w.token.cancelled) = false)
    (hraw : backend.rawExecute ticket.guarded text w = (.error trouble, w₁))
    (ht : trouble.isRecoverable = true) (h : Course backend ticket text w (outcome, w')) :
    ∃ before, outcome = recovered backend ticket.guarded text w₁ before := by
  unfold Engine.recovered
  cases h with
  | stopped hc =>
    rw [hfree] at hc
    cases hc
  | generic lines hc hreply =>
    rw [hraw] at hreply
    cases hreply
  | refused lines hc hreply hfinal =>
    rw [hraw] at hreply
    cases hreply
    rw [ht] at hfinal
    cases hfinal
  | stoppedBetween lines hc hreply hfinal hc₁ =>
    rw [hraw] at hreply
    cases hreply
    exact ⟨[], by rw [if_pos hc₁]⟩
  | unreadable lines hc hreply hfinal hc₁ htr =>
    rw [hraw] at hreply
    cases hreply
    exact ⟨[], by simp only [hc₁, Bool.false_eq_true, if_false, htr]⟩
  | unsupported lines hc hreply hfinal hc₁ htr =>
    rw [hraw] at hreply
    cases hreply
    exact ⟨[], by simp only [hc₁, Bool.false_eq_true, if_false, htr]⟩
  | fallback before after hc hreply hfinal hc₁ htr hanswer =>
    rw [hraw] at hreply
    cases hreply
    exact ⟨before, by simp only [hc₁, Bool.false_eq_true, if_false, htr, hanswer]⟩

/-- **An execution whose text the backend cannot execute ends with the answer to the translation**,
unless its token stops it before. -/
theorem Conduct.recovered {e : Engine σ ρ} {call : Call} {text : String} {w w₁ w' : World σ}
    {trouble : Trouble} {outcome : Except Trouble QueryResult}
    (hfree : (call.guarded && w.token.cancelled) = false)
    (hv : Validation.validateWide call.query = .ok (.whole text))
    (hraw : e.backend.rawExecute call.guarded text w = (.error trouble, w₁))
    (ht : trouble.isRecoverable = true) (h : Conduct e call w (outcome, w')) :
    ∃ before, outcome = recovered e.backend call.guarded text w₁ before := by
  cases h with
  | rejected lines hother | broken lines hother =>
    rw [hv] at hother
    cases hother
  | dispatched lines hother course =>
    rw [hv] at hother
    cases hother
    exact course.recovered hfree hraw ht

/-- An execution that no token stops ends with the answer to the translation, if the backend cannot
execute the text. -/
theorem Conduct.answered {e : Engine σ ρ} {call : Call} {text : String} {w w₁ w' : World σ}
    {trouble : Trouble} {outcome : Except Trouble QueryResult} (hfree : call.guarded = false)
    (hv : Validation.validateWide call.query = .ok (.whole text))
    (hraw : e.backend.rawExecute false text w = (.error trouble, w₁))
    (ht : trouble.isRecoverable = true) (h : Conduct e call w (outcome, w')) :
    ∃ before, outcome = translated e.backend text w₁ before := by
  obtain ⟨before, houtcome⟩ := h.recovered (by rw [hfree]; rfl) hv (by rwa [hfree]) ht
  rw [hfree] at houtcome
  exact ⟨before, houtcome⟩

/-- A text with a half of a surrogate pair and a quote at its end. -/
def withHalf (before : String) : WideText :=
  .broken (before.toList.map Char.toNat ++ [0xD800, 39]) (by
    rw [List.any_append, Bool.or_eq_true]
    exact .inr (by decide))

/-- An engine over tables in memory, without a sink. -/
def overMemory : Engine MemoryStore Unit :=
  .create Memory.adapter none () none

end ReadGate.Engine
