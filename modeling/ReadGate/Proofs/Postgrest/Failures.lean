import ReadGate.Proofs.Backend.Failures
import ReadGate.Proofs.Postgrest.Requests

/-!
# Failures of an endpoint

A failure that a reply reports carries the message of the reply, which is whatever value the body
holds under that name.  Every other failure of the client is worded by the client itself.

* `Hears` — the remote side may give a reply, now or later.
* `Reply.Reports` — an error reply reports a message.
* `serving_confined` — the requests of the client end in failures of these two sorts.
* `accountable` — so a failure that does not fit a report carries the message of an error reply.
-/

namespace ReadGate.Postgrest

open Run

variable {σ : Type} {c : Client σ} {guarded : Bool}

/-- The remote side answers some request with the reply, now or after it answered others. -/
inductive Hears (t : Transport σ) : σ → Reply → Prop
  | now {s : σ} {r : Request} {reply : Reply} (h : (t r s).1.exchange = .reply reply) :
    Hears t s reply
  | later {s : σ} {r : Request} {reply : Reply} (h : Hears t (t r s).2 reply) : Hears t s reply

/-- The reply reports an error with the message. -/
def Reply.Reports (reply : Reply) (message : Value) : Prop :=
  reply.isOk = false ∧ ∃ code, Client.errorOf reply = .ok (message, code)

/-- The failure carries the message of an error that the remote side may report. -/
def Carried (c : Client σ) (s : σ) (f : Failure) : Prop :=
  ∃ reply, Hears c.transport s reply ∧ reply.Reports f.message

/-- The remote side gives no replies but those that it might have given from the start. -/
def Within (c : Client σ) (start : σ) (wire : Wire σ) : Prop :=
  ∀ reply, Hears c.transport wire.server reply → Hears c.transport start reply

/-! ## One request -/

/-- A request that is not answered ends in a failure that the client words itself. -/
theorem send_failure {operation : String} {r : Request} {w : World (Wire σ)} {f : Failure}
    (hf : (c.send operation r w).1 = .error (.failure f)) :
    ∃ message, f = .of .backendExecution message (Client.lostDetails operation) := by
  obtain ⟨_, -, hsend⟩ | ⟨message, -, hsend⟩ | ⟨_, -, hsend⟩ := send_cases c operation r w <;>
    rw [hsend] at hf <;> cases hf
  exact ⟨message, rfl⟩

/-- What a request gives is the reply of the remote side. -/
theorem send_reply {operation : String} {r : Request} {w : World (Wire σ)} {reply : Reply}
    (hreply : (c.send operation r w).1 = .ok reply) :
    (c.transport r w.remote.server).1.exchange = .reply reply := by
  obtain ⟨_, hexchange, hsend⟩ | ⟨_, -, hsend⟩ | ⟨_, -, hsend⟩ := send_cases c operation r w <;>
    rw [hsend] at hreply <;> cases hreply
  exact hexchange

theorem send_confined {start : σ} {allowed : Failure → Prop} (operation : String) (r : Request)
    (hlost : ∀ message, allowed (.of .backendExecution message (Client.lostDetails operation))) :
    Confined (Within c start) allowed (c.send operation r) := by
  refine ⟨fun w hkept => ⟨fun reply hreply => ?_, fun f hf => ?_⟩⟩
  · have hsent : Sent c false w r (c.send operation r w).2 := send_sent operation r rfl
    rw [hsent.remote] at hreply
    exact hkept reply (.later hreply)
  · obtain ⟨message, rfl⟩ := send_failure hf
    exact hlost message

/-! ## Calls -/

/-- The requests of the client are confined to failures that fit a report and to those that carry
the message of a reply, if all of these are allowed. -/
theorem serving_confined {start : σ} {allowed : Failure → Prop}
    (hstopped : ∀ stage, allowed (.cancelledBefore stage))
    (hallowed : ∀ f, f.kind = .backendExecution → f.Blames (Carried c start) → allowed f) :
    Serving c guarded allowed (Hears c.transport start)
      fun α (x : Run (Wire σ) α) => Confined (Within c start) allowed x where
  toClosedUnder := Confined.closed hstopped
  permanent message details :=
    hallowed _ rfl (.inl (Failure.permanent_reportable message details))
  refusal := by
    intro reply message code hheard hok herror retryable details
    exact hallowed _ rfl (.inr ⟨reply, hheard, hok, code, herror⟩)
  asked := by
    intro α stage operation r f hf
    refine (Confined.check hstopped stage).bind fun _ => ?_
    have hsend : Confined (Within c start) allowed (c.send operation r) :=
      send_confined operation r fun _ => hallowed _ rfl (.inl (Failure.of_reportable ..))
    -- only a reply that the remote side might have given from the start is read
    exact hsend.bind_of fun w reply hkept hreply =>
      hf reply (hkept reply (.now (send_reply hreply)))

/-- A classified failure keeps the message of its reply. -/
theorem executionFailure_reports {reply : Reply} {f : Failure} (hok : reply.isOk = false)
    (hf : c.executionFailure reply = .ok f) : reply.Reports f.message := by
  unfold Client.executionFailure at hf
  rcases herror : Client.errorOf reply with m | ⟨message, code⟩ <;> rw [herror] at hf
  · cases hf
  · replace hf : (BackendFault.classify message code (.text c.endpoint.rpcFunction)).map
      (fun fault => fault.failure message (.record (Client.details "raw_execute" reply code))) =
        .ok f := hf
    cases hfault : BackendFault.classify message code (.text c.endpoint.rpcFunction) with
    | error m =>
      rw [hfault] at hf
      cases hf
    | ok fault =>
      rw [hfault] at hf
      cases hf
      exact ⟨hok, code, herror⟩

/-- A failure of the client that does not fit a report carries the message of an error that the
remote side may report. -/
theorem accountable (c : Client σ) (start : σ) (guarded : Bool) :
    Accountable (Within c start) (Carried c start) guarded c.adapter := by
  have hraw : Serving c guarded (Failure.Blames (Carried c start)) (Hears c.transport start)
      fun α x => Confined (Within c start) (Failure.Blames (Carried c start)) x :=
    serving_confined (fun stage => .inl (Failure.cancelledBefore_reportable stage))
      fun _ _ hblames => hblames
  have hfinal : Serving c guarded (Failure.BlamesFinally (Carried c start))
      (Hears c.transport start)
      fun α x => Confined (Within c start) (Failure.BlamesFinally (Carried c start)) x :=
    serving_confined (Failure.blamesFinally_cancelledBefore _)
      fun f hkind hblames => ⟨by rw [hkind]; rfl, hblames⟩
  exact {
    rawExecute := rawExecute_serves hraw fun reply f hheard hok hf =>
      .inr ⟨reply, hheard, executionFailure_reports hok hf⟩
    structuredQuery := structuredQuery_keeps hfinal
    count := count_keeps hfinal
    columnValues := columnValues_keeps hfinal }

end ReadGate.Postgrest
