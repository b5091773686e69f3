import ReadGate.Backend.Classification
import ReadGate.Proofs.Backend.Closure

/-!
# Failures that may occur

Which failures a call may end in depends on what the remote side can make it say.  What is known of
the remote side has to survive the call, or it would not be known for the next one.

* `Failure.IsReportable` — the failure fits into a report of a failed call.
* `Confined` — a computation ends in allowed failures only, and keeps what is known.
* `Accountable` — any failure of a backend is reportable, or comes from a named origin; and the
  structured path never ends in a failure that the engine would recover from.
-/

namespace ReadGate

open Run

variable {σ α β : Type}

/-! ## Mishaps of the program -/

/-- The mishap did not come from outside. -/
def Mishap.IsOwn (m : Mishap) : Prop :=
  ∀ error, m ≠ .foreign error

/-- No halves stand alone in what a mishap of the program says. -/
theorem Mishap.IsOwn.text_eq {m : Mishap} (h : m.IsOwn) : m.text = .whole m.message := by
  cases m with
  | foreign error => exact absurd rfl (h error)
  | _ => rfl

/-! ## Reportable failures -/

namespace Failure

/-- The failure fits into a report: its message is a text, and its details are a record. -/
structure IsReportable (f : Failure) : Prop where
  message : ∃ s, Record.text f.message = .ok s
  details : ∃ fields, f.details = .record fields

theorem of_reportable (kind : FailureKind) (message : String) (details : Row) :
    (of kind message details).IsReportable :=
  ⟨⟨message, rfl⟩, ⟨details, rfl⟩⟩

theorem permanent_reportable (message : String) (details : Row) :
    (permanent message details).IsReportable :=
  ⟨⟨message, rfl⟩, ⟨details, rfl⟩⟩

theorem cancelledBefore_reportable (stage : String) : (cancelledBefore stage).IsReportable :=
  of_reportable ..

theorem cancelledDuring_reportable (operation : String) :
    (cancelledDuring operation).IsReportable :=
  of_reportable ..

/-- Details that are given as a record stay a record, an empty one too. -/
theorem givenDetails_record (details : Row) : givenDetails (.record details) = .record details := by
  unfold givenDetails
  cases details <;> rfl

/-- The failure fits into a report, unless it comes from the given origin. -/
def Blames (origin : Failure → Prop) (f : Failure) : Prop :=
  f.IsReportable ∨ origin f

/-- The same of a failure that the engine does not recover from. -/
def BlamesFinally (origin : Failure → Prop) (f : Failure) : Prop :=
  f.kind.isRecoverable = false ∧ f.Blames origin

end Failure

/-- A failure that reports a fault has the message and the details that it is given. -/
theorem BackendFault.failure_reportable (fault : BackendFault) (message : String) (details : Row) :
    (fault.failure (.text message) (.record details)).IsReportable :=
  ⟨⟨message, rfl⟩, ⟨details, Failure.givenDetails_record details⟩⟩

/-! ## Confined computations -/

/-- Wherever `kept` holds of the remote side, the computation keeps it, and ends in no failure but
an allowed one. -/
structure Confined (kept : σ → Prop) (allowed : Failure → Prop) (x : Run σ α) : Prop where
  confined : ∀ w, kept w.remote → kept (x w).2.remote ∧
    ∀ f, (x w).1 = .error (.failure f) → allowed f

namespace Confined

variable {kept : σ → Prop} {allowed : Failure → Prop} {guarded : Bool}

/-- It is enough that the failures are right if the remote side does not change. -/
theorem of_still {x : Run σ α} (h : ∀ w, (x w).2.remote = w.remote ∧
    ∀ f, (x w).1 = .error (.failure f) → allowed f) : Confined kept allowed x := by
  refine ⟨fun w hkept => ⟨?_, (h w).2⟩⟩
  rw [(h w).1]
  exact hkept

theorem check (hstopped : ∀ stage, allowed (.cancelledBefore stage)) (stage : String) :
    Confined kept allowed (Run.check guarded stage : Run σ Unit) := by
  refine of_still fun w => ?_
  cases hc : guarded && w.token.cancelled with
  | true =>
    rw [check_stop hc]
    refine ⟨rfl, fun f hf => ?_⟩
    cases hf
    exact hstopped stage
  | false =>
    rw [check_pass hc]
    exact ⟨rfl, nofun⟩

/-- What runs after a result has to be confined only for the results that there may be. -/
theorem bind_of {x : Run σ α} {f : α → Run σ β} (hx : Confined kept allowed x)
    (hf : ∀ w a, kept w.remote → (x w).1 = .ok a → Confined kept allowed (f a)) :
    Confined kept allowed (x >>= f) := by
  refine ⟨fun w hkept => ?_⟩
  have hfirst := hx.confined w hkept
  have hnext := hf w
  rw [bind_apply]
  rcases hw : x w with ⟨trouble | a, w₁⟩ <;> rw [hw] at hfirst hnext
  · refine ⟨hfirst.1, fun f hf => ?_⟩
    cases hf
    exact hfirst.2 f rfl
  · exact (hnext a hkept rfl).confined w₁ hfirst.1

theorem bind {x : Run σ α} {f : α → Run σ β} (hx : Confined kept allowed x)
    (hf : ∀ a, Confined kept allowed (f a)) : Confined kept allowed (x >>= f) :=
  hx.bind_of fun _ a _ _ => hf a

theorem closed (hstopped : ∀ stage, allowed (.cancelledBefore stage)) :
    ClosedUnder allowed guarded fun α (x : Run σ α) => Confined kept allowed x where
  pure _ := of_still fun _ => ⟨rfl, nofun⟩
  mishap _ := of_still fun _ => ⟨rfl, nofun⟩
  failure f hallowed := of_still fun _ => ⟨rfl, fun f' hf' => by cases hf'; exact hallowed⟩
  report _ _ _ := of_still fun _ => ⟨rfl, nofun⟩
  check := check hstopped
  bind := bind

end Confined

/-! ## Backends -/

/-- Any failure of the backend is reportable or comes from the origin, as long as `kept` holds of
its remote side; and no call of the structured path ends in a failure that the engine would recover
from. -/
structure Accountable (kept : σ → Prop) (origin : Failure → Prop) (guarded : Bool)
    (backend : Adapter σ) : Prop where
  rawExecute : ∀ text, Confined kept (Failure.Blames origin) (backend.rawExecute guarded text)
  structuredQuery : ∀ q,
    Confined kept (Failure.BlamesFinally origin) (backend.structuredQuery guarded q)
  count : ∀ table, Confined kept (Failure.BlamesFinally origin) (backend.count guarded table)
  columnValues : ∀ table column,
    Confined kept (Failure.BlamesFinally origin) (backend.columnValues guarded table column)

theorem Failure.blamesFinally_cancelledBefore (origin : Failure → Prop) (stage : String) :
    (cancelledBefore stage).BlamesFinally origin :=
  ⟨rfl, .inl (cancelledBefore_reportable stage)⟩

theorem Accountable.structured {kept : σ → Prop} {origin : Failure → Prop} {guarded : Bool}
    {backend : Adapter σ} (h : Accountable kept origin guarded backend) (q : StructuredQuery) :
    Confined kept (Failure.BlamesFinally origin) (Engine.executeStructured backend guarded q) :=
  Engine.executeStructured_keeps (Confined.closed (Failure.blamesFinally_cancelledBefore origin))
    (h.structuredQuery _) (h.count _) (h.columnValues _ _)

end ReadGate
