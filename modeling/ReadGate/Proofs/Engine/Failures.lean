import ReadGate.Proofs.Engine.Yield
import ReadGate.Proofs.Memory.Failures
import ReadGate.Proofs.Postgres.Failures
import ReadGate.Proofs.Postgrest.Failures

/-!
# Failures of executions

The engine recovers from a backend that cannot execute a text or does not accept its syntax.  It
does so on the generic path only, and this is enough: on the structured path no backend fails in
these ways, whatever its remote side reports.

* `execute_blames` — the failures of an execution, from those of its backend.
* `Recovers` — an execution does not end in what it should recover from.
* `execute_recovers` — no execution over the three backends does.
-/

namespace ReadGate.Engine

open Run

variable {σ ρ : Type}

/-! ## Failures of any backend -/

theorem rejection_blames (rejection : Validation.Rejection) (origin : Failure → Prop) :
    rejection.failure.BlamesFinally origin := by
  cases rejection <;> exact ⟨rfl, .inl ⟨⟨_, rfl⟩, ⟨_, rfl⟩⟩⟩

theorem unsupported_blames (text : String) (origin : Failure → Prop) :
    (unsupported text).BlamesFinally origin :=
  ⟨rfl, .inl ⟨⟨_, rfl⟩, ⟨_, rfl⟩⟩⟩

theorem unsent_blames {stopped : Bool} {f : Failure} {origin : Failure → Prop}
    (h : unsent stopped = .error (.failure f)) : f.BlamesFinally origin := by
  unfold unsent at h
  split at h
  · cases h
    exact Failure.blamesFinally_cancelledBefore origin _
  · cases h

/-- **A failure of an execution is one that the engine does not recover from**, and it fits a report
unless it comes from the origin that its backend names. -/
theorem execute_blames {kept : σ → Prop} {origin : Failure → Prop} {e : Engine σ ρ} {call : Call}
    {w : World σ} {f : Failure} {freshId : String} {reports : ρ}
    (hbackend : Accountable kept origin call.guarded e.backend) (hkept : kept w.remote)
    (hf : (e.execute freshId call w reports).1 = .error (.failure f)) : f.BlamesFinally origin := by
  rcases hv : Validation.validateWide call.query with rejection | (text | ⟨codes, half⟩)
  · rw [execute_rejected hv] at hf
    cases hf
    exact rejection_blames rejection origin
  · have hsettled := execute_settled hv (.of_confined (hbackend.rawExecute text))
      (fun rule q _ => .of_confined (hbackend.structured q)) (fun f hblames hfinal => ⟨hfinal, hblames⟩)
      (Failure.blamesFinally_cancelledBefore origin) (unsupported_blames text origin) hkept freshId
      reports
    exact hsettled.failure f hf
  · rw [execute_withheld hv] at hf
    exact unsent_blames hf

/-! ## Recovery -/

/-- The computation never ends in a failure that says that the backend cannot execute a text or
does not accept its syntax. -/
def NeverUnable {α : Type} (x : Run σ α) : Prop :=
  ∀ w f, (x w).1 = .error (.failure f) → f.kind ≠ .capabilityAbsent ∧ f.kind ≠ .backendSyntax

/-- An execution recovers from a backend that cannot execute its text or does not accept its
syntax. -/
structure Recovers (e : Engine σ ρ) (freshId : String) (call : Call) (w : World σ) (reports : ρ) :
    Prop where
  /-- It does not end in a failure that says so. -/
  surfaced : ∀ f, (e.execute freshId call w reports).1 = .error (.failure f) →
    f.kind ≠ .capabilityAbsent ∧ f.kind ≠ .backendSyntax
  /-- Such a failure of the generic path is always followed by the fallback. -/
  recovery : ∀ text f w₁, Validation.validateWide call.query = .ok (.whole text) →
    (call.guarded && w.token.cancelled) = false →
    e.backend.rawExecute call.guarded text w = (.error (.failure f), w₁) →
    f.kind = .capabilityAbsent ∨ f.kind = .backendSyntax →
    ∃ before, (e.execute freshId call w reports).1 =
      recovered e.backend call.guarded text w₁ before
  /-- No call of the structured path ends in one. -/
  structuredQuery : ∀ guarded q, NeverUnable (e.backend.structuredQuery guarded q)
  count : ∀ guarded table, NeverUnable (e.backend.count guarded table)
  columnValues : ∀ guarded table column, NeverUnable (e.backend.columnValues guarded table column)

/-- A failure that the engine does not recover from is of another kind. -/
theorem kind_of_final {f : Failure} (h : f.kind.isRecoverable = false) :
    f.kind ≠ .capabilityAbsent ∧ f.kind ≠ .backendSyntax := by
  constructor <;> intro hkind <;> rw [hkind] at h <;> cases h

theorem NeverUnable.of_confined {α : Type} {x : Run σ α}
    (h : ∀ s : σ, ∃ kept origin, kept s ∧ Confined kept (Failure.BlamesFinally origin) x) :
    NeverUnable x := by
  intro w f hf
  obtain ⟨kept, origin, hkept, hconfined⟩ := h w.remote
  exact kind_of_final ((hconfined.confined w hkept).2 f hf).1

/-- It is enough that something is known of every state of the remote side that keeps the backend
accountable. -/
theorem recovers_of_accountable {e : Engine σ ρ}
    (h : ∀ guarded (s : σ), ∃ kept origin, kept s ∧ Accountable kept origin guarded e.backend)
    (freshId : String) (call : Call) (w : World σ) (reports : ρ) :
    Recovers e freshId call w reports where
  surfaced f hf := by
    obtain ⟨kept, origin, hkept, hbackend⟩ := h call.guarded w.remote
    exact kind_of_final (execute_blames hbackend hkept hf).1
  recovery text f w₁ hv hfree hraw hkind := by
    refine (execute_conduct e freshId call w reports).recovered hfree hv hraw ?_
    rcases hkind with hkind | hkind <;> simp only [Trouble.isRecoverable, hkind] <;> rfl
  structuredQuery guarded q := by
    refine .of_confined fun s => ?_
    obtain ⟨kept, origin, hkept, hbackend⟩ := h guarded s
    exact ⟨kept, origin, hkept, hbackend.structuredQuery q⟩
  count guarded table := by
    refine .of_confined fun s => ?_
    obtain ⟨kept, origin, hkept, hbackend⟩ := h guarded s
    exact ⟨kept, origin, hkept, hbackend.count table⟩
  columnValues guarded table column := by
    refine .of_confined fun s => ?_
    obtain ⟨kept, origin, hkept, hbackend⟩ := h guarded s
    exact ⟨kept, origin, hkept, hbackend.columnValues table column⟩

/-- **No execution over the three backends ends in what it should recover from**, whatever trouble
the tables in memory are set up with, and whatever an endpoint or a database reports. -/
theorem execute_recovers (sink : Sink ρ) (schema : Option Schema) (freshId : String) (call : Call)
    (reports : ρ) :
    (∀ w, Recovers ⟨Memory.adapter, sink, schema⟩ freshId call w reports) ∧
    (∀ (c : Postgrest.Client σ) (w), Recovers ⟨c.adapter, sink, schema⟩ freshId call w reports) ∧
    (∀ (d : Postgres.Database) (w), Recovers ⟨d.adapter, sink, schema⟩ freshId call w reports) := by
  refine ⟨fun w => ?_, fun c w => ?_, fun d w => ?_⟩
  · exact recovers_of_accountable
      (fun guarded s =>
        ⟨fun s' => s'.trouble = s.trouble, _, rfl, Memory.accountable s.trouble guarded⟩)
      freshId call w reports
  · exact recovers_of_accountable
      (fun guarded s => ⟨_, _, fun _ hheard => hheard, Postgrest.accountable c s.server guarded⟩)
      freshId call w reports
  · exact recovers_of_accountable
      (fun guarded s => ⟨_, _, trivial, Postgres.accountable d guarded⟩) freshId call w reports

end ReadGate.Engine
