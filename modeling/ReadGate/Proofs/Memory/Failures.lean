import ReadGate.Proofs.Backend.Failures
import ReadGate.Proofs.Memory.Calls
import ReadGate.Proofs.Memory.Tables

/-!
# Failures of the tables in memory

The tables have failures of their own for unknown tables and columns, and these are final.  Only the
execution of a query text may end in other trouble: the one with which the store was set up.

* `EndsForGood` — an answer that fails does so with a failure that is not worth repeating.
* `Gives.endsForGood` — so do all answers of the structured path.
* `accountable` — the failures of the backend.
-/

namespace ReadGate

/-- The answer is no failure, or one that is not worth repeating. -/
structure EndsForGood {α : Type} (x : Except Trouble α) : Prop where
  permanent : ∀ f, x = .error (.failure f) → ∃ message details, f = .permanent message details

namespace MemoryStore

theorem Lacks.permanent {f : Failure} (h : Lacks f) :
    ∃ message details, f = .permanent message details := by
  cases h <;> exact ⟨_, _, rfl⟩

/-- What the tables give ends for good. -/
theorem Gives.endsForGood {α : Type} {good : α → Prop} {x : Except Trouble α} (h : Gives good x) :
    EndsForGood x :=
  ⟨fun f hf => (h.failure f hf).permanent⟩

/-- A query text ends in a failure that fits a report, or in the prepared one. -/
theorem execute_blames {s : MemoryStore} {text : String} {f : Failure}
    (h : s.execute text = .error (.failure f)) :
    f.Blames fun f => s.trouble = some (.failure f) := by
  unfold execute at h
  split at h
  · rename_i trouble htrouble
    cases h
    exact .inr htrouble
  · cases h
    exact .inl (Failure.of_reportable ..)
  · split at h
    · cases h
    · cases h
      exact .inl (Failure.of_reportable ..)

end MemoryStore

namespace Memory

open Run

variable {α : Type} {guarded : Bool} {allowed : Failure → Prop} {trouble : Option Trouble}
  {kept : MemoryStore → Prop} {answer : MemoryStore → Except Trouble α}

/-- A call that keeps a record is confined as its answers are. -/
theorem call_confined (hstopped : ∀ stage, allowed (.cancelledBefore stage)) (record : MemoryCall)
    (hcalling : ∀ s, kept s → kept (calling s record))
    (hanswer : ∀ s f, kept s → answer s = .error (.failure f) → allowed f) :
    Confined kept allowed (call (capabilityOf record) guarded record answer) := by
  refine ⟨fun w hkept => ?_⟩
  cases hc : guarded && w.token.cancelled with
  | true =>
    rw [call_stopped hc]
    refine ⟨hkept, fun f hf => ?_⟩
    cases hf
    exact hstopped _
  | false =>
    obtain ⟨w₁, hcall, hcalled⟩ : ∃ w₁, call (capabilityOf record) guarded record answer w =
        (answer (calling w.remote record), w₁) ∧ Called guarded w record w₁ := call_free record hc
    rw [hcall, hcalled.remote]
    exact ⟨hcalling _ hkept, fun f hf => hanswer _ f (hcalling _ hkept) hf⟩

/-- What is answered from the tables fails for good. -/
theorem call_final (record : MemoryCall) (hanswer : ∀ s, EndsForGood (answer s))
    (origin : Failure → Prop) :
    Confined (fun s => s.trouble = trouble) (Failure.BlamesFinally origin)
      (call (capabilityOf record) guarded record answer) := by
  refine call_confined (Failure.blamesFinally_cancelledBefore origin) record (fun _ h => h)
    fun s f _ hf => ?_
  obtain ⟨message, details, rfl⟩ := (hanswer s).permanent f hf
  exact ⟨rfl, .inl (Failure.permanent_reportable ..)⟩

/-- The failures of the tables fit a report, except the one with which they were set up. -/
theorem accountable (trouble : Option Trouble) (guarded : Bool) :
    Accountable (fun s => s.trouble = trouble) (fun f => trouble = some (.failure f)) guarded
      adapter where
  rawExecute text := by
    show Confined _ _ (call (capabilityOf (.raw text)) guarded (.raw text) (·.execute text))
    refine call_confined (fun stage => .inl (Failure.cancelledBefore_reportable stage))
      (.raw text) (fun _ h => h) fun s f hkept hf => ?_
    subst hkept
    exact MemoryStore.execute_blames hf
  structuredQuery q := call_final (.select q) (fun s => (s.select_gives q).endsForGood) _
  count table := call_final (.count table) (fun s => (s.count_gives table).endsForGood) _
  columnValues table column :=
    call_final (.values table column) (fun s => (s.values_gives table column).endsForGood) _

end Memory

end ReadGate
