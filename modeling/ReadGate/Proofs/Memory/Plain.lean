import ReadGate.Proofs.Memory.Escapes
import ReadGate.Proofs.Rule.Names
import ReadGate.Proofs.Value.Plain

/-!
# Tables of plain values

Tables of plain values give rows that a response can show as they are, and their failures can be
reported as they are.  The answers to translated queries have the same properties, since they are
made of cells of the tables and of numbers.

* `MemoryStore.IsPlain` — tables, prepared results and prepared trouble without anything else.
* `Failure.IsShown` — a failure that a report shows as it is.
* `execute_plain` — what an execution over such tables ends in.
-/

namespace ReadGate

open Http

/-! ## Failures -/

/-- A report shows the failure as it is. -/
structure Failure.IsShown (f : Failure) : Prop where
  message : ∃ message, f.message = .text message
  details : ∃ details, f.details = .record details ∧ writtenFields? details = some details

namespace Failure

theorem of_isShown (kind : FailureKind) (message : String) {details : Row}
    (h : writtenFields? details = some details) : (of kind message details).IsShown :=
  ⟨⟨message, rfl⟩, ⟨details, rfl, h⟩⟩

theorem permanent_isShown (message : String) {details : Row}
    (h : writtenFields? details = some details) : (permanent message details).IsShown :=
  ⟨⟨message, rfl⟩, ⟨details, rfl, h⟩⟩

/-- The failure is shown as it is, and it is one of those in which an accepted text may end. -/
def IsAnswer (f : Failure) : Prop :=
  f.IsShown ∧ (f.kind.isBackend = true ∨ f.kind = .unsupportedPattern ∨ f.kind = .cancelled)

theorem isAnswer_cancelledBefore (stage : String) : (cancelledBefore stage).IsAnswer :=
  ⟨of_isShown _ _ rfl, .inr (.inr rfl)⟩

theorem isAnswer_unsupported (text : String) : (unsupported text).IsAnswer :=
  ⟨of_isShown _ _ rfl, .inr (.inl rfl)⟩

theorem IsAnswer.kind {f : Failure} (h : f.IsAnswer) :
    f.kind ≠ .configuration ∧ f.kind.isValidation = false := by
  obtain ⟨-, hkind⟩ := h
  cases hf : f.kind <;> rw [hf] at hkind <;>
    simp_all [FailureKind.isBackend, FailureKind.isValidation]

end Failure

theorem Validation.Rejection.failure_isValidation (rejection : Validation.Rejection) :
    rejection.failure.kind.isValidation = true := by
  cases rejection <;> rfl

/-- What is reported of a text without halves has none. -/
theorem Validation.exists_received {raw : Option String} {received : WideText}
    (h : validate raw = .error (.notReadOnly received)) : ∃ s, received = .whole s := by
  unfold validate at h
  split at h
  · cases h
  · split at h
    · cases h
    · dsimp only at h
      split at h
      · cases h
      · split at h
        · cases h
          exact ⟨_, rfl⟩
        · split at h
          · cases h
          · split at h <;> cases h

/-- The rejection of a text without halves is shown as it is. -/
theorem Validation.rejection_isShown {raw : Option String} {rejection : Rejection}
    (h : validate raw = .error rejection) : rejection.failure.IsShown := by
  cases rejection with
  | blank => exact Failure.of_isShown _ _ rfl
  | onlyTerminators => exact Failure.of_isShown _ _ rfl
  | notReadOnly received =>
    obtain ⟨s, rfl⟩ := exists_received h
    exact Failure.of_isShown _ _ rfl
  | forbidden keyword => exact ⟨⟨_, rfl⟩, ⟨_, rfl, rfl⟩⟩
  | multiple => exact Failure.of_isShown _ _ rfl

/-! ## Tables -/

namespace MemoryStore

/-- All that the store holds is plain, the number of rows in a table can be written, and the trouble
that the store was set up with, if there is any, is a failure of a backend with a text as its
message. -/
structure IsPlain (s : MemoryStore) : Prop where
  tables : ∀ t ∈ s.tables, ∀ row ∈ t.2, row.IsPlain
  countable : ∀ t ∈ s.tables, Numeral.IsShort t.2.length
  results : ∀ results ∈ s.results, ∀ r ∈ results, ∀ row ∈ r.2, row.IsPlain
  trouble : ∀ trouble ∈ s.trouble, ∃ f message details, trouble = .failure f ∧
    f.kind.isBackend = true ∧ f.message = .text message ∧ f.details = .record details ∧
    Row.IsPlain details

variable {s : MemoryStore} {v : Value} {f : Failure} {text : String}

theorem IsPlain.served (hs : s.IsPlain) (h : s.Drawn v) : IsServed v := by
  rcases h with rfl | ⟨t, ht, row, hrow, p, hp, rfl⟩
  · exact isServed_null
  · exact isServed_of_plain (hs.tables t ht row hrow p hp)

theorem IsPlain.holdsJson (hs : s.IsPlain) : Memory.HoldsJson s.tables := fun t ht row hrow =>
  (Value.allJsonFields_iff row).2 fun p hp => isJson_of_plain (hs.tables t ht row hrow p hp)

theorem Lacks.isAnswer (h : Lacks f) : f.IsAnswer := by
  cases h with
  | table table => exact ⟨Failure.permanent_isShown _ rfl, .inl rfl⟩
  | column table column =>
    refine ⟨Failure.permanent_isShown _ ?_, .inl rfl⟩
    cases column <;> rfl

/-- The rows that were prepared for a text are plain. -/
theorem execute_served (hs : s.IsPlain) {rows : List Row} (h : s.execute text = .ok rows) :
    ∀ row ∈ rows, ∀ p ∈ row, IsServed p.2 := by
  unfold execute at h
  split at h
  · cases h
  · cases h
  · rename_i results _ hresults
    split at h
    · rename_i found hfound
      cases h
      obtain ⟨r, hr, rfl⟩ := Row.mem_of_get? hfound
      intro row hrow p hp
      exact isServed_of_plain (hs.results results hresults r hr row hrow p hp)
    · cases h

theorem execute_isAnswer (hs : s.IsPlain) (h : s.execute text = .error (.failure f)) :
    f.IsAnswer := by
  unfold execute at h
  split at h
  · rename_i trouble htrouble
    cases h
    obtain ⟨f', message, details, hf, hkind, hmessage, hdetails, hplain⟩ := hs.trouble _ htrouble
    cases hf
    exact ⟨⟨⟨message, hmessage⟩, ⟨details, hdetails, writtenFields?_of_isPlain hplain⟩⟩, .inl hkind⟩
  · cases h
    exact ⟨Failure.of_isShown _ _ rfl, .inl rfl⟩
  · split at h
    · cases h
    · cases h
      exact ⟨Failure.of_isShown _ _ rfl, .inl rfl⟩

end MemoryStore

namespace Memory

open Engine MemoryStore

variable {α : Type} {good : α → Prop} {guarded : Bool} {answer : MemoryStore → Except Trouble α}

/-- A call of plain tables yields what they give. -/
theorem call_yields (record : MemoryCall) (hresult : ∀ s a, s.IsPlain → answer s = .ok a → good a)
    (hfailure : ∀ s f, s.IsPlain → answer s = .error (.failure f) → f.IsAnswer) :
    Yields IsPlain good Failure.IsAnswer (call (capabilityOf record) guarded record answer) := by
  -- a call on record is nothing that the store holds
  have hcalling (s : MemoryStore) (hs : s.IsPlain) : (calling s record).IsPlain :=
    ⟨hs.tables, hs.countable, hs.results, hs.trouble⟩
  refine ⟨call_confined Failure.isAnswer_cancelledBefore record hcalling hfailure, ?_⟩
  intro w a hs ha
  cases hc : guarded && w.token.cancelled with
  | true =>
    rw [call_stopped hc] at ha
    cases ha
  | false =>
    obtain ⟨w₁, hcall, -⟩ := @call_free α guarded answer w record hc
    rw [hcall] at ha
    exact hresult _ a (hcalling _ hs) ha

theorem rawExecute_yields (guarded : Bool) (text : String) :
    Yields IsPlain (AllCells IsServed) Failure.IsAnswer (adapter.rawExecute guarded text) := by
  show Yields _ _ _ (call (capabilityOf (.raw text)) guarded (.raw text) (·.execute text))
  exact call_yields (.raw text) (fun s rows hs => execute_served hs) fun s f hs => execute_isAnswer hs

theorem call_gives (record : MemoryCall) (h : ∀ s, s.IsPlain → Gives good (answer s)) :
    Yields IsPlain good Failure.IsAnswer (call (capabilityOf record) guarded record answer) :=
  call_yields record (fun s a hs => (h s hs).result a) fun s f hs hf =>
    ((h s hs).failure f hf).isAnswer

/-- **Answers to queries in no order are shown as they are.** -/
theorem structured_yields (guarded : Bool) {q : StructuredQuery} (hq : q.orderBy = none) :
    Yields IsPlain (AllCells IsServed) Failure.IsAnswer (executeStructured adapter guarded q) := by
  refine executeStructured_yields Failure.isAnswer_cancelledBefore (fun _ => isServed_int) ?_ ?_ ?_
  · show Yields _ _ _ (call (capabilityOf (.select q.selection)) guarded (.select q.selection)
      fun s => s.select q.selection)
    refine call_gives _ fun s hs => (s.select_gives q.selection).imp fun rows hrows => ?_
    exact fun row hrow p hp => hs.served (hrows hq row hrow p hp)
  · refine call_gives (.count q.table) fun s hs => (s.count_gives q.table).imp ?_
    rintro _ ⟨t, ht, rfl⟩
    exact hs.countable t ht
  · show Yields _ _ _ (call (capabilityOf (.values q.table q.groupBy)) guarded
      (.values q.table q.groupBy) fun s => s.values q.table q.groupBy)
    refine call_gives _ fun s hs => (s.values_gives q.table q.groupBy).imp ?_
    rintro values ⟨hdrawn, t, ht, hlength⟩
    exact ⟨fun v hv => hs.served (hdrawn v hv), hlength ▸ hs.countable t ht⟩

/-- **An execution over plain tables ends with rows or a failure that can be shown as they are**, or
in a mishap. -/
theorem execute_plain {ρ : Type} {e : Engine MemoryStore ρ} (he : e.backend = adapter) {call : Call}
    {text : String} (hv : Validation.validateWide call.query = .ok (.whole text))
    {w : World MemoryStore}
    (hs : w.remote.IsPlain) (freshId : String) (reports : ρ) :
    Settled (AllCells IsServed) Failure.IsAnswer (e.execute freshId call w reports).1 := by
  obtain ⟨backend, sink, schema⟩ := e
  subst he
  exact execute_settled hv (rawExecute_yields call.guarded text)
    (fun rule q htr => structured_yields call.guarded (Grammar.translate_namesOnly htr).unordered)
    (fun f h _ => h) Failure.isAnswer_cancelledBefore (Failure.isAnswer_unsupported text) hs freshId
    reports

/-- The mishaps of such an execution are its own. -/
theorem execute_own {ρ : Type} {e : Engine MemoryStore ρ} (he : e.backend = adapter) {call : Call}
    {text : String} (hv : Validation.validateWide call.query = .ok (.whole text))
    {w : World MemoryStore} (hs : w.remote.IsPlain) (freshId : String) (reports : ρ) {m : Mishap}
    (hm : (e.execute freshId call w reports).1 = .error (.mishap m)) : m.IsOwn := by
  have htrouble : ∀ trouble ∈ w.remote.trouble, ∃ f, trouble = .failure f := fun trouble ht => by
    obtain ⟨f, message, details, hf, -⟩ := hs.trouble trouble ht
    exact ⟨f, hf⟩
  exact ((execute_escapes_iff he hv hs.holdsJson htrouble freshId reports).1 hm).2.isOwn

end Memory

end ReadGate
