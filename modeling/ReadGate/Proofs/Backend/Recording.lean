import ReadGate.Proofs.Backend.Run

/-!
# Recording backends

A backend with a recorder keeps, beside its own state, a record of the calls made of it: which
capability was called with which arguments, and what it replied.  The record is a ghost.  Forgetting
it gives the backend without a recorder, so what is read off the record holds of any backend.

* `Adapter.recording` — the same backend with a recorder.
* `Records` — a computation does what another one does, and adds to the record.
* `Records.bind`, `Records.tryCatch` — computations that are put together in the same way keep this,
  so the engine over a recording backend does what it does over the backend itself.
-/

namespace ReadGate

/-- A call of a capability with its arguments, and what the backend replied. -/
inductive Exchange
  | raw (text : String) (reply : Except Trouble (List Row))
  | select (selection : Selection) (reply : Except Trouble (List Row))
  | count (table : String) (reply : Except Trouble Int)
  | values (table : String) (column : Option String) (reply : Except Trouble (List Value))

/-- An entry of the record: the exchange, whether the call was handed the token, and whether the
token was cancelled when the backend replied. -/
structure Entry where
  guarded : Bool
  exchange : Exchange
  cancelled : Bool

/-- A remote side with the record of the calls made of it. -/
structure Recorded (σ : Type) where
  remote : σ
  record : List Entry

namespace World

variable {σ : Type}

/-- The world with a record beside its remote side. -/
def withRecord (w : World σ) (record : List Entry) : World (Recorded σ) :=
  ⟨w.token, w.log, ⟨w.remote, record⟩⟩

/-- The world without its record. -/
def withoutRecord (w : World (Recorded σ)) : World σ :=
  ⟨w.token, w.log, w.remote.remote⟩

/-- The record of a world. -/
def record (w : World (Recorded σ)) : List Entry :=
  w.remote.record

@[simp] theorem record_withRecord (w : World σ) (record : List Entry) :
    (w.withRecord record).record = record := rfl

@[simp] theorem token_withRecord (w : World σ) (record : List Entry) :
    (w.withRecord record).token = w.token := rfl

@[simp] theorem withoutRecord_withRecord (w : World σ) (record : List Entry) :
    (w.withRecord record).withoutRecord = w := rfl

@[simp] theorem withRecord_withoutRecord (w : World (Recorded σ)) :
    w.withoutRecord.withRecord w.record = w := rfl

@[simp] theorem record_logged (w : World (Recorded σ)) (lines : List LogLine) :
    (w.logged lines).record = w.record := rfl

end World

variable {σ α β : Type}

/-- A call that is recorded once it has ended. -/
def recorded (guarded : Bool) (exchange : Except Trouble α → Exchange) (call : Run σ α) :
    Run (Recorded σ) α := fun w =>
  match call w.withoutRecord with
  | (reply, after) =>
    (reply, after.withRecord (w.record ++ [⟨guarded, exchange reply, after.token.cancelled⟩]))

/-- The same backend with a recorder. -/
def Adapter.recording (backend : Adapter σ) : Adapter (Recorded σ) where
  name := backend.name
  rawExecute guarded text := recorded guarded (.raw text) (backend.rawExecute guarded text)
  structuredQuery guarded selection :=
    recorded guarded (.select selection) (backend.structuredQuery guarded selection)
  count guarded table := recorded guarded (.count table) (backend.count guarded table)
  columnValues guarded table column :=
    recorded guarded (.values table column) (backend.columnValues guarded table column)

/-- A recorded call adds one entry to the record, with its reply and the state of the token. -/
theorem record_of_recorded {guarded : Bool} {exchange : Except Trouble α → Exchange}
    {call : Run σ α} {w w₁ : World (Recorded σ)} {reply : Except Trouble α}
    (h : recorded guarded exchange call w = (reply, w₁)) :
    w₁.record = w.record ++ [⟨guarded, exchange reply, w₁.token.cancelled⟩] := by
  unfold recorded at h
  split at h
  cases h
  rfl

/-! ## Erasing the record -/

/-- The first computation does what the second one does, and adds to the record. -/
structure Records (recording : Run (Recorded σ) α) (plain : Run σ α) : Prop where
  erases : ∀ w record, ∃ more,
    recording (w.withRecord record) = ((plain w).1, (plain w).2.withRecord (record ++ more))

namespace Records

open Run

theorem pure (a : α) : Records (σ := σ) (Pure.pure a) (Pure.pure a) := by
  refine ⟨fun w record => ⟨[], ?_⟩⟩
  rw [pure_apply, pure_apply, List.append_nil]

theorem throw (t : Trouble) : Records (σ := σ) (α := α) (MonadExcept.throw t)
    (MonadExcept.throw t) := by
  refine ⟨fun w record => ⟨[], ?_⟩⟩
  rw [throw_apply, throw_apply, List.append_nil]

theorem report (level : Level) (source : Source) (text : String) :
    Records (σ := σ) (Run.report level source text) (Run.report level source text) := by
  refine ⟨fun w record => ⟨[], ?_⟩⟩
  rw [report_apply, report_apply, List.append_nil]
  rfl

theorem check (guarded : Bool) (stage : String) :
    Records (σ := σ) (Run.check guarded stage) (Run.check guarded stage) := by
  refine ⟨fun w record => ⟨[], ?_⟩⟩
  rw [List.append_nil]
  cases h : guarded && w.token.cancelled with
  | true => rw [check_stop h, check_stop (w := w.withRecord record) h]
  | false => rw [check_pass h, check_pass (w := w.withRecord record) h]

theorem lift (x : Except Mishap α) : Records (σ := σ) (Run.lift x) (Run.lift x) := by
  cases x with
  | ok a => exact pure a
  | error m => exact throw (.mishap m)

theorem recorded (guarded : Bool) (exchange : Except Trouble α → Exchange) (call : Run σ α) :
    Records (ReadGate.recorded guarded exchange call) call := by
  exact ⟨fun w _ => ⟨[⟨guarded, exchange (call w).1, (call w).2.token.cancelled⟩], rfl⟩⟩

theorem bind {x' : Run (Recorded σ) α} {x : Run σ α} {f' : α → Run (Recorded σ) β}
    {f : α → Run σ β} (hx : Records x' x) (hf : ∀ a, Records (f' a) (f a)) :
    Records (x' >>= f') (x >>= f) := by
  refine ⟨fun w record => ?_⟩
  obtain ⟨first, hfirst⟩ := hx.erases w record
  rw [bind_apply, bind_apply, hfirst]
  rcases x w with ⟨t | a, w₁⟩
  · exact ⟨first, rfl⟩
  · obtain ⟨second, hsecond⟩ := (hf a).erases w₁ (record ++ first)
    refine ⟨first ++ second, ?_⟩
    rw [← List.append_assoc]
    exact hsecond

theorem tryCatch {x' : Run (Recorded σ) α} {x : Run σ α} {f' : Trouble → Run (Recorded σ) α}
    {f : Trouble → Run σ α} (hx : Records x' x) (hf : ∀ t, Records (f' t) (f t)) :
    Records (MonadExcept.tryCatch x' f') (MonadExcept.tryCatch x f) := by
  refine ⟨fun w record => ?_⟩
  obtain ⟨first, hfirst⟩ := hx.erases w record
  have run' := tryCatch_apply (w.withRecord record) x' f'
  have run := tryCatch_apply w x f
  rw [hfirst] at run'
  rcases hw : x w with ⟨t | a, w₁⟩ <;> rw [hw] at run' run
  · obtain ⟨second, hsecond⟩ := (hf t).erases w₁ (record ++ first)
    refine ⟨first ++ second, ?_⟩
    rw [run, ← List.append_assoc]
    exact run'.trans hsecond
  · refine ⟨first, ?_⟩
    rw [run]
    exact run'

end Records

end ReadGate
