import ReadGate.Backend.Memory
import ReadGate.Proofs.Backend.Trace

/-!
# Calls of the tables in memory

A call that did not find its token cancelled is recorded and answered from the tables, and may
cancel the token as it ends.  Nothing else about the tables changes.

* `Called` — what a call changes.
* `call_free`, `call_stopped` — a call, by whether it finds its token cancelled.
* `rawExecute_free` and the like — the answer of each capability to a call that does not.
* `rawExecute_traces` and the like — each capability makes one call.
-/

namespace ReadGate.Memory

open Run

variable {α : Type} {capability : Capability} {guarded : Bool} {record : MemoryCall}
  {answer : MemoryStore → Except Trouble α} {w w' : World MemoryStore}

/-- The capability that a call is made of. -/
def capabilityOf : MemoryCall → Capability
  | .raw _ => .rawExecute
  | .select _ => .structuredQuery
  | .count _ => .count
  | .values _ _ => .columnValues

/-- The tables with a call more on record. -/
def calling (s : MemoryStore) (record : MemoryCall) : MemoryStore :=
  { s with calls := s.calls ++ [record] }

/-- A call leads from one world to another.  It did not find its token cancelled before it. -/
structure Called (guarded : Bool) (w : World MemoryStore) (record : MemoryCall)
    (w' : World MemoryStore) : Prop where
  free : (guarded && w.token.cancelled) = false
  remote : w'.remote = calling w.remote record
  token : w'.token.cancelled =
    (w.token.cancelled || w.remote.cancelling.contains (capabilityOf record))

/-- A call that finds its token cancelled has no effect. -/
theorem call_stopped (h : (guarded && w.token.cancelled) = true) :
    call capability guarded record answer w =
      (.error (.failure (.cancelledBefore capability.name)), w) := by
  have htoken : w.token.cancel.1 = w.token := by
    simp [Token.cancel, (Bool.and_eq_true_iff.1 h).2]
  unfold call
  simp only [bind_apply, check_stop h]
  unfold settle
  rw [htoken, ite_self]

theorem settle_remote (capability : Capability) (w : World MemoryStore) :
    (settle capability w).remote = w.remote := by
  unfold settle
  split <;> rfl

theorem settle_cancelled (capability : Capability) (w : World MemoryStore) :
    (settle capability w).token.cancelled =
      (w.token.cancelled || w.remote.cancelling.contains capability) := by
  unfold settle
  cases w.remote.cancelling.contains capability with
  | true => simp [Token.cancelled_cancel]
  | false => simp

/-- A call that does not is answered from the tables. -/
theorem call_free (record : MemoryCall) (h : (guarded && w.token.cancelled) = false) :
    ∃ w₁, call (capabilityOf record) guarded record answer w =
        (answer (calling w.remote record), w₁) ∧ Called guarded w record w₁ := by
  let w₁ : World MemoryStore := { w with remote := calling w.remote record }
  refine ⟨settle (capabilityOf record) w₁, ?_, h, settle_remote _ w₁, settle_cancelled _ w₁⟩
  unfold call
  simp only [bind_apply, check_pass h]
  rfl

/-! ## Capabilities -/

/-- A call that is made stops what comes after it if it cancels the token. -/
theorem Called.stops (h : Called guarded w record w') :
    (guarded && w'.token.cancelled) =
      (guarded && w.remote.cancelling.contains (capabilityOf record)) := by
  have hfree := h.free
  rw [h.token]
  cases guarded with
  | false => rfl
  | true => rw [Bool.true_and, Bool.true_and, ← Bool.true_and w.token.cancelled, hfree,
      Bool.false_or]

theorem rawExecute_free (text : String) (hfree : (guarded && w.token.cancelled) = false) :
    ∃ w₁, adapter.rawExecute guarded text w = (w.remote.execute text, w₁) ∧
      Called guarded w (.raw text) w₁ :=
  @call_free (List Row) guarded (·.execute text) w (.raw text) hfree

theorem structuredQuery_free (q : Selection) (hfree : (guarded && w.token.cancelled) = false) :
    ∃ w₁, adapter.structuredQuery guarded q w = (w.remote.select q, w₁) ∧
      Called guarded w (.select q) w₁ :=
  @call_free (List Row) guarded (·.select q) w (.select q) hfree

theorem count_free (table : String) (hfree : (guarded && w.token.cancelled) = false) :
    ∃ w₁, adapter.count guarded table w =
        ((w.remote.rows table).map fun rows => (rows.length : Int), w₁) ∧
      Called guarded w (.count table) w₁ :=
  @call_free Int guarded (fun s => (s.rows table).map fun rows : List Row => (rows.length : Int)) w
    (.count table) hfree

theorem columnValues_free (table : String) (column : Option String)
    (hfree : (guarded && w.token.cancelled) = false) :
    ∃ w₁, adapter.columnValues guarded table column w = (w.remote.values table column, w₁) ∧
      Called guarded w (.values table column) w₁ :=
  @call_free (List Value) guarded (·.values table column) w (.values table column) hfree

/-! ## Requests -/

theorem call_traces (record : MemoryCall) :
    Traces (Called guarded) .none (call (capabilityOf record) guarded record answer) := by
  refine ⟨fun w => ?_⟩
  cases hc : guarded && w.token.cancelled with
  | true =>
    rw [call_stopped hc]
    exact ⟨[], .refl w, Ending.explains_nil _⟩
  | false =>
    obtain ⟨w₁, hcall, hcalled⟩ := call_free record hc
    rw [hcall]
    exact ⟨[record], .one hcalled, Ending.explains_none _⟩

theorem rawExecute_traces (guarded : Bool) (text : String) :
    Traces (Called guarded) .none (adapter.rawExecute guarded text) := by
  show Traces _ _ (call .rawExecute guarded (.raw text) fun s => s.execute text)
  exact call_traces (.raw text)

theorem structuredQuery_traces (guarded : Bool) (q : Selection) :
    Traces (Called guarded) .none (adapter.structuredQuery guarded q) := by
  show Traces _ _ (call .structuredQuery guarded (.select q) fun s => s.select q)
  exact call_traces (.select q)

theorem count_traces (guarded : Bool) (table : String) :
    Traces (Called guarded) .none (adapter.count guarded table) := by
  show Traces _ _ (call .count guarded (.count table) fun s =>
    (s.rows table).map fun rows => (rows.length : Int))
  exact call_traces (.count table)

theorem columnValues_traces (guarded : Bool) (table : String) (column : Option String) :
    Traces (Called guarded) .none (adapter.columnValues guarded table column) := by
  show Traces _ _ (call .columnValues guarded (.values table column) fun s => s.values table column)
  exact call_traces (.values table column)

end ReadGate.Memory
