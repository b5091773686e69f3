import ReadGate.Postgrest.Adapter
import ReadGate.Proofs.Backend.Cancellation
import ReadGate.Proofs.Backend.Trace
import ReadGate.Proofs.Postgrest.Selection

/-!
# Requests to an endpoint

Every request is sent behind a check of the token, also those for further pages.  Whatever the
endpoint replies, and however many pages it has, a call of the client is a sequence of such
requests.

* `Sent` — what a request changes.
* `Sends`, `sent_of_sends` — requests with a property, one after the other.
* `Serving` — a property that requests hand down, if their replies and failures are right.
* `selectAll_keeps` — what holds of a checked request, holds of all pages.
* `rawExecute_serves` and the like — and of each capability.
* `asking_traces`, `asking_honest` — no request finds its token cancelled, and none claims that
  it was cancelled.
-/

namespace ReadGate.Postgrest

open Run

variable {σ : Type} {c : Client σ} {guarded : Bool}

/-! ## One request -/

/-- A request leads from one world to another.  It does not find its token cancelled. -/
structure Sent (c : Client σ) (guarded : Bool) (w : World (Wire σ)) (r : Request)
    (w' : World (Wire σ)) : Prop where
  free : (guarded && w.token.cancelled) = false
  remote : w'.remote = ⟨w.remote.sent ++ [r], (c.transport r w.remote.server).2⟩
  token : w'.token.cancelled = (w.token.cancelled || (c.transport r w.remote.server).1.cancels)

theorem send_sent (operation : String) (r : Request) {w : World (Wire σ)}
    (hfree : (guarded && w.token.cancelled) = false) :
    Sent c guarded w r (c.send operation r w).2 := by
  have hworld : (c.send operation r w).2 = after c r w := by
    obtain ⟨_, -, hsend⟩ | ⟨_, -, hsend⟩ | ⟨_, -, hsend⟩ := send_cases c operation r w <;>
      rw [hsend]
  rw [hworld]
  refine ⟨hfree, rfl, ?_⟩
  unfold after
  cases (c.transport r w.remote.server).1.cancels with
  | true => simp [Token.cancelled_cancel]
  | false => simp

theorem send_kind {operation : String} {r : Request} {w : World (Wire σ)} {f : Failure}
    (hf : (c.send operation r w).1 = .error (.failure f)) : f.kind = .backendExecution := by
  obtain ⟨_, -, hsend⟩ | ⟨_, -, hsend⟩ | ⟨_, -, hsend⟩ := send_cases c operation r w <;>
    rw [hsend] at hf <;> cases hf
  rfl

/-- A request with a property is sent. -/
def Sends (P : Request → Prop) (w : World (Wire σ)) (r : Request) (w' : World (Wire σ)) : Prop :=
  w'.remote.sent = w.remote.sent ++ [r] ∧ P r

/-- A trace of such requests lists what was sent. -/
theorem sent_of_sends {P : Request → Prop} {w w' : World (Wire σ)} {requests : List Request}
    (h : Trace (Sends P) w requests w') :
    w'.remote.sent = w.remote.sent ++ requests ∧ ∀ r ∈ requests, P r := by
  induction h with
  | done => simp
  | next lines first _ ih =>
    obtain ⟨hsent, hrequest⟩ := first
    refine ⟨?_, List.forall_mem_cons.2 ⟨hrequest, ih.2⟩⟩
    rw [ih.1, hsent]
    simp

theorem send_sends {P : Request → Prop} (operation : String) {r : Request} (h : P r)
    (w : World (Wire σ)) : Trace (Sends P) w [r] (c.send operation r w).2 := by
  have hsent : Sent c false w r (c.send operation r w).2 := send_sent operation r rfl
  exact .one ⟨by rw [hsent.remote], h⟩

/-- What every request of the client is: the token is checked, and then it is sent. -/
def asking (c : Client σ) (guarded : Bool) (stage operation : String) (r : Request) :
    Run (Wire σ) Reply := do
  Run.check guarded stage
  c.send operation r

theorem asking_traces (c : Client σ) (guarded : Bool) (stage operation : String) (r : Request) :
    Traces (Sent c guarded) .none (asking c guarded stage operation r) := by
  refine .checked fun w hfree => ?_
  exact ⟨[r], .one (send_sent operation r hfree), Ending.explains_none _⟩

theorem asking_honest (c : Client σ) (guarded : Bool) (stage operation : String) (r : Request) :
    Honest guarded (asking c guarded stage operation r) := by
  refine .checked fun w f _ hf hkind => ?_
  rw [send_kind hf] at hkind
  cases hkind

/-! ## Replies -/

/-- No reply to a query text is taken for a cancellation. -/
theorem executionFailure_kind {r : Reply} {f : Failure} (hf : c.executionFailure r = .ok f) :
    f.kind ≠ .cancelled := by
  unfold Client.executionFailure at hf
  rcases herror : Client.errorOf r with m | ⟨message, code⟩ <;> rw [herror] at hf
  · cases hf
  · replace hf : (BackendFault.classify message code (.text c.endpoint.rpcFunction)).map
      (fun fault => fault.failure message (.record (Client.details "raw_execute" r code))) =
        .ok f := hf
    cases hfault : BackendFault.classify message code (.text c.endpoint.rpcFunction) with
    | error m =>
      rw [hfault] at hf
      cases hf
    | ok fault =>
      rw [hfault] at hf
      cases hf
      cases fault <;> exact nofun

/-- A property of computations of the client that requests hand down.  It allows the failures that
the client words itself, and those that an admitted reply to a request reports. -/
structure Serving (c : Client σ) (guarded : Bool) (allowed : Failure → Prop)
    (admitted : Reply → Prop) (P : (α : Type) → Run (Wire σ) α → Prop) : Prop
    extends ClosedUnder allowed guarded P where
  permanent : ∀ message details, allowed (.permanent message details)
  refusal : ∀ {r : Reply} {message code : Value}, admitted r → r.isOk = false →
    Client.errorOf r = .ok (message, code) → ∀ retryable details,
      allowed ⟨.backendExecution, message, retryable, .record details, none⟩
  asked : ∀ {α : Type} {stage operation : String} {r : Request} {f : Reply → Run (Wire σ) α},
    (∀ reply, admitted reply → P α (f reply)) → P α (do
      Run.check guarded stage
      let reply ← c.send operation r
      f reply)

section Keeps

variable {allowed : Failure → Prop} {admitted : Reply → Prop}
  {P : (α : Type) → Run (Wire σ) α → Prop}

/-- What holds of every checked request is handed down, whatever the replies are. -/
theorem Serving.of_asking (h : Closed guarded P)
    (hasking : ∀ stage operation r, P _ (asking c guarded stage operation r)) :
    Serving c guarded (fun f => f.kind ≠ .cancelled) (fun _ => True) P where
  toClosedUnder := h
  permanent _ _ := nofun
  refusal _ _ _ _ _ := nofun
  asked := by
    intro α stage operation r f hf
    have hasked := h.bind (hasking stage operation r) fun reply => hf reply trivial
    unfold asking at hasked
    rwa [bind_assoc] at hasked

theorem requireOk_keeps (h : Serving c guarded allowed admitted P) (operation : String)
    {r : Reply} (hr : admitted r) : P _ (Client.requireOk operation r) := by
  unfold Client.requireOk
  cases hok : r.isOk with
  | true => exact h.pure _
  | false =>
    rcases herror : Client.errorOf r with m | ⟨message, code⟩
    · exact h.mishap m
    · exact h.failure _ (h.refusal hr hok herror (.bool (500 ≤ r.status)) _)

theorem decode_keeps (h : Serving c guarded allowed admitted P) (operation : String) (r : Reply) :
    P _ (Client.decode operation r) := by
  unfold Client.decode
  split
  · exact h.pure _
  · exact h.mishap _
  · exact h.failure _ (h.permanent _ _)

/-- A total that is not announced is a failure of the endpoint. -/
theorem totalOf_keeps (h : Serving c guarded allowed admitted P) (header : String) :
    P _ (ExceptT.mk (pure (totalOf header))) := by
  unfold totalOf
  dsimp only
  split
  · exact h.failure _ (h.permanent _ _)
  · rcases Numeral.readInt (behindSlash header) with e | total
    · exact h.mishap _
    · exact h.pure _

/-! ## Pages -/

theorem fetch_keeps (h : Serving c guarded allowed admitted P) (source : Source)
    (hguarded : source.guarded = guarded) (limit : Option Int) (offset : Nat) :
    P _ (c.fetch source limit offset) := by
  subst hguarded
  refine h.asked fun reply hreply => ?_
  exact h.bind (requireOk_keeps h _ hreply) fun _ => h.bind (decode_keeps h ..) fun _ => h.pure _

/-- The loop over pages, however many there are. -/
theorem more_of_fetch (h : ClosedUnder allowed guarded P) (source : Source) (limit : Option Int)
    (hfetch : ∀ offset, P _ (c.fetch source limit offset)) (total : Int) (records : List Value) :
    P _ (c.more source limit total records) := by
  -- the induction is on what is missing from the total, which every round makes less
  generalize hn : (total - records.length).toNat = n
  induction n using Nat.strongRecOn generalizing records with
  | ind n ih =>
    rw [Client.more]
    split
    · rename_i hgo
      refine h.bind (hfetch _) fun fetched => ?_
      refine h.bind (h.lift _) fun page => ?_
      cases page with
      | nil => exact h.pure _
      | cons first rest =>
        refine ih _ ?_ _ rfl
        have hlt := hgo.1
        simp only [List.length_append, List.length_cons]
        omega
    · exact h.pure _

/-- All pages within a limit.  A total that is not announced is a failure of the endpoint. -/
theorem pages_of_fetch (h : ClosedUnder allowed guarded P)
    (htotal : ∀ header, P _ (ExceptT.mk (pure (totalOf header)))) (source : Source)
    (limit : Option Int) (hfetch : ∀ offset, P _ (c.fetch source limit offset)) :
    P _ (c.pages source limit) := by
  unfold Client.pages
  split
  · refine h.bind (hfetch 0) fun fetched => ?_
    refine h.bind (htotal _) fun total => h.bind (h.lift _) fun page => ?_
    split
    · exact h.pure _
    · exact h.bind (more_of_fetch h source limit hfetch ..) fun _ => h.pure _
  · exact h.pure _

/-- The limit is read before anything is fetched, and then it is no parameter any more. -/
theorem selectAll_eq (c : Client σ) (source : Source) :
    c.selectAll source = (do
      let limit ← Run.lift ((limitOf source.params).mapError Mishap.numeral)
      let (records, total) ←
        c.pages { source with params := Row.erase source.params "limit" } limit
      Run.report .debug .postgrest
        s!"Fetched {records.length} of {(Value.ofInt? total).plain} rows from {source.table}"
      return records) := by
  unfold Client.selectAll limitOf
  rcases (Row.get? source.params "limit").join with _ | text
  · rfl
  · dsimp only
    rcases Numeral.readWide text with e | n <;> rfl

/-- The pages are fetched within the limit that is read, without it among their parameters. -/
theorem selectAll_of_fetch (h : ClosedUnder allowed guarded P)
    (htotal : ∀ header, P _ (ExceptT.mk (pure (totalOf header)))) (source : Source)
    (hfetch : ∀ limit, limitOf source.params = .ok limit → ∀ offset,
      P _ (c.fetch { source with params := Row.erase source.params "limit" } limit offset)) :
    P _ (c.selectAll source) := by
  rw [selectAll_eq]
  cases hlimit : limitOf source.params with
  | error e => exact h.mishap (.numeral e)
  | ok limit =>
    show P _ (pure limit >>= _)
    rw [pure_bind]
    refine h.bind (pages_of_fetch h htotal _ limit (hfetch limit hlimit)) fun _ => ?_
    exact h.bind (h.report ..) fun _ => h.pure _

theorem selectAll_keeps (h : Serving c guarded allowed admitted P) (source : Source)
    (hguarded : source.guarded = guarded) : P _ (c.selectAll source) :=
  selectAll_of_fetch h.toClosedUnder (totalOf_keeps h) source fun limit _ =>
    fetch_keeps h { source with params := Row.erase source.params "limit" } hguarded limit

/-! ## The capabilities -/

/-- A query text is executed by one request.  The failure that its reply reports is classified, so
it has to be allowed on its own. -/
theorem rawExecute_serves (h : Serving c guarded allowed admitted P)
    (hclassified : ∀ r f, admitted r → r.isOk = false → c.executionFailure r = .ok f → allowed f)
    (text : String) : P _ (c.rawExecute guarded text) := by
  refine h.asked fun reply hreply => ?_
  cases hok : reply.isOk with
  | true =>
    show P _ (Client.rowsOfBody reply)
    unfold Client.rowsOfBody
    split
    · exact h.pure _
    · exact h.bind (decode_keeps h ..) fun _ => h.lift _
  | false =>
    rcases hf : c.executionFailure reply with m | f
    · exact h.mishap m
    · exact h.failure f (hclassified reply f hreply hok hf)

theorem rawExecute_keeps (h : Closed guarded P)
    (hasking : ∀ stage operation r, P _ (asking c guarded stage operation r)) (text : String) :
    P _ (c.rawExecute guarded text) :=
  rawExecute_serves (.of_asking h hasking) (fun _ _ _ _ hf => executionFailure_kind hf) text

theorem structuredQuery_keeps (h : Serving c guarded allowed admitted P) (q : Selection) :
    P _ (c.structuredQuery guarded q) := by
  unfold Client.structuredQuery
  refine h.bind (h.check _) fun _ => h.bind (h.lift _) fun _ => ?_
  exact h.bind (selectAll_keeps h _ rfl) fun _ => h.lift _

theorem count_keeps (h : Serving c guarded allowed admitted P) (table : String) :
    P _ (c.count guarded table) := by
  refine h.asked fun reply hreply => ?_
  exact h.bind (requireOk_keeps h _ hreply) fun _ => totalOf_keeps h _

theorem columnValues_keeps (h : Serving c guarded allowed admitted P) (table : String)
    (column : Option String) : P _ (c.columnValues guarded table column) := by
  unfold Client.columnValues
  refine h.bind (h.check _) fun _ => ?_
  exact h.bind (selectAll_keeps h _ rfl) fun _ => h.lift _

end Keeps

end ReadGate.Postgrest
