import ReadGate.Proofs.Postgres.Calls

/-!
# Cleaning up after a call

A call of the database opens one connection at most, and closes it whatever happens.  The callback
that it registered with its token is gone by then, so that no later cancellation reaches a
connection that is closed.  That the callback goes first is said of calls whose closing is left
open: whatever closes the connection, it meets a token with the callbacks that were there before the
call.

* `Database.adapterClosing` — the backend with its closing left open.
* `Quiet` — connections and callbacks are left as they are.
* `withRegistration_quiet` — a registration ends, and leaves the callbacks as they were.
* `Clean`, `sessionClosing_clean` — what a session leaves behind, whatever the state of its token.
* `Tidy`, `calls_tidy` — every capability cleans up, and tells errors of the database as failures.
-/

namespace ReadGate.Postgres

open Run

variable {α : Type} {w w₁ w₂ : World Server}

/-! ## Calls with their closing left open -/

section Closing

variable (close : World Server → World Server)

/-- Runs a step on a new connection, which `close` closes. -/
def withConnectionClosing (settings : String) (body : Nat → Connection → Step (Tried α)) :
    Step (Tried α) := do
  match ← connect settings with
  | .error e => return .error e
  | .ok (number, c) =>
    thenAlways (do record .readOnly; body number c) close

/-- What becomes of a call behind its connection. -/
def answered (d : Database) (op : Operation) : Tried α → Step α
  | .ok a => return a
  | .error e => refuse d op e

/-- Runs a call on a connection of its own, which `close` closes. -/
def sessionClosing (d : Database) (op : Operation) (body : Connection → Step (Tried α)) :
    Step α := do
  answered d op (← withConnectionClosing close d.connectionString fun number c =>
    withRegistration op number (body c))

/-- A call that visits the database on a connection which `close` closes. -/
def visitingClosing (d : Database) (op : Operation) (sql : String) (params : Option (List Value))
    (answer : Connection → Tried (Except Mishap α)) : Step α := do
  Run.check op.guarded op.name
  sessionClosing close d op fun c => ask c sql params (answer c)

/-- The backend over a database, whose connections `close` closes. -/
def Database.adapterClosing (d : Database) : Adapter Server where
  name := backendName
  rawExecute guarded text :=
    match d.rpcFunction with
    | some name => visitingClosing close d ⟨"raw_execute", guarded, true⟩
        (Statement.callFunction name) (some [.text text]) fun c => fetched c (rowsOfFunction c.row)
    | none => visitingClosing close d ⟨"raw_execute", guarded, true⟩ text none rowsOfText
  structuredQuery guarded q :=
    visitingClosing close d ⟨"structured_query", guarded, false⟩ (Statement.ofSelection q).sql
      (some (Statement.ofSelection q).params) fun c => fetched c (c.rows.mapM toRow)
  count guarded table :=
    visitingClosing close d ⟨"count", guarded, false⟩ (Statement.countRows table) none
      fun c => fetched c (do (← cellOf c.row "n").toInteger)
  columnValues guarded table column :=
    match column with
    | some column => visitingClosing close d ⟨"column_values", guarded, false⟩
        (Statement.listColumn table column) none
        fun c => fetched c (c.rows.mapM fun row => do (← cellOf (some row) "v").toScalar)
    | none => do
      Run.check guarded "column_values"
      throw (.mishap (.notIdentifier .null))

end Closing

/-- The backend is the one that closes its connections. -/
theorem adapterClosing_closed (d : Database) : d.adapterClosing closed = d.adapter := by
  have hraw : (d.adapterClosing closed).rawExecute = d.rawExecute := by
    funext guarded text
    unfold Database.adapterClosing Database.rawExecute
    dsimp only
    cases d.rpcFunction <;> rfl
  have hvalues : (d.adapterClosing closed).columnValues = d.columnValues := by
    funext guarded table column
    cases column <;> rfl
  unfold Database.adapter
  rw [← hraw, ← hvalues]
  rfl

/-! ## Quiet steps -/

/-- Is it the request for a connection? -/
def Event.asks : Event → Bool
  | .connect _ => true
  | _ => false

/-- Is a connection closed? -/
def Event.closes : Event → Bool
  | .close => true
  | _ => false

/-- Between two worlds no connection is asked for or closed, and the callbacks stay as they are. -/
structure Quiet (w w' : World Server) : Prop where
  callbacks : w'.token.callbacks = w.token.callbacks
  script : w'.remote.script = w.remote.script
  granted : w'.remote.granted = w.remote.granted
  events : ∃ events, w'.remote.events = w.remote.events ++ events ∧
    ∀ event ∈ events, event.asks = false ∧ event.closes = false

namespace Quiet

theorem refl (w : World Server) : Quiet w w :=
  ⟨rfl, rfl, rfl, [], by simp, nofun⟩

theorem trans (h : Quiet w w₁) (h' : Quiet w₁ w₂) : Quiet w w₂ := by
  obtain ⟨events, hevents, hquiet⟩ := h.events
  obtain ⟨more, hmore, hquiet'⟩ := h'.events
  refine ⟨h'.callbacks.trans h.callbacks, h'.script.trans h.script, h'.granted.trans h.granted,
    events ++ more, by rw [hmore, hevents, List.append_assoc], ?_⟩
  intro event hevent
  rcases List.mem_append.1 hevent with hevent | hevent
  · exact hquiet event hevent
  · exact hquiet' event hevent

/-- An event of neither kind is recorded. -/
theorem recorded (event : Event) (hasks : event.asks = false) (hcloses : event.closes = false)
    (w : World Server) : Quiet w (record event w).2 := by
  refine ⟨rfl, rfl, rfl, [event], rfl, ?_⟩
  intro other hother
  rw [List.mem_singleton.1 hother]
  exact ⟨hasks, hcloses⟩

theorem abort (w : World Server) (number : Nat) : Quiet w (abort w number) := by
  have hquiet := recorded .cancel rfl rfl w
  unfold Postgres.abort
  dsimp only
  split
  · exact ⟨rfl, rfl, rfl, hquiet.events⟩
  · exact hquiet

theorem aborts (fired : List Nat) (w : World Server) : Quiet w (fired.foldl Postgres.abort w) := by
  induction fired generalizing w with
  | nil => exact refl w
  | cons number fired ih => exact (abort w number).trans (ih (Postgres.abort w number))

/-- A token that is cancelled keeps its callbacks until they are taken back. -/
theorem cancelToken (w : World Server) : Quiet w (cancelToken w) := by
  have hstart : Quiet w { w with token := w.token.cancel.1 } := by
    refine ⟨?_, rfl, rfl, [], by simp, nofun⟩
    unfold Token.cancel
    split <;> rfl
  exact hstart.trans (aborts w.token.cancel.2 _)

theorem execute (c : Connection) (sql : String) (params : Option (List Value))
    (w : World Server) : Quiet w (execute c sql params w).2 := by
  have hrecorded := recorded (.execute sql params) rfl rfl w
  unfold Postgres.execute
  rw [bind_apply]
  cases hc : c.cancels with
  | false =>
    show Quiet w (stopAt c.executeFault (record (.execute sql params) w).2).2
    rw [stopAt_apply]
    exact hrecorded
  | true =>
    show Quiet w (stopAt c.executeFault (Postgres.cancelToken (record (.execute sql params) w).2)).2
    rw [stopAt_apply]
    exact hrecorded.trans (cancelToken _)

theorem ask (c : Connection) (sql : String) (params : Option (List Value))
    (answer : Tried (Except Mishap α)) (w : World Server) : Quiet w (ask c sql params answer w).2 := by
  have hexecuted := execute c sql params w
  unfold Postgres.ask
  rw [bind_apply]
  rcases hresult : Postgres.execute c sql params w with ⟨t | (e | ⟨⟩), w₁⟩ <;>
    rw [hresult] at hexecuted
  · exact hexecuted
  · exact hexecuted
  · rcases answer with e | (m | a) <;> exact hexecuted

end Quiet

/-! ## Registrations -/

/-- The callbacks of a token are those of connections that were granted. -/
def Registered (w : World Server) : Prop :=
  ∀ number ∈ w.token.callbacks, number < w.remote.granted.length

/-- A registration on a token that is not cancelled adds a callback; on any other it cancels the
statement at once, and that may fail. -/
theorem register_apply (number : Nat) (w : World Server) :
    (w.token.cancelled = false ∧ register number w =
      (.ok (), { w with token := ⟨false, w.token.callbacks ++ [number]⟩ })) ∨
    (w.token.cancelled = true ∧ ∃ result, register number w = (result, (record .cancel w).2)) := by
  unfold register
  rw [bind_apply, get_apply]
  cases hc : w.token.cancelled with
  | false =>
    refine .inl ⟨rfl, ?_⟩
    simp only [Token.enter, hc, Bool.false_eq_true, if_false]
    rfl
  | true =>
    refine .inr ⟨rfl, ?_⟩
    simp only [Token.enter, hc, if_true]
    cases cancelFails w.remote number with
    | false => exact ⟨.ok (), rfl⟩
    | true => exact ⟨_, rfl⟩

/-- **A registration ends**, and leaves the callbacks as they were. -/
theorem withRegistration_quiet {op : Operation} {number : Nat} {body : Step (Tried α)}
    (hbody : ∀ w, Quiet w (body w).2) (hnew : number ∉ w.token.callbacks) :
    Quiet w (withRegistration op number body w).2 := by
  unfold withRegistration
  cases op.guarded with
  | false => exact hbody w
  | true =>
    rw [if_pos rfl, bind_apply]
    rcases register_apply number w with ⟨-, hregister⟩ | ⟨-, result, hregister⟩
    · -- the body runs with one callback more, which is taken back
      rw [hregister]
      let w₁ : World Server := { w with token := ⟨false, w.token.callbacks ++ [number]⟩ }
      have hquiet : Quiet w₁ (body w₁).2 := hbody w₁
      refine ⟨?_, hquiet.script, hquiet.granted, hquiet.events⟩
      show (body w₁).2.token.callbacks.erase number = w.token.callbacks
      rw [hquiet.callbacks, List.erase_append_right _ hnew, List.erase_cons_head, List.append_nil]
    · -- nothing was registered
      have hstopped := Quiet.recorded .cancel rfl rfl w
      rw [hregister]
      cases result with
      | error t => exact hstopped
      | ok _ =>
        have hquiet := hstopped.trans (hbody (record .cancel w).2)
        refine ⟨?_, hquiet.script, hquiet.granted, hquiet.events⟩
        show (body (record .cancel w).2).2.token.callbacks.erase number = w.token.callbacks
        rw [hquiet.callbacks, List.erase_of_not_mem hnew]

/-! ## Connections -/

/-- The world when a connection has been asked for. -/
def asked (settings : String) (w : World Server) : World Server :=
  { w with remote :=
    { script := w.remote.script.tail
      granted := w.remote.granted ++ w.remote.script.head?.toList
      events := w.remote.events ++ [.connect settings] } }

theorem connect_eq (settings : String) (w : World Server) :
    connect settings w =
      (tried ((opening w.remote.script.head?).map fun c => .ok (w.remote.granted.length, c)),
        asked settings w) := by
  unfold connect
  simp only [bind_apply, get_apply]
  obtain ⟨token, log, script, granted, events⟩ := w
  cases script with
  | nil =>
    simp only [asked, List.head?_nil, Option.toList_none, List.append_nil]
    rfl
  | cons c rest =>
    show (stopAt c.connectFault >>= _ : Step (Tried (Nat × Connection))) _ = _
    rw [bind_apply, stopAt_apply]
    simp only [List.head?_cons, opening]
    rcases c.connectFault with _ | (e | text) <;> rfl

/-- What becomes of the connections and callbacks of a world in a call, given how it closes a
connection. -/
inductive Clean (w : World Server) (call : (World Server → World Server) → Step α) : Prop
  /-- The call ends before it asks for a connection. -/
  | unasked (h : ∀ close, (call close w).2 = w)
  /-- The connection does not open. -/
  | unopened (settings : String) {fault : Fault}
    (hopening : opening w.remote.script.head? = .error fault)
    (h : ∀ close, ∃ lines, (call close w).2 = (asked settings w).logged lines)
  /-- The connection opens, and is closed in a world with the callbacks of the first one. -/
  | opened (settings : String) {c : Connection} {w₁ : World Server}
    (hopening : opening w.remote.script.head? = .ok c) (hquiet : Quiet (asked settings w) w₁)
    (h : ∀ close, ∃ lines, (call close w).2 = (close w₁).logged lines)

theorem withConnectionClosing_error {fault : Fault}
    (hopening : opening w.remote.script.head? = .error fault)
    (close : World Server → World Server) (settings : String)
    (body : Nat → Connection → Step (Tried α)) :
    withConnectionClosing close settings body w = (tried (.error fault), asked settings w) := by
  unfold withConnectionClosing
  rw [bind_apply, connect_eq, hopening]
  rcases fault with e | text <;> rfl

theorem withConnectionClosing_ok {c : Connection}
    (hopening : opening w.remote.script.head? = .ok c)
    (close : World Server → World Server) (settings : String)
    (body : Nat → Connection → Step (Tried α)) :
    withConnectionClosing close settings body w =
      thenAlways (record .readOnly >>= fun _ => body w.remote.granted.length c) close
        (asked settings w) := by
  unfold withConnectionClosing
  rw [bind_apply, connect_eq, hopening]
  rfl

/-- Behind its connection a call adds lines to the log, and does nothing else. -/
theorem answered_apply (d : Database) (op : Operation) (r : Tried α) (w : World Server) :
    ∃ lines, answered d op r w =
      ((match r with
        | .ok a => .ok a
        | .error e => .error (.failure (refusal d op (op.guarded && w.token.cancelled) e))),
        w.logged lines) := by
  cases r with
  | ok a => exact ⟨[], by rw [World.logged_nil]; rfl⟩
  | error e => exact refuse_apply d op e w

/-- A session ends in the world in which its connection is closed, but for the log. -/
theorem sessionClosing_world (close : World Server → World Server) (d : Database) (op : Operation)
    (body : Connection → Step (Tried α)) (w : World Server) :
    ∃ lines, (sessionClosing close d op body w).2 =
      (withConnectionClosing close d.connectionString (fun number c =>
        withRegistration op number (body c)) w).2.logged lines := by
  unfold sessionClosing
  rw [bind_apply]
  rcases withConnectionClosing close d.connectionString (fun number c =>
    withRegistration op number (body c)) w with ⟨t | r, w₁⟩
  · exact ⟨[], (World.logged_nil w₁).symm⟩
  · obtain ⟨lines, hanswered⟩ := answered_apply d op r w₁
    exact ⟨lines, congrArg Prod.snd hanswered⟩

/-- **A session cleans up**, in whatever state it finds its token. -/
theorem sessionClosing_clean (d : Database) (op : Operation) {body : Connection → Step (Tried α)}
    (hbody : ∀ c w, Quiet w (body c w).2) (h : Registered w) :
    Clean w fun close => sessionClosing close d op body := by
  cases hopening : opening w.remote.script.head? with
  | error fault =>
    refine .unopened d.connectionString hopening fun close => ?_
    obtain ⟨lines, hworld⟩ := sessionClosing_world close d op body w
    rw [withConnectionClosing_error hopening] at hworld
    exact ⟨lines, hworld⟩
  | ok c =>
    let start := asked d.connectionString w
    let held : Step (Tried α) := record .readOnly >>= fun _ =>
      withRegistration op w.remote.granted.length (body c)
    have hquiet : Quiet start (held start).2 := by
      have hmarked := Quiet.recorded .readOnly rfl rfl start
      have hnew : w.remote.granted.length ∉ (record .readOnly start).2.token.callbacks := by
        intro hmem
        exact Nat.lt_irrefl _ (h _ hmem)
      exact hmarked.trans (withRegistration_quiet (hbody c) hnew)
    refine .opened d.connectionString hopening hquiet fun close => ?_
    obtain ⟨lines, hworld⟩ := sessionClosing_world close d op body w
    rw [withConnectionClosing_ok hopening] at hworld
    exact ⟨lines, hworld⟩

/-! ## Errors of the database -/

/-- What stops a statement on an open connection, if anything does; `fetches` says that its result
has to be fetched. -/
def Connection.faultAhead (fetches : Bool) (c : Connection) : Option Fault :=
  c.executeFault.or (if fetches then c.noResult.map .database else none)

/-- What will stop the next statement, if anything will. -/
def faultAhead (fetches : Bool) (w : World Server) : Option Fault :=
  match opening w.remote.script.head? with
  | .error fault => some fault
  | .ok c => c.faultAhead fetches

/-- An answer that has to be fetched, if `fetches` says so. -/
def Fetched (fetches : Bool) (answer : Connection → Tried (Except Mishap α)) : Prop :=
  fetches = true → ∀ c e, c.noResult = some e → answer c = .error e

theorem Fetched.of_fetched (answer : Connection → Except Mishap α) :
    Fetched true fun c => fetched c (answer c) := by
  intro _ c e hnone
  simp only [fetched, hnone]

/-- What stops a statement is what it gives. -/
theorem answering_of_faultAhead {fetches : Bool} {answer : Connection → Tried (Except Mishap α)}
    (h : Fetched fetches answer) {c : Connection} {fault : Fault}
    (hfault : c.faultAhead fetches = some fault) : answering c (answer c) = .error fault := by
  unfold Connection.faultAhead at hfault
  unfold answering barring
  cases hexecute : c.executeFault with
  | some stopped =>
    rw [hexecute] at hfault
    cases hfault
    rfl
  | none =>
    rw [hexecute, Option.none_or] at hfault
    cases fetches with
    | false => cases hfault
    | true =>
      obtain ⟨e, hnone, rfl⟩ := Option.map_eq_some_iff.1 hfault
      rw [h rfl c e hnone]
      rfl

/-- The failure in which a call ends that meets an error of the database: the call is cancelled if
the server cancelled its statement and the token is cancelled too, and the backend failed if not. -/
def Tells (guarded : Bool) (token : Token Nat) (e : DatabaseError) (f : Failure) : Prop :=
  if e.state = some cancelledState ∧ (guarded && token.cancelled) = true then f.kind = .cancelled
  else f.kind.isBackend = true

theorem tells_refusal (d : Database) (op : Operation) (token : Token Nat) (e : DatabaseError) :
    Tells op.guarded token e (refusal d op (op.guarded && token.cancelled) e) := by
  unfold Tells
  by_cases hstate : e.state = some cancelledState
  · rw [refusal_interrupted d op _ hstate]
    cases op.guarded && token.cancelled <;> simp [hstate, FailureKind.isBackend]
  · rw [if_neg fun h => hstate h.1]
    unfold refusal
    rw [if_neg hstate]
    cases faultOf d op e <;> rfl

/-- **An error of the database becomes a failure.** -/
theorem sessionClosing_tells (d : Database) {op : Operation}
    (hfree : (op.guarded && w.token.cancelled) = false) (sql : String)
    (params : Option (List Value)) {fetches : Bool}
    {answer : Connection → Tried (Except Mishap α)} (hfetched : Fetched fetches answer)
    {e : DatabaseError} (hfault : faultAhead fetches w = some (.database e)) :
    let ended := sessionClosing closed d op (fun c => ask c sql params (answer c)) w
    ∃ f, ended.1 = .error (.failure f) ∧ Tells op.guarded ended.2.token e f := by
  intro ended
  -- whether the connection did not open, or the statement or its fetch failed, the error is handed on
  obtain ⟨w₁, hvisit⟩ : ∃ w₁, withConnectionClosing closed d.connectionString (fun number c =>
      withRegistration op number (ask c sql params (answer c))) w = (.ok (.error e), w₁) := by
    unfold faultAhead at hfault
    cases hopening : opening w.remote.script.head? with
    | error fault =>
      rw [hopening] at hfault
      cases hfault
      exact ⟨_, withConnectionClosing_error hopening ..⟩
    | ok c =>
      rw [hopening] at hfault
      obtain ⟨-, w₁, hheld, -⟩ := held_apply (w := asked d.connectionString w) hfree
        w.remote.granted.length c sql params (answer c)
      refine ⟨w₁, (withConnectionClosing_ok hopening ..).trans (hheld.trans ?_)⟩
      rw [answering_of_faultAhead hfetched hfault]
      rfl
  obtain ⟨lines, hanswered⟩ := answered_apply d op (.error e : Tried α) w₁
  have hended : ended = answered d op (.error e) w₁ := by
    show sessionClosing closed d op (fun c => ask c sql params (answer c)) w = _
    unfold sessionClosing
    rw [bind_apply, hvisit]
  rw [hended, hanswered]
  exact ⟨_, rfl, tells_refusal d op w₁.token e⟩

/-! ## Capabilities -/

/-- Does the connection open? -/
def Connection.opens (c : Connection) : Bool :=
  c.connectFault.isNone

/-- A call cleans up behind itself.  It uses one connection at most, closes it once if it opened,
and leaves the callbacks as they were; the callback of the call itself is gone when the connection
is closed.  An error of the database that it meets becomes a failure; `fetches` says that the call
fetches the result of its statement even if there is none. -/
structure Tidy (guarded fetches : Bool) (w : World Server)
    (call : (World Server → World Server) → Step α) : Prop where
  clean : Clean w call
  callbacks : (call closed w).2.token.callbacks = w.token.callbacks
  registered : Registered (call closed w).2
  connections : ∃ used events, used.length ≤ 1 ∧
    w.remote.script = used ++ (call closed w).2.remote.script ∧
    (call closed w).2.remote.granted = w.remote.granted ++ used ∧
    (call closed w).2.remote.events = w.remote.events ++ events ∧
    events.countP Event.asks ≤ 1 ∧ events.countP Event.closes = used.countP Connection.opens
  errors : (call closed w).2.remote.events ≠ w.remote.events →
    ∀ e, faultAhead fetches w = some (.database e) → ∃ f, (call closed w).1 = .error (.failure f) ∧
      Tells guarded (call closed w).2.token e f

section Calls

variable {guarded fetches : Bool} {call : (World Server → World Server) → Step α}

theorem Clean.callbacks (h : Clean w call) :
    (call closed w).2.token.callbacks = w.token.callbacks := by
  cases h with
  | unasked h => rw [h closed]
  | unopened settings hopening h =>
    obtain ⟨lines, hworld⟩ := h closed
    rw [hworld]
    rfl
  | opened settings hopening hquiet h =>
    obtain ⟨lines, hworld⟩ := h closed
    rw [hworld]
    exact hquiet.callbacks

theorem opens_of_opening {next : Option Connection} :
    next.toList.countP Connection.opens = if (opening next).isOk then 1 else 0 := by
  cases next with
  | none => rfl
  | some c =>
    cases hfault : c.connectFault <;>
      simp [opening, barring, hfault, Connection.opens, Except.isOk, Except.toBool]

theorem Clean.connections (h : Clean w call) : ∃ used events, used.length ≤ 1 ∧
    w.remote.script = used ++ (call closed w).2.remote.script ∧
    (call closed w).2.remote.granted = w.remote.granted ++ used ∧
    (call closed w).2.remote.events = w.remote.events ++ events ∧
    events.countP Event.asks ≤ 1 ∧ events.countP Event.closes = used.countP Connection.opens := by
  have hscript : w.remote.script = w.remote.script.head?.toList ++ w.remote.script.tail := by
    cases w.remote.script <;> rfl
  have hone : w.remote.script.head?.toList.length ≤ 1 := by
    cases w.remote.script.head? <;> simp
  cases h with
  | unasked h =>
    rw [h closed]
    exact ⟨[], [], by simp, rfl, by simp, by simp, by simp, rfl⟩
  | unopened settings hopening h =>
    obtain ⟨lines, hworld⟩ := h closed
    rw [hworld]
    refine ⟨w.remote.script.head?.toList, [.connect settings], hone, hscript, rfl, rfl,
      Nat.le_refl 1, ?_⟩
    rw [opens_of_opening, hopening]
    rfl
  | @opened settings c w₁ hopening hquiet h =>
    obtain ⟨lines, hworld⟩ := h closed
    obtain ⟨events, hevents, hothers⟩ := hquiet.events
    rw [hworld]
    refine ⟨w.remote.script.head?.toList, .connect settings :: events ++ [.close], hone, ?_,
      hquiet.granted, ?_, ?_, ?_⟩
    · exact hscript.trans (congrArg _ hquiet.script.symm)
    · show w₁.remote.events ++ [.close] = _
      rw [hevents]
      simp [asked]
    · have hnone : events.countP Event.asks = 0 :=
        List.countP_eq_zero.2 fun event hevent => by simp [(hothers event hevent).1]
      simp [List.countP_cons, hnone, Event.asks]
    · have hnone : events.countP Event.closes = 0 :=
        List.countP_eq_zero.2 fun event hevent => by simp [(hothers event hevent).2]
      rw [opens_of_opening, hopening]
      simp [List.countP_cons, hnone, Event.closes, Except.isOk, Except.toBool]

theorem Clean.tidy (h : Clean w call) (hregistered : Registered w)
    (herrors : (call closed w).2.remote.events ≠ w.remote.events →
      ∀ e, faultAhead fetches w = some (.database e) →
        ∃ f, (call closed w).1 = .error (.failure f) ∧
          Tells guarded (call closed w).2.token e f) : Tidy guarded fetches w call where
  clean := h
  callbacks := h.callbacks
  registered := by
    obtain ⟨used, events, -, -, hgranted, -⟩ := h.connections
    intro number hnumber
    rw [h.callbacks] at hnumber
    rw [hgranted, List.length_append]
    exact Nat.lt_add_right _ (hregistered number hnumber)
  connections := h.connections
  errors := herrors

/-- A call that visits the database is tidy. -/
theorem visitingClosing_tidy (d : Database) (op : Operation) (sql : String)
    (params : Option (List Value)) {answer : Connection → Tried (Except Mishap α)}
    (hfetched : Fetched fetches answer) (h : Registered w) :
    Tidy op.guarded fetches w fun close => visitingClosing close d op sql params answer := by
  cases hc : op.guarded && w.token.cancelled with
  | true =>
    have hstopped (close : World Server → World Server) :
        visitingClosing close d op sql params answer w =
          (.error (.failure (.cancelledBefore op.name)), w) := by
      unfold visitingClosing
      rw [bind_apply, check_stop hc]
    refine Clean.tidy (.unasked fun close => ?_) h fun hasked => ?_
    · rw [hstopped]
    · rw [hstopped] at hasked
      exact absurd rfl hasked
  | false =>
    have hpassed (close : World Server → World Server) :
        visitingClosing close d op sql params answer w =
          sessionClosing close d op (fun c => ask c sql params (answer c)) w := by
      unfold visitingClosing
      rw [bind_apply, check_pass hc]
    have hclean := sessionClosing_clean d op (fun c => Quiet.ask c sql params (answer c)) h
    refine Clean.tidy ?_ h fun _ e hfault => ?_
    · cases hclean with
      | unasked h => exact .unasked fun close => by rw [hpassed, h]
      | unopened settings hopening h =>
        exact .unopened settings hopening fun close => by rw [hpassed]; exact h close
      | opened settings hopening hquiet h =>
        exact .opened settings hopening hquiet fun close => by rw [hpassed]; exact h close
    · rw [hpassed]
      exact sessionClosing_tells d hc sql params hfetched hfault

end Calls

/-- **Every call cleans up.**  In a world where the callbacks of the token are those of connections
that were granted before, each capability opens one connection at most and closes it, once, when its
own callback is gone, and leaves the callbacks as they were; every error of the database that it
meets becomes a failure, also one that it meets when it fetches the result.  Only a text that runs
as it is may have none. -/
theorem calls_tidy (d : Database) (guarded : Bool) {w : World Server} (h : Registered w) :
    d.adapterClosing closed = d.adapter ∧
    (∀ text, Tidy guarded d.rpcFunction.isSome w fun close =>
      (d.adapterClosing close).rawExecute guarded text) ∧
    (∀ q, Tidy guarded true w fun close => (d.adapterClosing close).structuredQuery guarded q) ∧
    (∀ table, Tidy guarded true w fun close => (d.adapterClosing close).count guarded table) ∧
    ∀ table column, Tidy guarded true w fun close =>
      (d.adapterClosing close).columnValues guarded table column := by
  refine ⟨adapterClosing_closed d, fun text => ?_, fun q => ?_, fun table => ?_,
    fun table column => ?_⟩
  · unfold Database.adapterClosing
    cases d.rpcFunction with
    | some name =>
      exact visitingClosing_tidy d ⟨"raw_execute", guarded, true⟩ _ _ (.of_fetched _) h
    | none => exact visitingClosing_tidy d ⟨"raw_execute", guarded, true⟩ _ _ nofun h
  · exact visitingClosing_tidy d ⟨"structured_query", guarded, false⟩ _ _ (.of_fetched _) h
  · exact visitingClosing_tidy d ⟨"count", guarded, false⟩ _ _ (.of_fetched _) h
  · cases column with
    | some column =>
      exact visitingClosing_tidy d ⟨"column_values", guarded, false⟩ _ _ (.of_fetched _) h
    | none =>
      have hunasked (close : World Server → World Server) :
          ((d.adapterClosing close).columnValues guarded table none w).2 = w := by
        show ((Run.check guarded "column_values" >>= fun _ =>
          throw (.mishap (.notIdentifier .null)) : Step (List Value)) w).2 = w
        rw [bind_apply]
        cases hc : guarded && w.token.cancelled with
        | true => rw [check_stop hc]
        | false => rw [check_pass hc]; rfl
      refine Clean.tidy (.unasked hunasked) h fun hasked => ?_
      exact absurd (congrArg (·.remote.events) (hunasked closed)) hasked

/-! ## A statement that is cancelled -/

/-- A server that grants one connection, whose statement is cancelled together with the token. -/
def cancellingWorld : World Server :=
  ⟨.fresh, [], [⟨none, some (.database ⟨some cancelledState, "canceling statement"⟩), [], none,
    none, true, false⟩], [], []⟩

/-- A database without an execution function. -/
def localDatabase : Database :=
  ⟨"localhost", Database.usualPort, "postgres", "postgres", "postgres", Database.usualTimeout, none⟩

/-- A guarded count on the server. -/
def cancelledCount : Except Trouble Int × World Server :=
  localDatabase.adapter.count true "t" cancellingWorld

/-- The count ends as cancelled, with its connection closed and no callback left. -/
theorem calls_tidy_cancelled :
    (∃ f, cancelledCount.1 = .error (.failure f) ∧ f.kind = .cancelled) ∧
      cancelledCount.2.token.callbacks = [] ∧
      cancelledCount.2.remote.events.drop 1 =
        [.readOnly, .execute (Statement.countRows "t") none, .cancel, .close] := by
  obtain ⟨hclosed, -, -, hcount, -⟩ := @calls_tidy localDatabase true cancellingWorld nofun
  have htidy := hcount "t"
  have hended : (localDatabase.adapterClosing closed).count true "t" cancellingWorld =
      cancelledCount := by
    rw [hclosed]
    rfl
  have hevents : cancelledCount.2.remote.events.drop 1 =
      [.readOnly, .execute (Statement.countRows "t") none, .cancel, .close] := rfl
  have herrors := htidy.errors
  have hcallbacks := htidy.callbacks
  rw [hended] at herrors hcallbacks
  refine ⟨?_, hcallbacks, hevents⟩
  have hasked : cancelledCount.2.remote.events ≠ cancellingWorld.remote.events := by
    intro hsame
    rw [hsame] at hevents
    cases hevents
  obtain ⟨f, hf, htells⟩ := herrors hasked ⟨some cancelledState, "canceling statement"⟩ rfl
  rw [Tells, if_pos ⟨rfl, rfl⟩] at htells
  exact ⟨f, hf, htells⟩

end ReadGate.Postgres
