import ReadGate.Postgres.Adapter
import ReadGate.Proofs.Backend.Trace

/-!
# Visits of the database

A session visits the database once.  Unless no connection opens, the visit makes its connection
read-only, executes one statement on it and closes it, whatever becomes of the statement; the only
other thing that reaches the database meanwhile is that statements are cancelled with the token.

* `Progress` — what a step adds to the events, takes from the script and does to the token.
* `Visit`, `Visited` — a visit with everything that it sends to the database, made by a call that
  did not find its token cancelled.
* `answering` — what a statement gives: its faults come first, then those of fetching its answer.
* `session_visit` — a session is one visit, and its reply follows from what stopped the visit.
-/

namespace ReadGate.Postgres

open Run

variable {α : Type} {w w₁ w₂ : World Server}

/-! ## Progress -/

/-- What happened between two worlds: the events that reached the database, the connections that
were taken from the script, and whether the token was cancelled on the way. -/
structure Progress (w : World Server) (events : List Event) (used : List Connection)
    (cancels : Bool) (w' : World Server) : Prop where
  events : w'.remote.events = w.remote.events ++ events
  script : w.remote.script = used ++ w'.remote.script
  cancelled : w'.token.cancelled = (w.token.cancelled || cancels)

namespace Progress

theorem refl (w : World Server) : Progress w [] [] false w :=
  ⟨by simp, rfl, by simp⟩

theorem trans {events more : List Event} {used used' : List Connection} {cancels cancels' : Bool}
    (h : Progress w events used cancels w₁) (h' : Progress w₁ more used' cancels' w₂) :
    Progress w (events ++ more) (used ++ used') (cancels || cancels') w₂ where
  events := by rw [h'.events, h.events, List.append_assoc]
  script := by rw [h.script, h'.script, List.append_assoc]
  cancelled := by rw [h'.cancelled, h.cancelled, Bool.or_assoc]

theorem logged {events : List Event} {used : List Connection} {cancels : Bool}
    (h : Progress w events used cancels w₁) (lines : List LogLine) :
    Progress w events used cancels (w₁.logged lines) :=
  ⟨h.events, h.script, h.cancelled⟩

end Progress

theorem record_apply (event : Event) (w : World Server) :
    ∃ w₁, record event w = (.ok (), w₁) ∧ w₁.token = w.token ∧ Progress w [event] [] false w₁ :=
  ⟨_, rfl, rfl, ⟨rfl, rfl, (Bool.or_false _).symm⟩⟩

theorem closed_progress (w : World Server) : Progress w [.close] [] false (closed w) :=
  ⟨rfl, rfl, (Bool.or_false _).symm⟩

theorem unregister_progress (number : Nat) (w : World Server) :
    Progress w [] [] false (unregister number w) :=
  ⟨(List.append_nil _).symm, rfl, (Bool.or_false _).symm⟩

theorem abort_progress (w : World Server) (number : Nat) :
    Progress w [.cancel] [] false (abort w number) := by
  unfold abort
  dsimp only
  split <;> exact ⟨rfl, rfl, (Bool.or_false _).symm⟩

/-- Every callback that fires cancels one statement. -/
theorem aborts_progress (fired : List Nat) (w : World Server) :
    Progress w (List.replicate fired.length .cancel) [] false (fired.foldl abort w) := by
  induction fired generalizing w with
  | nil => exact .refl w
  | cons number fired ih => exact (abort_progress w number).trans (ih (abort w number))

theorem cancelToken_progress (w : World Server) :
    ∃ count, Progress w (List.replicate count .cancel) [] true (cancelToken w) := by
  refine ⟨w.token.cancel.2.length, ?_⟩
  have hstart : Progress w [] [] true { w with token := w.token.cancel.1 } :=
    ⟨by simp, rfl, by simp [Token.cancelled_cancel]⟩
  exact hstart.trans (aborts_progress w.token.cancel.2 _)

/-! ## Statements -/

/-- A value, unless there is a fault. -/
def barring (fault : Option Fault) (a : α) : Except Fault α :=
  match fault with
  | none => .ok a
  | some fault => .error fault

/-- What a connection gives for its statement, if its answer can be fetched. -/
def answering {β : Type} (c : Connection) (answer : Tried β) : Except Fault β :=
  match barring c.executeFault () with
  | .ok () => answer.mapError .database
  | .error fault => .error fault

/-- What a step gives that meets a fault, or else reads an answer. -/
def tried : Except Fault (Except Mishap α) → Except Trouble (Tried α)
  | .ok answer => (answer.mapError .mishap).map .ok
  | .error (.database e) => .ok (.error e)
  | .error (.foreign error) => .error (.mishap (.foreign error))

theorem stopAt_apply (fault : Option Fault) (w : World Server) :
    stopAt fault w = (tried (barring fault (.ok ())), w) := by
  rcases fault with _ | (e | text) <;> rfl

/-- A statement that is executed may cancel the token, and ends as its connection says. -/
theorem execute_apply (c : Connection) (sql : String) (params : Option (List Value))
    (w : World Server) :
    ∃ count w₁, execute c sql params w = (tried (barring c.executeFault (.ok ())), w₁) ∧
      Progress w (.execute sql params :: List.replicate count .cancel) [] c.cancels w₁ := by
  obtain ⟨w₁, hrecord, -, hprogress⟩ := record_apply (.execute sql params) w
  unfold execute
  rw [bind_apply, hrecord]
  cases hc : c.cancels with
  | false =>
    refine ⟨0, w₁, ?_, hprogress⟩
    exact stopAt_apply c.executeFault w₁
  | true =>
    obtain ⟨count, hcancel⟩ := cancelToken_progress w₁
    refine ⟨count, cancelToken w₁, ?_, hprogress.trans hcancel⟩
    exact stopAt_apply c.executeFault (cancelToken w₁)

theorem ask_apply (c : Connection) (sql : String) (params : Option (List Value))
    (answer : Tried (Except Mishap α)) (w : World Server) :
    ∃ count w₁, ask c sql params answer w = (tried (answering c answer), w₁) ∧
      Progress w (.execute sql params :: List.replicate count .cancel) [] c.cancels w₁ := by
  obtain ⟨count, w₁, hexecute, hprogress⟩ := execute_apply c sql params w
  refine ⟨count, w₁, ?_, hprogress⟩
  unfold ask answering
  rw [bind_apply, hexecute]
  rcases c.executeFault with _ | (e | text)
  · rcases answer with e | (m | a) <;> rfl
  · rfl
  · rfl

/-! ## Connections -/

/-- The connection that the server grants, if it opens, or what keeps it from opening. -/
def opening : Option Connection → Except Fault Connection
  | none => .error (.database noConnection)
  | some c => barring c.connectFault c

/-- Asking for a connection takes the next one from the script, whether it opens or not. -/
theorem connect_apply (settings : String) (w : World Server) :
    ∃ number w₁, connect settings w =
        (tried ((opening w.remote.script.head?).map fun c => .ok (number, c)), w₁) ∧
      w₁.token = w.token ∧
      Progress w [.connect settings] w.remote.script.head?.toList false w₁ := by
  obtain ⟨w₁, hrecord, htoken, hbefore⟩ := record_apply (.connect settings) w
  have hscript : w₁.remote.script = w.remote.script := hbefore.script.symm
  unfold connect
  simp only [bind_apply, hrecord, get_apply]
  cases hnext : w.remote.script with
  | nil =>
    rw [hscript, hnext]
    exact ⟨0, w₁, rfl, htoken, hbefore⟩
  | cons c rest =>
    rw [hscript, hnext]
    let w₂ : World Server :=
      { w₁ with remote := { w₁.remote with script := rest, granted := w₁.remote.granted ++ [c] } }
    refine ⟨w₁.remote.granted.length, w₂, ?_, htoken, hbefore.events, ?_, hbefore.cancelled⟩
    · show (stopAt c.connectFault >>= _ : Step (Tried (Nat × Connection))) w₂ = _
      rw [bind_apply, stopAt_apply]
      simp only [List.head?_cons, opening]
      rcases c.connectFault with _ | (e | text) <;> rfl
    · exact hnext

theorem register_free (number : Nat) {w : World Server} (hfree : w.token.cancelled = false) :
    ∃ w₁, register number w = (.ok (), w₁) ∧ Progress w [] [] false w₁ := by
  refine ⟨{ w with token := (w.token.enter number).1 }, ?_, by simp, rfl, ?_⟩
  · unfold register
    rw [bind_apply, get_apply]
    simp only [Token.enter, hfree, Bool.false_eq_true, if_false]
    rfl
  · simp [Token.enter, hfree]

/-- A statement is executed alike whether its connection is registered or not, if the token was not
cancelled before. -/
theorem withRegistration_ask {op : Operation} {w : World Server}
    (hfree : (op.guarded && w.token.cancelled) = false) (number : Nat) (c : Connection)
    (sql : String) (params : Option (List Value)) (answer : Tried (Except Mishap α)) :
    ∃ count w₁, withRegistration op number (ask c sql params answer) w =
        (tried (answering c answer), w₁) ∧
      Progress w (.execute sql params :: List.replicate count .cancel) [] c.cancels w₁ := by
  unfold withRegistration
  cases hg : op.guarded with
  | false => exact ask_apply c sql params answer w
  | true =>
    rw [hg, Bool.true_and] at hfree
    obtain ⟨w₁, hregister, hbefore⟩ := register_free number hfree
    obtain ⟨count, w₂, hask, hprogress⟩ := ask_apply c sql params answer w₁
    refine ⟨count, unregister number w₂, ?_, ?_⟩
    · rw [if_pos rfl, bind_apply, hregister]
      simp only [thenAlways, hask]
    · simpa using (hbefore.trans hprogress).trans (unregister_progress number w₂)

/-- What a connection that opened is used for. -/
theorem held_apply {op : Operation} {w : World Server}
    (hfree : (op.guarded && w.token.cancelled) = false) (number : Nat) (c : Connection)
    (sql : String) (params : Option (List Value)) (answer : Tried (Except Mishap α)) :
    ∃ count w₁, thenAlways (record .readOnly >>= fun _ => withRegistration op number
        (ask c sql params answer)) closed w = (tried (answering c answer), w₁) ∧
      Progress w (.readOnly :: .execute sql params :: List.replicate count .cancel ++ [.close]) []
        c.cancels w₁ := by
  obtain ⟨w₁, hrecord, htoken, hbefore⟩ := record_apply .readOnly w
  obtain ⟨count, w₂, hask, hprogress⟩ :=
    withRegistration_ask (by rwa [htoken]) number c sql params answer (w := w₁)
  refine ⟨count, closed w₂, ?_, ?_⟩
  · simp only [thenAlways, bind_apply, hrecord, hask]
  · simpa using (hbefore.trans hprogress).trans (closed_progress w₂)

/-! ## Visits -/

/-- A visit of the database with a statement: the connection that the server granted, if any, and
how many statements were cancelled with the token. -/
structure Visit where
  settings : String
  sql : String
  params : Option (List Value)
  connection : Option Connection
  cancels : Nat

namespace Visit

/-- The connection on which the statement was executed without a fault, or the fault. -/
def course (v : Visit) : Except Fault Connection :=
  match opening v.connection with
  | .ok c => barring c.executeFault c
  | .error fault => .error fault

/-- The answer to the statement, or the fault in its way. -/
def outcome (v : Visit) (answer : Connection → Tried (Except Mishap α)) :
    Except Fault (Except Mishap α) :=
  match v.course with
  | .ok c => (answer c).mapError .database
  | .error fault => .error fault

/-- What reaches the database. -/
def events (v : Visit) : List Event :=
  match opening v.connection with
  | .ok _ => .connect v.settings :: .readOnly :: .execute v.sql v.params ::
      List.replicate v.cancels .cancel ++ [.close]
  | .error _ => [.connect v.settings]

/-- Is the token cancelled while the statement is executed? -/
def cancelling (v : Visit) : Bool :=
  match opening v.connection with
  | .ok c => c.cancels
  | .error _ => false

end Visit

/-- A visit with an allowed statement leads from one world to another.  Its call did not find its
token cancelled before it. -/
structure Visited (guarded : Bool) (allowed : String → Prop) (w : World Server) (v : Visit)
    (w' : World Server) : Prop where
  free : (guarded && w.token.cancelled) = false
  statement : allowed v.sql
  progress : Progress w v.events v.connection.toList v.cancelling w'

/-! ## Sessions -/

/-- The failure that an error of the database means; `stopped` says that the call found its token
cancelled behind it. -/
def refusal (d : Database) (op : Operation) (stopped : Bool) (e : DatabaseError) : Failure :=
  if e.state = some cancelledState then
    if stopped then .cancelledDuring op.name
    else BackendFault.other.failure (.text (Text.trimmed e.message)) (.record (errorDetails op e))
  else (faultOf d op e).failure (.text (Text.trimmed e.message)) (.record (errorDetails op e))

theorem refuse_apply (d : Database) (op : Operation) (e : DatabaseError) (w : World Server) :
    ∃ lines, (refuse d op e : Step α) w =
      (.error (.failure (refusal d op (op.guarded && w.token.cancelled) e)), w.logged lines) := by
  unfold refuse refusal
  by_cases hstate : e.state = some cancelledState
  · refine ⟨[], ?_⟩
    rw [if_pos hstate, if_pos hstate, bind_apply, get_apply, World.logged_nil]
    cases hc : op.guarded && w.token.cancelled <;> simp [hc, fail_apply]
  · rw [if_neg hstate, if_neg hstate, bind_apply, report_apply]
    exact ⟨_, rfl⟩

/-- The reply of a call, from the outcome of its visit. -/
def Visit.reply (v : Visit) (d : Database) (op : Operation) (stopped : Bool)
    (answer : Connection → Tried (Except Mishap α)) : Except Trouble α :=
  match v.outcome answer with
  | .ok answer => answer.mapError .mishap
  | .error (.database e) => .error (.failure (refusal d op stopped e))
  | .error (.foreign error) => .error (.mishap (.foreign error))

/-- A connection is asked for; one that opens is made read-only, used and closed. -/
theorem withConnection_visit (d : Database) {op : Operation} {w : World Server}
    (hfree : (op.guarded && w.token.cancelled) = false) (sql : String)
    (params : Option (List Value)) (answer : Connection → Tried (Except Mishap α)) :
    ∃ v w₁, withConnection d.connectionString (fun number c => withRegistration op number
        (ask c sql params (answer c))) w = (tried (v.outcome answer), w₁) ∧
      Visited op.guarded (· = sql) w v w₁ := by
  obtain ⟨number, w₁, hconnect, htoken, hbefore⟩ := connect_apply d.connectionString w
  unfold withConnection
  rw [bind_apply, hconnect]
  cases hopening : opening w.remote.script.head? with
  | error fault =>
    let v : Visit := ⟨d.connectionString, sql, params, w.remote.script.head?, 0⟩
    have houtcome : v.outcome answer = .error fault := by
      simp only [v, Visit.outcome, Visit.course, hopening]
    refine ⟨v, w₁, ?_, hfree, rfl, ?_⟩
    · rw [houtcome]
      rcases fault with e | text <;> rfl
    · simpa only [Visit.events, Visit.cancelling, v, hopening] using hbefore
  | ok c =>
    obtain ⟨count, w₂, hheld, hafter⟩ := held_apply (w := w₁) (by rwa [htoken])
      number c sql params (answer c)
    let v : Visit := ⟨d.connectionString, sql, params, w.remote.script.head?, count⟩
    have houtcome : v.outcome answer = answering c (answer c) := by
      simp only [v, Visit.outcome, Visit.course, hopening, answering]
      cases c.executeFault <;> rfl
    refine ⟨v, w₂, ?_, hfree, rfl, ?_⟩
    · rw [houtcome]
      exact hheld
    · have hvisit := hbefore.trans hafter
      rw [List.append_nil, Bool.false_or] at hvisit
      simp only [Visit.events, Visit.cancelling, v, hopening]
      exact hvisit

/-- **A session is one visit**, and its reply is what the visit says. -/
theorem session_visit (d : Database) {op : Operation} {w : World Server}
    (hfree : (op.guarded && w.token.cancelled) = false) (sql : String)
    (params : Option (List Value)) (answer : Connection → Tried (Except Mishap α)) :
    ∃ v w₁ lines, Visited op.guarded (· = sql) w v w₁ ∧
      session d op (fun c => ask c sql params (answer c)) w =
        (v.reply d op (op.guarded && w₁.token.cancelled) answer, w₁.logged lines) := by
  obtain ⟨v, w₁, hvisit, hvisited⟩ := withConnection_visit d hfree sql params answer
  refine ⟨v, w₁, ?_⟩
  unfold session Visit.reply
  rw [bind_apply, hvisit]
  rcases v.outcome answer with (e | text) | a
  · obtain ⟨lines, hrefuse⟩ := refuse_apply d op e w₁
    exact ⟨lines, hvisited, hrefuse⟩
  · exact ⟨[], hvisited, by rw [World.logged_nil]; rfl⟩
  · refine ⟨[], hvisited, ?_⟩
    rw [World.logged_nil]
    cases a <;> rfl

end ReadGate.Postgres
