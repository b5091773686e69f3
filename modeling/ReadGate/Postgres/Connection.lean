import ReadGate.Backend.Classification
import ReadGate.Decoding
import ReadGate.Postgres.Database
import ReadGate.Postgres.Statement

/-!
# Connections

Every call of the database opens one connection, makes it read-only, and closes it whatever happens.
While a guarded call runs, its connection is registered with the token, so that cancelling the token
cancels the statement on the server.

* `Server` is the remote side: the connections that it will grant, those that it granted, and what
  reached it.
* `session` runs a call on a connection and turns errors of the database into failures.
-/

namespace ReadGate.Postgres

/-! ## The remote side -/

/-- An error of the database, with the state that it reports. -/
structure DatabaseError where
  state : Option String
  message : String
  deriving DecidableEq, Repr

/-- What stops a step: an error of the database, or any other. -/
inductive Fault
  | database (e : DatabaseError)
  | foreign (error : Foreign)
  deriving Repr

/-- How a connection behaves: whether it opens, and what becomes of the statement it executes.  If
the statement has no result, nothing can be fetched, and `noResult` is the error that a fetch
meets. -/
structure Connection where
  connectFault : Option Fault
  executeFault : Option Fault
  rows : List Row
  row : Option Row
  noResult : Option DatabaseError
  cancels : Bool
  cancelFails : Bool

/-- What reached the database. -/
inductive Event
  | connect (settings : String)
  | readOnly
  | execute (sql : String) (params : Option (List Value))
  | cancel
  | close
  deriving Repr

/-- The remote side. -/
structure Server where
  script : List Connection
  granted : List Connection
  events : List Event

/-- A computation on the database. -/
abbrev Step := Run Server

/-- What a step gives unless it meets an error of the database. -/
abbrev Tried (α : Type) := Except DatabaseError α

/-- The error when the server grants no more connections. -/
def noConnection : DatabaseError :=
  ⟨none, "no scripted connection"⟩

/-- The text of the error when cancelling a statement fails. -/
def cancelFailure : String := "cancel failed"

/-! ## Steps -/

/-- Records what reached the database. -/
def record (event : Event) : Step Unit :=
  Run.change fun s => { s with events := s.events ++ [event] }

/-- Stops at a fault, if there is one. -/
def stopAt : Option Fault → Step (Tried Unit)
  | none => return .ok ()
  | some (.database e) => return .error e
  | some (.foreign error) => throw (.mishap (.foreign error))

/-- Opens a connection: its number and how it behaves. -/
def connect (settings : String) : Step (Tried (Nat × Connection)) := do
  record (.connect settings)
  let w ← get
  match w.remote.script with
  | [] => return .error noConnection
  | next :: rest =>
    Run.change fun s => { s with script := rest, granted := s.granted ++ [next] }
    match ← stopAt next.connectFault with
    | .ok () => return .ok (w.remote.granted.length, next)
    | .error e => return .error e

/-- Does cancelling the connection of this number fail? -/
def cancelFails (s : Server) (number : Nat) : Bool :=
  s.granted[number]?.any (·.cancelFails)

/-- Cancels the statement on a connection because the token was cancelled. -/
def abort (w : World Server) (number : Nat) : World Server :=
  let remote := { w.remote with events := w.remote.events ++ [.cancel] }
  if cancelFails remote number then
    { w with remote, log := w.log ++ [.callbackFailed cancelFailure] }
  else { w with remote }

/-- Cancels the token, and with it the statements that are registered. -/
def cancelToken (w : World Server) : World Server :=
  let (token, fired) := w.token.cancel
  fired.foldl abort { w with token }

/-- Executes a statement on a connection. -/
def execute (c : Connection) (sql : String) (params : Option (List Value)) : Step (Tried Unit) := do
  record (.execute sql params)
  if c.cancels then modify cancelToken
  stopAt c.executeFault

/-- What is fetched of the result of a statement, which has to have one. -/
def fetched {α : Type} (c : Connection) (answer : α) : Tried α :=
  match c.noResult with
  | none => .ok answer
  | some e => .error e

/-- Registers a connection with the token.  On a cancelled token the statement is cancelled at
once. -/
def register (number : Nat) : Step Unit := do
  let w ← get
  let (token, fired) := w.token.enter number
  set { w with token }
  if !fired.isEmpty then
    record .cancel
    if cancelFails w.remote number then throw (.mishap (.foreign (.runtime cancelFailure)))

/-- Ends the registration of a connection. -/
def unregister (number : Nat) (w : World Server) : World Server :=
  { w with token := w.token.leave number }

/-- Records that a connection is closed. -/
def closed (w : World Server) : World Server :=
  { w with remote := { w.remote with events := w.remote.events ++ [.close] } }

/-- Runs a step and then leaves its world in order, however the step ends. -/
def thenAlways {α : Type} (step : Step α) (settle : World Server → World Server) : Step α :=
  fun w =>
    let (result, w) := step w
    (result, settle w)

/-- Runs a step on a new connection. -/
def withConnection {α : Type} (settings : String) (body : Nat → Connection → Step (Tried α)) :
    Step (Tried α) := do
  match ← connect settings with
  | .error e => return .error e
  | .ok (number, c) =>
    thenAlways (do record .readOnly; body number c) closed

/-! ## Sessions -/

/-- The state that reports a cancelled statement. -/
def cancelledState : String := "57014"

/-- A call: its name, whether it carries the token, and whether its errors are classified. -/
structure Operation where
  name : String
  guarded : Bool
  classified : Bool
  deriving DecidableEq, Repr

/-- The details of a failure of the database. -/
def errorDetails (op : Operation) (e : DatabaseError) : Row :=
  [("backend", .text backendName), ("operation", .text op.name), ("sqlstate", .ofText? e.state)]

/-- What kind of failure an error of the database is. -/
def faultOf (d : Database) (op : Operation) (e : DatabaseError) : BackendFault :=
  if op.classified then .ofText (Text.trimmed e.message) e.state d.rpcFunction else .other

/-- Ends a call in the failure that an error of the database means. -/
def refuse {α : Type} (d : Database) (op : Operation) (e : DatabaseError) : Step α := do
  let message := Text.trimmed e.message
  if e.state = some cancelledState then
    let w ← get
    if op.guarded && w.token.cancelled then Run.fail (.cancelledDuring op.name)
    else Run.fail (BackendFault.other.failure (.text message) (.record (errorDetails op e)))
  else
    let fault := faultOf d op e
    Run.report .debug .postgres s!"Postgres {op.name} failed ({fault.name}): {message}"
    Run.fail (fault.failure (.text message) (.record (errorDetails op e)))

/-- Runs a step on a connection that is registered with the token if the call is guarded. -/
def withRegistration {α : Type} (op : Operation) (number : Nat) (body : Step (Tried α)) :
    Step (Tried α) :=
  if op.guarded then do
    register number
    thenAlways body (unregister number)
  else body

/-- Runs a call on a connection of its own. -/
def session {α : Type} (d : Database) (op : Operation) (body : Connection → Step (Tried α)) :
    Step α := do
  let result ← withConnection d.connectionString fun number c =>
    withRegistration op number (body c)
  match result with
  | .ok a => return a
  | .error e => refuse d op e

end ReadGate.Postgres
