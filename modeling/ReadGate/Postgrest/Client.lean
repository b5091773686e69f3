import ReadGate.Backend.Classification
import ReadGate.Environment
import ReadGate.Json.Reader
import ReadGate.Postgrest.Params

/-!
# Requests to an endpoint

Every request carries the key of the endpoint.  A request ends in a reply, or in the failure to get
one in time or at all, unless the session that sends it raises an error of its own; replies that
report an error are read for its message and its code.

* `Endpoint.ofEnvironment` reads the settings, `Endpoint.require` refuses incomplete ones.
* `Transport σ` is the remote side.
* `Client.send` sends a request; `Client.decode` reads the body of a reply.
-/

namespace ReadGate.Postgrest

/-! ## Settings -/

/-- The settings of an endpoint. -/
structure Endpoint where
  url : String
  apiKey : String
  rpcFunction : String
  schemaFunction : String
  timeout : Binary64
  pageSize : ShortInt
  deriving DecidableEq, Repr

/-- The name of the backend. -/
def backendName : String := "postgrest"

namespace Endpoint

/-- How many rows a page has, unless the settings say otherwise. -/
def usualPageSize : ShortInt := ⟨1000, by decide⟩

/-- Reads the settings from variables. -/
def ofEnvironment (env : Environment) : Except Mishap Endpoint := do
  let timeout ← env.floatOr "POSTGREST_TIMEOUT" (.ofInt 30)
  let pageSize ← env.intOr "POSTGREST_PAGE_SIZE" usualPageSize
  let url := String.ofList (Text.dropEnd (· == '/') (env.textOr "SUPABASE_URL" "").toList)
  return ⟨url, env.textOr "SUPABASE_ANON_KEY" "",
    env.textOr "POSTGREST_RPC_FUNCTION" "execute_sql",
    env.textOr "POSTGREST_SCHEMA_FUNCTION" "get_table_schema", timeout, pageSize⟩

/-- The failure of settings without an address or a key. -/
def incomplete : Failure :=
  .of .configuration "SUPABASE_URL and SUPABASE_ANON_KEY are required for the postgrest backend"
    [("backend", .text backendName)]

/-- Refuses settings without an address or a key. -/
def require (e : Endpoint) : Except Trouble Endpoint :=
  if e.url.isEmpty || e.apiKey.isEmpty then .error (.failure incomplete) else .ok e

/-- The settings in variables, if they are complete. -/
def ofCompleteEnvironment (env : Environment) : Except Trouble Endpoint := do
  (← (ofEnvironment env).mapError .mishap).require

end Endpoint

/-! ## Requests and replies -/

/-- The method of a request. -/
inductive Method
  | get
  | head
  | post
  deriving DecidableEq, Repr

/-- The name of a method. -/
def Method.name : Method → String
  | get => "GET"
  | head => "HEAD"
  | post => "POST"

/-- A request. -/
structure Request where
  method : Method
  url : String
  headers : List (String × String)
  params : Option Params
  body : Option Value
  timeout : Binary64
  deriving Repr

/-- A reply. -/
structure Reply where
  status : Int
  reason : String
  headers : List (String × String)
  body : String
  deriving DecidableEq, Repr

/-- Does the status report success? -/
def Reply.isOk (r : Reply) : Bool :=
  !(400 ≤ r.status && r.status < 600)

/-- The text of a header, whatever the case of its name; empty if there is none. -/
def Reply.header (r : Reply) (name : String) : String :=
  let found := r.headers.reverse.find? fun h => Text.lower h.1 == Text.lower name
  (found.map (·.2)).getD ""

/-- How an exchange ends.  A session may also raise what is no error of requests, as it does for a
parameter with half of a surrogate pair, which no URL can hold. -/
inductive Exchange
  | reply (r : Reply)
  | timedOut (reason : String)
  | broken (reason : String)
  | raised (error : Foreign)
  deriving Repr

/-- How the remote side answers; the caller may be cancelled in the meantime. -/
structure Response where
  cancels : Bool
  exchange : Exchange
  deriving Repr

/-- A remote side with a state of its own. -/
abbrev Transport (σ : Type) := Request → σ → Response × σ

/-- A remote side that answers from a script, and breaks down when the script is over. -/
def scripted : Transport (List Response)
  | _, [] => (⟨false, .broken "no scripted response"⟩, [])
  | _, next :: rest => (next, rest)

/-- The requests sent so far, and the remote side. -/
structure Wire (σ : Type) where
  sent : List Request
  server : σ

/-- An endpoint and the transport to it. -/
structure Client (σ : Type) where
  endpoint : Endpoint
  transport : Transport σ

namespace Client

variable {σ : Type}

/-- The headers of every request, with further ones. -/
def headers (c : Client σ) (more : List (String × String)) : List (String × String) :=
  Row.putAll [("apikey", c.endpoint.apiKey), ("Authorization", s!"Bearer {c.endpoint.apiKey}"),
    ("Content-Type", "application/json")] more

/-- A request for a path of the endpoint. -/
def request (c : Client σ) (method : Method) (path : String) (params : Option Params)
    (body : Option Value) (more : List (String × String)) : Request :=
  ⟨method, s!"{c.endpoint.url}/rest/v1/{path}", c.headers more, params, body, c.endpoint.timeout⟩

/-- The details of a failure to get a reply. -/
def lostDetails (operation : String) : Row :=
  [("backend", .text backendName), ("operation", .text operation)]

/-- Sends a request and gives the reply. -/
def send (c : Client σ) (operation : String) (r : Request) : Run (Wire σ) Reply := do
  let w ← get
  let (response, server) := c.transport r w.remote.server
  let token := if response.cancels then w.token.cancel.1 else w.token
  set { w with token, remote := (⟨w.remote.sent ++ [r], server⟩ : Wire σ) }
  match response.exchange with
  | .reply reply => return reply
  | .timedOut reason =>
    Run.fail (.of .backendExecution
      s!"PostgREST request exceeded timeout of {c.endpoint.timeout.text}s: {reason}"
      (lostDetails operation))
  | .broken reason =>
    Run.fail (.of .backendExecution s!"PostgREST request failed: {reason}" (lostDetails operation))
  | .raised error => throw (.mishap (.foreign error))

/-! ## Reading replies -/

/-- The details of a failure that a reply reports. -/
def details (operation : String) (r : Reply) (code : Value) : Row :=
  [("backend", .text backendName), ("operation", .text operation), ("status_code", .int r.status),
    ("code", code)]

/-- The value in the body of a reply. -/
def decode (operation : String) (r : Reply) : Run (Wire σ) Value :=
  match Json.read Json.lenient r.body with
  | .ok v => return v
  | .error (.tooDeep container) => throw (.mishap (.tooDeep container))
  | .error e =>
    Run.fail (.permanent
      s!"PostgREST returned a body that is not valid JSON: {e.message r.body}"
      (details operation r .null))

/-- The first text that is not empty. -/
def firstText (a b : String) : String :=
  if a.isEmpty then b else a

/-- The codes of the plain text of a value. -/
def textCodes : Value → List Nat
  | .halves codes => codes
  | v => v.plain.toList.map (·.toNat)

/-- A message with a hint behind it.  Halves of surrogate pairs that stand alone in either of them
do so in the whole. -/
def withHint (message hint : Value) : Value :=
  Json.stringValue
    (textCodes message ++ textCodes (.text " (") ++ textCodes hint ++ textCodes (.text ")"))

/-- The message and the code of an error reply: those of the record in its body, or else its status
with its text. -/
def errorOf (r : Reply) : Except Mishap (Value × Value) :=
  match Json.read Json.lenient r.body with
  | .error (.tooDeep container) => .error (.tooDeep container)
  | .ok (.record fields) =>
    let field (name : String) : Value := (Row.get? fields name).getD .null
    let message := if (field "message").isVoid then .text r.reason else field "message"
    let hint := field "details"
    .ok (if hint.isVoid then message else withHint message hint, field "code")
  | _ => .ok (.text s!"HTTP {r.status}: {firstText r.body r.reason}", .null)

/-- Fails on a reply that reports an error. -/
def requireOk (operation : String) (r : Reply) : Run (Wire σ) Unit :=
  if r.isOk then pure ()
  else do
    let (message, code) ← Run.lift (errorOf r)
    Run.fail { kind := .backendExecution, message, retryable := .bool (500 ≤ r.status),
               details := .record (details operation r code) }

end Client

end ReadGate.Postgrest
