import ReadGate.Backend.Memory
import ReadGate.Json.Reader
import ReadGate.Postgres.Database
import ReadGate.Postgrest.Client

/-!
# Settings of the service

The settings are read from environment variables: which backend to use, where to keep the audit
journal, and which fields are hidden from which role.

* `Settings.ofEnvironment` reads the settings.
* `Settings.redactFields` names the fields that a role must not see.
* `Settings.plan` says what engine the settings ask for.
-/

namespace ReadGate

/-- The settings.  What is hidden from the roles is kept as it was written, so that its use may
fail. -/
structure Settings where
  serviceName : String
  environment : String
  logLevel : String
  backend : String
  auditLogPath : String
  auditQueryMaxChars : Int
  redactFieldsForRoles : Value
  defaultRole : String

namespace Settings

/-- The fields hidden from roles unless the settings say otherwise. -/
def usualRedaction : Value :=
  .record [("guest", .texts ["email", "phone"])]

/-- The failure for a variable that should hold JSON and does not. -/
def notJson (name : String) (e : Json.ReadError) (text : String) : Failure :=
  .of .configuration s!"{name} is not valid JSON: {e.message text}" [("variable", .text name)]

/-- The value in a variable, or a default if the variable is not set or empty. -/
def jsonOr (env : Environment) (name : String) (default : Value) : Except Trouble Value :=
  let text := env.textOr name ""
  if text.isEmpty then .ok default
  else
    match Json.read Json.lenient text with
    | .ok v => .ok v
    | .error (.malformed fault left) =>
      .error (.failure (notJson name (.malformed fault left) text))
    | .error e => .error (.mishap (.ofReadError text e))

/-- Reads the settings. -/
def ofEnvironment (env : Environment) : Except Trouble Settings := do
  let maxChars ← (env.intOr "AUDIT_QUERY_MAX_CHARS" ⟨200, by decide⟩).mapError .mishap
  let redaction ← jsonOr env "REDACT_FIELDS_FOR_ROLES" usualRedaction
  return ⟨"data-query-engine", env.textOr "ENVIRONMENT" "dev", env.textOr "LOG_LEVEL" "INFO",
    env.textOr "QUERY_BACKEND" "postgres", env.textOr "AUDIT_LOG_PATH" "logs/audit.log",
    maxChars.value, redaction, "guest"⟩

/-- The role that counts for a caller. -/
def roleOf (s : Settings) (role : Option WideText) : WideText :=
  match role with
  | some role => if role.isEmpty then s.defaultRole else role
  | none => s.defaultRole

/-- What is hidden from a role among the roles.  A role with halves of surrogate pairs that stand
alone is among them by their escapes, with its codes beside what is hidden. -/
def hiddenAmong (roles : Row) : WideText → Option Value
  | .whole role => Row.get? roles role
  | .broken codes _ =>
    match Row.get? roles (Json.fieldName codes) with
    | some (.list [.halves own, hidden]) => if own = codes then some hidden else none
    | _ => none

/-- The fields hidden from a role: none unless the settings name some. -/
def redactFields (s : Settings) (role : Option WideText) : Except Mishap Value :=
  match s.redactFieldsForRoles with
  | .record roles => .ok ((hiddenAmong roles (s.roleOf role)).getD (.list []))
  | v => .error (.noMember v.fullKind "get")

/-! ## Paths -/

/-- The parts of a path: empty ones and those that stay in place do not count. -/
def pathParts (path : String) : List (List Char) :=
  (path.toList.splitOn '/').filter fun part => !part.isEmpty && part != ['.']

/-- The start of a path: exactly two slashes are kept, more count as one. -/
def pathRoot (path : String) : List Char :=
  match path.toList.takeWhile (· == '/') with
  | [] => []
  | [_, _] => ['/', '/']
  | _ => ['/']

/-- The path in its simplest form. -/
def simplePath (path : String) : String :=
  let cs := pathRoot path ++ ['/'].intercalate (pathParts path)
  if cs.isEmpty then "." else String.ofList cs

/-! ## The engine -/

/-- The backend that the settings ask for. -/
inductive BackendChoice
  | postgres (database : Postgres.Database)
  | postgrest (endpoint : Postgrest.Endpoint)
  | memory
  deriving Repr

/-- The name of the chosen backend. -/
def BackendChoice.name : BackendChoice → String
  | postgres _ => Postgres.backendName
  | postgrest _ => Postgrest.backendName
  | memory => Memory.backendName

/-- An engine: its backend, and the path of its audit journal, if it keeps one. -/
structure EnginePlan where
  backend : BackendChoice
  journalPath : Option String
  deriving Repr

/-- The chosen backend; an unknown name means tables in memory. -/
def backendChoice (s : Settings) (env : Environment) : Except Trouble BackendChoice :=
  if s.backend = Postgres.backendName then
    ((Postgres.Database.ofEnvironment env).map .postgres).mapError .mishap
  else if s.backend = Postgrest.backendName then
    (Postgrest.Endpoint.ofCompleteEnvironment env).map .postgrest
  else .ok .memory

/-- The engine that the settings ask for. -/
def plan (s : Settings) (env : Environment) : Except Trouble EnginePlan := do
  let backend ← s.backendChoice env
  return ⟨backend, if s.auditLogPath.isEmpty then none else some (simplePath s.auditLogPath)⟩

end Settings

end ReadGate
