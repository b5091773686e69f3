import ReadGate.Engine.Structured
import ReadGate.Schema
import ReadGate.Validation

/-!
# Dispatch

A cleaned query text first goes to the backend as it is, unless halves of surrogate pairs stand
alone in it: such a text is refused on the way.  If the backend cannot execute texts, or does not
accept the syntax, the text is translated once and the structured query is answered instead; its
outcome is final.  Any other trouble ends the call.
-/

namespace ReadGate.Engine

variable {σ : Type}

/-- A query with its permission to be cancelled and the id under which it is reported. -/
structure Ticket where
  id : String
  guarded : Bool
  deriving DecidableEq, Repr

/-- How many characters of a query a log line holds. -/
def loggedChars : Nat := 100

/-- The query as a log line holds it. -/
def loggedQuery (text : String) : String :=
  if Text.size text ≤ loggedChars then text else Text.first loggedChars text ++ "..."

/-- Adds a line about a call to the log. -/
def note (ticket : Ticket) (level : Level) (text : String) : Run σ Unit :=
  Run.report level .dispatcher s!"[{ticket.id}] {text}"

/-- Logs a failure of the backend on the way, and passes the trouble on. -/
def giveUp {α : Type} (ticket : Ticket) (path : ExecutionPath) (trouble : Trouble) : Run σ α := do
  match trouble with
  | .failure f =>
    if f.kind.isBackend then
      note ticket .warning s!"backend error on {path.name} path: {f.messageText}"
  | .mishap _ => pure ()
  throw trouble

/-- The rows that the backend gives for the text as it is, or nothing if it cannot execute it. -/
def tryGeneric (backend : Adapter σ) (ticket : Ticket) (text : String) :
    Run σ (Option (List Row)) :=
  tryCatch
    (do
      let rows ← backend.rawExecute ticket.guarded text
      note ticket .debug s!"generic path returned {rows.length} rows"
      return some rows)
    fun trouble => do
      match trouble with
      | .failure f =>
        if f.kind.isRecoverable then
          note ticket .info <| s!"generic path unavailable ({f.kind.name}), falling back to " ++
            s!"pattern translation: {f.messageText}"
          return none
        else giveUp ticket .generic trouble
      | .mishap _ => giveUp ticket .generic trouble

/-- The rows of the structured query that the text translates to, with the rule that matched. -/
def fallback (backend : Adapter σ) (schema : Option Schema) (ticket : Ticket) (text : String) :
    Run σ QueryResult := do
  match ← Run.lift ((translate text).mapError .numeral) with
  | none =>
    note ticket .warning s!"no fallback rule matches: {loggedQuery text}"
    Run.fail (unsupported text)
  | some (rule, q) =>
    note ticket .info s!"fallback rule '{rule.name}' matched table '{q.table}'"
    if schema.any fun s => !s.hasTable q.table then
      note ticket .warning s!"table '{q.table}' is not in the known schema; attempting anyway"
    let rows ← tryCatch (executeStructured backend ticket.guarded q) (giveUp ticket .fallback)
    return ⟨rows, rows.length, .fallback, some rule.name⟩

/-- The text of the call that hands a cleaned text to the backend. -/
def rawText (text : WideText) : Except Mishap String :=
  (Record.rawExecute [("sql", .ofWide text)]).mapError .invalid

/-- Runs a cleaned text that a call can hand to the backend. -/
def pursue (backend : Adapter σ) (schema : Option Schema) (ticket : Ticket) (text : String) :
    Run σ QueryResult := do
  match ← tryGeneric backend ticket text with
  | some rows => return ⟨rows, rows.length, .generic, none⟩
  | none =>
    Run.check ticket.guarded "fallback translation"
    fallback backend schema ticket text

/-- Runs a cleaned text. -/
def dispatch (backend : Adapter σ) (schema : Option Schema) (ticket : Ticket) (text : WideText) :
    Run σ QueryResult := do
  Run.check ticket.guarded "generic execution"
  pursue backend schema ticket (← Run.lift (rawText text))

end ReadGate.Engine
