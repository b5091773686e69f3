/-!
# Log lines

What the engine and the adapters tell their operators while they work.
-/

namespace ReadGate

/-- The weight of a log line. -/
inductive Level
  | debug
  | info
  | warning
  | error
  deriving DecidableEq, Repr

/-- The name of a level. -/
def Level.name : Level → String
  | debug => "DEBUG"
  | info => "INFO"
  | warning => "WARNING"
  | error => "ERROR"

/-- The part of the engine that a log line comes from. -/
inductive Source
  | dispatcher
  | translator
  | cancellation
  | postgres
  | postgrest
  deriving DecidableEq, Repr

/-- The name of a source. -/
def Source.name : Source → String
  | dispatcher => "dispatcher"
  | translator => "translator"
  | cancellation => "cancellation"
  | postgres => "backends.postgres"
  | postgrest => "backends.postgrest"

/-- A line of the log. -/
structure LogLine where
  level : Level
  source : Source
  text : String
  deriving DecidableEq, Repr

/-- The line for a callback that fails when a token is cancelled. -/
def LogLine.callbackFailed (reason : String) : LogLine :=
  ⟨.warning, .cancellation, s!"Cancellation callback failed: {reason}"⟩

end ReadGate
