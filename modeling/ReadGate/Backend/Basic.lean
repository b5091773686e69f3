import ReadGate.Cancellation.Token
import ReadGate.Log
import ReadGate.Query

/-!
# Backends

A backend offers four capabilities: it may execute a query text as it is, and it always answers a
selection from one table, the number of rows of a table, and the values of a column.

A call runs in a world that holds the caller's cancellation token, the log and the state of the
remote side.  It ends with a result or with `Trouble`, and keeps what it did to the world in either
case.  A call that is `guarded` was handed the token: it fails as soon as it finds it cancelled.

* `Run σ` is a computation in a world whose remote side has the state `σ`.
* `Adapter σ` lists the capabilities of a backend.
-/

namespace ReadGate

/-- What a call sees and changes.  A callback of the token is the number of a connection. -/
structure World (σ : Type) where
  token : Token Nat
  log : List LogLine
  remote : σ

/-- A computation that may end in trouble. -/
abbrev Run (σ : Type) := ExceptT Trouble (StateM (World σ))

namespace Run

variable {σ α : Type}

/-- Ends in a failure. -/
def fail (f : Failure) : Run σ α :=
  throw (.failure f)

/-- A result, or the mishap that took its place. -/
def lift : Except Mishap α → Run σ α
  | .ok a => pure a
  | .error m => throw (.mishap m)

/-- Adds a line to the log. -/
def report (level : Level) (source : Source) (text : String) : Run σ Unit :=
  modify fun w => { w with log := w.log ++ [⟨level, source, text⟩] }

/-- Changes the state of the remote side. -/
def change (f : σ → σ) : Run σ Unit :=
  modify fun w => { w with remote := f w.remote }

/-- Fails before a stage if the call is guarded by a cancelled token. -/
def check (guarded : Bool) (stage : String) : Run σ Unit := do
  let w ← get
  if guarded && w.token.cancelled then fail (.cancelledBefore stage)

end Run

/-- A selection from one table.  A limit below zero leaves out that many rows at the end. -/
structure Selection where
  table : String
  columns : Columns
  predicate : Option Predicate
  limit : Option Int
  orderBy : Option OrderBy
  deriving DecidableEq, Repr

/-- The capabilities of a backend.  The first argument of a call says whether it is guarded. -/
structure Adapter (σ : Type) where
  name : String
  rawExecute : Bool → String → Run σ (List Row)
  structuredQuery : Bool → Selection → Run σ (List Row)
  count : Bool → String → Run σ Int
  columnValues : Bool → String → Option String → Run σ (List Value)

end ReadGate
