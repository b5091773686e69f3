import ReadGate.Cancellation.Token
import ReadGate.Log

/-!
# Scripts of contexts

A run of a token through a script of steps: contexts are entered and left, the token is cancelled,
and stages are checked.  A callback is known by its name; whether it raises an error is settled by
its first use.

* `Scopes.step` performs one step and reports its result, the callbacks it fired and the log.
* `Scopes.run` performs a whole script.
-/

namespace ReadGate

/-- A callback: its name, and the error that it raises when it fires, if any. -/
structure Callback where
  name : String
  raises : Option String
  deriving DecidableEq, Repr

/-- A step of a script.  A context that is not `guarded` has no token. -/
inductive ScopeStep
  | enter (name : String) (raises : Option String) (guarded : Bool)
  | exit (name : String)
  | cancel
  | check (stage : String) (guarded : Bool)
  deriving DecidableEq, Repr

/-- A context that was entered and not left. -/
structure Scope where
  callback : Callback
  guarded : Bool
  deriving DecidableEq, Repr

/-- A token, the callbacks seen so far and the open contexts, in order of entry. -/
structure Scopes where
  token : Token Callback
  known : List Callback
  opened : List Scope
  deriving Repr

/-- What a step did: whether the token is cancelled after it, unless it failed; the callbacks it
fired, and what it logged. -/
structure ScopeReport where
  result : Except Trouble Bool
  fired : List Callback
  log : List LogLine

namespace Scopes

/-- A fresh token and no contexts. -/
def start : Scopes := ⟨.fresh, [], []⟩

/-- The callback of the given name; its first use settles whether it raises an error. -/
def callback (s : Scopes) (name : String) (raises : Option String) : Callback :=
  (s.known.find? (·.name == name)).getD ⟨name, raises⟩

/-- The callbacks seen so far and this one. -/
def remember (s : Scopes) (callback : Callback) : List Callback :=
  if s.known.any (·.name == callback.name) then s.known else s.known ++ [callback]

/-- The log of callbacks that fire together: one that raises an error does not stop the others. -/
def logOf (fired : List Callback) : List LogLine :=
  fired.filterMap fun c => c.raises.map LogLine.callbackFailed

/-- Enters a context.  If its callback fires and raises an error, the context is not open. -/
def enter (s : Scopes) (callback : Callback) (guarded : Bool) : Scopes × ScopeReport :=
  let known := s.remember callback
  let scope : Scope := ⟨callback, guarded⟩
  if guarded then
    let (token, fired) := s.token.enter callback
    match fired, callback.raises with
    | _ :: _, some text =>
      (⟨token, known, s.opened⟩, ⟨.error (.mishap (.foreign (.runtime text))), fired, []⟩)
    | _, _ => (⟨token, known, s.opened ++ [scope]⟩, ⟨.ok token.cancelled, fired, []⟩)
  else (⟨s.token, known, s.opened ++ [scope]⟩, ⟨.ok s.token.cancelled, [], []⟩)

/-- Leaves the earliest open context of the given name. -/
def exit (s : Scopes) (name : String) : Scopes × ScopeReport :=
  match s.opened.find? (·.callback.name == name) with
  | some scope =>
    let token := if scope.guarded then s.token.leave scope.callback else s.token
    (⟨token, s.known, s.opened.erase scope⟩, ⟨.ok token.cancelled, [], []⟩)
  | none => (s, ⟨.ok s.token.cancelled, [], []⟩)

/-- Cancels the token. -/
def cancel (s : Scopes) : Scopes × ScopeReport :=
  let (token, fired) := s.token.cancel
  (⟨token, s.known, s.opened⟩, ⟨.ok token.cancelled, fired, logOf fired⟩)

/-- Checks the token before a stage. -/
def check (s : Scopes) (stage : String) (guarded : Bool) : Scopes × ScopeReport :=
  let verdict := if guarded then s.token.check stage else .ok ()
  (s, ⟨(verdict.mapError .failure).map fun _ => s.token.cancelled, [], []⟩)

/-- One step. -/
def step (s : Scopes) : ScopeStep → Scopes × ScopeReport
  | .enter name raises guarded => s.enter (s.callback name raises) guarded
  | .exit name => s.exit name
  | .cancel => s.cancel
  | .check stage guarded => s.check stage guarded

/-- The reports of a script. -/
def run (s : Scopes) : List ScopeStep → List ScopeReport
  | [] => []
  | first :: rest => (s.step first).2 :: run (s.step first).1 rest

end Scopes

end ReadGate
