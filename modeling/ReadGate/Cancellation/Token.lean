import ReadGate.Failure

/-!
# Cancellation tokens

A token is cancelled once and for good.  While a context is open, its callback is registered with
the token and fires when the token is cancelled.

* `cancel` gives the callbacks that fire, in the order in which their contexts were entered; a token
  that is cancelled already fires none.
* `enter` registers a callback; on a cancelled token the callback fires at once instead.
* `check` fails on a cancelled token.
-/

namespace ReadGate

/-- A token with the callbacks of the open contexts, in order of entry. -/
structure Token (κ : Type) where
  cancelled : Bool
  callbacks : List κ
  deriving Repr

/-- The failure of a call that is cancelled before a stage. -/
def Failure.cancelledBefore (stage : String) : Failure :=
  .of .cancelled s!"Query cancelled before {stage}" [("stage", .text stage)]

/-- The failure of a call that is cancelled during an operation. -/
def Failure.cancelledDuring (operation : String) : Failure :=
  .of .cancelled s!"Query cancelled during {operation}" [("stage", .text operation)]

namespace Token

variable {κ : Type}

/-- A token that nobody has cancelled. -/
def fresh : Token κ := ⟨false, []⟩

/-- Cancels the token; the second part is what fires. -/
def cancel (token : Token κ) : Token κ × List κ :=
  if token.cancelled then (token, []) else (⟨true, token.callbacks⟩, token.callbacks)

/-- Opens a context; the second part is what fires. -/
def enter (token : Token κ) (callback : κ) : Token κ × List κ :=
  if token.cancelled then (token, [callback])
  else (⟨false, token.callbacks ++ [callback]⟩, [])

/-- Closes a context: the first registration of its callback ends. -/
def leave [BEq κ] (token : Token κ) (callback : κ) : Token κ :=
  ⟨token.cancelled, token.callbacks.erase callback⟩

/-- Fails on a cancelled token. -/
def check (token : Token κ) (stage : String) : Except Failure Unit :=
  if token.cancelled then .error (.cancelledBefore stage) else .ok ()

theorem cancelled_cancel (token : Token κ) : token.cancel.1.cancelled = true := by
  unfold cancel
  split <;> simp_all

end Token

end ReadGate
