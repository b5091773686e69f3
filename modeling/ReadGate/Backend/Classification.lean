import ReadGate.Failure
import ReadGate.Text.Case
import ReadGate.Text.Trim

/-!
# Classification of backend failures

When a backend fails to execute a query text, its message and its code tell whether the capability
is absent, whether it rejects the syntax, or whether anything else went wrong.  A message that
mentions the execution function is taken for one about it.
-/

namespace ReadGate

/-- The kinds of failures that are told apart. -/
inductive BackendFault
  | capabilityAbsent
  | syntaxError
  | other
  deriving DecidableEq, Repr

namespace BackendFault

/-- The enumeration of these kinds, as errors name it. -/
def enumeration : String := "BackendErrorKind"

/-- The name of a kind. -/
def name : BackendFault → String
  | capabilityAbsent => "capability_absent"
  | syntaxError => "syntax"
  | other => "other"

/-- The kind of the given name. -/
def ofName (name : Value) : Except Mishap BackendFault :=
  match [capabilityAbsent, syntaxError, other].find? fun fault => name.isName fault.name with
  | some fault => .ok fault
  | none => .error (.notMember name enumeration)

/-- The code of a rejected syntax. -/
def syntaxCode : String := "42601"

/-- The code of an unknown function. -/
def unknownFunctionCode : String := "42883"

/-- The code of a function that is not exposed. -/
def hiddenFunctionCode : String := "PGRST202"

/-- The kind of a failure with a text as its message.  `function` is the execution function. -/
def ofText (message : String) (code : Option String) (function : Option String) : BackendFault :=
  let lowered := Text.lower message
  let mentions (part : String) : Bool := Text.contains lowered part
  let aboutFunction := match function with
    | none => false
    | some function =>
      !function.isEmpty && mentions (Text.lower function) &&
        (code == some unknownFunctionCode || (mentions "function" && mentions "does not exist"))
  if code == some hiddenFunctionCode || mentions "could not find the function" || aboutFunction then
    .capabilityAbsent
  else if code == some syntaxCode || mentions "syntax error" then .syntaxError
  else .other

/-- The text that a value stands for: an absent one counts as empty, and any other has to be a
text. -/
def textOf (v : Value) : Except Mishap String :=
  match v with
  | .text s => .ok s
  | .halves codes => .ok (Text.ofCodes codes)
  | v => if v.isVoid then .ok "" else .error (.noMember v.fullKind "lower")

/-- The kind of a failure as a remote side described it.  The name of the execution function is not
looked at when the message and the code alone say that the capability is absent. -/
def classify (message code function : Value) : Except Mishap BackendFault := do
  let message ← textOf message
  let code := match code with
    | .text s => some s
    | _ => none
  if ofText message code none = .capabilityAbsent then return .capabilityAbsent
  else return ofText message code (some (← textOf function))

/-- The kind of failure that reports it. -/
def failureKind : BackendFault → FailureKind
  | capabilityAbsent => .capabilityAbsent
  | syntaxError => .backendSyntax
  | other => .backendExecution

/-- The failure that reports it. -/
def failure (fault : BackendFault) (message details : Value) : Failure :=
  { kind := fault.failureKind, message, retryable := .bool fault.failureKind.retryable,
    details := Failure.givenDetails details }

end BackendFault

end ReadGate
