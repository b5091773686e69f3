import ReadGate.Decoding

/-!
# Failures from their descriptions

A failure can be described by the type of error, a message and optional parts.  Each type of error
accepts certain parts only, and a failure about a keyword needs its keyword.

* `FailureRequest.build?` makes a failure, or says what is wrong with the description.
* `FailureRequest.build` also makes the errors of a remote side.
-/

namespace ReadGate

/-! ## Names -/

/-- The category of the given name. -/
def Category.ofName (name : Value) : Except Mishap Category :=
  match [validation, execution, translation, cancellation, configuration, unknown].find?
      fun c => name.isName c.name with
  | some category => .ok category
  | none => .error (.notMember name "ErrorCategory")

/-- The severity of the given name. -/
def Severity.ofName (name : Value) : Except Mishap Severity :=
  match [info, warning, error, critical].find? fun s => name.isName s.name with
  | some severity => .ok severity
  | none => .error (.notMember name "ErrorSeverity")

namespace FailureKind

/-- The kinds of failures, with the given parts for the one that has any. -/
def all (category : Category) (severity : Severity) : List FailureKind :=
  [general category severity, validation, emptyQuery, notReadOnly, forbiddenKeyword,
    multipleStatements, backend, capabilityAbsent, backendSyntax, backendExecution,
    unsupportedPattern, cancelled, configuration]

/-- The type of error whose way of being made a kind shares. -/
def makerType (kind : FailureKind) : String :=
  match kind with
  | emptyQuery | notReadOnly | multipleStatements => validation.errorType
  | capabilityAbsent | backendSyntax => backend.errorType
  | kind => kind.errorType

/-- May a failure of this kind be given a hint whether to try again? -/
def takesRetryable : FailureKind → Bool
  | general .. => true
  | kind => kind.isBackend

/-- May a failure of this kind be given a keyword? -/
def takesKeyword : FailureKind → Bool
  | forbiddenKeyword => true
  | _ => false

/-- May a failure of this kind be given a category and a severity? -/
def takesClass : FailureKind → Bool
  | general .. => true
  | _ => false

end FailureKind

/-! ## Details -/

/-- The values that an item pairs, at an index among other items. -/
def pairAt (index : Nat) (item : Value) : Except Mishap (Value × Value) :=
  match item.items with
  | .ok [a, b] => .ok (a, b)
  | .ok parts => .error (.pairLength index parts.length)
  | .error _ => .error (.notPair index)

/-- The field that a pair stands for; its name has to be a value that can be looked up. -/
def fieldOfPair (pair : Value × Value) : Except Mishap (String × Value) :=
  match pair.1.unhashable? with
  | some why => .error (.unhashable why)
  | none => .ok (pair.1.plain, pair.2)

/-- The fields that items stand for, from an index on. -/
def fieldsOfItems (index : Nat) : List Value → Except Mishap Row
  | [] => .ok []
  | item :: rest => do
    let field ← fieldOfPair (← pairAt index item)
    return field :: (← fieldsOfItems (index + 1) rest)

/-- The fields that details stand for: those of a record, or one for each pair of anything else. -/
def fieldsOfDetails (details : Value) : Except Mishap Row :=
  match details with
  | .record fields => .ok fields
  | v => do fieldsOfItems 0 (← v.items)

/-! ## Descriptions -/

/-- The description of a failure.  Parts that are not given are absent. -/
structure FailureRequest where
  errorType : String
  message : Value
  retryable : Option Value
  details : Value
  keyword : Option Value
  category : Option Value
  severity : Option Value

namespace FailureRequest

/-- The first part that the kind does not accept. -/
def refused? (r : FailureRequest) (kind : FailureKind) : Option String :=
  if r.retryable.isSome && !kind.takesRetryable then some "retryable"
  else if r.keyword.isSome && !kind.takesKeyword then some "keyword"
  else if r.category.isSome && !kind.takesClass then some "category"
  else if r.severity.isSome && !kind.takesClass then some "severity"
  else none

/-- The failure of a kind, with the hint and the message that are described. -/
def failureOf (r : FailureRequest) (kind : FailureKind) (details : Value) (keyword : Option Value) :
    Failure :=
  { kind, message := r.message, details, keyword,
    retryable := r.retryable.getD (.bool kind.retryable) }

/-- The failure of a kind, if its parts are acceptable. -/
def buildAs (r : FailureRequest) (kind : FailureKind) : Except Mishap Failure :=
  match r.refused? kind with
  | some part => .error (.unexpectedArgument (kind.makerType ++ ".__init__") part)
  | none =>
    let details := Failure.givenDetails r.details
    if kind.takesKeyword then
      match r.keyword with
      | some keyword => do
        let fields ← fieldsOfDetails details
        return r.failureOf kind (.record (Failure.keywordDetails keyword fields)) (some keyword)
      | none => .error (.missingArguments (kind.makerType ++ ".__init__") ["keyword"])
    else .ok (r.failureOf kind details none)

/-- The failure that is described, or nothing if there is no such type of error. -/
def build? (r : FailureRequest) : Except Mishap (Option Failure) := do
  let category ← Category.ofName (r.category.getD (.text Category.unknown.name))
  let severity ← Severity.ofName (r.severity.getD (.text Severity.error.name))
  match (FailureKind.all category severity).find? (·.errorType == r.errorType) with
  | some kind => return some (← r.buildAs kind)
  | none => return none

/-- The text of an error that is about a missing key: the key, as a text in brackets would be. -/
def keyText (message : Value) : Except NumeralError WideText :=
  if message.isWritable then .ok message.shown else .error .unwritable

/-- The errors outside the taxonomy that a description may name, and how their texts are made. -/
def foreignTypes : List (String × (Value → Except NumeralError WideText)) :=
  [("ValueError", Value.display), ("RuntimeError", Value.display), ("KeyError", keyText)]

/-- The trouble that is described.  An error outside the taxonomy needs a text. -/
def build (r : FailureRequest) : Except Mishap Trouble :=
  match Row.get? foreignTypes r.errorType with
  | some textOf => do
    let text ← (textOf r.message).mapError .numeral
    return .mishap (.foreign { className := r.errorType, text })
  | none => do
    match ← r.build? with
    | some f => return .failure f
    | none => .error (.missingKey r.errorType)

end FailureRequest

end ReadGate
