import ReadGate.Json.Reader
import ReadGate.Record
import ReadGate.Value.Order
import ReadGate.Value.Text

/-!
# Failures

Every failure that the engine knows has a kind, and the kind fixes its category, its severity and
the note under which an outcome reports it.  Whatever else goes wrong is a `Mishap`.

* `Failure` is a failure with its message, its details and a hint whether to try again.
* `Mishap` lists the causes outside that taxonomy.
* `Trouble` is either of both.
-/

namespace ReadGate

/-! ## The taxonomy -/

/-- What part of the work failed. -/
inductive Category
  | validation
  | execution
  | translation
  | cancellation
  | configuration
  | unknown
  deriving DecidableEq, Repr

/-- How grave a failure is. -/
inductive Severity
  | info
  | warning
  | error
  | critical
  deriving DecidableEq, Repr

/-- The name of a category. -/
def Category.name : Category → String
  | validation => "validation"
  | execution => "execution"
  | translation => "translation"
  | cancellation => "cancellation"
  | configuration => "configuration"
  | unknown => "unknown"

/-- The name of a severity. -/
def Severity.name : Severity → String
  | info => "info"
  | warning => "warning"
  | error => "error"
  | critical => "critical"

/-- The kinds of failures. -/
inductive FailureKind
  /-- Any failure, with its category and severity. -/
  | general (category : Category) (severity : Severity)
  /-- A rejected query. -/
  | validation
  /-- Nothing is left of the query after trimming. -/
  | emptyQuery
  /-- The query does not start with the word that reads. -/
  | notReadOnly
  /-- The query contains a word that writes. -/
  | forbiddenKeyword
  /-- The query holds more than one statement. -/
  | multipleStatements
  /-- A failure of a backend. -/
  | backend
  /-- The backend cannot execute query texts. -/
  | capabilityAbsent
  /-- The backend does not accept the query's syntax. -/
  | backendSyntax
  /-- The backend failed in any other way. -/
  | backendExecution
  /-- No rule recognizes the query. -/
  | unsupportedPattern
  /-- The caller cancelled the call. -/
  | cancelled
  /-- The settings are incomplete or wrong. -/
  | configuration
  deriving DecidableEq, Repr

namespace FailureKind

/-- The name under which a kind is reported. -/
def name : FailureKind → String
  | general .. => "Unknown"
  | validation => "Validation"
  | emptyQuery => "EmptyQuery"
  | notReadOnly => "NotReadOnly"
  | forbiddenKeyword => "ForbiddenKeyword"
  | multipleStatements => "MultipleStatements"
  | backend => "BackendError"
  | capabilityAbsent => "BackendCapabilityAbsent"
  | backendSyntax => "BackendSyntaxError"
  | backendExecution => "BackendExecutionError"
  | unsupportedPattern => "UnsupportedPattern"
  | cancelled => "Cancelled"
  | configuration => "Configuration"

/-- The name of the type of error. -/
def errorType : FailureKind → String
  | general .. => "StructuredError"
  | validation => "QueryValidationError"
  | emptyQuery => "EmptyQueryError"
  | notReadOnly => "NotReadOnlyError"
  | forbiddenKeyword => "ForbiddenKeywordError"
  | multipleStatements => "MultipleStatementsError"
  | backend => "BackendError"
  | capabilityAbsent => "BackendCapabilityAbsentError"
  | backendSyntax => "BackendSyntaxError"
  | backendExecution => "BackendExecutionError"
  | unsupportedPattern => "UnsupportedPatternError"
  | cancelled => "QueryCancelledError"
  | configuration => "ConfigurationError"

/-- Is it a rejection by the validator? -/
def isValidation : FailureKind → Bool
  | validation | emptyQuery | notReadOnly | forbiddenKeyword | multipleStatements => true
  | _ => false

/-- Is it a failure of a backend? -/
def isBackend : FailureKind → Bool
  | backend | capabilityAbsent | backendSyntax | backendExecution => true
  | _ => false

/-- May the structured path be tried instead? -/
def isRecoverable : FailureKind → Bool
  | capabilityAbsent | backendSyntax => true
  | _ => false

/-- The category of a kind. -/
def category : FailureKind → Category
  | general c _ => c
  | unsupportedPattern => .translation
  | cancelled => .cancellation
  | configuration => .configuration
  | kind => if kind.isBackend then .execution else .validation

/-- The severity of a kind. -/
def severity : FailureKind → Severity
  | general _ s => s
  | unsupportedPattern => .warning
  | cancelled => .info
  | configuration => .critical
  | _ => .error

/-- Is a call that failed in this way worth repeating, unless the failure says otherwise? -/
def retryable : FailureKind → Bool
  | backendExecution | cancelled => true
  | _ => false

end FailureKind

/-- The note of an outcome. -/
inductive Note
  | validationError
  | unsupportedPattern
  | cancelled
  | backendError
  | executionError
  deriving DecidableEq, Repr

/-- The text of a note. -/
def Note.text : Note → String
  | validationError => "validation_error"
  | unsupportedPattern => "unsupported_pattern"
  | cancelled => "cancelled"
  | backendError => "backend_error"
  | executionError => "execution_error"

/-- The note of a kind of failure. -/
def FailureKind.note (kind : FailureKind) : Note :=
  if kind.isValidation then .validationError
  else if kind = .unsupportedPattern then .unsupportedPattern
  else if kind = .cancelled then .cancelled
  else if kind.isBackend then .backendError
  else .executionError

/-- A failure.  The message is a text, the hint whether to try again a truth value and the details
a record, except that a remote side may have sent other values.  A failure about a keyword holds
that keyword too. -/
structure Failure where
  kind : FailureKind
  message : Value
  retryable : Value
  details : Value
  keyword : Option Value := none
  deriving Repr

namespace Failure

/-- A failure with a text as its message and the usual hint. -/
def of (kind : FailureKind) (message : String) (details : Row := []) : Failure :=
  { kind, message := .text message, retryable := .bool kind.retryable, details := .record details }

/-- A failure of a backend that is not worth repeating. -/
def permanent (message : String) (details : Row := []) : Failure :=
  { kind := .backendExecution, message := .text message, retryable := .bool false,
    details := .record details }

/-- The details that are given: none if they count as absent. -/
def givenDetails (details : Value) : Value :=
  if details.isVoid then .record [] else details

/-- The details of a failure about a keyword: the keyword, unless other details replace it. -/
def keywordDetails (keyword : Value) (details : Row) : Row :=
  Row.putAll [("keyword", keyword)] details

/-- A failure about a keyword. -/
def ofKeyword (keyword message : String) : Failure :=
  { Failure.of .forbiddenKeyword message (keywordDetails (.text keyword) []) with
    keyword := some (.text keyword) }

/-- The plain text of the message. -/
def messageText (f : Failure) : String :=
  f.message.plain

end Failure

/-! ## Mishaps -/

/-- An error from outside that is none of the taxonomy: the name of its class, its text, the kind
that it has of its own, if it has one, and whether it counts as true, as nearly all errors do. -/
structure Foreign where
  className : String
  text : WideText
  ownKind : Option Value := none
  truth : Bool := true
  deriving Repr

/-- An error that is raised while a program runs. -/
def Foreign.runtime (text : String) : Foreign where
  className := "RuntimeError"
  text := text

/-- What goes wrong outside the taxonomy. -/
inductive Mishap
  /-- A text is not a number. -/
  | numeral (error : NumeralError)
  /-- A name is not one of an enumeration. -/
  | notMember (name : Value) (enumeration : String)
  /-- Arguments are missing. -/
  | missingArguments (target : String) (arguments : List String)
  /-- An argument is not accepted. -/
  | unexpectedArgument (target argument : String)
  /-- An argument is given twice. -/
  | repeatedArgument (target argument : String)
  /-- Two values have no order. -/
  | incomparable (error : Incomparable)
  /-- A value cannot be grouped. -/
  | unhashable (why : Unhashable)
  /-- Values of this kind have no such member. -/
  | noMember (kind member : String)
  /-- Values of this kind have no parts. -/
  | notSubscriptable (kind : String)
  /-- A text has no part of that name. -/
  | textIndex
  /-- A list has no part of that name. -/
  | listIndex
  /-- Values of this kind have no items. -/
  | notIterable (kind : String)
  /-- The item at an index has no items of its own, so it is no pair. -/
  | notPair (index : Nat)
  /-- The item at an index is no pair, but has so many items of its own. -/
  | pairLength (index length : Nat)
  /-- A mapping lacks a key. -/
  | missingKey (key : String)
  /-- Values of this kind are not numbers. -/
  | notNumeric (kind : String)
  /-- What is not a number is no integer; `decimal` tells decimals from binary numbers. -/
  | undefinedInteger (decimal : Bool)
  /-- An infinity is no integer. -/
  | infiniteInteger (decimal : Bool)
  /-- What signals that it is not a number has no binary form. -/
  | signaling
  /-- A name of a table or column is not a text. -/
  | notIdentifier (value : Value)
  /-- Two values cannot be compared for the greater. -/
  | notGreater (left right : String)
  /-- A value does not fit its record. -/
  | invalid (issues : List Issue)
  /-- A document is not JSON. -/
  | malformedDocument (message : String)
  /-- A document nests too deep. -/
  | tooDeep (container : Json.Container)
  /-- Values of this kind have no form in JSON. -/
  | notSerializable (kind : String)
  /-- JSON cannot write a number. -/
  | notCompliant
  /-- A quotient of integers is beyond all numbers. -/
  | quotientOverflow
  /-- An error came from outside. -/
  | foreign (error : Foreign)
  deriving Repr

/-- Names in quotes, as an enumeration in a sentence. -/
def enumerated (names : List String) : String :=
  match names.map Text.quoted with
  | [a, b] => s!"{a} and {b}"
  | shown =>
    match shown.getLast? with
    | some last =>
      joined ", " (shown.dropLast ++ [if 2 < shown.length then s!"and {last}" else last])
    | none => ""

/-- The wording for missing arguments. -/
def missingMessage (target : String) (arguments : List String) : String :=
  let noun := if arguments.length = 1 then "argument" else "arguments"
  s!"{target}() missing {arguments.length} required positional {noun}: {enumerated arguments}"

/-- The wording of a mishap, with the replacement character for each half of a surrogate pair that
stands alone in it.  The issues of a value that does not fit its record are data, and have no
wording here. -/
def Mishap.message : Mishap → String
  | numeral error => error.message
  | notMember name enumeration => name.shown ++ " is not a valid " ++ enumeration
  | missingArguments target arguments => missingMessage target arguments
  | unexpectedArgument target argument =>
    s!"{target}() got an unexpected keyword argument " ++ Text.quoted argument
  | repeatedArgument target argument =>
    s!"{target}() got multiple values for argument " ++ Text.quoted argument
  | incomparable error => error.message
  | unhashable why => why.message
  | noMember kind member => s!"'{kind}' object has no attribute '{member}'"
  | notSubscriptable kind => s!"'{kind}' object is not subscriptable"
  | textIndex => "string indices must be integers, not 'str'"
  | listIndex => "list indices must be integers or slices, not str"
  | notIterable kind => s!"'{kind}' object is not iterable"
  | notPair index =>
    s!"cannot convert dictionary update sequence element #{index} to a sequence"
  | pairLength index length =>
    s!"dictionary update sequence element #{index} has length {length}; 2 is required"
  | missingKey key => Text.quoted key
  | notNumeric kind =>
    s!"int() argument must be a string, a bytes-like object or a real number, not '{kind}'"
  | undefinedInteger decimal =>
    if decimal then "cannot convert NaN to integer" else "cannot convert float NaN to integer"
  | infiniteInteger decimal =>
    if decimal then "cannot convert Infinity to integer"
    else "cannot convert float infinity to integer"
  | signaling => "cannot convert signaling NaN to float"
  | notIdentifier value => s!"SQL identifier parts must be strings, got {value.shown} instead"
  | notGreater left right => s!"'>' not supported between instances of '{left}' and '{right}'"
  | invalid _ => ""
  | malformedDocument message => message
  | tooDeep container => container.tooDeepMessage
  | notSerializable kind => s!"Object of type {kind} is not JSON serializable"
  | notCompliant => "Out of range float values are not JSON compliant"
  | quotientOverflow => "integer division result too large for a float"
  | foreign error => error.text.plain

/-- The wording of a mishap as it is. -/
def Mishap.text : Mishap → WideText
  | foreign error => error.text
  | m => m.message

/-- The mishap of a document that cannot be read. -/
def Mishap.ofReadError (document : String) : Json.ReadError → Mishap
  | .numeral e => .numeral e
  | .tooDeep container => .tooDeep container
  | e => .malformedDocument (e.message document)

/-- Anything that ends a call without a result. -/
inductive Trouble
  | failure (f : Failure)
  | mishap (m : Mishap)
  deriving Repr

namespace Trouble

/-- The kind that is reported for trouble outside the taxonomy. -/
def unknownKind : String := "Unknown"

/-- The name of the kind under which an outcome reports the trouble. -/
def kindName : Trouble → String
  | failure f => f.kind.name
  | mishap _ => unknownKind

/-- The kind under which a sink is told of the trouble: whatever the error has as its kind, and none
if the error does not count as true. -/
def toldKind : Trouble → Option Value
  | failure f => some (.text f.kind.name)
  | mishap (.foreign error) =>
    if error.truth then some (error.ownKind.getD (.text unknownKind)) else none
  | mishap _ => some (.text unknownKind)

/-- The plain text of the trouble. -/
def messageText : Trouble → String
  | failure f => f.messageText
  | mishap m => m.message

/-- The note of an outcome with this trouble. -/
def note : Trouble → Note
  | failure f => f.kind.note
  | mishap _ => .executionError

end Trouble

end ReadGate
