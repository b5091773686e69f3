import ReadGate.Digest
import ReadGate.Http.Address
import ReadGate.Json.Reader
import ReadGate.Schema
import ReadGate.Text.Case
import ReadGate.Text.Encoding

/-!
# Requests and responses of the service

A request has a body that may be JSON; a response carries JSON, a plain text or the metrics, and the
id under which the request was handled.

* `Request.queryRequest` reads the body of a query.
* `written?` and `serialized?` are the forms of values in the report of a failure and in a result.
-/

namespace ReadGate

namespace Http

/-! ## Requests -/

/-- A request. -/
structure Request where
  method : String
  path : String
  headers : List (String × String)
  body : String
  deriving DecidableEq, Repr

namespace Request

/-- The text of a header, whatever the case of its name. -/
def header? (r : Request) (name : String) : Option String :=
  (r.headers.find? fun h => Text.lower h.1 == Text.lower name).map (·.2)

/-- The header that carries the id of a request. -/
def idHeader : String := "x-correlation-id"

/-- The id of a request: the caller's, or a fresh one if the caller gave none. -/
def id (r : Request) (freshId : String) : String :=
  match r.header? idHeader with
  | some id => if id.isEmpty then freshId else id
  | none => freshId

/-- What is asked of the path; the case of the method does not matter. -/
def verb (r : Request) : String :=
  r.method.toUpper

/-- The media type of the body, in lower case and without parameters. -/
def mediaType (r : Request) : String :=
  let header := (r.header? "content-type").getD ""
  Text.lower (Text.trimmed (String.ofList (header.toList.takeWhile (· != ';'))))

/-- Does the request say that its body is JSON? -/
def isJson (r : Request) : Bool :=
  match r.mediaType.toList.splitOn '/' with
  | [family, kind] =>
    family == "application".toList && (kind == "json".toList || "+json".toList.isSuffixOf kind)
  | _ => false

end Request

/-! ## Bodies -/

/-- Why a body is refused. -/
inductive BodyError
  /-- The body does not fit. -/
  | invalid (issues : List Issue)
  /-- The body cannot be read at all. -/
  | unreadable
  /-- The body does not fit, and what does not fit cannot be written into a report. -/
  | unreportable
  deriving DecidableEq, Repr

/-- A query and the role of the caller. -/
structure QueryRequest where
  query : String
  role : Option WideText
  deriving DecidableEq, Repr

/-- How many characters a query has at most. -/
def maxQueryChars : Nat := 4000

end Http

namespace Record

open Checked

/-- A query with the role of the caller. -/
def queryRequest (fields : Row) : Checked Http.QueryRequest :=
  (both (required "query" (sizedText 1 (some Http.maxQueryChars)) fields)
    (nullable "role" text fields)).map fun p => ⟨p.1, p.2⟩

end Record

namespace Http

/-- The path to the body of a request. -/
def bodyStep : PathStep := .field "body"

/-- The issue of a malformed body, at the place of the fault. -/
def malformedBody (place : Nat) : BodyError :=
  .invalid [⟨.jsonInvalid, [bodyStep, .item place]⟩]

/-- The value in a body: nothing if the body is empty, and a text if it is not JSON. -/
def Request.value? (r : Request) : Except BodyError (Option Value) :=
  if r.body.isEmpty then .ok none
  else if !r.isJson then .ok (some (.text r.body))
  else
    match Text.decode? r.body with
    | none => .error .unreadable
    | some document =>
      match Json.read Json.served document with
      | .ok v => .ok (some v)
      | .error (.malformed _ left) => .error (malformedBody (Text.size document - left))
      | .error (.numeral _) => .error .unreadable
      | .error (.tooDeep _) => .error .unreadable

/-- Is a field of the given name shown?  Names that start with `_sa` are reserved, and their fields
are left out of reports and descriptions. -/
def isShown (name : String) : Bool :=
  !name.startsWith "_sa"

mutual
/-- Can the value be written into the report of an issue, as far as it is shown? -/
def isReportable : Value → Bool
  | .float x => x.isFinite
  | .halves _ => false
  | .list items => areReportable items
  | .record fields => fieldsReportable fields
  | _ => true

/-- Can all items be written into a report? -/
def areReportable : List Value → Bool
  | [] => true
  | v :: rest => isReportable v && areReportable rest

/-- Can all fields that are shown be written into a report? -/
def fieldsReportable : List (String × Value) → Bool
  | [] => true
  | (name, v) :: rest => (!isShown name || isReportable v) && fieldsReportable rest
end

/-- The value that the report of an issue shows: what stands at the place of the issue, or the whole
body where nothing does. -/
def shownValue (body : Value) (i : Issue) : Value :=
  match body, i.path with
  | .record fields, [.field name] => (Row.get? fields name).getD body
  | _, _ => body

/-- The refusal of a body with issues. -/
def refusalOf (body : Value) (issues : List Issue) : BodyError :=
  if issues.all fun i => isReportable (shownValue body i) then
    .invalid (issues.map fun i => { i with path := bodyStep :: i.path })
  else .unreportable

/-- The query in a value. -/
def queryIn : Value → Checked QueryRequest
  | .record fields => Record.queryRequest fields
  | _ => Checked.fail .modelAttributesType

/-- The query in the body of a request. -/
def Request.queryRequest (r : Request) : Except BodyError QueryRequest := do
  match ← r.value? with
  | none => .error (.invalid [⟨.missing, [bodyStep]⟩])
  | some body => (queryIn body).mapError (refusalOf body)

/-! ## Values in responses -/

mutual
/-- The form of a value in the report of a failure; only JSON values have one, and integers with too
many digits have none. -/
def written? : Value → Option Value
  | .float x => if x.isFinite then some (.float x) else none
  | .list items => (writtenItems? items).map .list
  | .tuple items => (writtenItems? items).map .list
  | .record fields => (writtenFields? fields).map .record
  | .null => some .null
  | .bool b => some (.bool b)
  | .int n => if Numeral.IsShort n.natAbs then some (.int n) else none
  | .text s => some (.text s)
  | _ => none

/-- The forms of items. -/
def writtenItems? : List Value → Option (List Value)
  | [] => some []
  | v :: rest => do return (← written? v) :: (← writtenItems? rest)

/-- The forms of fields. -/
def writtenFields? : List (String × Value) → Option (List (String × Value))
  | [] => some []
  | (name, v) :: rest => do return (name, ← written? v) :: (← writtenFields? rest)
end

/-- How deep the values of a result may be nested. -/
def resultDepth : Nat := 255

mutual
/-- The form of a value in a result: numbers that JSON lacks become null, and driver values become
texts.  A value that is nested deeper than `depth` has none. -/
def serialized? (depth : Nat) (v : Value) : Option Value :=
  match depth, v with
  | 0, _ => none
  | _ + 1, .float x => some (if x.isFinite then .float x else .null)
  | depth + 1, .list items => (serializedItems? depth items).map .list
  | depth + 1, .tuple items => (serializedItems? depth items).map .list
  | depth + 1, .record fields => (serializedFields? depth fields).map .record
  | _ + 1, .bytes bs => (Record.decodeUtf8? bs).map .text
  | _ + 1, .buffer .. => none
  | _ + 1, .halves _ => none
  | _ + 1, .span s => some (.text s.isoText)
  | _ + 1, .moment m => some (.text m.zonedText)
  | _ + 1, .null => some .null
  | _ + 1, .bool b => some (.bool b)
  | _ + 1, .int n => some (.int n)
  | _ + 1, v => some (.text v.plain)

/-- The forms of items. -/
def serializedItems? (depth : Nat) : List Value → Option (List Value)
  | [] => some []
  | v :: rest => do return (← serialized? depth v) :: (← serializedItems? depth rest)

/-- The forms of fields. -/
def serializedFields? (depth : Nat) : List (String × Value) → Option (List (String × Value))
  | [] => some []
  | (name, v) :: rest => do
    return (name, ← serialized? depth v) :: (← serializedFields? depth rest)
end

/-- The form of a row in a result. -/
def serializedRow? (row : Row) : Option Value :=
  (serializedFields? resultDepth row).map .record

/-! ## Responses -/

/-- The body of a response. -/
inductive Body
  | json (v : Value)
  | plain (text : String)
  | metrics
  deriving Repr

/-- What a request adds to the counters: a query that was run, by its path and its outcome. -/
structure Tally where
  path : String
  outcome : String
  deriving DecidableEq, Repr

/-- A response.  The id is absent if handling the request broke down. -/
structure Response where
  status : Nat
  id : Option String
  body : Body
  tally : Option Tally
  deriving Repr

namespace Response

/-- A response with JSON. -/
def json (status : Nat) (id : String) (fields : Row) : Response :=
  ⟨status, some id, .json (.record fields), none⟩

/-- A response that says in words what is wrong. -/
def detail (status : Nat) (id text : String) : Response :=
  json status id [("detail", .text text)]

/-- The response when handling the request broke down. -/
def broken (tally : Option Tally) : Response :=
  ⟨500, none, .plain "Internal Server Error", tally⟩

/-- The response as it is sent: whoever asks for the head alone gets no body. -/
def sentTo (r : Request) (response : Response) : Response :=
  if r.verb = "HEAD" then { response with body := .plain "" } else response

/-- A step of a path as a value. -/
def stepValue : PathStep → Value
  | .field name => .text name
  | .item index => .int index

/-- An issue as a value. -/
def issueValue (i : Issue) : Value :=
  .record [("type", .text i.kind.name), ("loc", .list (i.path.map stepValue))]

/-- The response to a body that is refused. -/
def refused (id : String) : BodyError → Response
  | .invalid issues => json 422 id [("detail", .list (issues.map issueValue))]
  | .unreadable => detail 400 id "There was an error parsing the body"
  | .unreportable => broken none

end Response

end Http

end ReadGate
