import ReadGate.Calendar.Timestamp
import ReadGate.Digest
import ReadGate.Engine.Execute
import ReadGate.Json.Reader

/-!
# Audit entries

An entry records one call: when it ran, under which id, the start of its query, the digest of the
whole query, and what became of it.  It is written as one line of compact JSON.

* `AuditEntry.make` makes the entry of a call, or lists the issues of its parts.
* `AuditEntry.line` writes an entry.
-/

namespace ReadGate

/-- An audit entry. -/
structure AuditEntry where
  time : Moment
  correlationId : String
  query : String
  queryHash : String
  success : Bool
  rowCount : Option Nat
  path : Option ExecutionPath
  errorKind : Option String
  durationMs : Nat
  deriving DecidableEq, Repr

/-- What is reported about a call, before it is checked. -/
structure AuditArguments where
  correlationId : Value
  query : Value
  success : Value
  rowCount : Value
  path : Value
  errorKind : Value
  durationMs : Value

namespace AuditArguments

/-- The name of the operation that takes the arguments. -/
def operation : String := "JsonlAuditSink.record"

/-- The arguments that have to be given. -/
def requiredNames : List String :=
  ["correlation_id", "query", "success"]

/-- The arguments that may be given. -/
def names : List String :=
  requiredNames ++ ["row_count", "path", "error_kind", "duration_ms"]

/-- The name under which the operation receives the journal, which nobody else may give. -/
def ownName : String := "self"

/-- The first argument that the operation does not accept, as a mishap. -/
def refused? (given : Row) : Option Mishap :=
  given.findSome? fun p =>
    if p.1 = ownName then some (.repeatedArgument operation p.1)
    else if names.contains p.1 then none
    else some (.unexpectedArgument operation p.1)

/-- The arguments that are given by name, if the operation accepts them and none is missing. -/
def ofNamed (given : Row) : Except Mishap AuditArguments :=
  match refused? given, requiredNames.filter fun name => !Row.has given name with
  | some mishap, _ => .error mishap
  | none, [] =>
    let get (name : String) (default : Value) : Value := (Row.get? given name).getD default
    .ok ⟨get "correlation_id" .null, get "query" .null, get "success" .null,
      get "row_count" .null, get "path" .null, get "error_kind" .null, get "duration_ms" (.int 0)⟩
  | none, missing => .error (.missingArguments operation missing)

end AuditArguments

namespace AuditEntry

/-- How many characters an id has at most. -/
def idChars : Nat := 64

/-- How many characters a digest has. -/
def hashChars : Nat := 64

/-- How many characters of a query are kept, unless told otherwise. -/
def queryChars : Int := 200

end AuditEntry

namespace Record

open Checked

/-- An audit entry.  Its texts are written as one line of the journal, which takes no halves that
stand alone. -/
def auditEntry (fields : Row) : Checked AuditEntry :=
  (both (required "ts" timestamp fields) <|
    both (required "correlation_id" (sizedText 1 (some AuditEntry.idChars)) fields) <|
    both (required "query" wholeText fields) <|
    both (required "query_hash"
      (sizedText AuditEntry.hashChars (some AuditEntry.hashChars)) fields) <|
    both (required "success" truth fields) <|
    both (nullable "row_count" nat fields) <|
    both (nullable "path" (word paths) fields) <|
    both (nullable "error_kind" wholeText fields) (required "duration_ms" nat fields)).map
    fun (time, id, query, hash, success, rows, path, kind, duration) =>
      ⟨time, id, query, hash, success, rows, path, kind, duration⟩

end Record

namespace AuditEntry

/-! ## Making -/

/-- A value cut to a number of characters or items. -/
def cutValue (v : Value) (n : Int) : Except Mishap Value :=
  match v with
  | .text s => .ok (.text (Text.cut s n))
  | .halves codes => .ok (Json.stringValue (Text.cutList codes n))
  | .bytes bs => .ok (.bytes (Text.cutList bs n))
  | .buffer bs address => .ok (.buffer (Text.cutList bs n) address)
  | .list vs => .ok (.list (Text.cutList vs n))
  | .tuple vs => .ok (.tuple (Text.cutList vs n))
  | .record _ => .error (.unhashable (.kind "slice"))
  | v => .error (.notSubscriptable v.fullKind)

/-- A duration that is not below zero. -/
def raised (v : Value) : Except Mishap Value :=
  match (Value.int 0).number?, v.number? with
  | some zero, some x =>
    if v.isUndefinedDecimal then .error (.incomparable .undefinedDecimal)
    else .ok (if zero.compare? x == some .gt then .int 0 else v)
  | _, _ => .error (.notGreater "int" v.fullKind)

/-- The entry of a call that ended at the given moment. -/
def make (maxChars : Int) (now : Moment) (a : AuditArguments) : Except Mishap AuditEntry := do
  let id ← cutValue a.correlationId idChars
  let query ← cutValue a.query maxChars
  let duration ← raised a.durationMs
  let entry ← (Record.auditEntry [("ts", .text now.isoText), ("correlation_id", id),
    ("query", query), ("query_hash", .text (Digest.ofValue a.query)), ("success", a.success),
    ("row_count", a.rowCount), ("path", a.path), ("error_kind", a.errorKind),
    ("duration_ms", duration)]).mapError .invalid
  return { entry with time := now }

/-- What the engine reports about a call. -/
def argumentsOf (r : CallReport) (durationMs : Int) : AuditArguments :=
  ⟨.text r.correlationId, .ofWide r.query, .bool r.success, .ofInt? (r.rowCount.map Int.ofNat),
    .ofText? (r.path.map ExecutionPath.name), r.errorKind.getD .null, .int durationMs⟩

/-! ## Writing -/

/-- A value or null. -/
def orNull {α : Type} (write : α → List Char) : Option α → List Char
  | some a => write a
  | none => "null".toList

/-- The entry as one line of JSON without its end, with the given texts of time and duration. -/
def lineWith (time duration : List Char) (e : AuditEntry) : String :=
  let field (name : String) (written : List Char) : List Char :=
    Json.compactString name ++ ':' :: written
  String.ofList ('\x7b' :: Json.separated [','] [
    field "ts" time,
    field "correlation_id" (Json.compactString e.correlationId),
    field "query" (Json.compactString e.query),
    field "query_hash" (Json.compactString e.queryHash),
    field "success" (Json.bool e.success),
    field "row_count" (orNull (fun n : Nat => Json.int n) e.rowCount),
    field "path" (orNull (fun p => Json.compactString p.name) e.path),
    field "error_kind" (orNull Json.compactString e.errorKind),
    field "duration_ms" duration] ++ ['\x7d'])

/-- The entry as one line of JSON without its end. -/
def line (e : AuditEntry) : String :=
  e.lineWith (Json.compactString e.time.zonedText) (Json.int e.durationMs)

end AuditEntry

end ReadGate
