import ReadGate.Failure

/-!
# Queries

A backend is called in one of two ways: with a query text as it is, or with a structured query that
names its table, columns, filter, order and limit.  Both can be read from a record.
-/

namespace ReadGate

/-! ## Structured queries -/

/-- What a column is compared with. -/
inductive Operand
  | text (s : WideText)
  | int (n : Int)
  | float (x : Binary64)
  deriving DecidableEq, Repr

/-- The operand as a value. -/
def Operand.value : Operand → Value
  | text s => .ofWide s
  | int n => .int n
  | float x => .float x

/-- A filter: the column equals the operand. -/
structure Predicate where
  column : String
  operand : Operand
  deriving DecidableEq, Repr

/-- The order of the rows. -/
structure OrderBy where
  column : String
  ascending : Bool
  deriving DecidableEq, Repr

/-- The columns of a result: all of them, or the named ones.  A text names one column by each of its
characters. -/
inductive Columns
  | all
  | letters (s : String)
  | these (names : List String)
  deriving DecidableEq, Repr

/-- The names of the columns; none are named when all are meant. -/
def Columns.names : Columns → List String
  | all => []
  | letters s => s.toList.map fun c => String.ofList [c]
  | these names => names

/-- What is made of the rows. -/
inductive Aggregate
  | rows
  | count
  | groupCount
  deriving DecidableEq, Repr

/-- The name of an aggregate. -/
def Aggregate.name : Aggregate → String
  | rows => "rows"
  | count => "count"
  | groupCount => "group_count"

/-- A query that a backend without query texts can answer. -/
structure StructuredQuery where
  table : String
  columns : Columns := .all
  predicate : Option Predicate := none
  orderBy : Option OrderBy := none
  limit : Option Nat := none
  aggregate : Aggregate := .rows
  groupBy : Option String := none
  resultAlias : Option String := none
  deriving DecidableEq, Repr

/-- A call of a backend. -/
inductive BackendCall
  | raw (sql : String)
  | structured (query : StructuredQuery)
  deriving DecidableEq, Repr

/-! ## Reading queries from records -/

namespace Record

open Checked

/-- The issues of a value that is no operand: one for each kind of operand. -/
def noOperand {α : Type} (asText asInt asFloat : IssueKind) : Checked α :=
  .error [⟨asText, [.field "str"]⟩, ⟨asInt, [.field "int"]⟩, ⟨asFloat, [.field "float"]⟩]

/-- What a column is compared with; the issues of all three readings are reported. -/
def operand : Value → Checked Operand
  | .text s => .ok (.text s)
  | .int n => .ok (.int n)
  | .bool b => .ok (.int (if b then 1 else 0))
  | .float x => .ok (.float x)
  | .decimal (.undefined _ true _) => noOperand .stringType .finiteNumber .floatType
  | .decimal d => .ok (.float d.toBinary64)
  | .bytes bs =>
    match decodeUtf8? bs with
    | some s => .ok (.text s)
    | none => noOperand .stringUnicode .intParsing .floatParsing
  | .halves codes => .ok (.text (.ofCodes codes))
  | _ => noOperand .stringType .intType .floatType

/-- The only operator of a filter. -/
def equalsWord : List (String × Unit) := [("=", ())]

/-- A filter. -/
def predicate (fields : Row) : Checked Predicate :=
  (both (required "column" someText fields)
    (both (optional "op" () (word equalsWord) fields) (required "value" operand fields))).map
    fun p => ⟨p.1, p.2.2⟩

/-- An order. -/
def orderBy (fields : Row) : Checked OrderBy :=
  (both (required "column" someText fields) (optional "ascending" true truth fields)).map
    fun p => ⟨p.1, p.2⟩

/-- The columns of a query.  Like the columns of a row, they have names without halves that stand
alone. -/
def columns (v : Value) : Checked Columns :=
  let star : Issue := ⟨.literalError, [.field "literal['*']"]⟩
  let listing : PathStep := .field "tuple[str, ...]"
  match v with
  | .text s =>
    if s = "*" then .ok .all else .error [star, ⟨.tupleType, [listing]⟩]
  | .list items | .tuple items =>
    match under listing (each wholeText 0 items) with
    | .ok names => .ok (.these names)
    | .error issues => .error (star :: issues)
  | _ => .error [star, ⟨.tupleType, [listing]⟩]

/-- The aggregates by name. -/
def aggregates : List (String × Aggregate) :=
  [("rows", .rows), ("count", .count), ("group_count", .groupCount)]

/-- A call with a query text. -/
def rawExecute (fields : Row) : Checked String :=
  (both (optional "kind" () (word [("raw", ())]) fields) (required "sql" someText fields)).map (·.2)

/-- A structured query. -/
def structuredQuery (fields : Row) : Checked StructuredQuery :=
  (both (optional "kind" () (word [("structured", ())]) fields) <|
    both (required "table" someText fields) <|
    both (optional "columns" .all columns fields) <|
    both (nullable "predicate" (model predicate) fields) <|
    both (nullable "order_by" (model orderBy) fields) <|
    both (nullable "limit" nat fields) <|
    both (optional "aggregate" .rows (word aggregates) fields) <|
    both (nullable "group_by" wholeText fields) (nullable "result_alias" wholeText fields)).map
    fun (_, table, columns, predicate, orderBy, limit, aggregate, groupBy, resultAlias) =>
      ⟨table, columns, predicate, orderBy, limit, aggregate, groupBy, resultAlias⟩

/-- A call of a backend; its kind says how the other fields are read. -/
def backendCall : Value → Checked BackendCall
  | .record fields =>
    match Row.get? fields "kind" with
    | none => fail .unionTagNotFound
    | some (.text "raw") => under (.field "raw") ((rawExecute fields).map BackendCall.raw)
    | some (.text "structured") =>
      under (.field "structured") ((structuredQuery fields).map BackendCall.structured)
    | some _ => fail .unionTagInvalid
  | _ => fail .modelAttributesType

end Record

/-! ## Results -/

/-- The way in which a result was produced. -/
inductive ExecutionPath
  | generic
  | fallback
  deriving DecidableEq, Repr

/-- The name of a path. -/
def ExecutionPath.name : ExecutionPath → String
  | generic => "generic"
  | fallback => "fallback"

/-- The rows of a completed call, with the way in which they were produced. -/
structure QueryResult where
  rows : List Row
  rowCount : Nat
  path : ExecutionPath
  rule : Option WideText
  deriving Repr

/-- The report of a failed call. -/
structure QueryError where
  error : WideText
  kind : WideText
  details : Row
  deriving Repr

namespace Record

open Checked

/-- The paths by name. -/
def paths : List (String × ExecutionPath) :=
  [("generic", .generic), ("fallback", .fallback)]

/-- A result. -/
def queryResult (fields : Row) : Checked QueryResult :=
  (both (required "rows" (list mapping) fields) <|
    both (required "row_count" nat fields) <|
    both (required "path" (word paths) fields) (nullable "rule" text fields)).map
    fun (rows, rowCount, path, rule) => ⟨rows, rowCount, path, rule⟩

/-- A report of a failed call. -/
def queryError (fields : Row) : Checked QueryError :=
  (both (required "error" text fields) <|
    both (required "kind" text fields) (optional "details" [] mapping fields)).map
    fun (error, kind, details) => ⟨error, kind, details⟩

end Record

end ReadGate
