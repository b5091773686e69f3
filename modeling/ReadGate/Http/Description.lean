import ReadGate.Http.Message

/-!
# The description of the service

The service describes itself in the OpenAPI format: its routes, the bodies that they take, and the
bodies of their responses.

* `Description.document` is the whole description.
-/

namespace ReadGate.Http.Description

/-! ## Schemas -/

/-- The schema of values of a type, with what else is demanded of them. -/
def typed (name : String) (demands : Row) (title : String) : Value :=
  .record ([("type", .text name)] ++ demands ++ [("title", .text title)])

/-- The schema of texts. -/
def text (title : String) : Value :=
  typed "string" [] title

/-- A schema that only names a type. -/
def plain (name : String) : Value :=
  .record [("type", .text name)]

/-- The schema of texts that may be null. -/
def optionalText (title : String) : Value :=
  .record [("anyOf", .list [plain "string", plain "null"]), ("title", .text title)]

/-- The schema of lists. -/
def listing (items : Value) (title : String) : Value :=
  .record [("items", items), ("type", .text "array"), ("title", .text title)]

/-- The fields of the schema of records with any fields. -/
def openRecord : Row :=
  [("additionalProperties", .bool true), ("type", .text "object")]

/-- The schema of records with the given fields, some of which are required. -/
def record (name : String) (fields : Row) (required : List String) : String × Value :=
  (name, .record ([("properties", .record fields), ("type", .text "object")] ++
    (if required.isEmpty then [] else [("required", .texts required)]) ++
    [("title", .text name)]))

/-- A reference to the schema of the given name. -/
def reference (name : String) : Value :=
  .record [("$ref", .text ("#/components/schemas/" ++ name))]

/-- A failure that a response reports. -/
def errorResponse : String × Value :=
  record "ErrorResponse" [("error", text "Error"), ("kind", text "Kind"),
    ("details", .record (openRecord ++ [("title", .text "Details")])),
    ("trace_id", text "Trace Id"), ("notes", optionalText "Notes")]
    ["error", "kind", "trace_id"]

/-- The issues of a body that is refused. -/
def refusal : String × Value :=
  record "HTTPValidationError" [("detail", listing (reference "ValidationError") "Detail")] []

/-- A query with the role of the caller. -/
def queryRequest : String × Value :=
  record "QueryRequest" [("query", typed "string"
      [("maxLength", .int maxQueryChars), ("minLength", .int 1)] "Query"),
    ("role", optionalText "Role")] ["query"]

/-- The rows of a query. -/
def queryResponse : String × Value :=
  record "QueryResponse" [("rows", listing (.record openRecord) "Rows"),
    ("row_count", typed "integer" [("minimum", .float (.ofInt 0))] "Row Count"),
    ("path", typed "string" [("enum", .texts ["generic", "fallback"])] "Path"),
    ("rule", optionalText "Rule"), ("masked_summary", text "Masked Summary"),
    ("trace_id", text "Trace Id")]
    ["rows", "row_count", "path", "masked_summary", "trace_id"]

/-- One issue of a body. -/
def issue : String × Value :=
  record "ValidationError" [
    ("loc", listing (.record [("anyOf", .list [plain "string", plain "integer"])]) "Location"),
    ("msg", text "Message"), ("type", text "Error Type"),
    ("input", .record [("title", .text "Input")]), ("ctx", typed "object" [] "Context")]
    ["loc", "msg", "type"]

/-! ## Operations -/

/-- A body in JSON. -/
def content (schema : Value) : String × Value :=
  ("content", .record [("application/json", .record [("schema", schema)])])

/-- A response of the given status. -/
def response (status description : String) (schema : Value) : String × Value :=
  (status, .record [("description", .text description), content schema])

/-- The response of a request that succeeds. -/
def success (schema : Value) : String × Value :=
  response "200" "Successful Response" schema

/-- An operation on a route of the given name. -/
def operation (method name title : String) (parts : Row) : String × Value :=
  ("/" ++ name, .record [(method, .record ([("summary", .text title),
    ("operationId", .text s!"{name}_{name}_{method}")] ++ parts))])

/-- An operation that takes no body, and may answer with anything. -/
def reading (name title : String) : String × Value :=
  operation "get" name title [("responses", .record [success (.record [])])]

/-- The operation that answers queries. -/
def querying : String × Value :=
  operation "post" "query" "Query" [
    ("requestBody", .record [content (reference "QueryRequest"), ("required", .bool true)]),
    ("responses", .record [success (reference "QueryResponse"),
      response "400" "Bad Request" (reference "ErrorResponse"),
      response "422" "Validation Error" (reference "HTTPValidationError")])]

/-! ## The document -/

/-- The description of the service. -/
def document : Row :=
  [("openapi", .text "3.1.0"),
    ("info", .record [("title", .text "Data Query Engine"), ("version", .text "0.1.0")]),
    ("paths", .record [reading "health" "Health", reading "metrics" "Metrics",
      reading "schema" "Schema", querying]),
    ("components", .record [("schemas",
      .record [errorResponse, refusal, queryRequest, queryResponse, issue])])]

end ReadGate.Http.Description
