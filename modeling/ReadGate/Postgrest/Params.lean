import ReadGate.Backend.Basic
import ReadGate.Value.Text

/-!
# Parameters of a selection

A selection travels as parameters of a URL: the columns, an equality filter under the name of its
column, the order and the limit.  The total number of rows comes back in a header.
-/

namespace ReadGate.Postgrest

/-- Parameters of a URL, in order; one may lack its text. -/
abbrev Params := List (String × Option WideText)

/-- The columns, with commas between them. -/
def columnsParam : Columns → String
  | .all => "*"
  | columns => joined "," columns.names

/-- A filter for equality, if its operand can be written. -/
def equals (operand : Operand) : Except NumeralError WideText :=
  operand.value.display.map fun text => .whole "eq." ++ text

/-- An order. -/
def orderParam (o : OrderBy) : String :=
  o.column ++ if o.ascending then ".asc" else ".desc"

/-- Writes a parameter if there is one. -/
def putSome (params : Params) : Option (String × WideText) → Params
  | some (name, text) => Row.put params name (some text)
  | none => params

/-- The parameter of a filter, under the name of its column. -/
def filterParam : Option Predicate → Except NumeralError (Option (String × WideText))
  | some p => (equals p.operand).map fun text => some (p.column, text)
  | none => .ok none

/-- The parameter of a limit. -/
def limitParam : Option Int → Except NumeralError (Option (String × WideText))
  | some n => (Numeral.writeInt n).map fun text => some ("limit", .whole text)
  | none => .ok none

/-- The parameters of a selection; one that is written again is replaced in place.  A filter or a
limit that cannot be written makes them fail. -/
def paramsOf (columns : Columns) (predicate : Option Predicate) (limit : Option Int)
    (orderBy : Option OrderBy) : Except NumeralError Params := do
  let params : Params := [("select", some (columnsParam columns))]
  let params := putSome params (← filterParam predicate)
  let params := putSome params (orderBy.map fun o => ("order", orderParam o))
  return putSome params (← limitParam limit)

/-- The part of a text behind the first slash. -/
def behindSlash (header : String) : String :=
  String.ofList ((header.toList.dropWhile (· != '/')).drop 1)

/-- The failure for a header without a total. -/
def noTotal (header : String) : Failure :=
  .permanent s!"PostgREST did not return an exact count (Content-Range: {Text.quoted header})"

/-- The total number of rows in a `Content-Range` header. -/
def totalOf (header : String) : Except Trouble Int :=
  let total := behindSlash header
  if total.isEmpty || total = "*" then .error (.failure (noTotal header))
  else (Numeral.readInt total).mapError fun e => .mishap (.numeral e)

end ReadGate.Postgrest
