import ReadGate.Decoding
import ReadGate.Postgrest.Client

/-!
# Paging

An endpoint may cap the rows of a reply, so a selection is fetched page by page until the total that
the first page announces is reached, the limit is reached, or a page is empty.

* `Client.fetch` fetches one page.
* `Client.selectAll` fetches all pages; `more` shows why it ends: every further page adds a row and
  the total is fixed.
-/

namespace ReadGate.Postgrest

/-- What is fetched page by page: a table with parameters, on behalf of an operation. -/
structure Source where
  table : String
  params : Params
  operation : String
  guarded : Bool
  deriving DecidableEq, Repr

/-- The header that asks for an exact count. -/
def exactCount : List (String × String) :=
  [("Prefer", "count=exact")]

/-- Are more rows wanted after so many? -/
def wantsMore (limit : Option Int) (count : Nat) : Bool :=
  limit.all fun n => (count : Int) < n

namespace Client

variable {σ : Type}

/-- How many rows the next page is asked for: no more than the page size, so that the number can be
written. -/
def pageLimit (c : Client σ) (limit : Option Int) (offset : Nat) : Int :=
  match limit with
  | some n => min c.endpoint.pageSize.value (n - offset)
  | none => c.endpoint.pageSize.value

/-- The request for the page at an offset. -/
def pageRequest (c : Client σ) (source : Source) (limit : Option Int) (offset : Nat) : Request :=
  let params := Row.putAll source.params
    [("limit", some (.whole (toString (c.pageLimit limit offset)))),
      ("offset", some (.whole (toString offset)))]
  c.request .get source.table (some params) none exactCount

/-- Fetches the page at an offset: its content and the reply that brought it. -/
def fetch (c : Client σ) (source : Source) (limit : Option Int) (offset : Nat) :
    Run (Wire σ) (Value × Reply) := do
  Run.check source.guarded source.operation
  let reply ← c.send source.operation (c.pageRequest source limit offset)
  requireOk source.operation reply
  let page ← decode source.operation reply
  return (page, reply)

/-- Fetches the pages behind the given records. -/
def more (c : Client σ) (source : Source) (limit : Option Int) (total : Int)
    (records : List Value) : Run (Wire σ) (List Value) :=
  if _ : (records.length : Int) < total ∧ wantsMore limit records.length then do
    let (content, _) ← c.fetch source limit records.length
    match ← Run.lift content.itemsOrNone with
    | [] => return records
    | first :: rest => more c source limit total (records ++ first :: rest)
  else return records
termination_by (total - records.length).toNat
decreasing_by
  simp only [List.length_append, List.length_cons]
  omega

/-- Fetches all pages: the records, and the total if any page was fetched. -/
def pages (c : Client σ) (source : Source) (limit : Option Int) :
    Run (Wire σ) (List Value × Option Int) := do
  if wantsMore limit 0 then
    let (content, reply) ← c.fetch source limit 0
    let total ← ExceptT.mk (pure (totalOf (reply.header "Content-Range")))
    let page ← Run.lift content.itemsOrNone
    if page.isEmpty then return ([], some total)
    else return (← c.more source limit total page, some total)
  else return ([], none)

/-- All records of a source. -/
def selectAll (c : Client σ) (source : Source) : Run (Wire σ) (List Value) := do
  let limit ← match (Row.get? source.params "limit").join with
    | some text => do
      let n ← Run.lift ((Numeral.readWide text).mapError Mishap.numeral)
      pure (some n)
    | none => pure none
  let (records, total) ←
    c.pages { source with params := Row.erase source.params "limit" } limit
  Run.report .debug .postgrest
    s!"Fetched {records.length} of {(Value.ofInt? total).plain} rows from {source.table}"
  return records

end Client

end ReadGate.Postgrest
