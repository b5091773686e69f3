import ReadGate.Calendar
import ReadGate.Number.Decimal
import ReadGate.Text.Wide

/-!
# Values and rows

A value is what a cell of a result can hold: a JSON value, or one of the richer values that a
database driver delivers.  A row lists its columns in order, each once.

* `Row.put` writes a column in place, or adds it at the end.
* `Row.ofPairs` keeps the first place and the last value of a repeated column.
-/

namespace ReadGate

/-- A universally unique identifier, as a number of 128 bits. -/
structure Uuid where
  value : Nat
  deriving DecidableEq, Repr

/-- A cell, a detail of an error, or a part of a JSON document. -/
inductive Value
  | null
  | bool (b : Bool)
  | int (n : Int)
  | float (x : Binary64)
  | text (s : String)
  /-- A text in which halves of surrogate pairs stand alone, by its codes. -/
  | halves (codes : List Nat)
  | list (items : List Value)
  | record (fields : List (String × Value))
  | tuple (items : List Value)
  | decimal (d : Decimal)
  | bytes (bs : List UInt8)
  /-- A view of memory, with the address where it stands. -/
  | buffer (bs : List UInt8) (address : Nat)
  | uuid (u : Uuid)
  | date (d : Date)
  | time (t : Time)
  | moment (m : Moment)
  | span (s : Span)
  deriving Repr, Inhabited

/-- A row: columns with their values, in order. -/
abbrev Row := List (String × Value)

/-! ## Rows -/

namespace Row

variable {α : Type}

/-- The value of a column. -/
def get? (row : List (String × α)) (column : String) : Option α :=
  (row.find? (·.1 == column)).map (·.2)

/-- Does the row have the column? -/
def has (row : List (String × α)) (column : String) : Bool :=
  row.any (·.1 == column)

/-- Writes a column in place, or adds it at the end. -/
def put (row : List (String × α)) (column : String) (value : α) : List (String × α) :=
  match row with
  | [] => [(column, value)]
  | (name, old) :: rest =>
    if name = column then (name, value) :: rest else (name, old) :: put rest column value

/-- Writes columns one after the other. -/
def putAll (row pairs : List (String × α)) : List (String × α) :=
  pairs.foldl (fun r p => put r p.1 p.2) row

/-- The row that columns written one after the other make. -/
def ofPairs (pairs : List (String × α)) : List (String × α) :=
  putAll [] pairs

/-- The row without a column. -/
def erase (row : List (String × α)) (column : String) : List (String × α) :=
  row.filter (·.1 != column)

theorem get?_put_self (row : List (String × α)) (column : String) (value : α) :
    get? (put row column value) column = some value := by
  induction row with
  | nil => simp [put, get?]
  | cons head rest ih =>
    obtain ⟨name, old⟩ := head
    by_cases h : name = column
    · simp [put, get?, h]
    · have hb : (name == column) = false := by simpa using h
      simpa [put, get?, h, hb] using ih

theorem get?_put_of_ne (row : List (String × α)) {column other : String} (value : α)
    (ne : other ≠ column) : get? (put row column value) other = get? row other := by
  induction row with
  | nil => simp [put, get?, ne.symm]
  | cons head rest ih =>
    obtain ⟨name, old⟩ := head
    by_cases h : name = column
    · subst h
      simp [put, get?, ne.symm]
    · by_cases ho : name = other
      · subst ho
        simp [put, get?, h]
      · have hb : (name == other) = false := by simpa using ho
        simpa [put, get?, h, hb] using ih

end Row

namespace Value

/-! ## Kinds -/

/-- The short name of a value's kind. -/
def kind : Value → String
  | null => "NoneType"
  | bool _ => "bool"
  | int _ => "int"
  | float _ => "float"
  | text _ => "str"
  | halves _ => "str"
  | list _ => "list"
  | record _ => "dict"
  | tuple _ => "tuple"
  | decimal _ => "Decimal"
  | bytes _ => "bytes"
  | buffer .. => "memoryview"
  | uuid _ => "UUID"
  | date _ => "date"
  | time _ => "time"
  | moment _ => "datetime"
  | span _ => "timedelta"

/-- The name of a value's kind with the family it belongs to. -/
def fullKind : Value → String
  | decimal _ => "decimal.Decimal"
  | date _ => "datetime.date"
  | time _ => "datetime.time"
  | moment _ => "datetime.datetime"
  | span _ => "datetime.timedelta"
  | v => v.kind

/-- Is the value the given name? -/
def isName (v : Value) (name : String) : Bool :=
  match v with
  | text s => s == name
  | _ => false

/-- Is the value null? -/
def isNull : Value → Bool
  | null => true
  | _ => false

/-- Does the value count as absent: null, false, zero, or empty? -/
def isVoid : Value → Bool
  | null => true
  | bool b => !b
  | int n => n == 0
  | float x => x.isZero
  | text s => s.isEmpty
  | list items => items.isEmpty
  | record fields => fields.isEmpty
  | tuple items => items.isEmpty
  | decimal (.finite _ c _) => c == 0
  | bytes bs => bs.isEmpty
  | buffer bs _ => bs.isEmpty
  | span s => s.micros == 0
  | _ => false

/-- A value standing for a text. -/
def ofWide : WideText → Value
  | .whole s => text s
  | .broken codes _ => halves codes

/-- A value standing for an optional text. -/
def ofText? : Option String → Value
  | some s => text s
  | none => null

/-- A value standing for an optional text in which halves may stand alone. -/
def ofWide? : Option WideText → Value
  | some t => ofWide t
  | none => null

/-- A value standing for an optional integer. -/
def ofInt? : Option Int → Value
  | some n => int n
  | none => null

/-- A list of texts. -/
def texts (ss : List String) : Value :=
  list (ss.map text)

/-! ## JSON values -/

mutual
/-- Is the value, at every depth, one that JSON can write? -/
def isJson : Value → Bool
  | null | bool _ | int _ | float _ | text _ | halves _ => true
  | list items => allJson items
  | record fields => allJsonFields fields
  | _ => false

/-- Are all items JSON values? -/
def allJson : List Value → Bool
  | [] => true
  | v :: rest => isJson v && allJson rest

/-- Do all fields hold JSON values? -/
def allJsonFields : List (String × Value) → Bool
  | [] => true
  | (_, v) :: rest => isJson v && allJsonFields rest
end

end Value

end ReadGate
