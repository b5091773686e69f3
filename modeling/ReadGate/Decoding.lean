import ReadGate.Failure

/-!
# Decoding what a remote side sent

A reply holds values of any kind, so each use of a part may fail: a record may lack a key, and other
kinds have no parts at all.

* `part`, `member`, `items` and `toInteger` take a value apart.
* `toScalar` and `toRow` turn driver values into JSON values, so that no driver value reaches a row.
* `rowsOfResult` reads the rows from the result of an execution function.
-/

namespace ReadGate

namespace Value

/-! ## Parts -/

/-- The part of a value under a key. -/
def part (v : Value) (key : String) : Except Mishap Value :=
  match v with
  | record fields =>
    match Row.get? fields key with
    | some w => .ok w
    | none => .error (.missingKey key)
  | text _ | halves _ => .error .textIndex
  | list _ => .error .listIndex
  | v => .error (.notSubscriptable v.fullKind)

/-- The part of a record under a key, or null if the record lacks it. -/
def member (v : Value) (key : String) : Except Mishap Value :=
  match v with
  | record fields => .ok ((Row.get? fields key).getD null)
  | v => .error (.noMember v.fullKind "get")

/-- The items of a value one by one: those of a list, the keys of a record, the characters of a
text, the numbers of bytes. -/
def items (v : Value) : Except Mishap (List Value) :=
  match v with
  | list vs => .ok vs
  | tuple vs => .ok vs
  | record fields => .ok (fields.map fun p => text p.1)
  | text s => .ok (s.toList.map fun c => text (String.ofList [c]))
  | halves codes => .ok (codes.map fun code => Json.stringValue [code])
  | bytes bs => .ok (bs.map fun b => int b.toNat)
  | buffer bs _ => .ok (bs.map fun b => int b.toNat)
  | v => .error (.notIterable v.fullKind)

/-- The items of a value; an absent one has none. -/
def itemsOrNone (v : Value) : Except Mishap (List Value) :=
  if v.isVoid then .ok [] else v.items

/-! ## Integers -/

/-- The integer part of a decimal. -/
def truncateDecimal (d : Decimal) : Except Mishap Int :=
  match d with
  | .finite negative c e => .ok (Decimal.signed negative (Decimal.wholePart c e))
  | .undefined .. => .error (.undefinedInteger true)
  | .infinite _ => .error (.infiniteInteger true)

/-- The integer that a value counts as: numbers lose their fraction, and texts are read. -/
def toInteger (v : Value) : Except Mishap Int :=
  match v with
  | int n => .ok n
  | bool b => .ok (if b then 1 else 0)
  | float (.nan _) => .error (.undefinedInteger false)
  | float (.infinite _) => .error (.infiniteInteger false)
  | float x => .ok x.truncate
  | text s => (Numeral.readInt s).mapError .numeral
  | halves codes => (Numeral.readWide (.ofCodes codes)).mapError .numeral
  | bytes bs => (Numeral.readIntBytes bs).mapError .numeral
  | buffer bs _ => (Numeral.readIntBytes bs).mapError .numeral
  | decimal d => truncateDecimal d
  | uuid u => .ok u.value
  | v => .error (.notNumeric v.fullKind)

/-! ## Driver values -/

/-- The JSON scalar that a value becomes. -/
def toScalar (v : Value) : Except Mishap Value :=
  match v with
  | null => .ok null
  | bool b => .ok (bool b)
  | int n => .ok (int n)
  | float x => .ok (float x)
  | text s => .ok (text s)
  | halves codes => .ok (halves codes)
  | decimal (.undefined _ true _) => .error .signaling
  | decimal d => .ok (float d.toBinary64)
  | moment m => .ok (text m.isoText)
  | bytes bs => .ok (text (Text.hexBytes bs))
  | buffer bs _ => .ok (text (Text.hexBytes bs))
  | v => (v.display.mapError .numeral).map ofWide

/-- A cell of a row: lists and records stay, all else becomes a scalar. -/
def toCell (v : Value) : Except Mishap Value :=
  match v with
  | list items => .ok (list items)
  | record fields => .ok (record fields)
  | v => v.toScalar

end Value

/-- The row that a record becomes. -/
def toRow : Row → Except Mishap Row
  | [] => .ok []
  | (column, v) :: rest => do
    let cell ← v.toCell
    return (column, cell) :: (← toRow rest)

/-- The row that a value becomes, which has to be a record. -/
def rowOfValue (v : Value) : Except Mishap Row :=
  match v with
  | .record fields => toRow fields
  | v => .error (.noMember v.fullKind "items")

/-! ## Results of execution functions -/

/-- The column of a result that is not a record. -/
def valueColumn : String := "value"

/-- The rows in the result of an execution function: one for each item of a list, none for null and
one for anything else.  `item` makes the cell of an item that is not a record. -/
def rowsOfResult (item : Value → Except Mishap Value) (v : Value) : Except Mishap (List Row) :=
  match v with
  | .null => .ok []
  | .list items => items.mapM fun v =>
    match v with
    | .record fields => toRow fields
    | v => return [(valueColumn, ← item v)]
  | .record fields => return [← toRow fields]
  | v => return [[(valueColumn, ← v.toScalar)]]

end ReadGate
