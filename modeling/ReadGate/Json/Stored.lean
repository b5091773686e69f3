import ReadGate.Value.Basic

/-!
# Values after storage

What is read back from a document to which a value was written: tuples have become lists, and there
is only one undefined number.

* `Json.stored` is the value read back, or the kind of the first value that no document holds.
-/

namespace ReadGate.Json

mutual
/-- The value that is read back after the given one was written. -/
def stored : Value → Except String Value
  | .float (.nan _) => .ok (.float (.nan true))
  | .list items => (storedItems items).map .list
  | .tuple items => (storedItems items).map .list
  | .record fields => (storedFields fields).map .record
  | .null => .ok .null
  | .bool b => .ok (.bool b)
  | .int n => .ok (.int n)
  | .float x => .ok (.float x)
  | .text s => .ok (.text s)
  | .halves codes => .ok (.halves codes)
  | v => .error v.kind

/-- The items that are read back. -/
def storedItems : List Value → Except String (List Value)
  | [] => .ok []
  | v :: rest => do return (← stored v) :: (← storedItems rest)

/-- The fields that are read back. -/
def storedFields : List (String × Value) → Except String (List (String × Value))
  | [] => .ok []
  | (name, v) :: rest => do return (name, ← stored v) :: (← storedFields rest)
end

end ReadGate.Json
