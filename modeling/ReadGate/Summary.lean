import ReadGate.Decoding
import ReadGate.Value.Order

/-!
# Summaries of rows

Rows can be shown as plain text, record by record.  The fields that a reader must not see are masked
first, so that the text does not depend on their values.

* `mask` hides fields, `summary` writes the text.
* `fieldNames` reads the names of the fields to hide.
-/

namespace ReadGate.Summary

/-! ## Masking -/

/-- What stands in place of a hidden value. -/
def maskText : String := "***"

/-- A row with the given fields hidden. -/
def maskRow (hidden : List String) (row : Row) : Row :=
  row.map fun cell => (cell.1, if hidden.contains cell.1 then .text maskText else cell.2)

/-- Rows with the given fields hidden. -/
def mask (hidden : List String) (rows : List Row) : List Row :=
  rows.map (maskRow hidden)

/-- The name that a value gives to a field, if it is a text. -/
def nameOf? : Value → Option String
  | .text s => some s
  | _ => none

/-- The names of fields in a value, which is a list or anything else with items. -/
def fieldNames (v : Value) : Except Mishap (List String) := do
  let items ← v.items
  match items.findSome? Value.unhashable? with
  | some kind => .error (.unhashable kind)
  | none => return items.filterMap nameOf?

/-! ## The text -/

/-- How many characters a summary has at most. -/
def maxChars : Nat := 2000

/-- The text of a cell: containers are only named. -/
def cellText : Value → Except NumeralError WideText
  | .list items => .ok s!"[Array with {items.length} items]"
  | .record _ => .ok "\x7bObject\x7d"
  | v => v.display

/-- The line of a cell. -/
def cellLine (cell : String × Value) : Except NumeralError WideText := do
  let text ← cellText cell.2
  return .whole s!"  {cell.1}: " ++ text

/-- The lines of a record. -/
def recordLines (number : Nat) (row : Row) : Except NumeralError (List WideText) := do
  let lines ← row.mapM cellLine
  return .whole s!"Record {number}:" :: lines ++ [.whole ""]

/-- The lines of records that are numbered from the given number. -/
def recordsFrom (number : Nat) : List Row → Except NumeralError (List WideText)
  | [] => .ok []
  | row :: rest => do return (← recordLines number row) ++ (← recordsFrom (number + 1) rest)

/-- A text, cut to the greatest length of a summary. -/
def limited (text : WideText) : WideText :=
  if maxChars < text.size then text.first maxChars ++ .whole "\n... (truncated)" else text

/-- The summary of rows with the given fields hidden, if what is shown of them can be written. -/
def summary (hidden : List String) (rows : List Row) : Except NumeralError WideText :=
  if rows.isEmpty then .ok "No data found for your query."
  else do
    let lines ← recordsFrom 1 (mask hidden rows)
    return limited (.joined "\n" (.whole s!"Found {rows.length} record(s):" :: .whole "" :: lines))

/-- The summary of rows with fields hidden that a value names; without rows, it is not read. -/
def summaryFor (hidden : Value) (rows : List Row) : Except Mishap WideText :=
  if rows.isEmpty then (summary [] rows).mapError .numeral
  else do (summary (← fieldNames hidden) rows).mapError .numeral

end ReadGate.Summary
