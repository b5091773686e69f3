import ReadGate.Audit.Entry
import ReadGate.Json.Reader
import ReadGate.Text.Lines

/-!
# The audit journal

A journal is a text to which entries are only ever added, one line each.  Reading gives the latest
entries first.

* `Journal.record` adds an entry, or leaves the journal as it is.
* `Journal.read` reads the entries back.
-/

namespace ReadGate

/-- The text of a journal; nothing has been written yet if there is none. -/
structure Journal where
  text : Option String
  deriving DecidableEq, Repr

namespace Journal

/-- A journal that nothing was written to. -/
def empty : Journal := ⟨none⟩

/-- Adds text at the end. -/
def append (j : Journal) (text : String) : Journal :=
  ⟨some (j.text.getD "" ++ text)⟩

/-- Adds the entry of a call, unless its parts do not fit. -/
def record (maxChars : Int) (now : Moment) (a : AuditArguments) (j : Journal) :
    Except Mishap AuditEntry × Journal :=
  match AuditEntry.make maxChars now a with
  | .ok entry => (.ok entry, j.append (entry.line ++ "\n"))
  | .error m => (.error m, j)

/-- A sink that adds to a journal. -/
def sink (maxChars : Int) (now : Moment) (durationMs : Int) : Sink Journal := fun report j =>
  match record maxChars now (AuditEntry.argumentsOf report durationMs) j with
  | (.ok _, j) => (.ok (), j)
  | (.error m, j) => (.error m.message, j)

/-! ## Reading -/

/-- The entry on a line. -/
def entryOf (line : String) : Checked AuditEntry :=
  match Json.read Json.strict line with
  | .ok v => Record.model Record.auditEntry v
  | .error _ => Checked.fail .jsonInvalid

/-- The entries on lines, in order; the first line that holds none ends the reading. -/
def entriesOf : List String → Checked (List AuditEntry)
  | [] => .ok []
  | line :: rest => do
    let entry ← entryOf line
    return entry :: (← entriesOf rest)

/-- How many entries are read, unless told otherwise. -/
def defaultLimit : Int := 100

/-- The latest entries with the given id, or with any, the latest first. -/
def read (j : Journal) (id : Option String) (limit : Int) : Except Mishap (List AuditEntry) := do
  let lines := (Text.fileLines (j.text.getD "")).filter fun line => !Text.isBlankText line
  let entries ← (entriesOf lines).mapError .invalid
  let wanted := entries.filter fun e => id.all fun id => e.correlationId == id
  return Text.cutList wanted.reverse limit

end Journal

end ReadGate
