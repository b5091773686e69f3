import ReadGate.Number.Shortest
import ReadGate.Value.Basic

/-!
# The text of a value

A value has two texts: the plain one, in which a text stands for itself, and the one used inside
brackets, in which texts are quoted and driver values say what they are.  A value that holds an
integer with too many digits has neither.

* `isWritable` — the values that have a text.
* `display` — the plain text, or the error of writing it; `plain` and `shown` write both texts with
  all digits, for values that are known to have them.
-/

namespace ReadGate

/-- The identifier in its five groups. -/
def Uuid.text (u : Uuid) : String :=
  let ds := Text.hexPlaces 32 u.value
  let part (start count : Nat) : String := String.ofList ((ds.drop start).take count)
  part 0 8 ++ "-" ++ part 8 4 ++ "-" ++ part 12 4 ++ "-" ++ part 16 4 ++ "-" ++ part 20 12

/-- Texts with a separator between them. -/
def joined (separator : String) : List String → String
  | [] => ""
  | [s] => s
  | s :: rest => s ++ separator ++ joined separator rest

/-- The date as a call that makes it. -/
def Date.shown (d : Date) : String :=
  s!"datetime.date({d.year}, {d.month}, {d.day})"

/-- Second and microsecond of a clock, as far as they are not zero. -/
def Time.shownTail (t : Time) : List String :=
  if t.micro ≠ 0 then [s!"{t.second}", s!"{t.micro}"]
  else if t.second ≠ 0 then [s!"{t.second}"] else []

/-- The time of day as a call that makes it. -/
def Time.shown (t : Time) : String :=
  "datetime.time(" ++ joined ", " ([s!"{t.hour}", s!"{t.minute}"] ++ t.shownTail) ++ ")"

/-- The span as a call that makes it. -/
def Span.shown (s : Span) : String :=
  let parts := (if s.days = 0 then [] else [s!"days={s.days}"]) ++
    (if s.seconds = 0 then [] else [s!"seconds={s.seconds}"]) ++
    (if s.micro = 0 then [] else [s!"microseconds={s.micro}"])
  "datetime.timedelta(" ++ (if parts.isEmpty then "0" else joined ", " parts) ++ ")"

/-- The moment as a call that makes it. -/
def Moment.shown (m : Moment) : String :=
  let zone := match m.offset with
    | none => []
    | some 0 => ["tzinfo=datetime.timezone.utc"]
    | some offset => ["tzinfo=datetime.timezone(" ++ Span.shown ⟨offset * 1000000⟩ ++ ")"]
  "datetime.datetime(" ++ joined ", " ([s!"{m.date.year}", s!"{m.date.month}", s!"{m.date.day}",
    s!"{m.time.hour}", s!"{m.time.minute}"] ++ m.time.shownTail ++ zone) ++ ")"

namespace Value

mutual
/-- The text of a value inside brackets. -/
def shown : Value → String
  | null => "None"
  | bool b => if b then "True" else "False"
  | int n => toString n
  | float x => x.text
  | text s => Text.quoted s
  | halves codes => Text.quotedCodes codes
  | list items => "[" ++ joined ", " (shownItems items) ++ "]"
  | record fields => "\x7b" ++ joined ", " (shownFields fields) ++ "\x7d"
  | tuple [] => "()"
  | tuple [item] => "(" ++ shown item ++ ",)"
  | tuple items => "(" ++ joined ", " (shownItems items) ++ ")"
  | decimal d => "Decimal('" ++ d.text ++ "')"
  | bytes bs => Text.quotedBytes bs
  | buffer _ address => "<memory at 0x" ++ String.ofList (Nat.toDigits 16 address) ++ ">"
  | uuid u => "UUID('" ++ u.text ++ "')"
  | date d => d.shown
  | time t => t.shown
  | moment m => m.shown
  | span s => s.shown

/-- The texts of list items. -/
def shownItems : List Value → List String
  | [] => []
  | v :: rest => shown v :: shownItems rest

/-- The texts of fields. -/
def shownFields : List (String × Value) → List String
  | [] => []
  | (k, v) :: rest => (Text.quoted k ++ ": " ++ shown v) :: shownFields rest
end

/-- The plain text of a value, with the replacement character for each half of a surrogate pair that
stands alone in it. -/
def plain : Value → String
  | text s => s
  | halves codes => Text.ofCodes codes
  | decimal d => d.text
  | uuid u => u.text
  | date d => d.text
  | time t => t.text
  | moment m => m.textWith " "
  | span s => s.text
  | v => v.shown

/-- The plain text of a value as it is. -/
def wide : Value → WideText
  | halves codes => .ofCodes codes
  | v => .whole v.plain

mutual
/-- Are all integers in the value short enough to be written? -/
def isWritable : Value → Bool
  | int n => decide (Numeral.IsShort n.natAbs)
  | list items => allWritable items
  | tuple items => allWritable items
  | record fields => allWritableFields fields
  | _ => true

/-- Can all items be written? -/
def allWritable : List Value → Bool
  | [] => true
  | v :: rest => isWritable v && allWritable rest

/-- Can the values of all fields be written? -/
def allWritableFields : List (String × Value) → Bool
  | [] => true
  | (_, v) :: rest => isWritable v && allWritableFields rest
end

/-- The plain text of a value, if it can be written. -/
def display (v : Value) : Except NumeralError WideText :=
  if v.isWritable then .ok v.wide else .error .unwritable

end Value

end ReadGate
