/-!
# Calendar values

Dates, times of day, moments and spans of time, in the forms in which a database driver delivers
them, with their ISO 8601 text.
-/

namespace ReadGate

/-- A day of the proleptic Gregorian calendar. -/
structure Date where
  year : Nat
  month : Nat
  day : Nat
  deriving DecidableEq, Repr

/-- A time of day, to the microsecond. -/
structure Time where
  hour : Nat
  minute : Nat
  second : Nat
  micro : Nat
  deriving DecidableEq, Repr

/-- A date and time; the offset from UTC is in seconds, and absent when the clock is not stated. -/
structure Moment where
  date : Date
  time : Time
  offset : Option Int
  deriving DecidableEq, Repr

/-- A span of time in microseconds. -/
structure Span where
  micros : Int
  deriving DecidableEq, Repr

/-! ## Text -/

/-- A number with at least `width` digits. -/
def padded (width n : Nat) : String :=
  let ds := Nat.toDigits 10 n
  String.ofList (List.replicate (width - ds.length) '0' ++ ds)

/-- The date as year, month and day. -/
def Date.text (d : Date) : String :=
  padded 4 d.year ++ "-" ++ padded 2 d.month ++ "-" ++ padded 2 d.day

/-- The time of day, with its microseconds only if there are any. -/
def Time.text (t : Time) : String :=
  padded 2 t.hour ++ ":" ++ padded 2 t.minute ++ ":" ++ padded 2 t.second ++
    if t.micro = 0 then "" else "." ++ padded 6 t.micro

/-- An offset from UTC, with its seconds only if there are any. -/
def offsetText (offset : Int) : String :=
  let n := offset.natAbs
  (if offset < 0 then "-" else "+") ++ padded 2 (n / 3600) ++ ":" ++ padded 2 (n / 60 % 60) ++
    if n % 60 = 0 then "" else ":" ++ padded 2 (n % 60)

/-- The moment with the given text between date and time. -/
def Moment.textWith (separator : String) (m : Moment) : String :=
  m.date.text ++ separator ++ m.time.text ++
    match m.offset with
    | some offset => offsetText offset
    | none => ""

/-- The moment in ISO 8601. -/
def Moment.isoText (m : Moment) : String :=
  m.textWith "T"

/-- An offset from UTC in hours and minutes, without its seconds; UTC itself has a letter. -/
def zoneText (offset : Int) : String :=
  if offset = 0 then "Z"
  else
    let n := offset.natAbs / 60
    (if offset < 0 then "-" else "+") ++ padded 2 (n / 60) ++ ":" ++ padded 2 (n % 60)

/-- The moment in ISO 8601, with its zone to the minute. -/
def Moment.zonedText (m : Moment) : String :=
  m.date.text ++ "T" ++ m.time.text ++ (m.offset.map zoneText).getD ""

namespace Span

/-- Whole days, rounded down. -/
def days (s : Span) : Int := s.micros.fdiv 86400000000

/-- Seconds within the last day. -/
def seconds (s : Span) : Nat := (s.micros.fmod 86400000000).toNat / 1000000

/-- Microseconds within the last second. -/
def micro (s : Span) : Nat := (s.micros.fmod 86400000000).toNat % 1000000

/-- The span as days, hours, minutes and seconds. -/
def text (s : Span) : String :=
  let clock := s!"{s.seconds / 3600}:" ++ padded 2 (s.seconds / 60 % 60) ++ ":" ++
    padded 2 (s.seconds % 60) ++ if s.micro = 0 then "" else "." ++ padded 6 s.micro
  if s.days = 0 then clock
  else s!"{s.days} day" ++ (if s.days.natAbs = 1 then "" else "s") ++ ", " ++ clock

/-- An amount with its unit, unless there is none of it. -/
def amountText (amount : Nat) (unit : String) : String :=
  if amount = 0 then "" else s!"{amount}{unit}"

/-- Seconds with the digits of their fraction that count. -/
def secondsText (seconds micros : Nat) : String :=
  if micros = 0 then amountText seconds "S"
  else
    let fraction := ((padded 6 micros).toList.reverse.dropWhile (· == '0')).reverse
    s!"{seconds}." ++ String.ofList fraction ++ "S"

/-- The span in ISO 8601; a year has 365 days. -/
def isoText (s : Span) : String :=
  let n := s.micros.natAbs
  let days := n / 86400000000
  let seconds := n / 1000000 % 86400
  let day := amountText (days / 365) "Y" ++ amountText (days % 365) "D"
  let clock := amountText (seconds / 3600) "H" ++ amountText (seconds / 60 % 60) "M" ++
    secondsText (seconds % 60) (n % 1000000)
  let sign := if s.micros < 0 then "-" else ""
  if n = 0 then "PT0S" else sign ++ "P" ++ day ++ (if clock.isEmpty then "" else "T" ++ clock)

end Span

/-! ## Order -/

/-- A number that grows with the date. -/
def Date.rank (d : Date) : Nat :=
  (d.year * 12 + d.month) * 31 + d.day

/-- Microseconds since midnight. -/
def Time.rank (t : Time) : Nat :=
  ((t.hour * 60 + t.minute) * 60 + t.second) * 1000000 + t.micro

/-- Days since the first day of year 1, which is day 1. -/
def Date.ordinal (d : Date) : Int :=
  let leap := d.year % 4 = 0 && (d.year % 100 ≠ 0 || d.year % 400 = 0)
  let before := [0, 31, 59, 90, 120, 151, 181, 212, 243, 273, 304, 334].getD (d.month - 1) 0
  let y : Int := (d.year : Int) - 1
  y * 365 + y.fdiv 4 - y.fdiv 100 + y.fdiv 400 + before +
    (if leap && 2 < d.month then 1 else 0) + d.day

/-- Microseconds on the clock of UTC, or on the moment's own clock when it states no offset. -/
def Moment.instant (m : Moment) : Int :=
  m.date.ordinal * 86400000000 + m.time.rank - m.offset.getD 0 * 1000000

end ReadGate
