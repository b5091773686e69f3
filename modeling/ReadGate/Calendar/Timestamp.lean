import ReadGate.Json.Reader
import ReadGate.Record

/-!
# Reading timestamps

A timestamp is a date and a time with an optional offset, a date alone, or a number of seconds since
1970, which counts as milliseconds when it is too large for seconds.  The year 0 can be read, but
there are no moments in it.
-/

namespace ReadGate

/-! ## Calendar arithmetic -/

/-- Is there a 29th of February? -/
def isLeapYear (year : Nat) : Bool :=
  year % 4 = 0 && (year % 100 ≠ 0 || year % 400 = 0)

/-- How many days a month has. -/
def monthDays (year month : Nat) : Nat :=
  if month = 2 then (if isLeapYear year then 29 else 28)
  else if month = 4 || month = 6 || month = 9 || month = 11 then 30 else 31

/-- The date of a day count, where day 0 is the first of March of the year 0. -/
def dateOfMarchDay (day : Nat) : Date :=
  let era := day / 146097
  let dayOfEra := day % 146097
  let yearOfEra := (dayOfEra - dayOfEra / 1460 + dayOfEra / 36524 - dayOfEra / 146096) / 365
  let dayOfYear := dayOfEra - (365 * yearOfEra + yearOfEra / 4 - yearOfEra / 100)
  let shifted := (5 * dayOfYear + 2) / 153
  let month := if shifted < 10 then shifted + 3 else shifted - 9
  let year := yearOfEra + era * 400 + (if month ≤ 2 then 1 else 0)
  ⟨year, month, dayOfYear - (153 * shifted + 2) / 5 + 1⟩

/-- The time of day after so many seconds. -/
def Time.ofSeconds (seconds micro : Nat) : Time :=
  ⟨seconds / 3600, seconds / 60 % 60, seconds % 60, micro⟩

namespace Moment

/-- The moment so many seconds after the start of 1970, on the clock of UTC, for a moment that is
not before the year 1. -/
def ofSeconds (seconds : Int) (micro : Nat) : Moment :=
  ⟨dateOfMarchDay (719468 + seconds.fdiv 86400).toNat,
    .ofSeconds (seconds.fmod 86400).toNat micro, some 0⟩

end Moment

namespace Timestamp

/-! ## Numbers -/

/-- The greatest number that counts as seconds. -/
def maxSeconds : Int := 20000000000

/-- The first second of the year 0. -/
def firstSecond : Int := -62167219200

/-- The last second of the year 9999. -/
def lastSecond : Int := 253402300799

/-- The moment of a number of seconds with further microseconds. -/
def ofSeconds? (seconds : Int) (micro : Nat) : Option Moment :=
  if firstSecond ≤ seconds && seconds ≤ lastSecond then some (.ofSeconds seconds micro) else none

/-- The moment of an integer of seconds or milliseconds. -/
def ofInt? (number : Int) : Option Moment :=
  if number.natAbs ≤ maxSeconds.natAbs then ofSeconds? number 0
  else ofSeconds? (number.fdiv 1000) ((number.fmod 1000).toNat * 1000)

/-- A quotient rounded to the nearest natural number, a half going up. -/
def roundHalfUp (num den : Nat) : Nat :=
  (2 * num + den) / (2 * den)

/-- The microseconds in a fraction of a second, which is rounded to a double-precision number before
and after it is scaled. -/
def microsOf (num den : Nat) : Nat :=
  match (Binary64.ofQuotient num den).ratio? with
  | some (n, d) =>
    match (Binary64.ofQuotient (n * 1000000) d).ratio? with
    | some (n, d) => roundHalfUp n.toNat d
    | none => 0
  | none => 0

/-- The moment of an exact number of seconds: its whole part, rounded down, and the microseconds of
its fraction. -/
def ofRatio? (num : Int) (den : Nat) : Option Moment :=
  let micro := microsOf (num.fmod den).toNat den
  ofSeconds? (num.fdiv den + (micro / 1000000 : Nat)) (micro % 1000000)

/-- The moment of a floating-point number of seconds or milliseconds. -/
def ofFloat? (x : Binary64) : Option Moment :=
  match x.ratio? with
  | some (n, d) =>
    if n.natAbs ≤ maxSeconds.natAbs * d then ofRatio? n d
    else
      match (Binary64.ofQuotient n (d * 1000)).ratio? with
      | some (n, d) => ofRatio? n d
      | none => none
  | none => none

/-! ## Text -/

/-- The number that two digits write. -/
def twoDigits? (a b : Char) : Option Nat :=
  if a.isDigit && b.isDigit then some ((a.toNat - 48) * 10 + (b.toNat - 48)) else none

/-- A date at the start of a text, and the rest. -/
def datePart? : List Char → Option (Date × List Char)
  | a :: b :: c :: d :: '-' :: e :: f :: '-' :: g :: h :: rest => do
    let year := (← twoDigits? a b) * 100 + (← twoDigits? c d)
    let month ← twoDigits? e f
    let day ← twoDigits? g h
    if 1 ≤ month && month ≤ 12 && 1 ≤ day && day ≤ monthDays year month then
      some (⟨year, month, day⟩, rest)
    else none
  | _ => none

/-- The microseconds that the digits of a fraction write; digits beyond the sixth are dropped. -/
def microOf (digits : List Char) : Nat :=
  Numeral.ofDigits (((digits ++ List.replicate 6 '0').take 6).map fun c => c.toNat - 48)

/-- The fraction of a second at the start of a text, if any, and the rest. -/
def fractionPart? : List Char → Option (Nat × List Char)
  | c :: rest =>
    if c = '.' || c = ',' then
      let digits := rest.takeWhile Char.isDigit
      if digits.isEmpty then none else some (microOf digits, rest.dropWhile Char.isDigit)
    else some (0, c :: rest)
  | [] => some (0, [])

/-- A second with its fraction at the start of a text, if any, and the rest. -/
def secondPart? : List Char → Option (Nat × Nat × List Char)
  | ':' :: a :: b :: rest => do
    let second ← twoDigits? a b
    let (micro, rest) ← fractionPart? rest
    if second < 60 then some (second, micro, rest) else none
  | ':' :: _ => none
  | rest => some (0, 0, rest)

/-- A time of day at the start of a text, and the rest. -/
def timePart? : List Char → Option (Time × List Char)
  | a :: b :: ':' :: c :: d :: rest => do
    let hour ← twoDigits? a b
    let minute ← twoDigits? c d
    let (second, micro, rest) ← secondPart? rest
    if hour < 24 && minute < 60 then some (⟨hour, minute, second, micro⟩, rest) else none
  | _ => none

/-- Hours and minutes of an offset, in seconds. -/
def offsetSeconds? : List Char → Option Nat
  | [a, b, ':', c, d] | [a, b, c, d] => do
    let hour ← twoDigits? a b
    let minute ← twoDigits? c d
    if hour < 24 && minute < 60 then some (hour * 3600 + minute * 60) else none
  | _ => none

/-- The offset that ends a text, if any. -/
def offsetPart? : List Char → Option (Option Int)
  | [] => some none
  | ['Z'] | ['z'] => some (some 0)
  | '+' :: rest => (offsetSeconds? rest).map fun n => some n
  | '-' :: rest | '\u2212' :: rest => (offsetSeconds? rest).map fun n => some (-(n : Int))
  | _ => none

/-- May the character stand between date and time? -/
def isSeparator (c : Char) : Bool :=
  c == 'T' || c == 't' || c == ' ' || c == '_'

/-- A date and a time, or a date alone. -/
def calendarText? (cs : List Char) : Option Moment := do
  let (date, rest) ← datePart? cs
  match rest with
  | [] => some ⟨date, ⟨0, 0, 0, 0⟩, none⟩
  | c :: rest =>
    if isSeparator c then
      let (time, rest) ← timePart? rest
      return ⟨date, time, ← offsetPart? rest⟩
    else none

/-- The integer that ASCII digits write, with or without a sign. -/
def intText? (cs : List Char) : Option Int :=
  let (negative, digits) := Numeral.splitSign cs
  if digits.isEmpty || !digits.all Char.isDigit then none
  else
    let n := Numeral.ofDigits (digits.map fun c => c.toNat - 48)
    some (if negative then -(n : Int) else n)

/-- The floating-point number that a text writes as documents do. -/
def floatText? (cs : List Char) : Option Binary64 :=
  match Json.signedNumber? cs with
  | some (.ok (.float x, [])) => some x
  | _ => none

/-- The moment of a number that is written as a text. -/
def numberText? (cs : List Char) : Option Moment :=
  match intText? cs with
  | some n => if Record.isWord n then ofInt? n else none
  | none => (floatText? cs).bind ofFloat?

/-- Reads a timestamp from a text. -/
def ofText? (s : String) : Option Moment :=
  (calendarText? s.toList).or (numberText? s.toList)

end Timestamp

/-- A timestamp. -/
def Record.timestamp (v : Value) : Checked Moment :=
  let found (m : Option Moment) (kind : IssueKind) : Checked Moment :=
    match m with
    | some m => if m.date.year = 0 then Checked.fail .datetimeParsing else .ok m
    | none => Checked.fail kind
  match v with
  | .text s => found (Timestamp.ofText? s) .datetimeFromDateParsing
  | .int n =>
    if isWord n then found (Timestamp.ofInt? n) .datetimeParsing else Checked.fail .datetimeType
  | .float x => found (Timestamp.ofFloat? x) .datetimeParsing
  | _ => Checked.fail .datetimeType

end ReadGate
