import ReadGate.Number.Binary64
import ReadGate.Text.Blank
import ReadGate.Text.Digit
import ReadGate.Text.Quoted
import ReadGate.Text.Trim

/-!
# Numbers in texts

Settings and headers write numbers with the decimal digits of any script, with white space around
them and with single underscores between digits.  An integer may have at most 4300 digits, when it
is read and when it is written.

* `readInt`, `readFloat` read numbers; `IsShort` says which integers are written, by `writeInt`.
-/

namespace ReadGate

open Text

/-- Why a text is not a number. -/
inductive NumeralError
  /-- The text is not an integer. -/
  | notInteger (text : WideText)
  /-- The bytes are not the digits of an integer. -/
  | notIntegerBytes (bytes : List UInt8)
  /-- The integer has more digits than are read. -/
  | tooManyDigits (count : Nat)
  /-- The integer has more digits than are written. -/
  | unwritable
  /-- The text is not a floating-point number. -/
  | notFloat (text : String)
  deriving DecidableEq, Repr

/-- The greatest number of digits of an integer. -/
def maxDigits : Nat := 4300

/-- How many characters an error shows of a text that is not an integer, its quotes counted. -/
def shownChars : Nat := 200

/-- The wording of a numeral error. -/
def NumeralError.message : NumeralError → String
  | .notInteger text =>
    "invalid literal for int() with base 10: " ++ first shownChars (quotedWide text)
  | .notIntegerBytes bytes =>
    "invalid literal for int() with base 10: " ++ first shownChars (quotedBytes bytes)
  | .tooManyDigits count =>
    s!"Exceeds the limit ({maxDigits} digits) for integer string conversion: value has {count} " ++
      "digits; use sys.set_int_max_str_digits() to increase the limit"
  | .unwritable =>
    s!"Exceeds the limit ({maxDigits} digits) for integer string conversion; " ++
      "use sys.set_int_max_str_digits() to increase the limit"
  | .notFloat text => "could not convert string to float: " ++ quoted text

namespace Numeral

/-! ## Digits -/

/-- White space that may surround a number: the information separators do not count. -/
def isPadding (c : Char) : Bool :=
  isBlank c && !(0x1C ≤ c.toNat && c.toNat ≤ 0x1F)

/-- Can the character stand in a run of digits? -/
def isDigitOrBreak (c : Char) : Bool :=
  isDigit c || c == '_'

/-- The values of digits with single underscores between them. -/
def digitGroups? : List Char → Option (List Nat)
  | [] => none
  | [c] => (digitValue? c).map ([·])
  | c :: d :: rest =>
    match digitValue? c with
    | none => none
    | some v => (if d = '_' then digitGroups? rest else digitGroups? (d :: rest)).map (v :: ·)

/-- The number that digits write, the most significant first. -/
def ofDigits (ds : List Nat) : Nat :=
  ds.foldl (fun n d => 10 * n + d) 0

/-- Splits off a sign; the flag says whether it is a minus. -/
def splitSign : List Char → Bool × List Char
  | '-' :: rest => (true, rest)
  | '+' :: rest => (false, rest)
  | cs => (false, cs)

/-! ## Integers -/

/-- The integer that digits write, if there are not too many of them. -/
def natOfDigits (ds : List Nat) : Except NumeralError Nat :=
  if maxDigits < ds.length then .error (.tooManyDigits ds.length) else .ok (ofDigits ds)

/-- Reads an integer. -/
def readInt (s : String) : Except NumeralError Int :=
  let (negative, cs) := splitSign (s.toList.dropWhile isPadding)
  match digitGroups? (cs.takeWhile isDigitOrBreak) with
  | none => .error (.notInteger s)
  | some ds => do
    let n ← natOfDigits ds
    if (cs.dropWhile isDigitOrBreak).all isPadding then
      .ok (if negative then -(n : Int) else n)
    else .error (.notInteger s)

/-- Reads an integer from a wide text.  A half of a surrogate pair is no digit and no space. -/
def readWide (t : WideText) : Except NumeralError Int :=
  (readInt t.plain).mapError fun
    | .notInteger _ => .notInteger t
    | e => e

/-- Reads an integer from the bytes of its ASCII digits. -/
def readIntBytes (bytes : List UInt8) : Except NumeralError Int :=
  if bytes.all (· < 0x80) then
    match readInt (String.ofList (bytes.map fun b => Char.ofNat b.toNat)) with
    | .error (.notInteger _) => .error (.notIntegerBytes bytes)
    | result => result
  else .error (.notIntegerBytes bytes)

/-- The number is written with no more digits than are read. -/
def IsShort (n : Nat) : Prop :=
  (toString n).length ≤ maxDigits

instance : DecidablePred IsShort :=
  fun n => inferInstanceAs (Decidable ((toString n).length ≤ maxDigits))

/-- The text of an integer. -/
def writeInt (n : Int) : Except NumeralError String :=
  if IsShort n.natAbs then .ok (toString n) else .error .unwritable

/-! ## Floating-point numbers -/

/-- Digits that may be absent: no digits at all, or a run of them. -/
def optionalDigits? (cs : List Char) : Option (List Nat) :=
  if cs.isEmpty then some [] else digitGroups? cs

/-- The exponent part of a number; its absence means exponent zero. -/
def exponent? : List Char → Option Int
  | [] => some 0
  | c :: rest =>
    if c.toLower = 'e' then
      let (negative, ds) := splitSign rest
      (digitGroups? ds).map fun v =>
        if negative then -(ofDigits v : Int) else ofDigits v
    else none

/-- A number without its sign. -/
def unsignedFloat? (negative : Bool) (cs : List Char) : Option Binary64 :=
  let word := String.ofList (cs.map Char.toLower)
  if word = "inf" || word = "infinity" then some (.infinite negative)
  else if word = "nan" then some (.nan false)
  else do
    let whole ← optionalDigits? (cs.takeWhile isDigitOrBreak)
    let rest := cs.dropWhile isDigitOrBreak
    let (fraction, rest) ← match rest with
      | '.' :: tail =>
        (optionalDigits? (tail.takeWhile isDigitOrBreak)).map
          fun ds => (ds, tail.dropWhile isDigitOrBreak)
      | _ => some ([], rest)
    if whole.isEmpty && fraction.isEmpty then none else
    let e ← exponent? rest
    return .ofDecimal negative (ofDigits (whole ++ fraction)) (e - fraction.length)

/-- Reads a floating-point number. -/
def readFloat (s : String) : Except NumeralError Binary64 :=
  let cs := s.toList.dropWhile isPadding
  let cs := (cs.reverse.dropWhile isPadding).reverse
  let (negative, body) := splitSign cs
  match unsignedFloat? negative body with
  | some x => .ok x
  | none => .error (.notFloat s)

end ReadGate.Numeral
