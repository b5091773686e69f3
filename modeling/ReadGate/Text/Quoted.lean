import ReadGate.Text.Printable
import ReadGate.Text.Wide

/-!
# Quoted text

The form in which a text or a byte string is shown inside other output: between quotes, with
escapes for whatever does not print.  Single quotes are used unless the text holds single quotes and
no double ones; the quote in use and the backslash are escaped by a backslash.
-/

namespace ReadGate.Text

/-- The digit that stands for a number below sixteen. -/
def hexDigit (n : Nat) : Char :=
  Char.ofNat (if n % 16 < 10 then 48 + n % 16 else 87 + n % 16)

/-- A number in hexadecimal, in the given number of places. -/
def hexPlaces : Nat → Nat → List Char
  | 0, _ => []
  | places + 1, n => hexPlaces places (n / 16) ++ [hexDigit n]

/-- The quote that encloses the characters. -/
def quoteFor (cs : List Char) : Char :=
  if cs.contains '\'' && !cs.contains '"' then '"' else '\''

/-- The escape of a code point, as short as its size allows. -/
def codeEscape (code : Nat) : List Char :=
  if code < 0x100 then '\\' :: 'x' :: hexPlaces 2 code
  else if code < 0x10000 then '\\' :: 'u' :: hexPlaces 4 code
  else '\\' :: 'U' :: hexPlaces 8 code

/-- One character between quotes. -/
def quoteChar (quote c : Char) : List Char :=
  if c = quote || c = '\\' then ['\\', c]
  else if c = '\n' then ['\\', 'n']
  else if c = '\t' then ['\\', 't']
  else if c = '\r' then ['\\', 'r']
  else if isPrintable c then [c]
  else codeEscape c.toNat

/-- The characters between quotes. -/
def quoteChars (cs : List Char) : List Char :=
  let quote := quoteFor cs
  quote :: cs.flatMap (quoteChar quote) ++ [quote]

/-- The text between quotes. -/
def quoted (s : String) : String :=
  String.ofList (quoteChars s.toList)

/-- One code between quotes: a half of a surrogate pair is escaped. -/
def quoteCode (quote : Char) (code : Nat) : List Char :=
  if isHalf code then codeEscape code else quoteChar quote (Char.ofNat code)

/-- The codes of a text between quotes. -/
def quotedCodes (codes : List Nat) : String :=
  let quote := quoteFor (codes.map charOfCode)
  String.ofList (quote :: codes.flatMap (quoteCode quote) ++ [quote])

/-- A wide text between quotes. -/
def quotedWide : WideText → String
  | .whole s => quoted s
  | .broken codes _ => quotedCodes codes

/-- One byte between quotes: bytes beyond ASCII are always escaped. -/
def quoteByte (quote : Char) (b : UInt8) : List Char :=
  if b.toNat < 0x80 then quoteChar quote (Char.ofNat b.toNat) else codeEscape b.toNat

/-- A byte string between quotes, with the letter that marks it. -/
def quotedBytes (bytes : List UInt8) : String :=
  let quote := quoteFor (bytes.map fun b => Char.ofNat b.toNat)
  String.ofList ('b' :: quote :: bytes.flatMap (quoteByte quote) ++ [quote])

/-- A byte string in hexadecimal. -/
def hexBytes (bytes : List UInt8) : String :=
  String.ofList (bytes.flatMap fun b => hexPlaces 2 b.toNat)

end ReadGate.Text
