import ReadGate.Text.Surrogate
import ReadGate.Value.Basic

/-!
# Reading JSON

A reader for JSON documents that also accepts `NaN` and the infinities, and that tells where and why
a document is malformed.  Every parsing function takes the characters that are left and gives back
those it did not use, so a place in the document is the number of characters left there.

A dialect says how deep a document may nest and what it may leave incomplete: `lenient` keeps halves
of surrogate pairs that stand alone, `strict` refuses them.

* `Json.read` reads a whole document.
* `Json.ReadError.message` words an error with its line, its column and its offset.
-/

namespace ReadGate.Json

open Text

/-! ## Dialects -/

/-- What a reader accepts. -/
structure Dialect where
  /-- How many lists and objects may enclose each other. -/
  depth : Nat
  /-- Are halves of surrogate pairs refused when they stand alone?  A strict reader also counts the
  sign of a number among its digits, and an empty list or object does not count as nested. -/
  strict : Bool
  deriving DecidableEq, Repr

/-- The dialect of documents in general. -/
def lenient : Dialect := ⟨980, false⟩

/-- The dialect of documents that a service reads while it answers a request. -/
def served : Dialect := ⟨940, false⟩

/-- The dialect of records that are read back. -/
def strict : Dialect := ⟨200, true⟩

/-! ## Errors -/

/-- What was found missing or wrong. -/
inductive Fault
  | value
  | propertyName
  | colon
  | comma
  | extraData
  | unterminated
  | controlCharacter
  | escape
  | unicodeEscape
  | byteOrderMark
  deriving DecidableEq, Repr

/-- What a document nests. -/
inductive Container
  | array
  | object
  deriving DecidableEq, Repr

/-- Why a document cannot be read; `left` counts the characters left at the place of the fault. -/
inductive ReadError
  | malformed (fault : Fault) (left : Nat)
  | numeral (error : NumeralError)
  | tooDeep (container : Container)
  deriving DecidableEq, Repr

/-- The wording of a fault. -/
def Fault.message : Fault → String
  | value => "Expecting value"
  | propertyName => "Expecting property name enclosed in double quotes"
  | colon => "Expecting ':' delimiter"
  | comma => "Expecting ',' delimiter"
  | extraData => "Extra data"
  | unterminated => "Unterminated string starting at"
  | controlCharacter => "Invalid control character at"
  | escape => "Invalid \\escape"
  | unicodeEscape => "Invalid \\uXXXX escape"
  | byteOrderMark => "Unexpected UTF-8 BOM (decode using utf-8-sig)"

/-- The name of a container. -/
def Container.name : Container → String
  | array => "array"
  | object => "object"

/-- The wording for a container that is nested too deep. -/
def Container.tooDeepMessage (c : Container) : String :=
  s!"maximum recursion depth exceeded while decoding a JSON {c.name} from a unicode string"

/-- The line of the character after `before`, counted from one. -/
def lineAfter (before : List Char) : Nat :=
  before.countP (· == '\n') + 1

/-- The column of the character after `before`, counted from one. -/
def columnAfter (before : List Char) : Nat :=
  (before.reverse.takeWhile (· != '\n')).length + 1

/-- The wording of an error in the given document. -/
def ReadError.message (document : String) : ReadError → String
  | .malformed fault left =>
    let cs := document.toList
    let at_ := cs.length - left
    let before := cs.take at_
    s!"{fault.message}: line {lineAfter before} column {columnAfter before} (char {at_})"
  | .numeral error => error.message
  | .tooDeep container => container.tooDeepMessage

/-- A parsing result: what was read, and the characters that are left. -/
abbrev Parsed (α : Type) := Except ReadError (α × List Char)

/-! ## Strings -/

/-- White space between tokens. -/
def isSpace (c : Char) : Bool :=
  c == ' ' || c == '\t' || c == '\n' || c == '\r'

/-- The characters after white space. -/
def skipSpace (cs : List Char) : List Char :=
  cs.dropWhile isSpace

/-- The value of a hexadecimal digit. -/
def hexValue? (c : Char) : Option Nat :=
  if '0' ≤ c && c ≤ '9' then some (c.toNat - 48)
  else if 'a' ≤ c && c ≤ 'f' then some (c.toNat - 87)
  else if 'A' ≤ c && c ≤ 'F' then some (c.toNat - 55)
  else none

/-- The number that four hexadecimal digits write. -/
def hexUnit? (a b c d : Char) : Option Nat := do
  return ((← hexValue? a) * 16 + (← hexValue? b)) * 256 + (← hexValue? c) * 16 + (← hexValue? d)

/-- The character that a backslash and the given character stand for. -/
def escaped? : Char → Option Char
  | '"' => some '"'
  | '\\' => some '\\'
  | '/' => some '/'
  | 'b' => some '\x08'
  | 'f' => some '\x0c'
  | 'n' => some '\n'
  | 'r' => some '\r'
  | 't' => some '\t'
  | _ => none

/-- Puts a code before the codes of a string that was read. -/
def andCode (code : Nat) : Parsed (List Nat) → Parsed (List Nat)
  | .ok (codes, rest) => .ok (code :: codes, rest)
  | .error e => .error e

/-- The codes of a string up to its closing quote; `start` counts the characters left at its opening
quote.  An escaped half of a surrogate pair stays a code of its own. -/
def stringCodes (start : Nat) : List Char → Parsed (List Nat)
  | [] => .error (.malformed .unterminated start)
  | '"' :: rest => .ok ([], rest)
  | ['\\'] => .error (.malformed .unterminated start)
  | '\\' :: 'u' :: a :: b :: c :: d :: rest =>
    match hexUnit? a b c d with
    | some unit =>
      if rest.isEmpty then .error (.malformed .unicodeEscape (rest.length + 5))
      else andCode unit (stringCodes start rest)
    | none => .error (.malformed .unicodeEscape (rest.length + 5))
  | '\\' :: 'u' :: rest => .error (.malformed .unicodeEscape (rest.length + 1))
  | '\\' :: c :: rest =>
    match escaped? c with
    | some e => andCode e.toNat (stringCodes start rest)
    | none => .error (.malformed .escape (rest.length + 2))
  | c :: rest =>
    if c.toNat < 0x20 then .error (.malformed .controlCharacter (rest.length + 1))
    else andCode c.toNat (stringCodes start rest)

/-- The codes of a string after its opening quote, with its characters put together. -/
def string (dialect : Dialect) (cs : List Char) : Parsed (List Nat) :=
  match stringCodes (cs.length + 1) cs with
  | .ok (codes, rest) =>
    if dialect.strict && (joinHalves codes).any isHalf then
      .error (.malformed .unicodeEscape (cs.length + 1))
    else .ok (joinHalves codes, rest)
  | .error e => .error e

/-- The value of a string: a text, unless halves of surrogate pairs stand alone in it. -/
def stringValue (codes : List Nat) : Value :=
  if codes.any isHalf then .halves codes else .text (ofCodes codes)

/-- The codes of the escape of a half that stands alone in a name; other codes are kept. -/
def nameCodes (code : Nat) : List Nat :=
  if isHalf code then ('\\' :: 'u' :: hexPlaces 4 code).map Char.toNat else [code]

/-- The name of a field.  Halves that stand alone in it are written as escapes. -/
def fieldName (name : List Nat) : String :=
  ofCodes (name.flatMap nameCodes)

/-- The value of a field with the given name.  A field whose name has halves that stand alone holds
the codes of the name beside the value, so that whoever shows the field finds that it cannot be
written. -/
def fieldValue (name : List Nat) (v : Value) : Value :=
  if name.any isHalf then .list [.halves name, v] else v

/-! ## Numbers and words -/

/-- Is the character an ASCII digit? -/
def isDecimal (c : Char) : Bool :=
  '0' ≤ c && c ≤ '9'

/-- The number that ASCII digits write. -/
def natOf (ds : List Char) : Nat :=
  Numeral.ofDigits (ds.map fun d => d.toNat - 48)

/-- The whole part of a number: a zero, or digits that do not start with one. -/
def wholePart? : List Char → Option (List Char × List Char)
  | [] => none
  | '0' :: rest => some (['0'], rest)
  | c :: rest =>
    if isDecimal c then some (c :: rest.takeWhile isDecimal, rest.dropWhile isDecimal) else none

/-- The digits after a point, if a point and a digit follow. -/
def fractionPart : List Char → List Char × List Char
  | '.' :: c :: rest =>
    if isDecimal c then (c :: rest.takeWhile isDecimal, rest.dropWhile isDecimal)
    else ([], '.' :: c :: rest)
  | cs => ([], cs)

/-- The exponent, if a complete one follows. -/
def exponentPart (cs : List Char) : Option Int × List Char :=
  match cs with
  | c :: rest =>
    if c = 'e' || c = 'E' then
      let (negative, ds) := Numeral.splitSign rest
      if (ds.takeWhile isDecimal).isEmpty then (none, cs)
      else
        let n := natOf (ds.takeWhile isDecimal)
        (some (if negative then -(n : Int) else n), ds.dropWhile isDecimal)
    else (none, cs)
  | [] => (none, [])

/-- A number without its sign. -/
def unsignedNumber? (negative : Bool) (cs : List Char) : Option (Parsed Value) := do
  let (whole, rest) ← wholePart? cs
  let (fraction, rest) := fractionPart rest
  let (exponent, rest) := exponentPart rest
  if fraction.isEmpty && exponent.isNone then
    match Numeral.natOfDigits (whole.map fun d => d.toNat - 48) with
    | .ok n => some (.ok (.int (if negative then -(n : Int) else n), rest))
    | .error e => some (.error (.numeral e))
  else
    some (.ok (.float (.ofDecimal negative (natOf (whole ++ fraction))
      (exponent.getD 0 - fraction.length)), rest))

/-- A number with or without a sign. -/
def signedNumber? : List Char → Option (Parsed Value)
  | '-' :: rest => unsignedNumber? true rest
  | cs => unsignedNumber? false cs

/-- Does a number start with more characters, sign and whole part together, than are read? -/
def isLongNumber (cs : List Char) : Bool :=
  let (negative, body) := match cs with
    | '-' :: rest => (true, rest)
    | _ => (false, cs)
  maxDigits < (body.takeWhile isDecimal).length + (if negative then 1 else 0)

/-- A number. -/
def number (dialect : Dialect) (cs : List Char) : Parsed Value :=
  if dialect.strict && isLongNumber cs then .error (.malformed .value cs.length)
  else (signedNumber? cs).getD (.error (.malformed .value cs.length))

/-- The words with a meaning of their own. -/
def words : List (List Char × Value) := [
  ("null".toList, .null), ("true".toList, .bool true), ("false".toList, .bool false),
  ("NaN".toList, .float (.nan true)), ("Infinity".toList, .float (.infinite false)),
  ("-Infinity".toList, .float (.infinite true))]

/-- A word or a number. -/
def scalar (dialect : Dialect) (cs : List Char) : Parsed Value :=
  match words.find? (·.1.isPrefixOf cs) with
  | some (word, v) => .ok (v, cs.drop word.length)
  | none => number dialect cs

/-! ## Documents -/

/-- The depth left inside a container, if it may be there. -/
def inside (c : Container) (depth : Nat) : Except ReadError Nat :=
  if depth = 0 then .error (.tooDeep c) else .ok (depth - 1)

/-- The depth left inside an empty container: a strict reader does not count it. -/
def insideEmpty (dialect : Dialect) (c : Container) (depth : Nat) : Except ReadError Unit :=
  if dialect.strict then .ok () else (inside c depth).map fun _ => ()

mutual
/-- A value inside at most `depth` further containers.  The fuel exceeds twice the number of
characters, so it never runs out. -/
def value (dialect : Dialect) : Nat → Nat → List Char → Parsed Value
  | 0, _, cs => .error (.malformed .value cs.length)
  | fuel + 1, depth, cs =>
    match cs with
    | '"' :: rest => (string dialect rest).map fun p => (stringValue p.1, p.2)
    | '\x7b' :: rest =>
      match skipSpace rest with
      | '\x7d' :: rest => (insideEmpty dialect .object depth).map fun _ => (.record [], rest)
      | rest =>
        match inside .object depth with
        | .error e => .error e
        | .ok inner => (fields dialect fuel inner [] rest).map fun p => (.record p.1, p.2)
    | '[' :: rest =>
      match skipSpace rest with
      | ']' :: rest => (insideEmpty dialect .array depth).map fun _ => (.list [], rest)
      | rest =>
        match inside .array depth with
        | .error e => .error e
        | .ok inner => (items dialect fuel inner rest).map fun p => (.list p.1, p.2)
    | _ => scalar dialect cs

/-- The items of a list that is not empty, up to its closing bracket. -/
def items (dialect : Dialect) : Nat → Nat → List Char → Parsed (List Value)
  | 0, _, cs => .error (.malformed .value cs.length)
  | fuel + 1, depth, cs =>
    match value dialect fuel depth cs with
    | .error e => .error e
    | .ok (v, rest) =>
      match skipSpace rest with
      | ']' :: rest => .ok ([v], rest)
      | ',' :: rest => (items dialect fuel depth (skipSpace rest)).map fun p => (v :: p.1, p.2)
      | rest => .error (.malformed .comma rest.length)

/-- The fields of an object that is not empty, up to its closing brace; a repeated name keeps its
first place and its last value. -/
def fields (dialect : Dialect) :
    Nat → Nat → List (String × Value) → List Char → Parsed (List (String × Value))
  | 0, _, _, cs => .error (.malformed .propertyName cs.length)
  | fuel + 1, depth, before, cs =>
    match cs with
    | '"' :: rest =>
      match string dialect rest with
      | .error e => .error e
      | .ok (name, rest) =>
        match skipSpace rest with
        | ':' :: rest =>
          match value dialect fuel depth (skipSpace rest) with
          | .error e => .error e
          | .ok (v, rest) =>
            let before := Row.put before (fieldName name) (fieldValue name v)
            match skipSpace rest with
            | '\x7d' :: rest => .ok (before, rest)
            | ',' :: rest => fields dialect fuel depth before (skipSpace rest)
            | rest => .error (.malformed .comma rest.length)
        | rest => .error (.malformed .colon rest.length)
    | _ => .error (.malformed .propertyName cs.length)
end

/-- Reads a document. -/
def read (dialect : Dialect) (document : String) : Except ReadError Value :=
  let cs := document.toList
  if cs.head? = some '\uFEFF' then .error (.malformed .byteOrderMark cs.length)
  else
    match value dialect (2 * cs.length + 2) dialect.depth (skipSpace cs) with
    | .error e => .error e
    | .ok (v, rest) =>
      if (skipSpace rest).isEmpty then .ok v
      else .error (.malformed .extraData (skipSpace rest).length)

end ReadGate.Json
