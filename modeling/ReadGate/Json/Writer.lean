import ReadGate.Value.Text

/-!
# Writing JSON

Three ways to write a value, which differ in spacing and in the characters they escape.

* `canonical`: fields sorted by name, everything beyond ASCII escaped.  Values that JSON does not
  know are written as their plain text.
* `indented`: one item a line, fields in their order, everything beyond ASCII escaped.
* `compactString`: a string with only quotes, backslashes and control characters escaped.
-/

namespace ReadGate.Json

open Text

/-! ## Strings -/

/-- The escape of a code unit of 16 bits. -/
def unitEscape (unit : Nat) : List Char :=
  '\\' :: 'u' :: hexPlaces 4 unit

/-- The short escape of a character, if it has one. -/
def shortEscape? : Char → Option Char
  | '"' => some '"'
  | '\\' => some '\\'
  | '\n' => some 'n'
  | '\r' => some 'r'
  | '\t' => some 't'
  | '\x08' => some 'b'
  | '\x0c' => some 'f'
  | _ => none

/-- A character of a string in ASCII; one beyond the basic plane becomes a surrogate pair. -/
def asciiChar (c : Char) : List Char :=
  match shortEscape? c with
  | some e => ['\\', e]
  | none =>
    let code := c.toNat
    if 0x20 ≤ code && code < 0x7F then [c]
    else if code < 0x10000 then unitEscape code
    else unitEscape (0xD800 + (code - 0x10000) / 0x400) ++
      unitEscape (0xDC00 + (code - 0x10000) % 0x400)

/-- A code of a string in ASCII; a half of a surrogate pair is written as it is. -/
def asciiCode (code : Nat) : List Char :=
  if isHalf code then unitEscape code else asciiChar (Char.ofNat code)

/-- A character of a string that keeps what is beyond ASCII. -/
def compactChar (c : Char) : List Char :=
  match shortEscape? c with
  | some e => ['\\', e]
  | none => if c.toNat < 0x20 then unitEscape c.toNat else [c]

/-- A string in ASCII. -/
def asciiString (s : String) : List Char :=
  '"' :: s.toList.flatMap asciiChar ++ ['"']

/-- A string in ASCII, by its codes. -/
def asciiCodes (codes : List Nat) : List Char :=
  '"' :: codes.flatMap asciiCode ++ ['"']

/-- A string that keeps what is beyond ASCII. -/
def compactString (s : String) : List Char :=
  '"' :: s.toList.flatMap compactChar ++ ['"']

/-! ## Scalars -/

/-- A number; the infinities and the undefined number are written as words. -/
def float : Binary64 → List Char
  | .nan _ => "NaN".toList
  | .infinite negative => (if negative then "-Infinity" else "Infinity").toList
  | x => x.chars

/-- An integer. -/
def int (n : Int) : List Char :=
  (if n < 0 then ['-'] else []) ++ Nat.toDigits 10 n.natAbs

/-- A truth value. -/
def bool (b : Bool) : List Char :=
  (if b then "true" else "false").toList

/-- Parts with a separator between them. -/
def separated (separator : List Char) : List (List Char) → List Char
  | [] => []
  | [part] => part
  | part :: rest => part ++ separator ++ separated separator rest

/-! ## The canonical form -/

/-- Does a name come before another, or equal it, by code points? -/
def nameLe (a b : List Char) : Bool :=
  match a, b with
  | [], _ => true
  | _ :: _, [] => false
  | c :: cs, d :: ds => c.toNat < d.toNat || (c == d && nameLe cs ds)

/-- Written fields, sorted by name. -/
def sortFields (fields : List (String × List Char)) : List (String × List Char) :=
  fields.mergeSort fun a b => nameLe a.1.toList b.1.toList

mutual
/-- The canonical form of a value. -/
def canonicalChars : Value → List Char
  | .null => "null".toList
  | .bool b => bool b
  | .int n => int n
  | .float x => float x
  | .text s => asciiString s
  | .halves codes => asciiCodes codes
  | .list items => '[' :: separated [',', ' '] (canonicalItems items) ++ [']']
  | .tuple items => '[' :: separated [',', ' '] (canonicalItems items) ++ [']']
  | .record fields =>
    '\x7b' :: separated [',', ' '] ((sortFields (canonicalFields fields)).map fun p =>
      asciiString p.1 ++ [':', ' '] ++ p.2) ++ ['\x7d']
  | v => asciiString v.plain

/-- The canonical forms of list items. -/
def canonicalItems : List Value → List (List Char)
  | [] => []
  | v :: rest => canonicalChars v :: canonicalItems rest

/-- The names of fields with the canonical forms of their values. -/
def canonicalFields : List (String × Value) → List (String × List Char)
  | [] => []
  | (k, v) :: rest => (k, canonicalChars v) :: canonicalFields rest
end

/-- The canonical form of a value. -/
def canonical (v : Value) : String :=
  String.ofList (canonicalChars v)

/-! ## The indented form -/

/-- A line end followed by the given depth of indentation. -/
def newLine (depth : Nat) : List Char :=
  '\n' :: List.replicate (2 * depth) ' '

/-- Parts between brackets, each on a line of its own. -/
def block (opening closing : Char) (depth : Nat) (parts : List (List Char)) : List Char :=
  if parts.isEmpty then [opening, closing]
  else opening :: newLine (depth + 1) ++ separated (',' :: newLine (depth + 1)) parts ++
    newLine depth ++ [closing]

mutual
/-- The indented form of a value that stands at the given depth. -/
def indentedChars (depth : Nat) : Value → List Char
  | .null => "null".toList
  | .bool b => bool b
  | .int n => int n
  | .float x => float x
  | .text s => asciiString s
  | .halves codes => asciiCodes codes
  | .list items => block '[' ']' depth (indentedItems (depth + 1) items)
  | .tuple items => block '[' ']' depth (indentedItems (depth + 1) items)
  | .record fields => block '\x7b' '\x7d' depth (indentedFields (depth + 1) fields)
  | v => asciiString v.plain

/-- The indented forms of list items. -/
def indentedItems (depth : Nat) : List Value → List (List Char)
  | [] => []
  | v :: rest => indentedChars depth v :: indentedItems depth rest

/-- The indented forms of fields. -/
def indentedFields (depth : Nat) : List (String × Value) → List (List Char)
  | [] => []
  | (k, v) :: rest =>
    (asciiString k ++ [':', ' '] ++ indentedChars depth v) :: indentedFields depth rest
end

/-- The indented form of a value. -/
def indented (v : Value) : String :=
  String.ofList (indentedChars 0 v)

end ReadGate.Json
