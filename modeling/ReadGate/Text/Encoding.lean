import ReadGate.Text.Surrogate

/-!
# Encodings of a document

A document that starts with an ASCII character, as every JSON document does, shows by the zero bytes
around that character in which encoding it is written.

* `Encoding.ofBytes` tells the encoding.
* `decode?` reads the codes of the document, and is nothing if the bytes do not encode any.
-/

namespace ReadGate.Text

/-- An encoding, for units of several bytes with their order. -/
inductive Encoding
  | utf8
  | utf16 (bigEndian : Bool)
  | utf32 (bigEndian : Bool)
  deriving DecidableEq, Repr

/-- The encoding that the first bytes show. -/
def Encoding.ofBytes : List UInt8 → Encoding
  | [0, _] => .utf16 true
  | [_, 0] => .utf16 false
  | 0 :: 0 :: _ :: _ :: _ => .utf32 true
  | 0 :: _ :: _ :: _ :: _ => .utf16 true
  | _ :: 0 :: 0 :: 0 :: _ => .utf32 false
  | _ :: 0 :: _ :: _ :: _ => .utf16 false
  | _ => .utf8

/-- The number that bytes make, the highest first. -/
def ofBigEndian (bytes : List UInt8) : Nat :=
  bytes.foldl (fun n b => 256 * n + b.toNat) 0

/-- The number that bytes make in the given order. -/
def unitOf (bigEndian : Bool) (bytes : List UInt8) : Nat :=
  ofBigEndian (if bigEndian then bytes else bytes.reverse)

/-- The units of two bytes, if no byte is left over. -/
def units16? (bigEndian : Bool) : List UInt8 → Option (List Nat)
  | [] => some []
  | [_] => none
  | a :: b :: rest => (units16? bigEndian rest).map (unitOf bigEndian [a, b] :: ·)

/-- The units of four bytes, if no byte is left over and each unit is a code. -/
def units32? (bigEndian : Bool) : List UInt8 → Option (List Nat)
  | [] => some []
  | a :: b :: c :: d :: rest =>
    let unit := unitOf bigEndian [a, b, c, d]
    if 0x10FFFF < unit then none else (units32? bigEndian rest).map (unit :: ·)
  | _ => none

/-- The text of a document, given as the text that its bytes encode in UTF-8.  A byte order mark is
dropped where the encoding does not need one. -/
def decode? (document : String) : Option String :=
  let bytes := document.toUTF8.toList
  match Encoding.ofBytes bytes with
  | .utf8 => some (if document.startsWith "\uFEFF" then (document.drop 1).toString else document)
  | .utf16 bigEndian => (units16? bigEndian bytes).map fun units => ofCodes (joinHalves units)
  | .utf32 bigEndian => (units32? bigEndian bytes).map ofCodes

end ReadGate.Text
