/-!
# Surrogate pairs

A character beyond the basic plane may be given as two halves, each a code of its own.  Halves that
belong together are joined; a half on its own is no character, and a text cannot hold it.
-/

namespace ReadGate.Text

/-- Is the code the first half of a pair? -/
def isHighHalf (code : Nat) : Bool :=
  0xD800 ≤ code && code < 0xDC00

/-- Is the code the second half of a pair? -/
def isLowHalf (code : Nat) : Bool :=
  0xDC00 ≤ code && code < 0xE000

/-- Is the code a half of a pair? -/
def isHalf (code : Nat) : Bool :=
  isHighHalf code || isLowHalf code

/-- The code of the character that two halves make. -/
def joinedCode (high low : Nat) : Nat :=
  0x10000 + (high - 0xD800) * 0x400 + (low - 0xDC00)

/-- The codes with the halves that belong together joined. -/
def joinHalves : List Nat → List Nat
  | [] => []
  | [code] => [code]
  | high :: low :: rest =>
    if isHighHalf high && isLowHalf low then joinedCode high low :: joinHalves rest
    else high :: joinHalves (low :: rest)

/-- The character of a code; a half has the replacement character instead. -/
def charOfCode (code : Nat) : Char :=
  if isHalf code then '\uFFFD' else Char.ofNat code

/-- The text of codes, with the replacement character for each half. -/
def ofCodes (codes : List Nat) : String :=
  String.ofList (codes.map charOfCode)

end ReadGate.Text
