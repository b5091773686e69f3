import ReadGate.Text.Trim

/-!
# Addresses

The address of a request leads to a route by its path alone.  Scheme, host, query and fragment do
not matter, steps to the same or the enclosing folder are taken, and escaped bytes are read.

* `Address.path?` is the path of an address, as a text.
-/

namespace ReadGate.Http.Address

/-! ## Parts -/

/-- Can the character stand in a scheme? -/
def isSchemeChar (c : Char) : Bool :=
  c.isAlphanum || c == '+' || c == '.' || c == '-'

/-- The address without its scheme, and whether it names one. -/
def splitScheme (address : List Char) : Bool × List Char :=
  let scheme := address.takeWhile isSchemeChar
  match scheme.head?.all Char.isAlpha, address.dropWhile isSchemeChar with
  | true, ':' :: rest => (!scheme.isEmpty, rest)
  | _, _ => (false, address)

/-- The address without its host, and whether it names one. -/
def splitHost : List Char → Bool × List Char
  | '/' :: '/' :: rest =>
    (rest.head?.any (· != '/'), rest.dropWhile (· != '/'))
  | address => (false, address)

/-- The path part of an address.  Unless scheme and host are both given, the path starts at the
root. -/
def rawPath (address : List Char) : List Char :=
  let (hasScheme, rest) := splitScheme (address.takeWhile fun c => c != '?' && c != '#')
  let (hasHost, path) := splitHost rest
  if hasScheme && hasHost then path else '/' :: path.dropWhile (· == '/')

/-! ## Steps -/

/-- The folders after a step, the innermost first. -/
def step (folders : List (List Char)) (name : List Char) : List (List Char) :=
  match name with
  | ['.'] => folders
  | ['.', '.'] =>
    match folders with
    | [] => []
    | [[]] => [[]]
    | _ :: outer => outer
  | _ => name :: folders

/-- The path with the steps to the same and to the enclosing folder taken. -/
def resolved (path : List Char) : List Char :=
  ['/'].intercalate ((path.splitOn '/').foldl step []).reverse

/-! ## Escapes -/

/-- The value of a hexadecimal digit. -/
def hexDigit? (b : UInt8) : Option UInt8 :=
  if 0x30 ≤ b && b ≤ 0x39 then some (b - 0x30)
  else if 0x41 ≤ b && b ≤ 0x46 then some (b - 0x37)
  else if 0x61 ≤ b && b ≤ 0x66 then some (b - 0x57)
  else none

/-- The bytes with each escape, a percent sign and two hexadecimal digits, read. -/
def unescape : List UInt8 → List UInt8
  | 0x25 :: a :: b :: rest =>
    match hexDigit? a, hexDigit? b with
    | some high, some low => (16 * high + low) :: unescape rest
    | _, _ => 0x25 :: unescape (a :: b :: rest)
  | b :: rest => b :: unescape rest
  | [] => []

/-- The path of an address, if its bytes are those of a text.  Escapes are read twice, once for the
address and once for the path. -/
def path? (address : String) : Option String :=
  let path := String.ofList (resolved (rawPath address.toList))
  String.fromUTF8? ⟨(unescape (unescape path.toUTF8.toList)).toArray⟩

end ReadGate.Http.Address
