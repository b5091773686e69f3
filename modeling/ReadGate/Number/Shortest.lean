import ReadGate.Number.Binary64
import ReadGate.Text.Trim

/-!
# The shortest decimal text of a number

A number is written with the fewest digits that read back as the same number, and among those with
the digits nearest to its value.  The notation is positional for decimal exponents from -4 to 15 and
scientific beyond, and a whole number keeps one zero after its point.
-/

namespace ReadGate.Binary64

open Text (dropEnd)

/-! ## Digits -/

/-- The value `num / den` in units of `10^unit`, as numerator and denominator. -/
def inUnits (num den : Nat) (unit : Int) : Nat × Nat :=
  if 0 ≤ unit then (num, den * tenPow unit.toNat) else (num * tenPow (-unit).toNat, den)

/-- The position of the decimal point before the first digit: `10^(k-1) ≤ num / den < 10^k`. -/
def leadingPlace (num den : Nat) : Int :=
  (digitCount (num * tenPow 400 / den) : Int) - 400

/-- The grid point of `10^unit` that reads back as the number; of two the nearer one, and of two
that are equally near the even one. -/
def gridDigits? (x : Binary64) (num den : Nat) (unit : Int) : Option Nat :=
  let (n, d) := inUnits num den unit
  let low := n / d
  let readsBack (digits : Nat) : Bool := digits ≠ 0 && ofDecimal false digits unit == x
  match readsBack low, readsBack (low + 1) with
  | true, true => some (roundQuotient n d)
  | true, false => some low
  | false, true => some (low + 1)
  | false, false => none

/-- Tries grids of more and more digits. -/
def searchDigits (x : Binary64) (num den : Nat) (place : Int) : Nat → Nat → Nat × Int
  | 0, count => ((inUnits num den (place - count)).1 / (inUnits num den (place - count)).2,
      place - count)
  | tries + 1, count =>
    match gridDigits? x num den (place - count) with
    | some digits => (digits, place - count)
    | none => searchDigits x num den place tries (count + 1)

/-- The fewest digits of a positive number and the decimal exponent of the last of them. -/
def shortestDigits (mantissa : Nat) (exponent : Int) : Nat × Int :=
  let (num, den) := binaryRatio mantissa exponent
  searchDigits (.finite false mantissa exponent) num den (leadingPlace num den) 17 1

/-! ## Text -/

/-- The decimal digits of a natural number. -/
def digitsOf (n : Nat) : List Char :=
  Nat.toDigits 10 n

/-- An exponent with its sign and at least two digits. -/
def exponentText (e : Int) : List Char :=
  let ds := digitsOf e.natAbs
  'e' :: (if e < 0 then '-' else '+') :: (if ds.length < 2 then '0' :: ds else ds)

/-- Digits with the decimal point `place` digits after their start. -/
def layout (ds : List Char) (place : Int) : List Char :=
  if place ≤ -4 || 16 < place then
    (match ds with
      | [] => []
      | [d] => [d]
      | d :: rest => d :: '.' :: rest) ++ exponentText (place - 1)
  else if place ≤ 0 then '0' :: '.' :: List.replicate (-place).toNat '0' ++ ds
  else if ds.length ≤ place.toNat then
    ds ++ List.replicate (place.toNat - ds.length) '0' ++ ['.', '0']
  else ds.take place.toNat ++ '.' :: ds.drop place.toNat

/-- The text of a number. -/
def chars : Binary64 → List Char
  | .nan _ => ['n', 'a', 'n']
  | .infinite negative => (if negative then ['-'] else []) ++ ['i', 'n', 'f']
  | .finite negative m e =>
    (if negative then ['-'] else []) ++
      if m = 0 then ['0', '.', '0']
      else
        let (digits, unit) := shortestDigits m e
        let ds := digitsOf digits
        layout (dropEnd (· == '0') ds) (ds.length + unit)

/-- The text of a number. -/
def text (x : Binary64) : String :=
  String.ofList x.chars

end ReadGate.Binary64
