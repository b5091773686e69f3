import ReadGate.Number.Reading
import ReadGate.Text.Trim

/-!
# Decimal numbers

A decimal keeps its coefficient and its exponent, so that `1.50` and `1.5` are different numerals of
one number.
-/

namespace ReadGate

/-- A decimal: `finite negative c e` stands for `±c · 10^e`.  An undefined decimal carries a number
as its payload, and one that is `signaling` refuses to be compared or grouped. -/
inductive Decimal
  | finite (negative : Bool) (coefficient : Nat) (exponent : Int)
  | infinite (negative : Bool)
  | undefined (negative signaling : Bool) (payload : Nat)
  deriving DecidableEq, Repr

namespace Decimal

/-! ## Text -/

/-- Digits of a finite decimal with point and exponent. -/
def layout (ds : List Char) (e : Int) : List Char :=
  let left := e + ds.length
  let place : Int := if e ≤ 0 && -6 < left then left else 1
  let body :=
    if place ≤ 0 then '0' :: '.' :: List.replicate (-place).toNat '0' ++ ds
    else if ds.length ≤ place.toNat then ds ++ List.replicate (place.toNat - ds.length) '0'
    else ds.take place.toNat ++ '.' :: ds.drop place.toNat
  if left = place then body
  else body ++ 'E' :: (if left < place then '-' else '+') :: Nat.toDigits 10 (left - place).natAbs

/-- The text of a decimal. -/
def chars : Decimal → List Char
  | .finite negative c e => (if negative then ['-'] else []) ++ layout (Nat.toDigits 10 c) e
  | .infinite negative => (if negative then ['-'] else []) ++ "Infinity".toList
  | .undefined negative signaling payload =>
    (if negative then ['-'] else []) ++ (if signaling then "sNaN".toList else "NaN".toList) ++
      if payload = 0 then [] else Nat.toDigits 10 payload

/-- The text of a decimal. -/
def text (d : Decimal) : String :=
  String.ofList d.chars

/-! ## Reading -/

/-- The number that digits of any script write. -/
def payloadOf (cs : List Char) : Nat :=
  Numeral.ofDigits (cs.filterMap Text.digitValue?)

/-- A decimal without its sign. -/
def unsigned? (negative : Bool) (cs : List Char) : Option Decimal :=
  let word := String.ofList (cs.map Char.toLower)
  if word = "inf" || word = "infinity" then some (.infinite negative)
  else if word.startsWith "snan" then some (.undefined negative true (payloadOf (cs.drop 4)))
  else if word.startsWith "nan" then some (.undefined negative false (payloadOf (cs.drop 3)))
  else do
    let whole := cs.takeWhile Text.isDigit
    let rest := cs.dropWhile Text.isDigit
    let (fraction, rest) := match rest with
      | '.' :: tail => (tail.takeWhile Text.isDigit, tail.dropWhile Text.isDigit)
      | _ => ([], rest)
    if whole.isEmpty && fraction.isEmpty then none else
    let e ← Numeral.exponent? rest
    let digits := (whole ++ fraction).filterMap Text.digitValue?
    return .finite negative (Numeral.ofDigits digits) (e - fraction.length)

/-- Reads a decimal. -/
def ofText? (s : String) : Option Decimal :=
  let (negative, cs) := Numeral.splitSign ((Text.trim s.toList).filter (· != '_'))
  unsigned? negative cs

/-! ## Value -/

/-- A natural number with a sign. -/
def signed (negative : Bool) (n : Nat) : Int :=
  if negative then -(n : Int) else n

/-- The double-precision number nearest to a decimal. -/
def toBinary64 : Decimal → Binary64
  | .finite negative c e => .ofDecimal negative c e
  | .infinite negative => .infinite negative
  | .undefined .. => .nan false

/-- The place of a decimal on the extended number line. -/
def extended : Decimal → Extended
  | .finite negative c e => .ratio (signed negative c) 1 e
  | .infinite negative => if negative then .below else .above
  | .undefined .. => .undefined

/-- The whole part of `c · 10^e`. -/
def wholePart (c : Nat) (e : Int) : Nat :=
  if c = 0 ∨ Binary64.digitCount c + e ≤ 0 then 0
  else (Binary64.decimalRatio c e).1 / (Binary64.decimalRatio c e).2

/-- The integer that a decimal equals, if there is one. -/
def toInt? : Decimal → Option Int
  | .finite negative c e =>
    if c = 0 then some 0
    else if Binary64.digitCount c + e ≤ 0 then none
    else
      let (n, d) := Binary64.decimalRatio c e
      if n % d = 0 then some (signed negative (n / d)) else none
  | _ => none

end ReadGate.Decimal
