/-!
# Double-precision numbers

A finite number is a signed natural number times a power of two; besides there are two infinities
and undefined numbers.  All operations are exact on natural numbers.

* `ofRatio` rounds a quotient to the nearest number, a tie to the even mantissa.
* `ofDecimal` rounds a decimal number.
* `compare?` orders numbers by their exact values.
-/

namespace ReadGate

/-- A double-precision number: `finite negative m e` stands for `±m · 2^e`.  An undefined number is
`shared` if a document spelled it out: all of those are one and the same, while any other undefined
number is the same as no number. -/
inductive Binary64
  | nan (shared : Bool)
  | infinite (negative : Bool)
  | finite (negative : Bool) (mantissa : Nat) (exponent : Int)
  deriving DecidableEq, Repr, Inhabited

namespace Binary64

/-! ## Rounding -/

/-- A power of two. -/
def twoPow (n : Nat) : Nat :=
  Nat.pow 2 n

/-- A power of ten. -/
def tenPow (n : Nat) : Nat :=
  Nat.pow 10 n

/-- The value `m · 2^e` as numerator and denominator. -/
def binaryRatio (m : Nat) (e : Int) : Nat × Nat :=
  if 0 ≤ e then (m * twoPow e.toNat, 1) else (m, twoPow (-e).toNat)

/-- The value `c · 10^e` as numerator and denominator. -/
def decimalRatio (c : Nat) (e : Int) : Nat × Nat :=
  if 0 ≤ e then (c * tenPow e.toNat, 1) else (c, tenPow (-e).toNat)

/-- The nearest natural number to `num / den`, a tie going to the even one. -/
def roundQuotient (num den : Nat) : Nat :=
  let q := num / den
  let r := num % den
  if 2 * r < den then q
  else if den < 2 * r then q + 1
  else q + q % 2

/-- The quotient `num / (den · 2^e)` as numerator and denominator. -/
def scaled (num den : Nat) (e : Int) : Nat × Nat :=
  if 0 ≤ e then (num, den * twoPow e.toNat) else (num * twoPow (-e).toNat, den)

/-- The least exponent of a number. -/
def minExponent : Int := -1074

/-- The greatest exponent of a number whose mantissa has all its bits. -/
def maxExponent : Int := 971

/-- The exponent at which `num / den` has a mantissa of 53 bits, if it is not below the least. -/
def exponentFor (num den : Nat) : Int :=
  let guess : Int := (num.log2 : Int) - (den.log2 : Int) - 52
  let (n, d) := scaled num den guess
  max (if n / d < twoPow 52 then guess - 1 else guess) minExponent

/-- The number nearest to `±num / den`, for a positive denominator. -/
def ofRatio (negative : Bool) (num den : Nat) : Binary64 :=
  if num = 0 then .finite negative 0 minExponent else
  let e := exponentFor num den
  let (n, d) := scaled num den e
  let m := roundQuotient n d
  let (m, e) := if m = twoPow 53 then (twoPow 52, e + 1) else (m, e)
  if maxExponent < e then .infinite negative else .finite negative m e

/-- How many decimal digits a number has. -/
def digitCount (n : Nat) : Nat :=
  if n < 10 then 1 else digitCount (n / 10) + 1

/-- The number nearest to `±digits · 10^e`. -/
def ofDecimal (negative : Bool) (digits : Nat) (e : Int) : Binary64 :=
  if digits = 0 then .finite negative 0 minExponent
  else if 310 < digitCount digits + e then .infinite negative
  else if digitCount digits + e < -330 then .finite negative 0 minExponent
  else ofRatio negative (decimalRatio digits e).1 (decimalRatio digits e).2

/-- The number nearest to `num / den`, for a positive denominator. -/
def ofQuotient (num : Int) (den : Nat) : Binary64 :=
  ofRatio (num < 0) num.natAbs den

/-- The number nearest to an integer. -/
def ofInt (n : Int) : Binary64 :=
  ofQuotient n 1

/-! ## Exact values -/

/-- Is the number finite? -/
def isFinite : Binary64 → Bool
  | .finite .. => true
  | _ => false

/-- The exact value as a signed numerator over a positive denominator. -/
def ratio? : Binary64 → Option (Int × Nat)
  | .finite negative m e =>
    let (n, d) := binaryRatio m e
    some (if negative then -(n : Int) else n, d)
  | _ => none

/-- The integer that a number equals, if there is one. -/
def toInt? (x : Binary64) : Option Int :=
  match x.ratio? with
  | some (n, d) => if n % d = 0 then some (n / d) else none
  | none => none

/-- The integer part of a finite number, towards zero. -/
def truncate (x : Binary64) : Int :=
  match x.ratio? with
  | some (n, d) => n.tdiv d
  | none => 0

/-- Is the number zero, of either sign? -/
def isZero : Binary64 → Bool
  | .finite _ 0 _ => true
  | _ => false

end Binary64

/-! ## Order -/

/-- A number of any kind on the extended number line: `ratio num den scale` is
`num / den · 10^scale`. -/
inductive Extended
  | undefined
  | below
  | ratio (num : Int) (den : Nat) (scale : Int)
  | above

namespace Extended

/-- The decimal magnitude of `num / den · 10^scale`, which lies strictly between the powers of ten
one below and one above it. -/
def magnitude (num : Int) (den : Nat) (scale : Int) : Int :=
  Binary64.digitCount num.natAbs - Binary64.digitCount den + scale

/-- How `a / b · 10^scale` and `c / d` compare. -/
def compareScaled (a : Int) (b : Nat) (c : Int) (d : Nat) (scale : Int) : Ordering :=
  if 0 ≤ scale then compare (a * Binary64.tenPow scale.toNat * d) (c * b)
  else compare (a * d) (c * Binary64.tenPow (-scale).toNat * b)

/-- How two ratios of decimal scales compare: by sign, then by magnitude if that tells them apart,
and else exactly. -/
def compareRatios (a : Int) (b : Nat) (s : Int) (c : Int) (d : Nat) (t : Int) : Ordering :=
  if a.sign ≠ c.sign ∨ a = 0 then compare a.sign c.sign
  else if magnitude a b s + 2 ≤ magnitude c d t then (if 0 < a then .lt else .gt)
  else if magnitude c d t + 2 ≤ magnitude a b s then (if 0 < a then .gt else .lt)
  else compareScaled a b c d (s - t)

/-- How two numbers compare; nothing compares with what is not a number. -/
def compare? : Extended → Extended → Option Ordering
  | .undefined, _ => none
  | _, .undefined => none
  | .below, .below => some .eq
  | .below, _ => some .lt
  | _, .below => some .gt
  | .above, .above => some .eq
  | .above, _ => some .gt
  | _, .above => some .lt
  | .ratio a b s, .ratio c d t => some (compareRatios a b s c d t)

end Extended

/-- The place of a number on the extended number line. -/
def Binary64.extended (x : Binary64) : Extended :=
  match x with
  | .nan _ => .undefined
  | .infinite negative => if negative then .below else .above
  | .finite .. =>
    match x.ratio? with
    | some (n, d) => .ratio n d 0
    | none => .undefined

/-- How two numbers compare by value; nothing compares with what is not a number. -/
def Binary64.compare? (x y : Binary64) : Option Ordering :=
  x.extended.compare? y.extended

end ReadGate
