import ReadGate.Failure

/-!
# Measures of an evaluation

The share of correct cases, and the share of answers that the structured path served.
-/

namespace ReadGate.Evaluation

/-- The counts of an evaluation and the shares that follow from them. -/
structure Measures where
  total : Int
  correct : Int
  accuracy : Binary64
  okTotal : Int
  fallbackServed : Int
  fallbackCoverage : Binary64
  deriving DecidableEq, Repr

/-- A quotient of counts; zero if there is nothing to divide by. -/
def share (part whole : Int) : Binary64 :=
  if whole = 0 then .ofInt 0
  else .ofRatio ((part < 0) != (whole < 0)) part.natAbs whole.natAbs

/-- The measures of counts. -/
def measures (total correct okTotal fallbackServed : Int) : Measures :=
  ⟨total, correct, share correct total, okTotal, fallbackServed, share fallbackServed okTotal⟩

/-- The measures of any counts, unless a share is too large for a number. -/
def checkedMeasures (total correct okTotal fallbackServed : Int) : Except Mishap Measures :=
  let m := measures total correct okTotal fallbackServed
  if m.accuracy.isFinite && m.fallbackCoverage.isFinite then .ok m else .error .quotientOverflow

/-! ## Rounding -/

/-- How a finite number, times a power of ten, rounds to an integer; a tie goes to the even one. -/
def scaledRound (x : Binary64) (places : Nat) : Nat :=
  match x.ratio? with
  | some (n, d) => Binary64.roundQuotient (n.natAbs * Binary64.tenPow places) d
  | none => 0

/-- Is the number below zero, or the negative zero? -/
def isNegative : Binary64 → Bool
  | .finite negative _ _ => negative
  | _ => false

/-- A number rounded to three decimal places. -/
def rounded (x : Binary64) : Binary64 :=
  .ofDecimal (isNegative x) (scaledRound x 3) (-3)

/-- A hundred times a number. -/
def hundredfold (x : Binary64) : Binary64 :=
  match x.ratio? with
  | some (n, d) => .ofRatio (isNegative x) (n.natAbs * 100) d
  | none => x

/-- A share as a percentage with one decimal place. -/
def percentText (x : Binary64) : String :=
  let tenths := scaledRound (hundredfold x) 1
  (if isNegative x then "-" else "") ++ s!"{tenths / 10}.{tenths % 10}%"

/-- Is a share less than one? -/
def belowOne (x : Binary64) : Bool :=
  x.compare? (.ofInt 1) == some .lt

end ReadGate.Evaluation
