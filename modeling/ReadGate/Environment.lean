import ReadGate.Failure
import ReadGate.Number.Short

/-!
# Environment variables

Settings are texts under names.  A variable that is set counts even when its text is empty.
-/

namespace ReadGate

/-- Variables with their texts. -/
abbrev Environment := List (String × String)

namespace Environment

/-- The text of a variable, or a default if it is not set. -/
def textOr (env : Environment) (name default : String) : String :=
  (Row.get? env name).getD default

/-- The integer in a variable, or a default if it is not set. -/
def intOr (env : Environment) (name : String) (default : ShortInt) : Except Mishap ShortInt :=
  match Row.get? env name with
  | some text => (ShortInt.read text).mapError .numeral
  | none => .ok default

/-- The number in a variable, or a default if it is not set. -/
def floatOr (env : Environment) (name : String) (default : Binary64) : Except Mishap Binary64 :=
  match Row.get? env name with
  | some text => (Numeral.readFloat text).mapError .numeral
  | none => .ok default

end Environment

end ReadGate
