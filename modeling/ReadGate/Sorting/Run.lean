/-!
# Runs and insertion

A comparison may fail, and then whoever compares fails with it; so the order in which items are
compared is part of what these functions do.  A run is a stretch of items that is in order already,
and further items are put into it one by one, each at a place that is found by halving.

* `firstRun before` splits off the run at the start of a list.
* `insert before` puts an item into a run.
-/

namespace ReadGate.Sorting

variable {α ε : Type}

/-! ## Insertion -/

/-- The place for an item among sorted items, between two places. -/
def place (before : α → α → Except ε Bool) (item : α) (sorted : List α) (low high : Nat) :
    Except ε Nat :=
  if low < high then
    match sorted[(low + high) / 2]? with
    | some middle => do
      if ← before item middle then place before item sorted low ((low + high) / 2)
      else place before item sorted ((low + high) / 2 + 1) high
    | none => .ok low
  else .ok low
termination_by high - low

/-- Puts an item behind all sorted items that do not come after it. -/
def insert (before : α → α → Except ε Bool) (sorted : List α) (item : α) : Except ε (List α) := do
  let i ← place before item sorted 0 sorted.length
  return sorted.take i ++ item :: sorted.drop i

/-! ## Runs -/

/-- Splits off the longest start in which each item, after the given one, stands in the wanted
order with its predecessor. -/
def span (wanted : α → α → Except ε Bool) (last : α) : List α → Except ε (List α × List α)
  | [] => .ok ([], [])
  | item :: rest => do
    if ← wanted item last then
      let (run, rest) ← span wanted item rest
      return (item :: run, rest)
    else return ([], item :: rest)

/-- The opposite of a comparison. -/
def negated (before : α → α → Except ε Bool) (a b : α) : Except ε Bool :=
  (before a b).map (!·)

/-- The run at the start, in ascending order, and the items behind it.  A run that falls strictly
is turned round. -/
def firstRun (before : α → α → Except ε Bool) : List α → Except ε (List α × List α)
  | [] => .ok ([], [])
  | [item] => .ok ([item], [])
  | first :: second :: rest => do
    if ← before second first then
      let (run, rest) ← span before second rest
      return ((first :: second :: run).reverse, rest)
    else
      let (run, rest) ← span (negated before) second rest
      return (first :: second :: run, rest)

end ReadGate.Sorting
