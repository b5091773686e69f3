import ReadGate.Sorting.Run

/-!
# Merging two runs

Two runs are merged from their starts or from their ends.  One of them is held aside, the other
stays where it is, and the heads of both are compared: one item at a time while neither run wins
often, and by galloping, which finds a whole stretch of winners with few comparisons, while one
does.  How often a run has to win before galloping pays is the patience; it is kept from merge to
merge.

* `leading` counts leading items that pass a test by doubling steps and halving.
* `mergePair` merges two neighbouring runs.
-/

namespace ReadGate.Sorting

variable {α ε : Type}

/-! ## Leading items -/

/-- The last place that is known to pass a test and the first that is not, if the item at `low`
passes; the steps between the items that are tested double. -/
def bracket (passes : α → Except ε Bool) (items : List α) (low high : Nat) :
    Except ε (Nat × Nat) :=
  if high < items.length then
    match items[high]? with
    | some item => do
      if ← passes item then bracket passes items high (2 * high + 1) else return (low, high)
    | none => .ok (low, high)
  else .ok (low, items.length)
termination_by items.length - high

/-- The place between two places that is tested next.  Of two middle places it is the one that
stands later in the list that the items are taken from. -/
def middle (fromEnd : Bool) (low high : Nat) : Nat :=
  if fromEnd then low + (high - low - 1) / 2 else low + (high - low) / 2

/-- The first place between two places that does not pass a test, found by halving. -/
def halve (fromEnd : Bool) (passes : α → Except ε Bool) (items : List α) (low high : Nat) :
    Except ε Nat :=
  if low < high then
    match items[middle fromEnd low high]? with
    | some item => do
      if ← passes item then halve fromEnd passes items (middle fromEnd low high + 1) high
      else halve fromEnd passes items low (middle fromEnd low high)
    | none => .ok low
  else .ok low
termination_by high - low
decreasing_by all_goals simp only [middle]; split <;> omega

/-- How many leading items pass a test that no item passes behind one that fails it. -/
def leading (fromEnd : Bool) (passes : α → Except ε Bool) (items : List α) : Except ε Nat :=
  match items with
  | [] => .ok 0
  | first :: _ => do
    if ← passes first then
      let (low, high) ← bracket passes items 0 1
      halve fromEnd passes items (low + 1) high
    else return 0

/-! ## Piles -/

/-- Two runs on their way into one; what is merged is kept in reverse. -/
structure Piles (α : Type) where
  held : List α
  other : List α
  merged : List α
  patience : Nat

namespace Piles

/-- Is the order of all items decided?  The last of the held items comes after all others. -/
def isOver (p : Piles α) : Bool :=
  p.other.isEmpty || p.held.length ≤ 1

/-- Moves held items. -/
def moveHeld (p : Piles α) (count : Nat) : Piles α :=
  { p with held := p.held.drop count, merged := (p.held.take count).reverse ++ p.merged }

/-- Moves items of the other pile. -/
def moveOther (p : Piles α) (count : Nat) : Piles α :=
  { p with other := p.other.drop count, merged := (p.other.take count).reverse ++ p.merged }

/-- All items in the order in which they are taken. -/
def items (p : Piles α) : List α :=
  p.merged.reverse ++ p.other ++ p.held

end Piles

/-- How a merge goes on: by turns, with the number of times in a row that each pile has won, or by
galloping. -/
inductive Pace
  | turns (held other : Nat)
  | gallop

/-! ## Turns -/

/-- Takes the head of the pile that wins; `wins y x` says that an item of the other pile goes before
a held one. -/
def turn (wins : α → α → Except ε Bool) (heldWins otherWins : Nat) (p : Piles α) :
    Except ε (Piles α × Pace) :=
  match p.held, p.other with
  | x :: _, y :: _ => do
    if ← wins y x then
      let pace := if p.patience ≤ otherWins + 1 then .gallop else .turns 0 (otherWins + 1)
      return (p.moveOther 1, pace)
    else
      let pace := if p.patience ≤ heldWins + 1 then .gallop else .turns (heldWins + 1) 0
      return (p.moveHeld 1, pace)
  | _, _ => .ok (p, .turns heldWins otherWins)

/-! ## Galloping -/

/-- Takes the held items that go before the head of the other pile, and then that head. -/
def gallopHeld (fromEnd : Bool) (wins : α → α → Except ε Bool) (p : Piles α) :
    Except ε (Piles α × Nat) :=
  match p.isOver, p.other with
  | false, y :: _ => do
    let count ← leading fromEnd (negated wins y) p.held
    let p := p.moveHeld count
    return (if p.isOver then p else p.moveOther 1, count)
  | _, _ => .ok (p, 0)

/-- Takes the items of the other pile that go before the held head, and then that head. -/
def gallopOther (fromEnd : Bool) (wins : α → α → Except ε Bool) (p : Piles α) :
    Except ε (Piles α × Nat) :=
  match p.isOver, p.held with
  | false, x :: _ => do
    let count ← leading fromEnd (fun y => wins y x) p.other
    let p := p.moveOther count
    return (if p.isOver then p else p.moveHeld 1, count)
  | _, _ => .ok (p, 0)

/-- The patience at the start, and how long a stretch has to be for galloping to pay. -/
def stretch : Nat := 7

/-- The patience after a round: less while galloping pays, and more when it does not. -/
def settled (p : Piles α) (first second : Nat) : Piles α × Pace :=
  if p.isOver then (p, .gallop)
  else if stretch ≤ first || stretch ≤ second then
    ({ p with patience := max (p.patience - 1) 1 }, .gallop)
  else ({ p with patience := p.patience + 1 }, .turns 0 0)

/-- One round of galloping through both piles, the run that stands first in the list going first. -/
def gallopRound (fromEnd : Bool) (wins : α → α → Except ε Bool) (p : Piles α) :
    Except ε (Piles α × Pace) :=
  if fromEnd then do
    let (p, first) ← gallopOther fromEnd wins p
    let (p, second) ← gallopHeld fromEnd wins p
    return settled p first second
  else do
    let (p, first) ← gallopHeld fromEnd wins p
    let (p, second) ← gallopOther fromEnd wins p
    return settled p first second

/-! ## Merging -/

/-- Merges the piles.  Every step takes an item, so the number of items is fuel enough. -/
def mergePiles (fromEnd : Bool) (wins : α → α → Except ε Bool) :
    Nat → Pace → Piles α → Except ε (Piles α)
  | 0, _, p => .ok p
  | fuel + 1, pace, p =>
    if p.isOver then .ok p
    else
      match pace with
      | .turns heldWins otherWins => do
        let (p, pace) ← turn wins heldWins otherWins p
        mergePiles fromEnd wins fuel pace p
      | .gallop => do
        let (p, pace) ← gallopRound fromEnd wins p
        mergePiles fromEnd wins fuel pace p

/-- Merges a run that is held with the other one, whose head is known to go first.  The items come
in the order in which they are taken, with the patience that is left. -/
def mergeHeld (fromEnd : Bool) (wins : α → α → Except ε Bool) (patience : Nat)
    (held other : List α) : Except ε (List α × Nat) := do
  let p ← mergePiles fromEnd wins (held.length + other.length) (.turns 0 0)
    ((⟨held, other, [], patience⟩ : Piles α).moveOther 1)
  return (p.items, p.patience)

/-- Merges two neighbouring runs between items that stay where they are, the shorter run being
held. -/
def mergeBetween (before : α → α → Except ε Bool) (patience : Nat) (left right : List α) :
    Except ε (List α × Nat) :=
  if left.length ≤ right.length then mergeHeld false before patience left right
  else do
    let (items, patience) ←
      mergeHeld true (fun y x => before x y) patience right.reverse left.reverse
    return (items.reverse, patience)

/-- Merges two neighbouring runs.  Items of the first that go before all of the second stay where
they are, and so do items of the second that go after all of the first. -/
def mergePair (before : α → α → Except ε Bool) (patience : Nat) (left right : List α) :
    Except ε (List α × Nat) :=
  match right with
  | [] => .ok (left, patience)
  | head :: _ => do
    let first ← leading false (negated before head) left
    match (left.drop first).getLast? with
    | none => return (left ++ right, patience)
    | some last =>
      let final ← leading true (fun y => negated before y last) right.reverse
      let inner := right.length - final
      if inner = 0 then return (left ++ right, patience)
      else
        let (items, patience) ←
          mergeBetween before patience (left.drop first) (right.take inner)
        return (left.take first ++ items ++ right.drop inner, patience)

end ReadGate.Sorting
