import ReadGate.Sorting.Merge

/-!
# Sorting with a comparison that may fail

A stable sort that finds the runs of a list, lengthens short ones by insertion, and merges
neighbouring runs in an order that keeps the merges balanced.  The comparison may fail, and then the
sort fails with the error of the first comparison that does; a comparison that is no order still
gives one definite result.  So the order in which items are compared is part of what the sort does.

* `sort before` sorts in ascending order.
* `sortDescending before` sorts in descending order, and keeps equal items in their order too.
-/

namespace ReadGate.Sorting

variable {α ε : Type}

/-! ## Finding runs -/

/-- The leading six bits of a number, and whether a further bit is set. -/
def topBits (n : Nat) (lost : Bool) : Nat × Bool :=
  if 64 ≤ n then topBits (n / 2) (lost || n % 2 == 1) else (n, lost)

/-- The least length of a run among so many items: all of them if there are fewer than 64, else a
number from 32 to 64 into which their number divides nearly evenly. -/
def leastRun (count : Nat) : Nat :=
  let (bits, lost) := topBits count false
  if lost then bits + 1 else bits

/-- The next run, lengthened by insertion to the least length, and the items behind it. -/
def nextRun (before : α → α → Except ε Bool) (least : Nat) (items : List α) :
    Except ε (List α × List α) := do
  let (run, rest) ← firstRun before items
  let missing := least - run.length
  return (← (rest.take missing).foldlM (insert before) run, rest.drop missing)

/-! ## Merging runs -/

/-- A run that waits to be merged, with the level of its border to the run behind it. -/
structure Pending (α : Type) where
  items : List α
  level : Nat

/-- The runs that wait, the last one first, and the patience of the merges. -/
structure Stack (α : Type) where
  runs : List (Pending α)
  patience : Nat

/-- The first binary place in which two fractions of `n` differ. -/
def levelOf (n : Nat) : Nat → Nat → Nat → Nat
  | 0, _, _ => 0
  | fuel + 1, a, b =>
    if n ≤ a then levelOf n fuel (2 * (a - n)) (2 * (b - n)) + 1
    else if n ≤ b then 1
    else levelOf n fuel (2 * a) (2 * b) + 1

/-- The level of the border between two runs of given lengths among `n` items: the depth at which
their middles part when the items are halved again and again. -/
def borderLevel (n start left right : Nat) : Nat :=
  levelOf n (n + 1) (2 * start + left) (2 * start + left + left + right)

/-- Merges the last two runs, and keeps the level of the first of them. -/
def mergeTop (before : α → α → Except ε Bool) (patience : Nat) (second top : Pending α) :
    Except ε (Pending α × Nat) := do
  let (items, patience) ← mergePair before patience second.items top.items
  return (⟨items, second.level⟩, patience)

/-- Merges waiting runs into the last one as long as their borders lie deeper than a level. -/
def collapse (before : α → α → Except ε Bool) (level : Nat) (top : Pending α) :
    List (Pending α) → Nat → Except ε (Stack α)
  | [], patience => .ok ⟨[top], patience⟩
  | second :: rest, patience =>
    if level < second.level then do
      let (merged, patience) ← mergeTop before patience second top
      collapse before level merged rest patience
    else .ok ⟨top :: second :: rest, patience⟩

/-- Gives the last run its level. -/
def withLevel (level : Nat) : List (Pending α) → List (Pending α)
  | [] => []
  | top :: rest => { top with level } :: rest

/-- How many items the runs hold. -/
def itemCount : List (Pending α) → Nat
  | [] => 0
  | run :: rest => run.items.length + itemCount rest

/-- Adds a run among `n` items. -/
def push (before : α → α → Except ε Bool) (n : Nat) (run : List α) (s : Stack α) :
    Except ε (Stack α) :=
  match s.runs with
  | [] => .ok { s with runs := [⟨run, 0⟩] }
  | top :: rest => do
    let level := borderLevel n (itemCount rest) top.items.length run.length
    let s ← collapse before level top rest s.patience
    return { s with runs := ⟨run, 0⟩ :: withLevel level s.runs }

/-- Merges all runs, the last two first, unless the last one is longer than the third last. -/
def mergeAll (before : α → α → Except ε Bool) : Nat → List (Pending α) → Nat → Except ε (List α)
  | fuel + 1, top :: second :: third :: rest, patience => do
    if third.items.length < top.items.length then
      let (merged, patience) ← mergeTop before patience third second
      mergeAll before fuel (top :: merged :: rest) patience
    else
      let (merged, patience) ← mergeTop before patience second top
      mergeAll before fuel (merged :: third :: rest) patience
  | _, [top, second], patience => do
    let (merged, _) ← mergeTop before patience second top
    return merged.items
  | _, runs, _ => .ok (runs.flatMap (·.items))

/-- Finds and adds the runs of the items that are left. -/
def pushRuns (before : α → α → Except ε Bool) (n : Nat) :
    Nat → List α → Stack α → Except ε (Stack α)
  | _, [], s => .ok s
  | 0, _, s => .ok s
  | fuel + 1, items, s => do
    let (run, rest) ← nextRun before (leastRun n) items
    pushRuns before n fuel rest (← push before n run s)

/-! ## Sorting -/

/-- Sorts in ascending order. -/
def sort (before : α → α → Except ε Bool) (items : List α) : Except ε (List α) := do
  let n := items.length
  let s ← pushRuns before n n items ⟨[], stretch⟩
  mergeAll before n s.runs s.patience

/-- Sorts in descending order. -/
def sortDescending (before : α → α → Except ε Bool) (items : List α) : Except ε (List α) := do
  let sorted ← sort before items.reverse
  return sorted.reverse

end ReadGate.Sorting
