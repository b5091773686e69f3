import ReadGate.Value.Order

/-!
# Grouping

Equal values are counted together.  The groups stand in the order in which their values first
appear, and each shows the first of its values.
-/

namespace ReadGate.Grouping

/-- Counts one more value. -/
def add (groups : List (Value × Nat)) (v : Value) : List (Value × Nat) :=
  match groups with
  | [] => [(v, 1)]
  | (w, n) :: rest => if w.alike v then (w, n + 1) :: rest else (w, n) :: add rest v

/-- The groups of values with their sizes. -/
def tally (vs : List Value) : List (Value × Nat) :=
  vs.foldl add []

/-- What keeps the first value that cannot be grouped from it, if there is one. -/
def obstacle? (vs : List Value) : Option Unhashable :=
  vs.findSome? Value.unhashable?

/-- How many values the groups hold. -/
def total : List (Value × Nat) → Nat
  | [] => 0
  | (_, n) :: rest => n + total rest

theorem total_add (groups : List (Value × Nat)) (v : Value) :
    total (add groups v) = total groups + 1 := by
  induction groups with
  | nil => rfl
  | cons head rest ih =>
    obtain ⟨w, n⟩ := head
    by_cases h : w.alike v
    · simp only [add, h, if_true, total]
      omega
    · have step : add ((w, n) :: rest) v = (w, n) :: add rest v := by simp [add, h]
      rw [step, total, total, ih]
      omega

end ReadGate.Grouping
