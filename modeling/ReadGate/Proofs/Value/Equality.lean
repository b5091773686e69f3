import ReadGate.Backend.Memory
import ReadGate.Proofs.Number.Amount

/-!
# Equality with an operand

A cell equals a text if it is that text, and a number if it is a number of the same amount, whatever
their kinds; a truth value counts as zero or one.  Only a signaling decimal has no equality with a
number.

* `Value.amount?` — the amount of a cell; what is not a number has none.
* `Operand.equals`, `Operand.jams` — what a filter keeps, and what it fails on.
* `same_operand` — the equality of cells is `equals`, where nothing jams.
-/

namespace ReadGate

/-- The amount of a value. -/
def Value.amount? : Value → Option Amount
  | .bool b => some (.finite (if b then 1 else 0))
  | .int n => some (.finite n)
  | .float x => x.amount?
  | .decimal d => d.amount?
  | _ => none

/-- Is the operand a number? -/
def Operand.isNumber : Operand → Bool
  | .text _ => false
  | _ => true

/-- Is the value the given text? -/
def Value.isText (v : Value) (t : WideText) : Bool :=
  match v, t with
  | .text s, .whole t => s == t
  | .halves codes, .broken other _ => codes == other
  | _, _ => false

/-- Does a cell equal the operand? -/
def Operand.equals (operand : Operand) (cell : Value) : Bool :=
  match operand with
  | .text t => cell.isText t
  | _ => cell.amount?.isSome && cell.amount? == operand.value.amount?

/-- Does the comparison of a cell with the operand fail? -/
def Operand.jams (operand : Operand) (cell : Value) : Bool :=
  operand.isNumber && cell.isSignaling

namespace Value

variable {cell : Value}

theorem amount?_of_number? {x : Extended} (h : cell.number? = some x) :
    x.Proper ∧ x.amount? = cell.amount? := by
  cases cell <;> cases h
  case bool b => exact ⟨Nat.one_pos, by cases b <;> simp [Extended.amount?, amount?]⟩
  case int n => exact ⟨Nat.one_pos, by simp [Extended.amount?, amount?]⟩
  case float x => exact x.extended_amount?
  case decimal d => exact d.extended_amount?

theorem amount?_of_not_number (h : cell.number? = none) : cell.amount? = none := by
  cases cell <;> first | rfl | cases h

theorem isSignaling_of_not_number (h : cell.number? = none) : cell.isSignaling = false := by
  cases cell <;> first | rfl | cases h

/-- Numbers compare as equal exactly if they have one amount. -/
theorem compare?_eq_amount? {other : Value} {x y : Extended} (hx : cell.number? = some x)
    (hy : other.number? = some y) :
    (x.compare? y == some .eq) = (cell.amount?.isSome && cell.amount? == other.amount?) := by
  obtain ⟨hproper, hamount⟩ := amount?_of_number? hx
  obtain ⟨hproper', hamount'⟩ := amount?_of_number? hy
  rw [Bool.eq_iff_iff, beq_iff_eq, Extended.compare?_eq_iff hproper hproper', hamount, hamount']
  cases cell.amount? with
  | none => simp
  | some amount =>
    rw [Option.isSome_some, Bool.true_and, beq_iff_eq]
    constructor
    · rintro ⟨_, ⟨⟩, hother⟩
      exact hother.symm
    · intro heq
      exact ⟨amount, rfl, heq.symm⟩

/-- An operand holds no other values, so that it is compared as a whole. -/
theorem same_eq_sameLeaf (cell : Value) (operand : Operand) :
    cell.same operand.value = cell.sameLeaf operand.value := by
  cases operand with
  | text t => cases cell <;> cases t <;> simp [same, Operand.value, ofWide]
  | int n | float x => cases cell <;> simp [same, Operand.value]

theorem sameLeaf_text (cell : Value) (t : WideText) :
    cell.sameLeaf (.ofWide t) = .ok (cell.isText t) := by
  cases cell <;> cases t <;> rfl

/-- What is not a number equals none. -/
theorem sameLeaf_of_not_number {operand : Operand} (hoperand : operand.isNumber = true)
    (h : cell.number? = none) : cell.sameLeaf operand.value = .ok false := by
  cases operand <;> cases hoperand <;> cases cell <;> first | rfl | cases h

/-- **The equality of a cell with an operand**: it fails where it jams, and is told by the text or
by the amounts elsewhere. -/
theorem same_operand (cell : Value) (operand : Operand) :
    cell.same operand.value =
      if operand.jams cell then .error .undefinedDecimal else .ok (operand.equals cell) := by
  rw [same_eq_sameLeaf]
  cases hoperand : operand.isNumber with
  | false =>
    cases operand <;> cases hoperand
    exact sameLeaf_text cell _
  | true =>
    obtain ⟨y, hy⟩ : ∃ y, operand.value.number? = some y := by
      cases operand <;> cases hoperand <;> exact ⟨_, rfl⟩
    have hloud : operand.value.isSignaling = false := by
      cases operand <;> cases hoperand <;> rfl
    have hequals : operand.equals cell =
        (cell.amount?.isSome && cell.amount? == operand.value.amount?) := by
      cases operand <;> cases hoperand <;> rfl
    rw [Operand.jams, hoperand, hequals, Bool.true_and]
    cases hx : cell.number? with
    | none =>
      rw [sameLeaf_of_not_number hoperand hx, isSignaling_of_not_number hx,
        amount?_of_not_number hx]
      rfl
    | some x =>
      rw [← compare?_eq_amount? hx hy]
      unfold sameLeaf
      simp only [hx, hy, hloud, Bool.or_false]

end Value

end ReadGate
