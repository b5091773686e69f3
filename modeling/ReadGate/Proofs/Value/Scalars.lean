import ReadGate.Proofs.Value.Equality

/-!
# Equality of scalars

A scalar of a document stands for nothing, for a number or for a text.  Numbers are one value if
their amounts are, whatever their kinds, so that zero and one are also truth values.  An undefined
number stands for no value at all.

* `Scalar`, `Value.scalar?` — what a scalar stands for.
* `Value.equals` — scalars that stand for the same.
* `alike_eq_equals` — scalars belong to one group exactly if they do.
-/

namespace ReadGate

/-- What a scalar of a document stands for. -/
inductive Scalar
  | null
  | number (amount : Amount)
  | text (s : String)
  /-- A text in which halves of surrogate pairs stand alone. -/
  | halves (codes : List Nat)
  deriving DecidableEq

namespace Value

/-- What a value stands for, if it is a scalar of a document. -/
def scalar? (v : Value) : Option Scalar :=
  match v with
  | .null => some .null
  | .bool _ | .int _ | .float _ => v.amount?.map .number
  | .text s => some (.text s)
  | .halves codes => some (.halves codes)
  | _ => none

/-- Do two scalars stand for the same? -/
def equals (v w : Value) : Bool :=
  v.scalar? == w.scalar?

/-- Null, a truth value, a defined number or a text. -/
inductive IsScalar : Value → Prop
  | null : IsScalar .null
  | bool (b : Bool) : IsScalar (.bool b)
  | int (n : Int) : IsScalar (.int n)
  | float {x : Binary64} (defined : ∀ shared, x ≠ .nan shared) : IsScalar (.float x)
  | text (s : String) : IsScalar (.text s)
  | halves (codes : List Nat) : IsScalar (.halves codes)

variable {v w : Value}

theorem equals_iff : v.equals w = true ↔ v.scalar? = w.scalar? := by
  rw [equals, beq_iff_eq]

/-! ## Numbers -/

/-- A scalar is compared as a number if and only if it stands for one. -/
theorem scalar?_cases (hv : v.IsScalar) :
    (v.number? = none ∧ ∀ amount, v.scalar? ≠ some (.number amount)) ∨
      ∃ x amount, v.number? = some x ∧ v.isSignaling = false ∧ v.amount? = some amount ∧
        v.scalar? = some (.number amount) := by
  cases hv with
  | null => exact .inl ⟨rfl, nofun⟩
  | bool b => exact .inr ⟨_, _, rfl, rfl, rfl, rfl⟩
  | int n => exact .inr ⟨_, _, rfl, rfl, rfl, rfl⟩
  | @float x defined =>
    cases x with
    | nan shared => exact absurd rfl (defined shared)
    | infinite negative => exact .inr ⟨_, _, rfl, rfl, rfl, rfl⟩
    | finite negative m e => exact .inr ⟨_, _, rfl, rfl, rfl, rfl⟩
  | text s => exact .inl ⟨rfl, nofun⟩
  | halves codes => exact .inl ⟨rfl, nofun⟩

/-! ## Equality -/

theorem isShared_of_isScalar (hv : v.IsScalar) (w : Value) : v.isShared w = false := by
  cases hv with
  | @float x defined =>
    cases x with
    | nan shared => exact absurd rfl (defined shared)
    | infinite negative => rfl
    | finite negative m e => rfl
  | _ => rfl

/-- A scalar holds no other values, so that it is compared as a whole. -/
theorem same_of_isScalar (hv : v.IsScalar) (w : Value) : v.same w = v.sameLeaf w := by
  cases hv <;> simp [same]

/-- Scalars that are no numbers are equal only if they are one and the same. -/
theorem sameLeaf_of_not_numbers (hv : v.IsScalar) (hw : w.IsScalar) (hx : v.number? = none)
    (hy : w.number? = none) : v.sameLeaf w = .ok (v.equals w) := by
  cases hv <;> cases hx <;> cases hw <;> cases hy <;>
    simp [sameLeaf, number?, octets?, equals, scalar?]

theorem sameLeaf_eq_equals (hv : v.IsScalar) (hw : w.IsScalar) :
    v.sameLeaf w = .ok (v.equals w) := by
  rcases scalar?_cases hv with ⟨hx, hother⟩ | ⟨x, amount, hx, hquiet, hamount, hscalar⟩ <;>
    rcases scalar?_cases hw with ⟨hy, hother'⟩ | ⟨y, amount', hy, hquiet', hamount', hscalar'⟩
  · exact sameLeaf_of_not_numbers hv hw hx hy
  · have hne : v.equals w = false := by
      rw [equals, hscalar', beq_eq_false_iff_ne]
      exact hother amount'
    rw [hne]
    cases hv <;> cases hx <;> cases hw <;> cases hy <;> rfl
  · have hne : v.equals w = false := by
      rw [equals, hscalar, beq_eq_false_iff_ne]
      exact (hother' amount).symm
    rw [hne]
    simp only [sameLeaf, hx, hy]
  · have hequals : v.equals w = (v.amount?.isSome && v.amount? == w.amount?) := by
      rw [equals, hscalar, hscalar', hamount, hamount', Option.isSome_some, Bool.true_and,
        Bool.eq_iff_iff]
      simp
    rw [hequals, ← compare?_eq_amount? hx hy]
    simp only [sameLeaf, hx, hy, hquiet, hquiet', Bool.or_false, Bool.false_eq_true, if_false]

/-- **Scalars belong to one group exactly if they stand for the same.** -/
theorem alike_eq_equals (hv : v.IsScalar) (hw : w.IsScalar) : v.alike w = v.equals w := by
  rw [alike, coincides, isShared_of_isScalar hv, same_of_isScalar hv, sameLeaf_eq_equals hv hw]
  rfl

theorem alike_texts (a b : String) : (text a).alike (text b) = (a == b) := by
  rw [alike_eq_equals (.text a) (.text b), equals, Bool.eq_iff_iff]
  simp [scalar?]

/-- Scalars can be grouped. -/
theorem unhashable?_of_isScalar (hv : v.IsScalar) : v.unhashable? = none := by
  cases hv <;> simp [unhashable?]

end Value

end ReadGate
