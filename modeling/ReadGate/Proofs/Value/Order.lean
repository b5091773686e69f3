import Mathlib.Data.Int.ConditionallyCompleteOrder
import Mathlib.Data.List.Lex
import Mathlib.Data.Sum.Order
import Mathlib.Order.WithBot
import ReadGate.Proofs.Value.Equality

/-!
# The order of integers and texts

Integers are compared through their decimal magnitudes where these differ enough, and texts code by
code; both amount to the usual orders.

* `Extended.compareRatios_int` — integers compare by value.
* `Value.codesBefore_eq` — codes compare as in a dictionary.
* `Value.rank` — where a cell stands: integers by value, texts by their codes, null behind all.
* `Value.IsWhole.precedes`, `Value.IsWords.precedes` — cells of one kind compare by rank.
-/

namespace ReadGate

/-! ## Integers -/

namespace Extended

open Binary64

/-- Fewer digits make a smaller number. -/
theorem lt_of_digitCount_lt {m n : ℕ} (hm : 0 < m) (hn : 0 < n)
    (h : digitCount m < digitCount n) : m < n := by
  obtain ⟨-, hhigh, -⟩ := digitCount_bounds hm
  obtain ⟨hlow, -, -⟩ := digitCount_bounds hn
  calc m < 10 ^ digitCount m := hhigh
    _ ≤ 10 ^ (digitCount n - 1) := Nat.pow_le_pow_right (by decide) (by omega)
    _ ≤ n := hlow

theorem natAbs_lt_of_magnitude_apart {m n : ℤ} (hm : m ≠ 0) (hn : n ≠ 0)
    (h : magnitude m 1 0 + 2 ≤ magnitude n 1 0) : m.natAbs < n.natAbs := by
  unfold magnitude at h
  exact lt_of_digitCount_lt (Int.natAbs_pos.2 hm) (Int.natAbs_pos.2 hn) (by omega)

theorem sign_cases (m : ℤ) : 0 < m ∧ m.sign = 1 ∨ m = 0 ∧ m.sign = 0 ∨ m < 0 ∧ m.sign = -1 := by
  rcases lt_trichotomy m 0 with hm | rfl | hm
  · exact .inr (.inr ⟨hm, Int.sign_eq_neg_one_of_neg hm⟩)
  · exact .inr (.inl ⟨rfl, rfl⟩)
  · exact .inl ⟨hm, Int.sign_eq_one_of_pos hm⟩

/-- **Integers compare by value.** -/
theorem compareRatios_int (m n : ℤ) : compareRatios m 1 0 n 1 0 = compare m n := by
  have hm := sign_cases m
  have hn := sign_cases n
  unfold compareRatios
  split
  · rename_i hsign
    rcases lt_trichotomy m n with hlt | rfl | hgt
    · rw [compare_lt_iff_lt.2 hlt, compare_lt_iff_lt]
      omega
    · simp
    · rw [compare_gt_iff_gt.2 hgt, compare_gt_iff_gt]
      omega
  · rename_i hsign
    have hm0 : m ≠ 0 := by omega
    have hn0 : n ≠ 0 := by omega
    split
    · have hless := natAbs_lt_of_magnitude_apart hm0 hn0 ‹_›
      split
      · exact (compare_lt_iff_lt.2 (by omega)).symm
      · exact (compare_gt_iff_gt.2 (by omega)).symm
    · split
      · have hless := natAbs_lt_of_magnitude_apart hn0 hm0 ‹_›
        split
        · exact (compare_gt_iff_gt.2 (by omega)).symm
        · exact (compare_lt_iff_lt.2 (by omega)).symm
      · simp [compareScaled, tenPow]

end Extended

namespace Value

/-! ## Texts -/

/-- **Codes compare as in a dictionary.** -/
theorem codesBefore_eq (s t : List ℕ) : codesBefore s t = decide (s < t) := by
  induction s generalizing t with
  | nil => cases t <;> simp [codesBefore]
  | cons c s ih =>
    cases t with
    | nil => simp [codesBefore]
    | cons d t => simp [codesBefore, ih, List.cons_lt_cons_iff, Bool.beq_eq_decide_eq]

/-- Characters compare by their codes. -/
theorem textBefore_eq (s t : List Char) :
    textBefore s t = codesBefore (s.map Char.toNat) (t.map Char.toNat) := by
  induction s generalizing t with
  | nil => cases t <;> rfl
  | cons c s ih =>
    cases t with
    | nil => rfl
    | cons d t =>
      have hsame : (c == d) = (c.toNat == d.toNat) := by
        rw [Bool.eq_iff_iff, beq_iff_eq, beq_iff_eq]
        exact ⟨congrArg Char.toNat, Char.toNat_inj.1⟩
      simp only [List.map_cons, textBefore, codesBefore, ih, hsame]

/-! ## Ranks -/

/-- The integer that a value counts as in comparisons. -/
def whole? : Value → Option ℤ
  | bool b => some (if b then 1 else 0)
  | int n => some n
  | _ => none

/-- Where a value stands in an order of integers or of texts; null stands behind all others. -/
def rank (v : Value) : WithTop (ℤ ⊕ₗ List ℕ) :=
  match v.whole?, v.codes? with
  | some n, _ => (Sum.inlₗ n : ℤ ⊕ₗ List ℕ)
  | none, some codes => (Sum.inrₗ codes : ℤ ⊕ₗ List ℕ)
  | none, none => ⊤

/-- Is the value an integer, or null? -/
def IsWhole (v : Value) : Prop :=
  v.isNull = true ∨ v.whole?.isSome = true

/-- Is the value a text, or null? -/
def IsWords (v : Value) : Prop :=
  v.isNull = true ∨ v.codes?.isSome = true

variable {v w : Value} {m n : ℤ} {s t : List ℕ}

theorem rank_of_whole (h : v.whole? = some m) : v.rank = (Sum.inlₗ m : ℤ ⊕ₗ List ℕ) := by
  unfold rank
  rw [h]

theorem rank_of_codes (h : v.codes? = some s) : v.rank = (Sum.inrₗ s : ℤ ⊕ₗ List ℕ) := by
  cases v <;> cases h <;> rfl

theorem rank_of_isNull (h : v.isNull = true) : v.rank = ⊤ := by
  cases v <;> cases h
  rfl

/-- What decides between two cells with values: whether they coincide, else which comes first. -/
def compares (v w : Value) : Except Incomparable Bool := do
  if ← v.coincides w then return false else v.before w

theorem compares_of {b c : Bool} (hcoincides : v.coincides w = .ok b)
    (hbefore : v.before w = .ok c) : v.compares w = .ok (!b && c) := by
  unfold compares
  rw [hcoincides, hbefore]
  cases b <;> rfl

theorem number?_of_whole (h : v.whole? = some m) :
    v.number? = some (.ratio m 1 0) ∧ v.isSignaling = false := by
  cases v <;> cases h <;> exact ⟨rfl, rfl⟩

/-- Integers are compared by value. -/
theorem compares_whole (hv : v.whole? = some m) (hw : w.whole? = some n) :
    v.compares w = .ok (decide (v.rank < w.rank)) := by
  obtain ⟨hvn, hvs⟩ := number?_of_whole hv
  obtain ⟨hwn, hws⟩ := number?_of_whole hw
  have hcoincides : v.coincides w = .ok (compare m n == .eq) := by
    have hleaf : v.coincides w = v.sameLeaf w := by
      cases v <;> cases hv <;> cases w <;> cases hw <;> simp [coincides, isShared, same]
    rw [hleaf]
    simp [sameLeaf, hvn, hwn, hvs, hws, Extended.compare?, Extended.compareRatios_int]
  have hbefore : v.before w = .ok (compare m n == .lt) := by
    have hleaf : v.before w = v.beforeLeaf w := by
      cases v <;> cases hv <;> cases w <;> cases hw <;> simp [before]
    rw [hleaf]
    simp [beforeLeaf, hvn, hwn, Extended.compare?, Extended.compareRatios_int]
  rw [compares_of hcoincides hbefore, rank_of_whole hv, rank_of_whole hw]
  rcases lt_trichotomy m n with hlt | rfl | hgt
  · simp [compare_lt_iff_lt.2 hlt, hlt]
  · simp
  · simp [compare_gt_iff_gt.2 hgt, hgt.le]

/-- Texts are compared by their codes. -/
theorem compares_words (hv : v.codes? = some s) (hw : w.codes? = some t) :
    v.compares w = .ok (decide (v.rank < w.rank)) := by
  have hcoincides : ∃ b, v.coincides w = .ok b ∧ (b = true → s = t) := by
    cases v <;> cases hv <;> cases w <;> cases hw <;>
      simp [coincides, isShared, same, sameLeaf, number?, octets?]
    case text.refl.text.refl =>
      rintro rfl
      rfl
  have hbefore : v.before w = .ok (decide (s < t)) := by
    rw [← codesBefore_eq]
    cases v <;> cases hv <;> cases w <;> cases hw <;>
      simp [before, beforeLeaf, number?, codes?, textBefore_eq]
  obtain ⟨b, hb, hsame⟩ := hcoincides
  rw [compares_of hb hbefore, rank_of_codes hv, rank_of_codes hw]
  cases b with
  | true =>
    obtain rfl := hsame rfl
    simp
  | false => simp

/-! ## Cells -/

/-- Does a cell come before another?  Null comes last. -/
def precedes (v w : Value) : Except Incomparable Bool :=
  match v.isNull, w.isNull with
  | true, _ => .ok false
  | false, true => .ok true
  | false, false => v.compares w

/-- Where null does not take part, what is compared decides. -/
theorem precedes_of (hnull : v.isNull ↔ v.rank = ⊤)
    (h : v.isNull = false → w.isNull = false → v.compares w = .ok (decide (v.rank < w.rank))) :
    v.precedes w = .ok (decide (v.rank < w.rank)) := by
  unfold precedes
  cases hv : v.isNull with
  | true => simp [rank_of_isNull hv]
  | false =>
    cases hw : w.isNull with
    | true =>
      have hbelow : v.rank < ⊤ := lt_top_iff_ne_top.2 fun htop => by simp [hnull.2 htop] at hv
      simp [rank_of_isNull hw, hbelow]
    | false => exact h hv hw

theorem IsWhole.exists_of_not_null (h : v.IsWhole) (hnull : v.isNull = false) :
    ∃ n, v.whole? = some n :=
  Option.isSome_iff_exists.1 (h.resolve_left (by simp [hnull]))

theorem IsWords.exists_of_not_null (h : v.IsWords) (hnull : v.isNull = false) :
    ∃ s, v.codes? = some s :=
  Option.isSome_iff_exists.1 (h.resolve_left (by simp [hnull]))

theorem IsWhole.isNull_iff (h : v.IsWhole) : v.isNull ↔ v.rank = ⊤ := by
  refine ⟨rank_of_isNull, fun htop => ?_⟩
  by_contra hnull
  obtain ⟨n, hn⟩ := h.exists_of_not_null (Bool.not_eq_true _ ▸ hnull)
  rw [rank_of_whole hn] at htop
  exact WithTop.coe_ne_top htop

theorem IsWords.isNull_iff (h : v.IsWords) : v.isNull ↔ v.rank = ⊤ := by
  refine ⟨rank_of_isNull, fun htop => ?_⟩
  by_contra hnull
  obtain ⟨s, hs⟩ := h.exists_of_not_null (Bool.not_eq_true _ ▸ hnull)
  rw [rank_of_codes hs] at htop
  exact WithTop.coe_ne_top htop

/-- **Integers and null are ordered by rank.** -/
theorem IsWhole.precedes (hv : v.IsWhole) (hw : w.IsWhole) :
    v.precedes w = .ok (decide (v.rank < w.rank)) := by
  refine precedes_of hv.isNull_iff fun hnull hnull' => ?_
  obtain ⟨m, hm⟩ := hv.exists_of_not_null hnull
  obtain ⟨n, hn⟩ := hw.exists_of_not_null hnull'
  exact compares_whole hm hn

/-- **Texts and null are ordered by rank.** -/
theorem IsWords.precedes (hv : v.IsWords) (hw : w.IsWords) :
    v.precedes w = .ok (decide (v.rank < w.rank)) := by
  refine precedes_of hv.isNull_iff fun hnull hnull' => ?_
  obtain ⟨s, hs⟩ := hv.exists_of_not_null hnull
  obtain ⟨t, ht⟩ := hw.exists_of_not_null hnull'
  exact compares_words hs ht

end Value

end ReadGate
