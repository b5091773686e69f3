import Mathlib.Algebra.Order.Field.Power
import Mathlib.Data.Rat.Cast.Order
import Mathlib.Tactic.FieldSimp
import Mathlib.Tactic.Linarith
import Mathlib.Tactic.Positivity
import Mathlib.Tactic.Ring
import ReadGate.Number.Decimal

/-!
# Numbers by value

Numbers of all kinds are compared on one line, without computing powers of ten that are not needed.
The amount of a number is its exact rational value, or an infinity, and two numbers compare as equal
exactly if they have one amount.

* `Amount`, `Extended.amount?` — the value of a number; what is undefined has none.
* `ratio_between` — the decimal magnitude bounds a ratio, so magnitudes that lie apart tell ratios
  apart.
* `compareRatios_eq_iff`, `compare?_eq_iff` — numbers compare as equal iff they have one amount.
* `Binary64.extended_amount?`, `Decimal.extended_amount?` — the amounts of both kinds of numbers.
-/

namespace ReadGate

/-- The value of a number. -/
inductive Amount
  | finite (q : ℚ)
  | infinite (negative : Bool)
  deriving DecidableEq

/-- The value of a number on the extended number line. -/
def Extended.amount? : Extended → Option Amount
  | .undefined => none
  | .below => some (.infinite true)
  | .above => some (.infinite false)
  | .ratio num den scale => some (.finite (num / den * 10 ^ scale))

/-- A ratio has a denominator. -/
def Extended.Proper : Extended → Prop
  | .ratio _ den _ => 0 < den
  | _ => True

namespace Extended

open Binary64

/-! ## Magnitudes -/

theorem digitCount_bounds {n : ℕ} (hn : 0 < n) :
    10 ^ (digitCount n - 1) ≤ n ∧ n < 10 ^ digitCount n ∧ 0 < digitCount n := by
  induction n using Nat.strongRecOn with
  | ind n ih =>
    unfold digitCount
    split
    · rename_i hsmall
      exact ⟨hn, hsmall, Nat.one_pos⟩
    · rename_i hlarge
      obtain ⟨hlow, hhigh, hpos⟩ := ih (n / 10) (by omega) (by omega)
      refine ⟨?_, ?_, by omega⟩
      · rw [Nat.add_sub_cancel]
        calc 10 ^ digitCount (n / 10)
            = 10 ^ (digitCount (n / 10) - 1) * 10 := by
              rw [← Nat.pow_succ, Nat.succ_eq_add_one, Nat.sub_add_cancel hpos]
          _ ≤ n / 10 * 10 := Nat.mul_le_mul_right 10 hlow
          _ ≤ n := Nat.div_mul_le_self n 10
      · rw [Nat.pow_succ]
        omega

/-- A number lies between the powers of ten that its digits tell. -/
theorem between_powers {n : ℕ} (hn : 0 < n) :
    (10 : ℚ) ^ ((digitCount n : ℤ) - 1) ≤ n ∧ (n : ℚ) < 10 ^ (digitCount n : ℤ) := by
  obtain ⟨hlow, hhigh, hpos⟩ := digitCount_bounds hn
  constructor
  · rw [show (digitCount n : ℤ) - 1 = ((digitCount n - 1 : ℕ) : ℤ) by omega, zpow_natCast]
    exact_mod_cast hlow
  · rw [zpow_natCast]
    exact_mod_cast hhigh

/-- A ratio lies strictly between the powers of ten next to its magnitude. -/
theorem ratio_between {a : ℤ} (ha : a ≠ 0) {b : ℕ} (hb : 0 < b) (s : ℤ) :
    (10 : ℚ) ^ (magnitude a b s - 1) < |(a : ℚ) / b * 10 ^ s| ∧
      |(a : ℚ) / b * 10 ^ s| < 10 ^ (magnitude a b s + 1) := by
  have habs : |(a : ℚ) / b * 10 ^ s| = (a.natAbs : ℚ) / b * 10 ^ s := by
    rw [abs_mul, abs_div, Nat.abs_cast, abs_of_pos (by positivity : (0 : ℚ) < 10 ^ s),
      Nat.cast_natAbs, Int.cast_abs]
  obtain ⟨hnum, hnum'⟩ := between_powers (Int.natAbs_pos.2 ha)
  obtain ⟨hden, hden'⟩ := between_powers hb
  have hbpos : (0 : ℚ) < b := by exact_mod_cast hb
  have hten : (10 : ℚ) ≠ 0 := by norm_num
  rw [habs, magnitude]
  -- a bound of the quotient takes the bounds of its two parts from opposite sides
  constructor
  · calc (10 : ℚ) ^ ((digitCount a.natAbs : ℤ) - digitCount b + s - 1)
        = 10 ^ ((digitCount a.natAbs : ℤ) - 1) / 10 ^ (digitCount b : ℤ) * 10 ^ s := by
          rw [← zpow_sub₀ hten, ← zpow_add₀ hten]
          congr 1
          ring
      _ < a.natAbs / b * 10 ^ s := by
          have hlt : (10 : ℚ) ^ ((digitCount a.natAbs : ℤ) - 1) / 10 ^ (digitCount b : ℤ)
              < a.natAbs / b := div_lt_div₀' hnum hden' (by positivity) hbpos
          exact mul_lt_mul_of_pos_right hlt (by positivity)
  · calc (a.natAbs : ℚ) / b * 10 ^ s
        < 10 ^ (digitCount a.natAbs : ℤ) / 10 ^ ((digitCount b : ℤ) - 1) * 10 ^ s := by
          have hlt : (a.natAbs : ℚ) / b
              < 10 ^ (digitCount a.natAbs : ℤ) / 10 ^ ((digitCount b : ℤ) - 1) :=
            div_lt_div₀ hnum' hden (by positivity) (by positivity)
          exact mul_lt_mul_of_pos_right hlt (by positivity)
      _ = 10 ^ ((digitCount a.natAbs : ℤ) - digitCount b + s + 1) := by
          rw [← zpow_sub₀ hten, ← zpow_add₀ hten]
          congr 1
          ring

/-- Magnitudes that lie apart tell which ratio is closer to zero. -/
theorem abs_lt_of_magnitude_apart {a c : ℤ} {b d : ℕ} {s t : ℤ} (ha : a ≠ 0) (hb : 0 < b)
    (hc : c ≠ 0) (hd : 0 < d) (hapart : magnitude a b s + 2 ≤ magnitude c d t) :
    |(a : ℚ) / b * 10 ^ s| < |(c : ℚ) / d * 10 ^ t| :=
  calc |(a : ℚ) / b * 10 ^ s| < 10 ^ (magnitude a b s + 1) := (ratio_between ha hb s).2
    _ ≤ 10 ^ (magnitude c d t - 1) := zpow_le_zpow_right₀ (by norm_num) (by omega)
    _ < |(c : ℚ) / d * 10 ^ t| := (ratio_between hc hd t).1

/-- Ratios whose magnitudes lie apart are different. -/
theorem ne_of_magnitude_apart {a c : ℤ} {b d : ℕ} {s t : ℤ} (ha : a ≠ 0) (hb : 0 < b) (hc : c ≠ 0)
    (hd : 0 < d) (hapart : magnitude a b s + 2 ≤ magnitude c d t) :
    (a : ℚ) / b * 10 ^ s ≠ c / d * 10 ^ t := by
  intro heq
  have hlt := abs_lt_of_magnitude_apart ha hb hc hd hapart
  rw [heq] at hlt
  exact lt_irrefl _ hlt

/-! ## Comparison -/

theorem ratio_pos (a : ℤ) {b : ℕ} (hb : 0 < b) (s : ℤ) :
    0 < (a : ℚ) / b * 10 ^ s ↔ 0 < a := by
  have hb' : (0 : ℚ) < b := by exact_mod_cast hb
  have hs : (0 : ℚ) < 10 ^ s := by positivity
  rw [mul_pos_iff_of_pos_right hs, div_pos_iff_of_pos_right hb', Int.cast_pos]

theorem ratio_neg (a : ℤ) {b : ℕ} (hb : 0 < b) (s : ℤ) :
    (a : ℚ) / b * 10 ^ s < 0 ↔ a < 0 := by
  have hneg : -((a : ℚ) / b * 10 ^ s) = ((-a : ℤ) : ℚ) / b * 10 ^ s := by
    push_cast
    ring
  rw [← neg_pos, hneg, ratio_pos (-a) hb s, Int.neg_pos]

/-- Equal ratios have one sign. -/
theorem sign_eq_of_ratio_eq {a c : ℤ} {b d : ℕ} (hb : 0 < b) (hd : 0 < d) {s t : ℤ}
    (h : (a : ℚ) / b * 10 ^ s = c / d * 10 ^ t) : a.sign = c.sign := by
  have hpos : 0 < a ↔ 0 < c := by rw [← ratio_pos a hb s, h, ratio_pos c hd t]
  have hneg : a < 0 ↔ c < 0 := by rw [← ratio_neg a hb s, h, ratio_neg c hd t]
  rcases lt_trichotomy a 0 with ha | rfl | ha
  · rw [Int.sign_eq_neg_one_of_neg ha, Int.sign_eq_neg_one_of_neg (hneg.1 ha)]
  · have hc : c = 0 := by omega
    rw [hc]
  · rw [Int.sign_eq_one_of_pos ha, Int.sign_eq_one_of_pos (hpos.1 ha)]

/-- The powers of ten stay on one side, so that the comparison is one of integers. -/
theorem compareScaled_eq_iff {a c : ℤ} {b d : ℕ} (hb : 0 < b) (hd : 0 < d) (s t : ℤ) :
    compareScaled a b c d (s - t) = .eq ↔ (a : ℚ) / b * 10 ^ s = c / d * 10 ^ t := by
  have hb' : (b : ℚ) ≠ 0 := by exact_mod_cast hb.ne'
  have hd' : (d : ℚ) ≠ 0 := by exact_mod_cast hd.ne'
  have ht : (10 : ℚ) ^ t ≠ 0 := by positivity
  have hten : (10 : ℚ) ≠ 0 := by norm_num
  have hscale : (10 : ℚ) ^ s = 10 ^ (s - t) * 10 ^ t := by
    rw [← zpow_add₀ hten, sub_add_cancel]
  have hdivide : (a : ℚ) / b * 10 ^ s = c / d * 10 ^ t ↔ (a : ℚ) * d * 10 ^ (s - t) = c * b := by
    rw [hscale, ← mul_assoc, mul_left_inj' ht]
    field_simp
  rw [hdivide]
  unfold compareScaled tenPow
  split
  · rename_i hle
    have hpow : (10 : ℚ) ^ (s - t) = 10 ^ (s - t).toNat := by
      rw [← zpow_natCast, Int.toNat_of_nonneg hle]
    rw [compare_eq_iff_eq, hpow, mul_right_comm]
    exact_mod_cast Iff.rfl
  · rename_i hgt
    have hpow : (10 : ℚ) ^ (s - t) = (10 ^ (-(s - t)).toNat)⁻¹ := by
      rw [← zpow_natCast, ← zpow_neg, Int.toNat_of_nonneg (by omega), neg_neg]
    rw [compare_eq_iff_eq, hpow, mul_inv_eq_iff_eq_mul₀ (by positivity), mul_right_comm (c : ℚ)]
    exact_mod_cast Iff.rfl

/-- **Ratios compare as equal exactly if they are.** -/
theorem compareRatios_eq_iff {a c : ℤ} {b d : ℕ} (hb : 0 < b) (hd : 0 < d) (s t : ℤ) :
    compareRatios a b s c d t = .eq ↔ (a : ℚ) / b * 10 ^ s = c / d * 10 ^ t := by
  unfold compareRatios
  split
  · rename_i hsign
    rw [compare_eq_iff_eq]
    refine ⟨fun heq => ?_, sign_eq_of_ratio_eq hb hd⟩
    obtain rfl : a = 0 := hsign.resolve_left (not_not.2 heq)
    obtain rfl : c = 0 := Int.sign_eq_zero_iff_zero.1 (by simpa using heq.symm)
    simp
  · rename_i hsign
    obtain ⟨hsame, ha⟩ := not_or.1 hsign
    have hc : c ≠ 0 := by
      rintro rfl
      exact ha (Int.sign_eq_zero_iff_zero.1 (by simpa using hsame))
    -- with one sign, magnitudes that lie apart decide, and else the exact comparison
    split
    · rename_i hapart
      have hne := ne_of_magnitude_apart ha hb hc hd hapart
      split <;> simp [hne]
    · split
      · rename_i hapart
        have hne := (ne_of_magnitude_apart hc hd ha hb hapart).symm
        split <;> simp [hne]
      · exact compareScaled_eq_iff hb hd s t

/-- Numbers of any kind compare as equal exactly if they have one amount. -/
theorem compare?_eq_iff {x y : Extended} (hx : x.Proper) (hy : y.Proper) :
    x.compare? y = some .eq ↔ ∃ amount, x.amount? = some amount ∧ y.amount? = some amount := by
  cases x <;> cases y <;> simp [compare?, amount?]
  case ratio.ratio a b s c d t =>
    rw [compareRatios_eq_iff hx hy s t, eq_comm]

end Extended

/-! ## The amounts of both kinds of numbers -/

/-- The value of a double-precision number. -/
def Binary64.amount? : Binary64 → Option Amount
  | .nan _ => none
  | .infinite negative => some (.infinite negative)
  | .finite negative m e => some (.finite ((if negative then -1 else 1) * m * 2 ^ e))

/-- The value of a decimal. -/
def Decimal.amount? : Decimal → Option Amount
  | .finite negative c e => some (.finite ((if negative then -1 else 1) * c * 10 ^ e))
  | .infinite negative => some (.infinite negative)
  | .undefined .. => none

theorem Binary64.binaryRatio_value (m : ℕ) (e : ℤ) :
    0 < (binaryRatio m e).2 ∧ ((binaryRatio m e).1 : ℚ) / (binaryRatio m e).2 = m * 2 ^ e := by
  unfold binaryRatio twoPow
  split
  · rename_i hle
    refine ⟨Nat.one_pos, ?_⟩
    have hpow : (2 : ℚ) ^ e = 2 ^ e.toNat := by rw [← zpow_natCast, Int.toNat_of_nonneg hle]
    simp [hpow]
  · rename_i hgt
    refine ⟨Nat.two_pow_pos _, ?_⟩
    have hpow : (2 : ℚ) ^ e = (2 ^ (-e).toNat)⁻¹ := by
      rw [← zpow_natCast, ← zpow_neg, Int.toNat_of_nonneg (by omega), neg_neg]
    simp [hpow, div_eq_mul_inv]

/-- A double-precision number stands on the number line at its amount. -/
theorem Binary64.extended_amount? (x : Binary64) :
    x.extended.Proper ∧ x.extended.amount? = x.amount? := by
  cases x with
  | nan shared => exact ⟨trivial, rfl⟩
  | infinite negative => cases negative <;> exact ⟨trivial, rfl⟩
  | finite negative m e =>
    obtain ⟨hpos, hvalue⟩ := binaryRatio_value m e
    refine ⟨hpos, ?_⟩
    cases negative <;> simp [extended, ratio?, Extended.amount?, amount?, neg_div, hvalue]

/-- So does a decimal. -/
theorem Decimal.extended_amount? (d : Decimal) :
    d.extended.Proper ∧ d.extended.amount? = d.amount? := by
  cases d with
  | finite negative c e =>
    refine ⟨Nat.one_pos, ?_⟩
    cases negative <;> simp [extended, signed, Extended.amount?, amount?]
  | infinite negative => cases negative <;> exact ⟨trivial, rfl⟩
  | undefined negative signaling payload => exact ⟨trivial, rfl⟩

end ReadGate
