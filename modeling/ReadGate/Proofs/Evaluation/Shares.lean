import ReadGate.Evaluation.Metrics
import ReadGate.Proofs.Number.Amount

/-!
# Shares that are rounded to one

The share of correct cases is a quotient that is rounded to a double.  A share of almost one can be
rounded to one, and then does not count as below one; this takes `2 ^ 54` cases for each incorrect
one.

* `compareRatios_lt_iff`, `belowOne_finite` — which numbers are below one.
* `exponentFor_proper` — the exponent at which a proper fraction is rounded.
* `belowOne_share` — which shares are below one after they are rounded.
-/

namespace ReadGate

open Binary64

/-! ## Numbers below one -/

namespace Extended

theorem compareScaled_lt_iff {a b c d : ℕ} : compareScaled a b c d 0 = .lt ↔ a * d < c * b := by
  have hscale : Nat.pow 10 (Int.toNat 0) = 1 := rfl
  simp only [compareScaled, le_refl, if_true, tenPow, hscale]
  rw [Int.compare_eq_lt, Nat.cast_one, mul_one]
  exact_mod_cast Iff.rfl

/-- A ratio is less than a positive one if it is so by cross-multiplication. -/
theorem compareRatios_lt_iff {a b c d : ℕ} (hb : 0 < b) (hc : 0 < c) (hd : 0 < d) :
    compareRatios a b 0 c d 0 = .lt ↔ a * d < c * b := by
  -- where the magnitudes lie apart, they tell the order
  have horder {a b c d : ℕ} (ha : 0 < a) (hb : 0 < b) (hc : 0 < c) (hd : 0 < d)
      (hapart : magnitude a b 0 + 2 ≤ magnitude c d 0) : a * d < c * b := by
    have hb' : (0 : ℚ) < b := by exact_mod_cast hb
    have hd' : (0 : ℚ) < d := by exact_mod_cast hd
    have hlt := abs_lt_of_magnitude_apart (by omega) hb (by omega) hd hapart
    rw [zpow_zero, mul_one, mul_one, Int.cast_natCast, Int.cast_natCast,
      abs_of_nonneg (by positivity), abs_of_nonneg (by positivity),
      div_lt_div_iff₀ hb' hd'] at hlt
    exact_mod_cast hlt
  have hsign : (c : ℤ).sign = 1 := Int.sign_natCast_of_ne_zero hc.ne'
  unfold compareRatios
  rcases Nat.eq_zero_or_pos a with rfl | ha
  · have hzero : (0 : ℤ).sign = 0 := rfl
    simp only [Nat.cast_zero, or_true, if_true, hsign, hzero, Nat.zero_mul]
    exact iff_of_true rfl (Nat.mul_pos hc hb)
  · have hsame : ¬ ((a : ℤ).sign ≠ (c : ℤ).sign ∨ (a : ℤ) = 0) := by
      rw [hsign, Int.sign_natCast_of_ne_zero ha.ne']
      omega
    rw [if_neg hsame, if_pos (by omega : (0 : ℤ) < a), if_pos (by omega : (0 : ℤ) < a)]
    split
    · rename_i hapart
      exact iff_of_true rfl (horder ha hb hc hd hapart)
    · split
      · rename_i hapart
        exact iff_of_false nofun (horder hc hd ha hb hapart).asymm
      · exact compareScaled_lt_iff

end Extended

namespace Evaluation

/-- A number with so many binary places is below one if its mantissa is below that power of two. -/
theorem belowOne_finite (m : ℕ) {places : ℕ} (hplaces : 0 < places) :
    belowOne (.finite false m (-places)) = true ↔ m < 2 ^ places := by
  have hone : (ofInt 1).extended = .ratio (2 ^ 52 : ℕ) (2 ^ 52) 0 := by with_unfolding_all rfl
  have hextended : (Binary64.finite false m (-places)).extended = .ratio m (2 ^ places) 0 := by
    have hneg : ¬ (0 : ℤ) ≤ -places := by omega
    simp only [Binary64.extended, ratio?, binaryRatio, if_neg hneg, neg_neg, Int.toNat_natCast,
      twoPow, Bool.false_eq_true, if_false]
    rfl
  have hcompare : belowOne (.finite false m (-places)) = true ↔
      Extended.compareRatios m (2 ^ places) 0 (2 ^ 52 : ℕ) (2 ^ 52) 0 = .lt := by
    simp only [belowOne, Binary64.compare?, hextended, hone, Extended.compare?, beq_iff_eq,
      Option.some.injEq]
  rw [hcompare, Extended.compareRatios_lt_iff (by positivity) (by positivity) (by positivity),
    mul_comm m]
  exact Nat.mul_lt_mul_left (by positivity)

/-! ## Rounding a proper fraction -/

/-- A proper fraction is rounded to so many binary places that its mantissa keeps below 53 bits.
There are at least 53 places, and no more for a fraction of a half or above. -/
theorem exponentFor_proper {num den : ℕ} (hnum : 0 < num) (hless : num < den) :
    ∃ places : ℕ, exponentFor num den = -places ∧ 53 ≤ places ∧
      num * 2 ^ places < 2 ^ 53 * den ∧ (den ≤ 2 * num → places = 53) := by
  obtain ⟨a, ha⟩ : ∃ a, a = num.log2 := ⟨_, rfl⟩
  obtain ⟨b, hb⟩ : ∃ b, b = den.log2 := ⟨_, rfl⟩
  have hlow : 2 ^ b ≤ den := hb ▸ Nat.log2_self_le (by omega)
  have hhigh : num < 2 ^ (a + 1) := ha ▸ Nat.lt_log2_self
  have hab : a ≤ b := by
    have hpow : 2 ^ a < 2 ^ (b + 1) :=
      calc 2 ^ a ≤ num := ha ▸ Nat.log2_self_le (by omega)
        _ < den := hless
        _ < 2 ^ (b + 1) := hb ▸ Nat.lt_log2_self
    have hexp := (Nat.pow_lt_pow_iff_right (by norm_num)).1 hpow
    omega
  -- the guess is right, or one place short
  obtain ⟨guess, hguess⟩ : ∃ guess : ℕ, guess + a = 52 + b := ⟨52 + b - a, by omega⟩
  have hbound : num * 2 ^ guess < 2 ^ 53 * den :=
    calc num * 2 ^ guess < 2 ^ (a + 1) * 2 ^ guess :=
          Nat.mul_lt_mul_of_pos_right hhigh (Nat.two_pow_pos _)
      _ = 2 ^ 53 * 2 ^ b := by
          rw [← pow_add, ← pow_add]
          congr 1
          omega
      _ ≤ 2 ^ 53 * den := Nat.mul_le_mul_left _ hlow
  obtain ⟨full, hfull, hfits, hmost⟩ : ∃ full : ℕ,
      exponentFor num den = max (-(full : ℤ)) minExponent ∧ num * 2 ^ full < 2 ^ 53 * den ∧
      53 ≤ full := by
    have hscaled : scaled num den ((a : ℤ) - b - 52) = (num * 2 ^ guess, den) := by
      have hneg : ¬ (0 : ℤ) ≤ (a : ℤ) - b - 52 := by omega
      have hplaces : (-((a : ℤ) - b - 52)).toNat = guess := by omega
      rw [scaled, if_neg hneg, hplaces, twoPow, Nat.pow_eq]
    unfold exponentFor
    simp only [← ha, ← hb, hscaled, twoPow, Nat.pow_eq]
    by_cases hshort : num * 2 ^ guess / den < 2 ^ 52
    · refine ⟨guess + 1, ?_, ?_, by omega⟩
      · rw [if_pos hshort]
        congr 1
        omega
      · have hquotient := (Nat.div_lt_iff_lt_mul (by omega)).1 hshort
        calc num * 2 ^ (guess + 1) = num * 2 ^ guess * 2 := by rw [pow_succ, mul_assoc]
          _ < 2 ^ 52 * den * 2 := Nat.mul_lt_mul_of_pos_right hquotient (by norm_num)
          _ = 2 ^ 53 * den := by ring
    · refine ⟨guess, ?_, hbound, ?_⟩
      · rw [if_neg hshort]
        congr 1
        omega
      · have hquotient := (Nat.le_div_iff_mul_le (by omega)).1 (Nat.le_of_not_lt hshort)
        have hpow : num * 2 ^ 52 < num * 2 ^ guess :=
          calc num * 2 ^ 52 < den * 2 ^ 52 := Nat.mul_lt_mul_of_pos_right hless (by norm_num)
            _ = 2 ^ 52 * den := mul_comm _ _
            _ ≤ num * 2 ^ guess := hquotient
        exact (Nat.pow_lt_pow_iff_right (by norm_num)).1 (Nat.lt_of_mul_lt_mul_left hpow)
  -- a very small fraction has the least exponent
  refine ⟨min full 1074, ?_, by omega, ?_, ?_⟩
  · rw [hfull, minExponent]
    omega
  · have hpow : 2 ^ min full 1074 ≤ 2 ^ full := Nat.pow_le_pow_right (by norm_num) (by omega)
    exact (Nat.mul_le_mul_left num hpow).trans_lt hfits
  · intro hhalf
    have hpow : num * 2 ^ full < num * 2 ^ 54 :=
      calc num * 2 ^ full < 2 ^ 53 * den := hfits
        _ ≤ 2 ^ 53 * (2 * num) := Nat.mul_le_mul_left _ hhalf
        _ = num * 2 ^ 54 := by ring
    have hexp := (Nat.pow_lt_pow_iff_right (by norm_num)).1 (Nat.lt_of_mul_lt_mul_left hpow)
    omega

/-- A quotient below a number is rounded to that number at most. -/
theorem roundQuotient_le {num den n : ℕ} (hless : num < n * den) : roundQuotient num den ≤ n := by
  have hquotient : num / den < n := Nat.div_lt_of_lt_mul (mul_comm n den ▸ hless)
  unfold roundQuotient
  dsimp only
  split_ifs <;> omega

/-- A quotient below an even number stays below it if it is rounded, unless it lacks at most a half
of it. -/
theorem roundQuotient_lt_iff {num den n : ℕ} (heven : n % 2 = 0) (hless : num < n * den) :
    roundQuotient num den < n ↔ den < 2 * (n * den - num) := by
  have hquotient : num / den < n := Nat.div_lt_of_lt_mul (mul_comm n den ▸ hless)
  have hden : 0 < den := Nat.pos_of_mul_pos_left (Nat.zero_lt_of_lt hless)
  have hrest := Nat.mod_lt num hden
  have hnum := Nat.div_add_mod' num den
  obtain ⟨gap, hgap⟩ : ∃ gap, n = num / den + 1 + gap := ⟨n - (num / den + 1), by omega⟩
  have hproduct : n * den = num / den * den + den + gap * den := by
    rw [hgap]
    ring
  unfold roundQuotient
  dsimp only
  rcases Nat.eq_zero_or_pos gap with rfl | hpos
  · rw [Nat.zero_mul] at hproduct
    split_ifs <;> omega
  · have hmore : den ≤ gap * den := Nat.le_mul_of_pos_left den hpos
    split_ifs <;> omega

/-! ## Shares -/

theorem share_eq (part : ℕ) {whole : ℕ} (hwhole : 0 < whole) :
    share part whole = ofRatio false part whole := by
  have hne : (whole : ℤ) ≠ 0 := by omega
  have hpart : ¬ (part : ℤ) < 0 := by omega
  have hpos : ¬ (whole : ℤ) < 0 := by omega
  simp only [share, if_neg hne, hpart, hpos, decide_false, bne_self_eq_false, Int.natAbs_natCast]

/-- A share of all is one. -/
theorem ofRatio_self {whole : ℕ} (hwhole : 0 < whole) :
    ofRatio false whole whole = .finite false (2 ^ 52) (-(52 : ℕ)) := by
  have hscaled : scaled whole whole (-52) = (2 ^ 52 * whole, whole) := by
    rw [mul_comm]
    rfl
  have hexponent : exponentFor whole whole = -52 := by
    have hguess : (whole.log2 : ℤ) - whole.log2 - 52 = -52 := by omega
    have hfull : ¬ 2 ^ 52 * whole / whole < twoPow 52 := by
      rw [Nat.mul_div_cancel _ hwhole]
      exact lt_irrefl _
    simp only [exponentFor, hguess, hscaled, if_neg hfull]
    rfl
  have hround : roundQuotient (2 ^ 52 * whole) whole = 2 ^ 52 := by
    simp [roundQuotient, Nat.mul_div_cancel _ hwhole, hwhole]
  have hkept : ¬ (2 ^ 52 : ℕ) = twoPow 53 := by decide
  simp only [ofRatio, hwhole.ne', if_false, hexponent, hscaled, hround, hkept]
  rfl

/-- **A share below one counts as such after it was rounded**, unless the whole is `2 ^ 54` times as
large as what is missing. -/
theorem belowOne_share {part whole : ℕ} (hwhole : 0 < whole) (hpart : part ≤ whole) :
    belowOne (share part whole) = true ↔ whole < 2 ^ 54 * (whole - part) := by
  rw [share_eq part hwhole]
  rcases Nat.eq_zero_or_pos part with rfl | hpos
  · obtain ⟨places, hplaces, hzero⟩ : ∃ places : ℕ, 0 < places ∧
        ofRatio false 0 whole = .finite false 0 (-places) := ⟨1074, by norm_num, rfl⟩
    rw [hzero, belowOne_finite 0 hplaces]
    exact iff_of_true (Nat.two_pow_pos _) (by omega)
  rcases hpart.eq_or_lt with rfl | hless
  · rw [ofRatio_self hpos, belowOne_finite _ (by norm_num), Nat.sub_self, Nat.mul_zero]
    exact iff_of_false (lt_irrefl _) (Nat.not_lt_zero _)
  obtain ⟨places, hexponent, hmost, hfits, hhalf⟩ := exponentFor_proper hpos hless
  have hneg : ¬ (0 : ℤ) ≤ -(places : ℤ) := by omega
  have hscaled : scaled part whole (-places) = (part * 2 ^ places, whole) := by
    rw [scaled, if_neg hneg, neg_neg, Int.toNat_natCast, twoPow, Nat.pow_eq]
  have hfinite (e : ℤ) (he : e ≤ 0) : ¬ maxExponent < e := by
    rw [maxExponent]
    omega
  have hround := roundQuotient_le hfits
  simp only [ofRatio, hpos.ne', if_false, hexponent, hscaled]
  -- with more places than 53 the share is below a half
  by_cases hfull : roundQuotient (part * 2 ^ places) whole = twoPow 53
  · have hplaces : -(places : ℤ) + 1 = -((places - 1 : ℕ) : ℤ) := by omega
    rw [if_pos hfull]
    dsimp only
    rw [if_neg (hfinite _ (by omega)), hplaces, belowOne_finite _ (by omega), twoPow, Nat.pow_eq,
      Nat.pow_lt_pow_iff_right (by norm_num)]
    rcases hmost.eq_or_lt with rfl | hmore
    · have hlimit := (roundQuotient_lt_iff (by norm_num) hfits).not.1 hfull.not_lt
      omega
    · omega
  · have hlower : roundQuotient (part * 2 ^ places) whole < 2 ^ 53 := hround.lt_of_ne hfull
    have hbelow : roundQuotient (part * 2 ^ places) whole < 2 ^ places :=
      hlower.trans_le (Nat.pow_le_pow_right (by norm_num) hmost)
    rw [if_neg hfull]
    dsimp only
    rw [if_neg (hfinite _ (by omega)), belowOne_finite _ (by omega)]
    rcases hmost.eq_or_lt with rfl | hmore
    · have hlimit := (roundQuotient_lt_iff (by norm_num) hfits).1 hlower
      omega
    · omega

end Evaluation

end ReadGate
