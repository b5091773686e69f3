import Mathlib.Algebra.Group.Nat.Defs
import ReadGate.Number.Short
import ReadGate.Proofs.Text.Classes

/-!
# Numerals that were written here

The text that the engine writes for an integer is read back as that integer, as long as it has no
more digits than are read; beyond that, reading it always fails.

* `digitValue?_of_isDigit` — the ASCII digits have their usual values.
* `readInt_digits`, `readInt_minus` — reading a text of ASCII digits comes down to the number that
  they write.
* `isShort_iff`, `IsShort.mono` — the short numbers are those below a power of ten.
* `readInt_repr`, `readInt_toString` — which numbers are read back, and that all others fail.
-/

namespace ReadGate.Numeral

open Text

/-! ## Short numbers -/

theorem isShort_iff (n : Nat) : IsShort n ↔ n < 10 ^ maxDigits := by
  rw [isShort_iff_digits]
  exact Nat.length_toDigits_le_iff (by decide) (by decide)

/-- The least number that is not short. -/
theorem not_isShort_pow : ¬ IsShort (10 ^ maxDigits) := by
  rw [isShort_iff]
  exact Nat.lt_irrefl _

theorem IsShort.mono {m n : Nat} (h : IsShort n) (hle : m ≤ n) : IsShort m :=
  (isShort_iff m).2 (Nat.lt_of_le_of_lt hle ((isShort_iff n).1 h))

/-- A number of 64 bits is short. -/
theorem isShort_of_lt {n : Nat} (h : n < 2 ^ 64) : IsShort n :=
  (isShort_iff n).2 (Nat.lt_of_lt_of_le h
    (Nat.le_trans (by decide : 2 ^ 64 ≤ 10 ^ 20) (Nat.pow_le_pow_right (by decide) (by decide))))

/-! ## ASCII digits -/

theorem toNat_of_isDigit {c : Char} (h : c.isDigit = true) : 48 ≤ c.toNat ∧ c.toNat ≤ 57 := by
  simp only [Char.isDigit, Bool.and_eq_true, decide_eq_true_eq] at h
  exact ⟨UInt32.le_iff_toNat_le.1 h.1, UInt32.le_iff_toNat_le.1 h.2⟩

theorem digitValue?_of_isDigit {c : Char} (h : c.isDigit = true) :
    digitValue? c = some (c.toNat - 48) := by
  have hrange := toNat_of_isDigit h
  have hfirst : (decide (48 ≤ c.toNat) && decide (c.toNat < 48 + 10)) = true := by
    simp only [Bool.and_eq_true, decide_eq_true_eq]
    omega
  have hfind : (digitZeros.find? fun z => z ≤ c.toNat && c.toNat < z + 10) = some 48 := by
    rw [show digitZeros = 48 :: digitZeros.tail from rfl]
    exact List.find?_cons_of_pos hfirst
  rw [digitValue?, hfind]
  rfl

theorem isDigitOrBreak_of_isDigit {c : Char} (h : c.isDigit = true) :
    isDigitOrBreak c = true := by
  simp [isDigitOrBreak, Text.isDigit, digitValue?_of_isDigit h]

theorem isPadding_of_isDigit {c : Char} (h : c.isDigit = true) : isPadding c = false := by
  have hrange := toNat_of_isDigit h
  have table : ∀ d < 10, isPadding (Char.ofNat (48 + d)) = false := by decide
  have hc := table (c.toNat - 48) (by omega)
  rwa [show 48 + (c.toNat - 48) = c.toNat by omega, Char.ofNat_toNat] at hc

theorem splitSign_cons {c : Char} (hminus : c ≠ '-') (hplus : c ≠ '+') (cs : List Char) :
    splitSign (c :: cs) = (false, c :: cs) := by
  unfold splitSign
  split
  · rename_i heq
    cases heq
    exact absurd rfl hminus
  · rename_i heq
    cases heq
    exact absurd rfl hplus
  · rfl

theorem digitGroups?_of_isDigit {cs : List Char} (hne : cs ≠ [])
    (h : ∀ c ∈ cs, c.isDigit = true) : digitGroups? cs = some (cs.map fun c => c.toNat - 48) := by
  induction cs with
  | nil => exact absurd rfl hne
  | cons c cs ih =>
    have hc := digitValue?_of_isDigit (h c (by simp))
    cases cs with
    | nil => simp [digitGroups?, hc]
    | cons d cs =>
      have hd : d ≠ '_' := by
        rintro rfl
        have hbreak := h '_' (by simp)
        cases hbreak
      have htail := ih (List.cons_ne_nil d cs) fun x hx => h x (List.mem_cons_of_mem c hx)
      simp [digitGroups?, hc, hd, htail]

/-! ## Reading back -/

/-- ASCII digits behind a sign, or behind none, are read as the number that they write. -/
theorem readInt_signed {s : String} {negative : Bool} {cs : List Char}
    (hsign : splitSign (s.toList.dropWhile isPadding) = (negative, cs)) (hne : cs ≠ [])
    (h : ∀ c ∈ cs, c.isDigit = true) :
    readInt s = (natOfDigits (cs.map fun c => c.toNat - 48)).map
      fun n : Nat => if negative then -(n : Int) else n := by
  have hbreak (d : Char) (hd : d ∈ cs) : isDigitOrBreak d = true :=
    isDigitOrBreak_of_isDigit (h d hd)
  have hrun : IsRun isDigitOrBreak cs := ⟨hne, hbreak⟩
  have htake : cs.takeWhile isDigitOrBreak = cs := by
    simpa using hrun.takeWhile_append stops_nil
  have hdrop : cs.dropWhile isDigitOrBreak = [] := by
    simpa using hrun.dropWhile_append stops_nil
  have hgroups := digitGroups?_of_isDigit hne h
  simp only [readInt, hsign, htake, hdrop, hgroups, List.all_nil, if_true]
  cases natOfDigits (cs.map fun c => c.toNat - 48) <;> rfl

/-- A text of ASCII digits is read as the number that they write. -/
theorem readInt_digits {s : String} (hne : s.toList ≠ [])
    (h : ∀ c ∈ s.toList, c.isDigit = true) :
    readInt s = (natOfDigits (s.toList.map fun c => c.toNat - 48)).map Int.ofNat := by
  obtain ⟨c, cs, hcs⟩ := List.exists_cons_of_ne_nil hne
  have hc : c.isDigit = true := h c (by simp [hcs])
  have hsign : splitSign (s.toList.dropWhile isPadding) = (false, s.toList) := by
    rw [hcs, List.dropWhile_cons_of_neg (by simp [isPadding_of_isDigit hc])]
    exact splitSign_cons (by rintro rfl; cases hc) (by rintro rfl; cases hc) cs
  exact readInt_signed hsign hne h

/-- Behind a minus they are read as its negation. -/
theorem readInt_minus {s : String} (hne : s.toList ≠ [])
    (h : ∀ c ∈ s.toList, c.isDigit = true) :
    readInt ("-" ++ s) =
      (natOfDigits (s.toList.map fun c => c.toNat - 48)).map fun n : Nat => -(n : Int) := by
  have hlist : ("-" ++ s).toList = '-' :: s.toList := by
    rw [String.toList_append]
    rfl
  have hsign : splitSign (("-" ++ s).toList.dropWhile isPadding) = (true, s.toList) := by
    rw [hlist, List.dropWhile_cons_of_neg (by decide)]
    rfl
  exact readInt_signed hsign hne h

/-- The digits that are written for a number write it. -/
theorem ofDigits_toDigits (n : Nat) :
    ofDigits ((Nat.toDigits 10 n).map fun c => c.toNat - 48) = n := by
  have hn := Nat.ofDigitChars_ten_toDigits (n := n)
  rw [Nat.ofDigitChars_eq_foldl] at hn
  rw [ofDigits, List.foldl_map]
  exact hn

/-! ## Reading what was written -/

/-- What is written for a number is read as this number, unless it has too many digits. -/
theorem readInt_repr (n : Nat) :
    (IsShort n → readInt (toString n) = .ok (n : Int)) ∧
    (¬ IsShort n → ∃ count, readInt (toString n) = .error (.tooManyDigits count)) := by
  have hlist : (toString n).toList = Nat.toDigits 10 n := by simp
  have hread := readInt_digits (s := toString n) (by simp)
    (fun c hc => Nat.isDigit_of_mem_toDigits (by decide) (by decide) (hlist ▸ hc))
  rw [hlist] at hread
  rw [isShort_iff_digits]
  constructor
  · intro h
    rw [hread, natOfDigits, List.length_map, if_neg (by omega), ofDigits_toDigits]
    rfl
  · intro h
    rw [hread, natOfDigits, List.length_map, if_pos (by omega)]
    exact ⟨_, rfl⟩

/-- So is what is written for an integer. -/
theorem readInt_toString (n : Int) :
    (IsShort n.natAbs → readInt (toString n) = .ok n) ∧
    (¬ IsShort n.natAbs → ∃ count, readInt (toString n) = .error (.tooManyDigits count)) := by
  cases n with
  | ofNat n => exact readInt_repr n
  | negSucc n =>
    have hlist : (toString (n + 1)).toList = Nat.toDigits 10 (n + 1) := by simp
    have hread := readInt_minus (s := toString (n + 1)) (by simp)
      (fun c hc => Nat.isDigit_of_mem_toDigits (by decide) (by decide) (hlist ▸ hc))
    have hshort : IsShort (Int.negSucc n).natAbs ↔ (Nat.toDigits 10 (n + 1)).length ≤ maxDigits :=
      isShort_iff_digits (n + 1)
    rw [hlist, natOfDigits, List.length_map] at hread
    rw [hshort]
    constructor
    · intro h
      rw [if_neg (by omega), ofDigits_toDigits] at hread
      exact hread
    · intro h
      rw [if_pos (by omega)] at hread
      exact ⟨_, hread⟩

/-- The error of a text that is no integer shows the text. -/
theorem text_of_notInteger {s : String} {text : WideText}
    (h : readInt s = .error (.notInteger text)) : text = .whole s := by
  unfold readInt at h
  dsimp only at h
  split at h
  · cases h
    rfl
  · rename_i ds _
    unfold natOfDigits at h
    split at h
    · cases h
    · dsimp only [bind, Except.bind] at h
      split at h <;> cases h
      rfl

/-- A text that starts with a letter is no integer. -/
theorem readInt_of_letter {s : String} {cs : List Char} {c : Char} (hs : s.toList = c :: cs)
    (hpadding : isPadding c = false) (hdigit : isDigitOrBreak c = false)
    (hminus : c ≠ '-') (hplus : c ≠ '+') : readInt s = .error (.notInteger s) := by
  have hdrop : (c :: cs).dropWhile isPadding = c :: cs :=
    List.dropWhile_cons_of_neg (by simp [hpadding])
  have htake : (c :: cs).takeWhile isDigitOrBreak = [] :=
    List.takeWhile_cons_of_neg (by simp [hdigit])
  simp only [readInt, hs, hdrop, splitSign_cons hminus hplus, htake, digitGroups?]

end ReadGate.Numeral
