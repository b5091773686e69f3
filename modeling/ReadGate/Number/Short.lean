import ReadGate.Number.Reading

/-!
# Short integers

An integer of too many digits is neither read nor written.  So whatever is read can be written
again, and a setting holds an integer together with the proof that it is short.

* `isShort_iff_digits` — a number is short by the number of its decimal digits.
* `isShort_of_natOfDigits`, `isShort_of_readInt` — whatever is read is short.
* `ShortInt`, `ShortInt.read` — integers that are short, as they are read from texts.
-/

namespace ReadGate

namespace Numeral

open Text

/-! ## What is read -/

/-- Whatever script a digit belongs to, it counts less than ten. -/
theorem digitValue?_lt {c : Char} {d : Nat} (h : digitValue? c = some d) : d < 10 := by
  obtain ⟨z, hz, rfl⟩ := Option.map_eq_some_iff.1 h
  have hrange := List.find?_some hz
  simp only [Bool.and_eq_true, decide_eq_true_eq] at hrange
  omega

/-- One digit more makes the text of a number longer by one place at most. -/
theorem length_toDigits_concat (n : Nat) {d : Nat} (hd : d < 10) :
    (Nat.toDigits 10 (10 * n + d)).length ≤ (Nat.toDigits 10 n).length + 1 := by
  rcases Nat.eq_zero_or_pos n with rfl | hn
  · rw [Nat.mul_zero, Nat.zero_add, Nat.toDigits_of_lt_base hd, Nat.toDigits_of_lt_base (by decide)]
    exact Nat.le_succ 1
  · have hdigits := Nat.toDigits_append_toDigits (by decide : 1 < 10) hn hd
    rw [Nat.toDigits_of_lt_base hd] at hdigits
    exact Nat.le_of_eq (by rw [← hdigits, List.length_append, List.length_singleton])

/-- The text of a number has no more digits than it was read from. -/
theorem length_toDigits_ofDigits {d : Nat} {ds : List Nat} (hds : ∀ e ∈ d :: ds, e < 10) :
    (Nat.toDigits 10 (ofDigits (d :: ds))).length ≤ (d :: ds).length := by
  have hfold (ds : List Nat) (hds : ∀ e ∈ ds, e < 10) (n : Nat) :
      (Nat.toDigits 10 (ds.foldl (fun n d => 10 * n + d) n)).length ≤
        (Nat.toDigits 10 n).length + ds.length := by
    induction ds generalizing n with
    | nil => exact Nat.le_refl _
    | cons e ds ih =>
      have hrest := ih (fun e he => hds e (List.mem_cons_of_mem _ he)) (10 * n + e)
      have hnext := length_toDigits_concat n (hds e List.mem_cons_self)
      rw [List.foldl_cons, List.length_cons]
      omega
  have hrest := hfold ds (fun e he => hds e (List.mem_cons_of_mem _ he)) d
  rw [Nat.toDigits_of_lt_base (hds d List.mem_cons_self), List.length_singleton] at hrest
  rw [ofDigits, List.foldl_cons, Nat.mul_zero, Nat.zero_add, List.length_cons]
  omega

theorem isShort_iff_digits (n : Nat) : IsShort n ↔ (Nat.toDigits 10 n).length ≤ maxDigits := by
  have hlist : (toString n).toList = Nat.toDigits 10 n := by simp
  rw [IsShort, ← String.length_toList, hlist]

/-- A number that is read from digits has no more of them than are read. -/
theorem isShort_of_natOfDigits {ds : List Nat} {n : Nat} (hds : ∀ d ∈ ds, d < 10)
    (h : natOfDigits ds = .ok n) : IsShort n := by
  rw [natOfDigits] at h
  split at h
  · cases h
  · rename_i hlength
    cases h
    cases ds with
    | nil => decide
    | cons d ds =>
      exact (isShort_iff_digits _).2
        (Nat.le_trans (length_toDigits_ofDigits hds) (Nat.le_of_not_lt hlength))

theorem lt_of_mem_digitGroups? {cs : List Char} {ds : List Nat} (h : digitGroups? cs = some ds) :
    ∀ d ∈ ds, d < 10 := by
  induction cs using digitGroups?.induct generalizing ds with
  | case1 => cases h
  | case2 c =>
    obtain ⟨d, hd, rfl⟩ := Option.map_eq_some_iff.1 h
    exact List.forall_mem_singleton.2 (digitValue?_lt hd)
  | case3 c next rest hnone =>
    rw [digitGroups?, hnone] at h
    cases h
  | case4 c next rest v hv ih hend =>
    rw [digitGroups?, hv] at h
    obtain ⟨more, hmore, rfl⟩ := Option.map_eq_some_iff.1 h
    have hd := digitValue?_lt hv
    split at hmore
    · exact List.forall_mem_cons.2 ⟨hd, ih hmore⟩
    · exact List.forall_mem_cons.2 ⟨hd, hend hmore⟩

/-- An integer that was read can be written. -/
theorem isShort_of_readInt {s : String} {n : Int} (h : readInt s = .ok n) :
    IsShort n.natAbs := by
  unfold readInt at h
  dsimp only at h
  split at h
  · cases h
  · rename_i ds hds
    cases hm : natOfDigits ds with
    | error e =>
      rw [hm] at h
      cases h
    | ok m =>
      have hshort := isShort_of_natOfDigits (lt_of_mem_digitGroups? hds) hm
      rw [hm] at h
      dsimp only [bind, Except.bind] at h
      split at h <;> cases h
      split <;> simpa using hshort

end Numeral

/-! ## Settings -/

/-- An integer that is short enough to be written. -/
@[ext]
structure ShortInt where
  value : Int
  short : Numeral.IsShort value.natAbs
  deriving DecidableEq, Repr

namespace ShortInt

instance : Coe ShortInt Int := ⟨value⟩

/-- Reads an integer, which can be written again. -/
def read (s : String) : Except NumeralError ShortInt :=
  match h : Numeral.readInt s with
  | .ok n => .ok ⟨n, Numeral.isShort_of_readInt h⟩
  | .error e => .error e

end ShortInt

end ReadGate
