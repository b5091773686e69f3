import ReadGate.Proofs.Text.Classes

/-!
# The case of ASCII letters

Whether an ASCII letter is written small or large makes no difference to what a character is taken
for: a word character, white space, a digit, a letter of a keyword.  It makes none to the lower case
of a text either, not even to that of a capital sigma near it.

* `apply_toLower`, `toLower_of_class` — a table of the capitals decides for all characters;
  `Ranges.contains_toLower` is the same for a set of code points.
* `isKeyword_map_toLower` — keywords.
* `map_toLower_of_isDigit` — digits are no letters.
* `lower_map_toLower` — the lower case of a text.
-/

namespace ReadGate.Text

variable {c : Char} {cs : List Char}

/-! ## Characters -/

theorem toLower_of_not_capital (h : c.toNat < 0x41 ∨ 0x5A < c.toNat) : c.toLower = c := by
  unfold Char.toLower
  split
  · rename_i hletter
    have hlo : 0x41 ≤ c.toNat := hletter.1
    have hhi : c.toNat ≤ 0x5A := hletter.2
    omega
  · rfl

/-- What a table says of the capitals, one by one. -/
theorem of_capital {P : Char → Prop} (table : ∀ k < 26, P (Char.ofNat (0x41 + k)))
    (hlo : 0x41 ≤ c.toNat) (hhi : c.toNat ≤ 0x5A) : P c := by
  have hc := table (c.toNat - 0x41) (by omega)
  rwa [Nat.add_sub_cancel' hlo, Char.ofNat_toNat] at hc

/-- What does not tell small from large ASCII letters does not tell any small from large letter. -/
theorem apply_toLower {α : Type} {f : Char → α}
    (table : ∀ k < 26, f (Char.ofNat (0x41 + k)).toLower = f (Char.ofNat (0x41 + k))) (c : Char) :
    f c.toLower = f c := by
  by_cases h : c.toNat < 0x41 ∨ 0x5A < c.toNat
  · rw [toLower_of_not_capital h]
  · exact of_capital (P := fun c => f c.toLower = f c) table (by omega) (by omega)

/-- Characters of a class that has no large ASCII letter stay as they are. -/
theorem toLower_of_class {P : Char → Prop} (table : ∀ k < 26, ¬ P (Char.ofNat (0x41 + k)))
    (h : P c) : c.toLower = c := by
  by_cases hcapital : c.toNat < 0x41 ∨ 0x5A < c.toNat
  · exact toLower_of_not_capital hcapital
  · exact absurd h (of_capital (P := fun c => ¬ P c) table (by omega) (by omega))

/-- The intervals of a set that begin in ASCII. -/
def Ranges.ascii (ranges : Ranges) : Ranges :=
  ranges.filter fun r => Nat.blt r.1 0x80

theorem Ranges.contains_of_ascii (ranges : Ranges) (h : c.toNat < 0x80) :
    ranges.contains c = ranges.ascii.contains c := by
  unfold Ranges.contains Ranges.has Ranges.ascii
  rw [List.any_filter]
  refine congrArg (ranges.any ·) (funext fun r => ?_)
  rw [Bool.eq_iff_iff]
  simp only [Bool.and_eq_true, decide_eq_true_eq, Nat.blt_eq]
  omega

/-- For a set only its intervals in ASCII are asked about the capitals, because it is long. -/
theorem Ranges.contains_toLower {ranges : Ranges} (table : ∀ k < 26,
      ranges.ascii.contains (Char.ofNat (0x41 + k)).toLower =
        ranges.ascii.contains (Char.ofNat (0x41 + k))) (c : Char) :
    ranges.contains c.toLower = ranges.contains c := by
  by_cases h : c.toNat < 0x41 ∨ 0x5A < c.toNat
  · rw [toLower_of_not_capital h]
  · have hsmall : c.toLower.toNat < 0x80 :=
      of_capital (P := fun c => c.toLower.toNat < 0x80) (by decide) (by omega) (by omega)
    rw [ranges.contains_of_ascii hsmall, ranges.contains_of_ascii (by omega)]
    exact apply_toLower table c

theorem isWord_toLower (c : Char) : isWord c.toLower = isWord c :=
  apply_toLower (by decide) c

theorem isBlank_toLower (c : Char) : isBlank c.toLower = isBlank c :=
  apply_toLower (by decide) c

theorem foldLetter_toLower (c : Char) : foldLetter c.toLower = foldLetter c :=
  apply_toLower (by decide) c

theorem isDigit_toLower (c : Char) : isDigit c.toLower = isDigit c :=
  apply_toLower (by decide) c

/-- Only word characters have a lower case of their own. -/
theorem toLower_of_not_isWord (h : isWord c = false) : c.toLower = c :=
  toLower_of_class (P := fun c => isWord c = false) (by decide) h

/-- No digit has one. -/
theorem toLower_of_isDigit (h : isDigit c = true) : c.toLower = c :=
  toLower_of_class (P := fun c => isDigit c = true) (by decide) h

/-! ## Texts -/

theorem isKeyword_map_toLower (keyword : String) (cs : List Char) :
    isKeyword keyword (cs.map Char.toLower) = isKeyword keyword cs := by
  have hfold : foldLetter ∘ Char.toLower = foldLetter := funext foldLetter_toLower
  rw [isKeyword, List.map_map, hfold, isKeyword]

theorem all_isDigit_map_toLower (cs : List Char) :
    (cs.map Char.toLower).all isDigit = cs.all isDigit := by
  have hdigit : isDigit ∘ Char.toLower = isDigit := funext isDigit_toLower
  rw [List.all_map, hdigit]

theorem map_toLower_of_isDigit (h : cs.all isDigit = true) : cs.map Char.toLower = cs :=
  calc cs.map Char.toLower
    _ = cs.map id := List.map_congr_left fun c hc => toLower_of_isDigit (List.all_eq_true.1 h c hc)
    _ = cs := List.map_id cs

/-! ## Lower case -/

theorem lowerChar_toLower (c : Char) : lowerChar c.toLower = lowerChar c :=
  apply_toLower (by decide) c

theorem facesCased_map_toLower (cs : List Char) :
    facesCased (cs.map Char.toLower) = facesCased cs := by
  have hignored : caseIgnorableRanges.contains ∘ Char.toLower = caseIgnorableRanges.contains :=
    funext (Ranges.contains_toLower (by decide +kernel))
  have hcased (c : Char) : casedRanges.contains c.toLower = casedRanges.contains c :=
    Ranges.contains_toLower (by decide) c
  unfold facesCased
  rw [List.dropWhile_map, hignored]
  cases cs.dropWhile caseIgnorableRanges.contains with
  | nil => rfl
  | cons c rest => exact hcased c

theorem lowerFrom_map_toLower (before cs : List Char) :
    lowerFrom (before.map Char.toLower) (cs.map Char.toLower) = lowerFrom before cs := by
  induction cs generalizing before with
  | nil => rfl
  | cons c rest ih =>
    have hsigma : (c.toLower = '\u03A3') = (c = '\u03A3') :=
      apply_toLower (f := (· = '\u03A3')) (by decide) c
    have hrest := ih (c :: before)
    rw [List.map_cons] at hrest
    simp only [List.map_cons, lowerFrom, hsigma, facesCased_map_toLower, lowerChar_toLower, hrest]

/-- **The lower case of a text does not depend on the case of its ASCII letters.** -/
theorem lower_map_toLower (cs : List Char) :
    lower (String.ofList (cs.map Char.toLower)) = lower (String.ofList cs) := by
  simp only [lower, String.toList_ofList]
  exact congrArg String.ofList (lowerFrom_map_toLower [] cs)

end ReadGate.Text
