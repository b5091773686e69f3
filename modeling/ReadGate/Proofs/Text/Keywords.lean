import Mathlib.Data.List.Basic
import ReadGate.Proofs.Text.Classes

/-!
# Keywords in lower case

A word counts as a keyword by its letters, and a letter of a keyword may be written in more ways
than lower-casing takes back: the dotted capital, the dotless small i and the long s count as `i`,
`i` and `s`, but keep a dot or their form.  The lower case of the word is the keyword only if none
of these letters is in it.  Upper-casing takes two of them back, and the dot stays.

* `strays` — the letters whose lower case is not the one that they count as.
* `lower_of_isKeyword`, `beyond_mem_lower` — the lower case of a word that counts as a keyword.
* `lower_eq_keyword_iff`, `upperKeyword_lower_iff` — when it is the keyword, and when its upper case
  is the one of the keyword.
-/

namespace ReadGate.Text

variable {c : Char} {cs : List Char} {keyword : String}

/-- The dot that the lower case of the dotted capital keeps. -/
def loneDot : Char := '\u0307'

/-- The dotted capital, whose lower case is two characters. -/
def dottedCapital : Char := '\u0130'

/-- The letters that count as an ASCII letter in a keyword, but whose lower case is another one. -/
def strays : List Char := [dottedCapital, '\u0131', '\u017F']

/-! ## Characters -/

/-- The characters that count as ASCII characters in a keyword. -/
theorem foldLetter_cases (h : (foldLetter c).toNat < 0x80) :
    c.toNat < 0x80 ∨ c = '\u212A' ∨ c ∈ strays := by
  unfold foldLetter at h
  split at h
  · rename_i hascii
    exact .inl hascii
  · rename_i hbeyond
    split at h
    · rename_i hs
      exact .inr (.inr (by rw [hs]; decide))
    · split at h
      · rename_i hk
        exact .inr (.inl hk)
      · split at h
        · rename_i hi
          refine .inr (.inr ?_)
          rcases (by simpa using hi : c = '\u0130' ∨ c = '\u0131') with rfl | rfl <;> decide
        · exact absurd h hbeyond

theorem foldLetter_of_ascii (h : c.toNat < 0x80) : foldLetter c = c.toLower :=
  if_pos h

theorem lowerChar_of_ascii (h : c.toNat < 0x80) : lowerChar c = [c.toLower] :=
  if_pos h

theorem lowerChar_of_foldLetter (h : (foldLetter c).toNat < 0x80) (hc : c ∉ strays) :
    lowerChar c = [foldLetter c] := by
  rcases foldLetter_cases h with hascii | rfl | hstray
  · rw [lowerChar_of_ascii hascii, foldLetter_of_ascii hascii]
  · decide
  · exact absurd hstray hc

/-- The lower case of a stray letter holds a character beyond ASCII. -/
theorem beyond_mem_lowerChar (hc : c ∈ strays) : ∃ d ∈ lowerChar c, 0x80 ≤ d.toNat := by
  have table : strays.all (fun c => (lowerChar c).any fun d => 0x80 ≤ d.toNat) = true := by decide
  simpa using List.all_eq_true.1 table c hc

/-- Upper-casing takes back all but the dot. -/
theorem map_upperChar_lowerChar (h : (foldLetter c).toNat < 0x80) (hc : c ≠ dottedCapital) :
    (lowerChar c).map upperChar = [upperChar (foldLetter c)] := by
  by_cases hstray : c ∈ strays
  · have table : strays.all (fun c => c == dottedCapital ||
        (lowerChar c).map upperChar == [upperChar (foldLetter c)]) = true := by decide
    simpa [hc] using List.all_eq_true.1 table c hstray
  · rw [lowerChar_of_foldLetter h hstray]
    rfl

theorem upperChar_ascii (h : c.toNat < 0x80) : (upperChar c).toNat < 0x80 :=
  of_ascii (P := fun c => (upperChar c).toNat < 0x80) (by decide) h

/-! ## Words that count as a keyword -/

/-- The keyword is written in ASCII. -/
def IsAscii (keyword : String) : Prop :=
  ∀ c ∈ keyword.toList, c.toNat < 0x80

instance (keyword : String) : Decidable (IsAscii keyword) :=
  List.decidableBAll _ _

/-- Without a capital sigma each character is lower-cased on its own. -/
theorem lowerFrom_eq_flatMap (h : '\u03A3' ∉ cs) (before : List Char) :
    lowerFrom before cs = cs.flatMap lowerChar := by
  induction cs generalizing before with
  | nil => rfl
  | cons c rest ih =>
    rw [List.mem_cons, not_or] at h
    simp only [lowerFrom, Ne.symm h.1, if_false, List.flatMap_cons, ih h.2]

theorem map_foldLetter (h : isKeyword keyword cs = true) : cs.map foldLetter = keyword.toList := by
  simpa [isKeyword] using h

section IsKeyword

variable (hascii : IsAscii keyword) (h : isKeyword keyword cs = true)

include hascii h

theorem foldLetter_ascii (hc : c ∈ cs) : (foldLetter c).toNat < 0x80 :=
  hascii _ (map_foldLetter h ▸ List.mem_map_of_mem hc)

theorem lower_of_isKeyword : (lower (String.ofList cs)).toList = cs.flatMap lowerChar := by
  have hsigma : '\u03A3' ∉ cs := fun hmem =>
    absurd (foldLetter_ascii hascii h hmem) (by decide)
  rw [lower, String.toList_ofList, String.toList_ofList, lowerFrom_eq_flatMap hsigma]

/-- A stray letter leaves a character beyond ASCII in the lower case of the word. -/
theorem beyond_mem_lower (hc : c ∈ cs) (hstray : c ∈ strays) :
    ∃ d ∈ (lower (String.ofList cs)).toList, 0x80 ≤ d.toNat := by
  obtain ⟨d, hd, hbeyond⟩ := beyond_mem_lowerChar hstray
  refine ⟨d, ?_, hbeyond⟩
  rw [lower_of_isKeyword hascii h]
  exact List.mem_flatMap.2 ⟨c, hc, hd⟩

/-- **The lower case of a word that counts as a keyword** is the keyword if and only if the word has
no stray letter; otherwise it is not even written in ASCII. -/
theorem lower_eq_keyword_iff :
    (lower (String.ofList cs) = keyword ↔ ∀ c ∈ cs, c ∉ strays) ∧
    (IsAscii (lower (String.ofList cs)) ↔ ∀ c ∈ cs, c ∉ strays) := by
  have hplain (hall : ∀ c ∈ cs, c ∉ strays) : lower (String.ofList cs) = keyword := by
    rw [← String.toList_inj, lower_of_isKeyword hascii h, ← map_foldLetter h, List.map_eq_flatMap]
    exact List.flatMap_congr fun c hc =>
      lowerChar_of_foldLetter (foldLetter_ascii hascii h hc) (hall c hc)
  have hclear (hlow : IsAscii (lower (String.ofList cs))) : ∀ c ∈ cs, c ∉ strays := by
    intro c hc hstray
    obtain ⟨d, hd, hbeyond⟩ := beyond_mem_lower hascii h hc hstray
    exact absurd (hlow d hd) (by omega)
  refine ⟨⟨fun hlow => hclear (by rwa [hlow]), hplain⟩, hclear, fun hall => ?_⟩
  rwa [hplain hall]

/-- **The upper case of that** is the one of the keyword if and only if the word has no dotted
capital. -/
theorem upperKeyword_lower_iff :
    upperKeyword (lower (String.ofList cs)) = upperKeyword keyword ↔ dottedCapital ∉ cs := by
  rw [← String.toList_inj, upperKeyword, upperKeyword, String.toList_ofList, String.toList_ofList,
    lower_of_isKeyword hascii h, List.map_flatMap]
  constructor
  · intro hupper hdotted
    have hdot : loneDot ∈ keyword.toList.map upperChar := by
      rw [← hupper]
      exact List.mem_flatMap.2 ⟨dottedCapital, hdotted, by decide⟩
    obtain ⟨c, hc, heq⟩ := List.mem_map.1 hdot
    have hlow := upperChar_ascii (hascii c hc)
    rw [heq] at hlow
    exact absurd hlow (by decide)
  · intro hdotted
    rw [← map_foldLetter h, List.map_map, List.map_eq_flatMap]
    refine List.flatMap_congr fun c hc => ?_
    refine map_upperChar_lowerChar (foldLetter_ascii hascii h hc) ?_
    rintro rfl
    exact hdotted hc

end IsKeyword

end ReadGate.Text
