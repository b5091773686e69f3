import ReadGate.Proofs.Text.Classes

/-!
# Lower case

Lower-casing maps letters to letters, in all scripts.  So an ASCII character of the result is a
small letter, or it stood in the text already and is no capital.  No character is lost, so a text
that is not empty does not become empty.

What a capital sigma becomes depends on the characters around it, but not beyond one that has no
case and is not passed over, such as a blank, a bracket or a double quote.  There the text can be
cut, and its parts lower-cased on their own.

* `ascii_mem_lower` — the ASCII characters of a text in lower case.
* `lower_ne_empty` — no text gets lost.
* `Neutral`, `lowerFrom_neutral` — where a text can be cut.
-/

namespace ReadGate.Text

/-! ## Characters -/

/-- The lower case of a run of letters is a run of characters, beyond ASCII or of its small
letters. -/
structure Lowers (r : Nat × Nat × Nat × Int) : Prop where
  letters : (0x80 ≤ (r.1 : Int) + r.2.2.2) ∨
    (0x61 ≤ (r.1 : Int) + r.2.2.2 ∧ (r.2.1 : Int) + r.2.2.2 ≤ 0x7A)
  characters : (r.2.1 : Int) + r.2.2.2 < 0xD800 ∨
    (0xDFFF < (r.1 : Int) + r.2.2.2 ∧ (r.2.1 : Int) + r.2.2.2 < 0x110000)

instance (r : Nat × Nat × Nat × Int) : Decidable (Lowers r) :=
  decidable_of_iff (_ ∧ _) ⟨fun h => ⟨h.1, h.2⟩, fun h => ⟨h.1, h.2⟩⟩

theorem lowerRuns_lowers : ∀ r ∈ lowerRuns, Lowers r := by
  decide +kernel

/-- The lower case of a character beyond ASCII is beyond it too, or a small letter. -/
theorem lowerCode_letter {c : Char} (h : 0x80 ≤ c.toNat) :
    (lowerCode c.toNat).isValidChar ∧
      (0x80 ≤ lowerCode c.toNat ∨ 0x61 ≤ lowerCode c.toNat ∧ lowerCode c.toNat ≤ 0x7A) := by
  unfold lowerCode
  split
  · rename_i r hfound
    have hr := List.find?_some hfound
    obtain ⟨hletters, hcharacters⟩ := lowerRuns_lowers r (List.mem_of_find?_eq_some hfound)
    simp only [Bool.and_eq_true, decide_eq_true_eq] at hr
    refine ⟨?_, by omega⟩
    unfold Nat.isValidChar
    omega
  · exact ⟨c.valid, .inl h⟩

/-- An ASCII character in the lower case of a character is a small letter, or that character, which
is no capital then. -/
theorem ascii_mem_lowerChar {c d : Char} (h : d ∈ lowerChar c) (hd : d.toNat < 0x80) :
    d.isLower = true ∨ (d = c ∧ d.isUpper = false) := by
  unfold lowerChar at h
  split at h
  · rename_i hascii
    obtain rfl := List.mem_singleton.1 h
    exact of_ascii (P := fun c => c.toLower.isLower = true ∨ (c.toLower = c ∧
      c.toLower.isUpper = false)) (by decide) hascii
  · rename_i hbeyond
    split at h
    · rcases List.mem_cons.1 h with rfl | hdot
      · exact .inl (by decide)
      · rw [List.mem_singleton.1 hdot] at hd
        exact absurd hd (by decide)
    · obtain rfl := List.mem_singleton.1 h
      obtain ⟨hvalid, hletter⟩ := lowerCode_letter (c := c) (by omega)
      have hcode : (Char.ofNat (lowerCode c.toNat)).toNat = lowerCode c.toNat := by
        rw [Char.ofNat, dif_pos hvalid]
        rfl
      rw [hcode] at hd
      have hsmall := hletter.resolve_left (by omega)
      exact .inl (of_ascii (P := fun c => 0x61 ≤ c.toNat → c.toNat ≤ 0x7A → c.isLower = true)
        (by decide) (by omega) (by omega) (by omega))

/-! ## Texts -/

theorem ascii_mem_lowerFrom {cs : List Char} {d : Char} (before : List Char)
    (h : d ∈ lowerFrom before cs) (hd : d.toNat < 0x80) :
    d.isLower = true ∨ (d ∈ cs ∧ d.isUpper = false) := by
  induction cs generalizing before with
  | nil => cases h
  | cons c rest ih =>
    simp only [lowerFrom, List.mem_append] at h
    rcases h with hlow | hrest
    · split at hlow
      · -- neither form of the small sigma is ASCII
        split at hlow <;> rw [List.mem_singleton.1 hlow] at hd <;> exact absurd hd (by decide)
      · rcases ascii_mem_lowerChar hlow hd with hsmall | ⟨rfl, hcapital⟩
        · exact .inl hsmall
        · exact .inr ⟨List.mem_cons_self, hcapital⟩
    · rcases ih (c :: before) hrest with hsmall | ⟨hmem, hcapital⟩
      · exact .inl hsmall
      · exact .inr ⟨List.mem_cons_of_mem c hmem, hcapital⟩

/-- **An ASCII character of a text in lower case** is a small letter, or one of the text that is no
capital. -/
theorem ascii_mem_lower {s : String} {d : Char} (h : d ∈ (lower s).toList) (hd : d.toNat < 0x80) :
    d.isLower = true ∨ (d ∈ s.toList ∧ d.isUpper = false) := by
  rw [lower, String.toList_ofList] at h
  exact ascii_mem_lowerFrom [] h hd

/-- The lower case of a text is empty only if the text is. -/
theorem lower_ne_empty {cs : List Char} (h : cs ≠ []) : lower (String.ofList cs) ≠ "" := by
  obtain ⟨c, rest, rfl⟩ := List.exists_cons_of_ne_nil h
  have hlow : lowerChar c ≠ [] := by
    unfold lowerChar
    split
    · exact List.cons_ne_nil _ _
    · split <;> exact List.cons_ne_nil _ _
  intro hempty
  have hchars : lowerFrom [] (c :: rest) = [] := by
    rw [lower, String.toList_ofList] at hempty
    rw [← String.toList_ofList (l := lowerFrom [] (c :: rest)), hempty]
    rfl
  have hfirst := (List.append_eq_nil_iff.1 hchars).1
  split at hfirst
  · split at hfirst <;> cases hfirst
  · exact hlow hfirst

/-! ## Cutting a text -/

/-- A character that has no case, and that is not passed over when one is looked for. -/
structure Neutral (c : Char) : Prop where
  uncased : casedRanges.contains c = false
  seen : caseIgnorableRanges.contains c = false

instance (c : Char) : Decidable (Neutral c) :=
  decidable_of_iff (_ ∧ _) ⟨fun h => ⟨h.1, h.2⟩, fun h => ⟨h.1, h.2⟩⟩

section Neutral

variable {c : Char}

theorem Neutral.ne_sigma (h : Neutral c) : c ≠ '\u03A3' := by
  rintro rfl
  exact absurd h.uncased (by decide)

/-- Nothing behind a neutral character has a part in what faces a sigma. -/
theorem facesCased_neutral (h : Neutral c) (xs ys : List Char) :
    facesCased (xs ++ c :: ys) = facesCased xs := by
  induction xs with
  | nil => simp [facesCased, h.seen, h.uncased]
  | cons x rest ih =>
    unfold facesCased at ih ⊢
    rw [List.cons_append]
    cases hx : caseIgnorableRanges.contains x with
    | true => rwa [List.dropWhile_cons_of_pos hx, List.dropWhile_cons_of_pos hx]
    | false =>
      have hstops : ¬ caseIgnorableRanges.contains x = true := by simp [hx]
      rw [List.dropWhile_cons_of_neg hstops, List.dropWhile_cons_of_neg hstops]

theorem lowerFrom_behind_neutral (h : Neutral c) (near before cs : List Char) :
    lowerFrom (near ++ c :: before) cs = lowerFrom near cs := by
  induction cs generalizing near with
  | nil => rfl
  | cons x rest ih =>
    have hrest := ih (x :: near)
    rw [List.cons_append] at hrest
    simp only [lowerFrom, facesCased_neutral h, hrest]

/-- **A text is cut at a neutral character**, and its parts are lower-cased on their own. -/
theorem lowerFrom_neutral (h : Neutral c) (before xs ys : List Char) :
    lowerFrom before (xs ++ c :: ys) = lowerFrom before xs ++ lowerChar c ++ lowerFrom [] ys := by
  induction xs generalizing before with
  | nil =>
    have hrest := lowerFrom_behind_neutral h [] before ys
    rw [List.nil_append] at hrest
    simp only [List.nil_append, lowerFrom, h.ne_sigma, if_false, hrest]
  | cons x rest ih =>
    simp only [List.cons_append, lowerFrom, facesCased_neutral h, ih, List.append_assoc]

end Neutral

end ReadGate.Text
