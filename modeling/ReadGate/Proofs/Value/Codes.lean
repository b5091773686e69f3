import ReadGate.Proofs.Json.Strings
import ReadGate.Record

/-!
# Texts by their codes

A text that comes from outside is a list of codes, among which halves of surrogate pairs may stand
alone.  Such a text has a digest and can be cut, but it is read only if it is whole.

* `Text.codes`, `Value.ofCodes` — the codes of a text, and the value of codes.
* `Record.wholeText_ofCodes_eq_ok` — which codes are read, and as which text.
-/

namespace ReadGate

/-- The code of a character, or a half of a surrogate pair. -/
abbrev Code := Fin 0x110000

/-- The value of a text with the given codes. -/
def Value.ofCodes (cs : List Code) : Value :=
  Json.stringValue (cs.map (·.val))

/-- A value standing for the codes of an optional text. -/
def Value.ofCodes? (cs : Option (List Code)) : Value :=
  (cs.map ofCodes).getD .null

namespace Text

/-! ## Codes of a text -/

theorem toNat_lt_bound (c : Char) : c.toNat < 0x110000 := by
  rcases c.valid with h | ⟨-, h⟩
  · exact Nat.lt_trans h (by decide)
  · exact h

/-- The code of a character. -/
def codeOf (c : Char) : Code :=
  ⟨c.toNat, toNat_lt_bound c⟩

/-- The codes of a text. -/
def codes (s : String) : List Code :=
  s.toList.map codeOf

/-- Is each code that of a character? -/
def isWhole (cs : List Code) : Bool :=
  !(cs.map (·.val)).any isHalf

theorem map_val_codes (s : String) : (codes s).map (·.val) = s.toList.map (·.toNat) := by
  rw [codes, List.map_map]
  rfl

theorem isWhole_codes (s : String) : isWhole (codes s) = true := by
  rw [isWhole, map_val_codes, Json.any_isHalf_toNat]
  rfl

theorem length_codes (s : String) : (codes s).length = size s := by
  rw [codes, List.length_map, size]

/-- The code of no half is that of a character. -/
theorem codeOf_charOfCode {c : Code} (h : isHalf c.val = false) :
    codeOf (charOfCode c.val) = c := by
  have hvalid : Nat.isValidChar c.val := by
    simp only [isHalf, isHighHalf, isLowHalf, Bool.or_eq_false_iff, Bool.and_eq_false_iff,
      decide_eq_false_iff_not] at h
    have hbound := c.isLt
    unfold Nat.isValidChar
    omega
  rw [charOfCode, h, if_neg Bool.false_ne_true, Char.ofNat, dif_pos hvalid]
  rfl

/-- Whole codes are those of their text. -/
theorem codes_ofCodes {cs : List Code} (h : isWhole cs = true) :
    codes (Text.ofCodes (cs.map (·.val))) = cs := by
  induction cs with
  | nil => rfl
  | cons c cs ih =>
    simp only [isWhole, List.map_cons, List.any_cons, Bool.not_or, Bool.and_eq_true,
      Bool.not_eq_true'] at h ih
    have hcs := ih h.2
    rw [codes, Text.ofCodes, String.toList_ofList] at hcs ⊢
    rw [List.map_cons, List.map_cons, List.map_cons, codeOf_charOfCode h.1, hcs]

/-- Whole codes are those of a text. -/
theorem isWhole_iff {cs : List Code} : isWhole cs = true ↔ ∃ s, codes s = cs := by
  constructor
  · intro h
    exact ⟨_, codes_ofCodes h⟩
  · rintro ⟨s, rfl⟩
    exact isWhole_codes s

theorem codes_eq_nil {s : String} : codes s = [] ↔ s = "" := by
  rw [codes, List.map_eq_nil_iff, String.toList_eq_nil_iff]

end Text

/-! ## Values -/

/-- The value of the codes of a text is this text. -/
theorem Value.ofCodes_codes (s : String) : Value.ofCodes (Text.codes s) = .text s := by
  rw [Value.ofCodes, Text.map_val_codes, Json.stringValue_toNat]

/-- Codes with a half among them are no text. -/
theorem Value.ofCodes_of_not_isWhole {cs : List Code} (h : Text.isWhole cs = false) :
    Value.ofCodes cs = .halves (cs.map (·.val)) := by
  have hhalf : (cs.map (·.val)).any Text.isHalf = true := by simpa [Text.isWhole] using h
  rw [Value.ofCodes, Json.stringValue, if_pos hhalf]

theorem Value.ofCodes_eq_text {cs : List Code} {s : String} :
    Value.ofCodes cs = .text s ↔ Text.codes s = cs := by
  constructor
  · intro h
    cases hwhole : Text.isWhole cs with
    | true =>
      rw [← Text.codes_ofCodes hwhole, Value.ofCodes_codes] at h
      rw [← Text.codes_ofCodes hwhole, Value.text.inj h]
    | false => rw [Value.ofCodes_of_not_isWhole hwhole] at h; cases h
  · rintro rfl
    exact Value.ofCodes_codes s

theorem Text.codes_inj {s t : String} : Text.codes s = Text.codes t ↔ s = t := by
  rw [← Value.ofCodes_eq_text, Value.ofCodes_codes, Value.text.injEq, eq_comm]

theorem Value.ofCodes_ne_null (cs : List Code) : Value.ofCodes cs ≠ .null := by
  unfold Value.ofCodes Json.stringValue
  split <;> nofun

/-- A text is read if it is whole. -/
theorem Record.wholeText_ofCodes_eq_ok {cs : List Code} {s : String} :
    Record.wholeText (.ofCodes cs) = .ok s ↔ Text.codes s = cs := by
  rw [← Value.ofCodes_eq_text]
  unfold Value.ofCodes Json.stringValue
  split <;> simp [Record.wholeText, Checked.fail]

end ReadGate
