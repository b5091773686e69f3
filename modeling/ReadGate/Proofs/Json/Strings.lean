import ReadGate.Json.Reader
import ReadGate.Json.Writer
import ReadGate.Proofs.Text.Lines

/-!
# Strings that were written here

A string is written character by character, each as it is or as an escape, and read the same way.
Whatever text was written is read back, up to its closing quote.

* `stringCodes_unitEscape`, `stringCodes_shortEscape`, `stringCodes_plain` — the three ways in which
  a character is written.
* `stringCodes_compactChar` — one character.
* `stringCodes_compact`, `string_compact` — all characters of a text.
* `compactChar_inline` — no character is written as a line end.
-/

namespace ReadGate.Json

open Text

/-! ## Codes of characters -/

/-- The code of a character is no half of a surrogate pair. -/
theorem isHalf_toNat (c : Char) : isHalf c.toNat = false := by
  have hvalid : c.toNat < 0xD800 ∨ 0xDFFF < c.toNat := by
    rcases c.valid with h | ⟨h, -⟩
    · exact .inl h
    · exact .inr h
  simp only [isHalf, isHighHalf, isLowHalf, Bool.or_eq_false_iff, Bool.and_eq_false_iff,
    decide_eq_false_iff_not]
  omega

theorem charOfCode_toNat (c : Char) : charOfCode c.toNat = c := by
  unfold charOfCode
  rw [isHalf_toNat, if_neg Bool.false_ne_true, Char.ofNat_toNat]

/-- No two codes of characters belong together. -/
theorem joinHalves_toNat (cs : List Char) :
    joinHalves (cs.map (·.toNat)) = cs.map (·.toNat) := by
  induction cs with
  | nil => rfl
  | cons c cs ih =>
    cases cs with
    | nil => rfl
    | cons d cs =>
      have hc : isHighHalf c.toNat = false := (Bool.or_eq_false_iff.1 (isHalf_toNat c)).1
      rw [List.map_cons, List.map_cons, joinHalves, hc, Bool.false_and, if_neg Bool.false_ne_true]
      rw [List.map_cons] at ih
      rw [ih]

theorem any_isHalf_toNat (cs : List Char) : (cs.map (·.toNat)).any isHalf = false := by
  induction cs with
  | nil => rfl
  | cons c cs ih => rw [List.map_cons, List.any_cons, isHalf_toNat, ih, Bool.or_false]

theorem ofCodes_toNat (s : String) : ofCodes (s.toList.map (·.toNat)) = s := by
  have hmap : ∀ cs : List Char, (cs.map (·.toNat)).map charOfCode = cs := by
    intro cs
    induction cs with
    | nil => rfl
    | cons c cs ih => rw [List.map_cons, List.map_cons, charOfCode_toNat, ih]
  rw [ofCodes, hmap, String.ofList_toList]

/-- A name without halves is kept. -/
theorem fieldName_toNat (s : String) : fieldName (s.toList.map (·.toNat)) = s := by
  have hcodes : (s.toList.map (·.toNat)).flatMap nameCodes = s.toList.map (·.toNat) := by
    induction s.toList with
    | nil => rfl
    | cons c cs ih =>
      rw [List.map_cons, List.flatMap_cons, ih, nameCodes, isHalf_toNat,
        if_neg Bool.false_ne_true, List.singleton_append]
  rw [fieldName, hcodes, ofCodes_toNat]

theorem stringValue_toNat (s : String) : stringValue (s.toList.map (·.toNat)) = .text s := by
  unfold stringValue
  rw [any_isHalf_toNat, if_neg Bool.false_ne_true, ofCodes_toNat]

/-! ## Characters -/

/-- A hexadecimal digit is read as the number that it stands for. -/
theorem hexValue?_hexDigit (n : Nat) : hexValue? (hexDigit n) = some (n % 16) := by
  have htable : ∀ d < 16, hexValue? (hexDigit d) = some d := by decide
  have hdigit : hexDigit n = hexDigit (n % 16) := by simp [hexDigit]
  rw [hdigit, htable (n % 16) (Nat.mod_lt n (by decide))]

/-- Four places are read as the code unit that they write. -/
theorem hexUnit?_hexPlaces {unit : Nat} (hunit : unit < 0x10000) :
    ∃ a b c d, hexPlaces 4 unit = [a, b, c, d] ∧ hexUnit? a b c d = some unit := by
  refine ⟨_, _, _, _, rfl, ?_⟩
  have hvalue : ((unit / 16 / 16 / 16 % 16) * 16 + unit / 16 / 16 % 16) * 256 +
      unit / 16 % 16 * 16 + unit % 16 = unit := by omega
  simp only [hexUnit?, hexValue?_hexDigit, bind, Option.bind, pure, hvalue]

/-- An escaped code unit is read as itself, with more of the string behind it. -/
theorem stringCodes_unitEscape (start : Nat) {unit : Nat} (hunit : unit < 0x10000)
    {rest : List Char} (hrest : rest ≠ []) :
    stringCodes start (unitEscape unit ++ rest) = andCode unit (stringCodes start rest) := by
  obtain ⟨a, b, c, d, hplaces, hread⟩ := hexUnit?_hexPlaces hunit
  have hmore : rest.isEmpty = false := by simp [hrest]
  simp only [unitEscape, hplaces, List.cons_append, List.nil_append, stringCodes, hread, hmore,
    Bool.false_eq_true, if_false]

theorem stringCodes_shortEscape (start : Nat) {c e : Char} (he : shortEscape? c = some e)
    (rest : List Char) :
    stringCodes start ('\\' :: e :: rest) = andCode c.toNat (stringCodes start rest) := by
  -- the seven short escapes
  unfold shortEscape? at he
  split at he <;> cases he <;> simp [stringCodes, escaped?]

/-- A character without an escape of its own is read as it stands. -/
theorem stringCodes_plain (start : Nat) {c : Char} (hshort : shortEscape? c = none)
    (hcontrol : ¬ c.toNat < 0x20) (rest : List Char) :
    stringCodes start (c :: rest) = andCode c.toNat (stringCodes start rest) := by
  have hquote : c ≠ '"' := by
    rintro rfl
    cases hshort
  have hslash : c ≠ '\\' := by
    rintro rfl
    cases hshort
  have hplain : stringCodes start (c :: rest) =
      if c.toNat < 0x20 then .error (.malformed .controlCharacter (rest.length + 1))
      else andCode c.toNat (stringCodes start rest) := by
    rw [stringCodes.eq_def]
    split <;> simp_all
  rw [hplain, if_neg hcontrol]

/-- A written character is read as its code, with more of the string behind it. -/
theorem stringCodes_compactChar (start : Nat) (c : Char) {rest : List Char} (hrest : rest ≠ []) :
    stringCodes start (compactChar c ++ rest) = andCode c.toNat (stringCodes start rest) := by
  unfold compactChar
  split
  · rename_i e he
    exact stringCodes_shortEscape start he rest
  · rename_i hshort
    split
    · rename_i hcontrol
      exact stringCodes_unitEscape start (Nat.lt_trans hcontrol (by decide)) hrest
    · rename_i hcontrol
      exact stringCodes_plain start hshort hcontrol rest

theorem stringCodes_compact (start : Nat) (cs rest : List Char) :
    stringCodes start (cs.flatMap compactChar ++ '"' :: rest) =
      .ok (cs.map (·.toNat), rest) := by
  induction cs with
  | nil => simp [stringCodes]
  | cons c cs ih =>
    have hmore : cs.flatMap compactChar ++ '"' :: rest ≠ [] := by simp
    rw [List.flatMap_cons, List.append_assoc, stringCodes_compactChar start c hmore, ih]
    rfl

/-- **A text is read back from the string that was written for it.** -/
theorem string_compact (dialect : Dialect) (s : String) (rest : List Char) :
    string dialect (s.toList.flatMap compactChar ++ '"' :: rest) =
      .ok (s.toList.map (·.toNat), rest) := by
  unfold string
  rw [stringCodes_compact]
  simp only [joinHalves_toNat, any_isHalf_toNat, Bool.and_false, Bool.false_eq_true, if_false]

/-! ## Line ends -/

theorem hexPlaces_inline : ∀ code < 0x20, Inline (hexPlaces 4 code) := by
  decide

/-- Line ends are escaped. -/
theorem compactChar_inline (c : Char) : Inline (compactChar c) := by
  unfold compactChar
  split
  · rename_i e he
    unfold shortEscape? at he
    split at he <;> cases he <;> simp [Inline]
  · rename_i hshort
    split
    · rename_i hcontrol
      have hstart : Inline ['\\', 'u'] := by decide
      exact hstart.append (hexPlaces_inline c.toNat hcontrol)
    · intro d hd
      rw [List.mem_singleton] at hd
      subst hd
      constructor <;> rintro rfl <;> cases hshort

theorem compactString_inline (s : String) : Inline (compactString s) := by
  have hbody : Inline (s.toList.flatMap compactChar) := by
    intro c hc
    obtain ⟨d, -, hd⟩ := List.mem_flatMap.1 hc
    exact compactChar_inline d c hd
  have hquote : Inline ['"'] := by decide
  exact hquote.append (hbody.append hquote)

end ReadGate.Json
