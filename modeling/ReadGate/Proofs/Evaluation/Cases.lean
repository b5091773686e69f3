import Mathlib.Data.List.Forall2
import ReadGate.Evaluation.Runner
import ReadGate.Proofs.Json.Extent
import ReadGate.Proofs.Text.Lines

/-!
# Reading cases

A text of cases is split at the line ends of a text, and three of these may stand inside of a JSON
string as they are: the next line and the separators of lines and of paragraphs.  Cases that are
written without them are read back.  The first case that holds one is cut off there, and reading
ends with an error.

* `endsLine_of_printed` — a document on a line of a file holds no other line ends.
* `exists_part` — what stands before a separator of a document is no document.
* `readCases_lines`, `readCases_plain` — lines without line ends, and cases without separators.
* `readCases_split` — cases one of which holds a separator.
* `readCases_exact` — which texts of cases are read back, and what becomes of all others.
-/

namespace ReadGate.Evaluation

open Text Json

/-- Does the character end a line of a text, and may it stand in a string as it is? -/
def isSeparator (c : Char) : Bool :=
  c == '\u0085' || c == '\u2028' || c == '\u2029'

/-- A separator is none of the characters that documents consist of outside of strings. -/
theorem separator_apart {c : Char} (h : isSeparator c = true) :
    0x80 ≤ c.toNat ∧ isNumeric c = false ∧ isSpace c = false := by
  simp only [isSeparator, Bool.or_eq_true, beq_iff_eq] at h
  rcases h with (rfl | rfl) | rfl <;> decide

theorem endsLine_of_isSeparator {c : Char} (h : isSeparator c = true) : endsLine c = true := by
  simp only [isSeparator, Bool.or_eq_true, beq_iff_eq] at h
  rcases h with (rfl | rfl) | rfl <;> rfl

/-- Only the separators end a line inside of a document that stands on a line of a file. -/
theorem endsLine_of_printed {c : Char} (h : Printed c) (hinline : c ≠ '\n' ∧ c ≠ '\r') :
    endsLine c = isSeparator c := by
  have hother (d : Char) (hd : d.toNat < 0x20) (hspace : isSpace d = false) : (c == d) = false := by
    refine beq_false_of_ne ?_
    rintro rfl
    rcases h with h | h
    · omega
    · rw [hspace] at h
      cases h
  simp only [endsLine, isSeparator, beq_false_of_ne hinline.1, beq_false_of_ne hinline.2,
    hother '\x0b' (by decide) rfl, hother '\x0c' (by decide) rfl, hother '\x1c' (by decide) rfl,
    hother '\x1d' (by decide) rfl, hother '\x1e' (by decide) rfl, Bool.false_or]

theorem isBlank_of_ascii {c : Char} (hlow : 0x20 < c.toNat) (hhigh : c.toNat < 0x80) :
    isBlank c = false := by
  have htable : ∀ code < 0x80, 0x20 < (Char.ofNat code).toNat →
      isBlank (Char.ofNat code) = false := by decide
  exact of_ascii (P := fun c => 0x20 < c.toNat → isBlank c = false) htable hhigh hlow

section Documents

variable {dialect : Dialect} {t : String} {v : Value} (hread : Json.read dialect t = .ok v)

include hread

/-- A document on a line of a file is one line of a text if no separator stands in it. -/
theorem unbroken_iff (hinline : Inline t.toList) :
    Unbroken t.toList ↔ ∀ c ∈ t.toList, isSeparator c = false := by
  refine forall₂_congr fun c hc => ?_
  rw [endsLine_of_printed (printed_of_read hread c hc) (hinline c hc)]

theorem not_blank_of_read : isBlankText t = false := by
  obtain ⟨ws, c, more, hsplit, -, hlow, hhigh⟩ := exists_start_of_read hread
  simp [isBlankText, hsplit, isBlank_of_ascii hlow hhigh]

/-- What stands before a separator of a document is not blank. -/
theorem not_blank_before {cs rest : List Char} {e : Char} (hsplit : t.toList = cs ++ e :: rest)
    (he : isSeparator e = true) : isBlankText (String.ofList cs) = false := by
  obtain ⟨ws, c, more, hstart, hws, hlow, hhigh⟩ := exists_start_of_read hread
  have hnone : ∀ d ∈ ws ++ [c], isSeparator d = false := by
    intro d hd
    refine Bool.eq_false_iff.2 fun hsep => ?_
    obtain ⟨hbeyond, -, hspace⟩ := separator_apart hsep
    rcases List.mem_append.1 hd with hd | hd
    · rw [hws d hd] at hspace
      cases hspace
    · rw [List.mem_singleton.1 hd] at hbeyond
      omega
  have hboth : (ws ++ [c]) ++ more = cs ++ e :: rest := by
    rw [← hsplit, hstart, List.append_assoc, List.singleton_append]
  have hc : c ∈ cs := by
    rcases List.append_eq_append_iff.1 hboth with ⟨left, rfl, -⟩ | ⟨left, hleft, hright⟩
    · simp
    · cases left with
      | nil =>
        rw [List.append_nil] at hleft
        simp [← hleft]
      | cons d left =>
        cases hright
        have hmem : e ∈ ws ++ [c] := by simp [hleft]
        rw [hnone e hmem] at he
        cases he
  have hsolid : ∃ d ∈ cs, isBlank d = false := ⟨c, hc, isBlank_of_ascii hlow hhigh⟩
  simpa [isBlankText] using hsolid

/-- A document that holds a separator can be split at the first one.  What stands before it is not
blank, and is no document, since the string that holds the separator has not ended there. -/
theorem exists_part (hinline : Inline t.toList) (h : ∃ c ∈ t.toList, isSeparator c = true) :
    ∃ cs e rest error, t.toList = cs ++ e :: rest ∧ Unbroken cs ∧ isSeparator e = true ∧
      isBlankText (String.ofList cs) = false ∧
      Json.read dialect (String.ofList cs) = .error error := by
  obtain ⟨c, hc, hsep⟩ := h
  obtain ⟨e, cs, rest, hcs, he, hsplit, -⟩ := List.exists_of_eraseP hc hsep
  have hunbroken : Unbroken cs := by
    intro d hd
    have hmem : d ∈ t.toList := by simp [hsplit, hd]
    rw [endsLine_of_printed (printed_of_read hread d hmem) (hinline d hmem)]
    simpa using hcs d hd
  cases hpart : Json.read dialect (String.ofList cs) with
  | error error =>
    exact ⟨cs, e, rest, error, hsplit, hunbroken, he, not_blank_before hread hsplit he, hpart⟩
  | ok w =>
    -- a document that ended before the separator would be followed by more than white space
    have htext : String.ofList (cs ++ e :: rest) = t := by rw [← hsplit, String.ofList_toList]
    obtain ⟨-, hnumeric, hspace⟩ := separator_apart he
    exact absurd (htext ▸ hread) (read_append_ne hpart hnumeric hspace v)

end Documents

/-! ## Texts of cases -/

/-- Reads a case from its line. -/
def readCase (line : String) : Except Mishap Value :=
  (Json.read Json.lenient line).mapError (Mishap.ofReadError line)

theorem readCases_eq (text : String) :
    readCases text = ((textLines text).filter fun line => !isBlankText line).mapM readCase :=
  rfl

/-- Lines without line ends are read one by one, unless they are blank. -/
theorem readCases_lines {lines : List String} (h : ∀ l ∈ lines, Unbroken l.toList)
    (hsolid : ∀ l ∈ lines, isBlankText l = false) :
    readCases ("\n".intercalate lines) = lines.mapM readCase := by
  have hne : ∀ l ∈ lines, l ≠ "" := by
    rintro l hl rfl
    cases hsolid "" hl
  have hkept : ∀ l ∈ lines, (!isBlankText l) = true := fun l hl => by simp [hsolid l hl]
  rw [readCases_eq, textLines_joined h hne, List.filter_eq_self.2 hkept]

section Texts

variable {texts : List String} {values : List Value}
  (hread : List.Forall₂ (fun t v => Json.read Json.lenient t = .ok v) texts values)

include hread

theorem mapM_readCase : texts.mapM readCase = .ok values := by
  induction hread with
  | nil => rfl
  | cons hread _ ih =>
    rw [List.mapM_cons, readCase, hread, ih]
    rfl

theorem exists_value : ∀ t ∈ texts, ∃ v, Json.read Json.lenient t = .ok v := by
  induction hread with
  | nil => simp
  | cons hread _ ih =>
    intro t ht
    rcases List.mem_cons.1 ht with rfl | ht
    · exact ⟨_, hread⟩
    · exact ih t ht

/-- Cases on lines without separators are read back. -/
theorem readCases_plain (hinline : ∀ t ∈ texts, Inline t.toList)
    (h : ∀ t ∈ texts, ∀ c ∈ t.toList, isSeparator c = false) :
    readCases ("\n".intercalate texts) = .ok values := by
  have hvalue := exists_value hread
  have hunbroken : ∀ t ∈ texts, Unbroken t.toList := by
    intro t ht
    obtain ⟨v, hv⟩ := hvalue t ht
    exact (unbroken_iff hv (hinline t ht)).2 (h t ht)
  have hsolid : ∀ t ∈ texts, isBlankText t = false := by
    intro t ht
    obtain ⟨v, hv⟩ := hvalue t ht
    exact not_blank_of_read hv
  rw [readCases_lines hunbroken hsolid, mapM_readCase hread]

end Texts

/-- Reading ends with the first line that is no document. -/
theorem mapM_readCase_error {before : List String}
    (h : ∀ t ∈ before, ∃ v, Json.read Json.lenient t = .ok v) {part : String} {error : ReadError}
    (hpart : Json.read Json.lenient part = .error error) (more : List String) :
    (before ++ part :: more).mapM readCase = .error (.ofReadError part error) := by
  induction before with
  | nil =>
    rw [List.nil_append, List.mapM_cons, readCase, hpart]
    rfl
  | cons t before ih =>
    obtain ⟨v, hv⟩ := h t List.mem_cons_self
    rw [List.cons_append, List.mapM_cons, ih fun s hs => h s (List.mem_cons_of_mem t hs), readCase,
      hv]
    rfl

/-- The first case that holds a separator is cut off there, and reading ends with its first part. -/
theorem readCases_split {texts : List String} (hinline : ∀ t ∈ texts, Inline t.toList)
    (hread : ∀ t ∈ texts, ∃ v, Json.read Json.lenient t = .ok v)
    (h : ∃ t ∈ texts, ∃ c ∈ t.toList, isSeparator c = true) :
    ∃ t ∈ texts, ∃ part e rest error, t.toList = part ++ e :: rest ∧ isSeparator e = true ∧
      Json.read Json.lenient (String.ofList part) = .error error ∧
      readCases ("\n".intercalate texts) = .error (.ofReadError (String.ofList part) error) := by
  obtain ⟨t, ht, hsep⟩ := h
  have hany : t.toList.any isSeparator = true := List.any_eq_true.2 hsep
  -- from here on, `t` is the first case that holds a separator
  obtain ⟨t, before, after, hbefore, hfirst, rfl, -⟩ :=
    List.exists_of_eraseP (p := fun t => t.toList.any isSeparator) ht hany
  have hmem : t ∈ before ++ t :: after := by simp
  have hleft (s : String) (hs : s ∈ before) : s ∈ before ++ t :: after :=
    List.mem_append_left _ hs
  obtain ⟨v, hv⟩ := hread t hmem
  obtain ⟨part, e, rest, error, hsplit, hunbroken, he, hsolid, hpart⟩ :=
    exists_part hv (hinline t hmem) (List.any_eq_true.1 hfirst)
  have hplain : ∀ s ∈ before, Unbroken s.toList := by
    intro s hs
    obtain ⟨w, hw⟩ := hread s (hleft s hs)
    refine (unbroken_iff hw (hinline s (hleft s hs))).2 ?_
    simpa using hbefore s hs
  have hkept : ∀ s ∈ before, (!isBlankText s) = true := by
    intro s hs
    obtain ⟨w, hw⟩ := hread s (hleft s hs)
    simp [not_blank_of_read hw]
  obtain ⟨more, hlines⟩ :=
    textLines_joined_split hinline hplain hunbroken (endsLine_of_isSeparator he) hsplit
  refine ⟨t, hmem, part, e, rest, error, hsplit, he, hpart, ?_⟩
  have hpartKept : (!isBlankText (String.ofList part)) = true := by simp [hsolid]
  rw [readCases_eq, hlines, List.filter_append, List.filter_eq_self.2 hkept,
    List.filter_cons_of_pos (p := fun line => !isBlankText line) hpartKept]
  exact mapM_readCase_error (fun s hs => hread s (hleft s hs)) hpart _

/-- **A text of JSON lines is read back, case by case, if and only if no line holds a separator.**
Otherwise reading fails: the first line that holds one is cut off there, and is no document. -/
theorem readCases_exact {texts : List String} {values : List Value}
    (hread : List.Forall₂ (fun t v => Json.read Json.lenient t = .ok v) texts values)
    (hinline : ∀ t ∈ texts, Inline t.toList) :
    (readCases ("\n".intercalate texts) = .ok values ↔
      ∀ t ∈ texts, ∀ c ∈ t.toList, isSeparator c = false) ∧
    ((∃ t ∈ texts, ∃ c ∈ t.toList, isSeparator c = true) →
      ∃ t ∈ texts, ∃ part e rest error, t.toList = part ++ e :: rest ∧ isSeparator e = true ∧
        Json.read Json.lenient (String.ofList part) = .error error ∧
        readCases ("\n".intercalate texts) =
          .error (.ofReadError (String.ofList part) error)) := by
  have hsplit := readCases_split hinline (exists_value hread)
  refine ⟨⟨fun h t ht c hc => ?_, readCases_plain hread hinline⟩, hsplit⟩
  cases hsep : isSeparator c with
  | false => rfl
  | true =>
    obtain ⟨_, _, _, _, _, _, _, _, _, herror⟩ := hsplit ⟨t, ht, c, hc, hsep⟩
    rw [h] at herror
    cases herror

/-- Two cases, the second one with a line separator in its query. -/
def separatedTexts : List String :=
  ["\x7b\"id\": 1\x7d", "\x7b\"query\": \"a\u2028b\"\x7d"]

/-- The cases that were written. -/
def separatedCases : List Value :=
  [.record [("id", .int 1)], .record [("query", .text "a\u2028b")]]

theorem separated_read :
    List.Forall₂ (fun t v => Json.read Json.lenient t = .ok v) separatedTexts separatedCases := by
  have hplain : Json.read Json.lenient "\x7b\"id\": 1\x7d" = .ok (.record [("id", .int 1)]) :=
    read_of_chars ['\x7b', '"', 'i', 'd', '"', ':', ' ', '1', '\x7d'] (by decide) (by decide) rfl rfl
  have hseparated : Json.read Json.lenient "\x7b\"query\": \"a\u2028b\"\x7d" =
      .ok (.record [("query", .text "a\u2028b")]) :=
    read_of_chars ['\x7b', '"', 'q', 'u', 'e', 'r', 'y', '"', ':', ' ', '"', 'a', '\u2028', 'b', '"',
      '\x7d'] (by decide) (by decide) rfl rfl
  exact .cons hplain (.cons hseparated .nil)

/-- The separator ends the second line within its query. -/
theorem readCases_exact_separated :
    List.Forall₂ (fun t v => Json.read Json.lenient t = .ok v) separatedTexts separatedCases ∧
    (∀ t ∈ separatedTexts, Inline t.toList) ∧
    readCases ("\n".intercalate separatedTexts) ≠ .ok separatedCases ∧
    ∃ part error, Json.read Json.lenient part = .error error ∧
      readCases ("\n".intercalate separatedTexts) = .error (.ofReadError part error) := by
  have hinline : ∀ t ∈ separatedTexts, Inline t.toList := by decide
  have hseparated : ∃ t ∈ separatedTexts, ∃ c ∈ t.toList, isSeparator c = true :=
    ⟨_, List.mem_cons_of_mem _ List.mem_cons_self, '\u2028', by decide, rfl⟩
  obtain ⟨-, -, part, -, -, error, -, -, herror, hcases⟩ :=
    (readCases_exact separated_read hinline).2 hseparated
  exact ⟨separated_read, hinline, by rw [hcases]; nofun, String.ofList part, error, herror, hcases⟩

end ReadGate.Evaluation
