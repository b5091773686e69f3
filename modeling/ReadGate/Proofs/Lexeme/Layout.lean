import ReadGate.Proofs.Lexeme.Scan
import ReadGate.Proofs.Text.Letters

/-!
# Layout

Texts that differ in nothing but the case of their ASCII letters and the white space in their gaps
fall into lexemes that differ in nothing else either.

* `Restyled` — the texts, character by character.
* `plain` — a lexeme in small letters, with a single space for a gap.
* `map_plain_scan`, `restyled_iff` — such texts have the same plain lexemes, and no others have.
-/

namespace ReadGate.Lexeme

open Text

/-- The second text is the first with other white space in its gaps and with ASCII letters in
another case.  Every gap stays one: a maximal run of white space is replaced by another run. -/
inductive Restyled : List Char → List Char → Prop
  | nil : Restyled [] []
  | char {c d : Char} {cs ds : List Char} (hc : isBlank c = false) (hcase : c.toLower = d.toLower)
    (h : Restyled cs ds) : Restyled (c :: cs) (d :: ds)
  | gap {g g' cs ds : List Char} (hg : IsRun isBlank g) (hg' : IsRun isBlank g')
    (hstop : Stops isBlank cs) (h : Restyled cs ds) : Restyled (g ++ cs) (g' ++ ds)

/-- The lexeme in small letters, with a single space for a gap. -/
def plain : Lexeme → Lexeme
  | word cs => word (cs.map Char.toLower)
  | gap _ => gap [' ']
  | mark c => mark c

variable {c d : Char} {cs ds : List Char} {l : Lexeme}

theorem plain_eq_word : plain l = word cs ↔ ∃ w, l = word w ∧ w.map Char.toLower = cs := by
  cases l <;> simp [plain]

theorem plain_eq_gap : plain l = gap cs ↔ (∃ g, l = gap g) ∧ cs = [' '] := by
  cases l <;> simp [plain, eq_comm]

theorem plain_eq_mark : plain l = mark c ↔ l = mark c := by
  cases l <;> simp [plain]

theorem isBlank_of_case (hc : isBlank c = false) (hcase : c.toLower = d.toLower) :
    isBlank d = false := by
  rw [← isBlank_toLower, ← hcase, isBlank_toLower, hc]

theorem Restyled.stops (h : Restyled cs ds) (hstop : Stops isBlank cs) : Stops isBlank ds := by
  cases h with
  | nil => exact stops_nil
  | char hc hcase => exact stops_cons.2 (isBlank_of_case hc hcase)
  | gap hg => exact absurd hstop hg.not_stops

/-- Characters that are neither letters nor white space are kept, so none of them comes in. -/
theorem Restyled.notMem {m : Char} (h : Restyled cs ds) (hm : IsMark m) (hnot : m ∉ cs) :
    m ∉ ds := by
  induction h with
  | nil => exact hnot
  | @char c d cs ds hc hcase h ih =>
    rw [List.mem_cons, not_or] at hnot ⊢
    refine ⟨?_, ih hnot.2⟩
    rintro rfl
    rw [toLower_of_not_isWord hm.1] at hcase
    have hword : isWord c = false := by rw [← isWord_toLower, hcase, hm.1]
    exact hnot.1 (by rw [← toLower_of_not_isWord hword, hcase])
  | gap hg hg' hstop h ih =>
    rw [List.mem_append, not_or] at hnot ⊢
    refine ⟨fun hmem => ?_, ih hnot.2⟩
    have hblank := hg'.all m hmem
    rw [hm.2] at hblank
    cases hblank

/-- A character that is no white space joins the plain lexemes as its small letter. -/
theorem map_plain_attach (hc : isBlank c = false) (ls : List Lexeme) :
    (attach c ls).map plain = attach c.toLower (ls.map plain) := by
  cases hw : isWord c with
  | true =>
    have hlow : isWord c.toLower = true := by rw [isWord_toLower, hw]
    rcases ls with _ | ⟨_ | _ | _, rest⟩ <;> simp [attach, hw, hlow, plain]
  | false =>
    have hlow : c.toLower = c := toLower_of_not_isWord hw
    simp [attach, hw, hc, hlow, plain]

/-- **Texts that are restyled have the same plain lexemes.** -/
theorem map_plain_scan (h : Restyled cs ds) : (scan cs).map plain = (scan ds).map plain := by
  induction h with
  | nil => rfl
  | char hc hcase _ ih =>
    rw [scan, scan, map_plain_attach hc, map_plain_attach (isBlank_of_case hc hcase), hcase, ih]
  | gap hg hg' hstop h ih =>
    rw [scan_append_gap hg hstop, scan_append_gap hg' (h.stops hstop), List.map_cons,
      List.map_cons, ih]
    rfl

/-! ## Texts of the same plain lexemes -/

theorem Restyled.run {w w' : List Char} (hw : ∀ c ∈ w, isBlank c = false)
    (hcase : w.map Char.toLower = w'.map Char.toLower) (h : Restyled cs ds) :
    Restyled (w ++ cs) (w' ++ ds) := by
  induction w generalizing w' with
  | nil =>
    rw [List.map_nil, eq_comm, List.map_eq_nil_iff] at hcase
    rw [hcase]
    exact h
  | cons c w ih =>
    obtain ⟨d, w', rfl, hd, hrest⟩ := List.map_eq_cons_iff.1 hcase.symm
    have hlater : ∀ e ∈ w, isBlank e = false := fun e he => hw e (List.mem_cons_of_mem c he)
    exact .char (hw c List.mem_cons_self) hd.symm (ih hlater hrest.symm)

theorem restyled_of_map_plain_scan (h : (scan cs).map plain = (scan ds).map plain) :
    Restyled cs ds := by
  -- on the length, because a run of characters is taken from the front as a whole
  generalize hn : cs.length = n
  induction n using Nat.strongRecOn generalizing cs ds with
  | ind n ih =>
    subst hn
    rcases scan_first cs with rfl | ⟨w, r, rfl, hw, hr⟩ | ⟨g, r, rfl, hg, hr⟩ | ⟨c, r, rfl, hc⟩
    · rw [scan, List.map_nil, eq_comm, List.map_eq_nil_iff, scan_eq_nil] at h
      rw [h]
      exact .nil
    · rw [scan_append_word hw hr, List.map_cons] at h
      obtain ⟨_, _, hscan, hplain, hrest⟩ := List.map_eq_cons_iff.1 h.symm
      obtain ⟨w', rfl, hcase⟩ := plain_eq_word.1 hplain
      obtain ⟨r', rfl, -, -, rfl⟩ := scan_eq_word_cons.1 hscan
      have hlen := List.length_pos_iff.2 hw.ne_nil
      refine .run (fun c hc => isBlank_of_isWord (hw.all c hc)) hcase.symm ?_
      exact ih r.length (by rw [List.length_append]; omega) hrest.symm rfl
    · rw [scan_append_gap hg hr, List.map_cons] at h
      obtain ⟨_, _, hscan, hplain, hrest⟩ := List.map_eq_cons_iff.1 h.symm
      obtain ⟨⟨g', rfl⟩, -⟩ := plain_eq_gap.1 hplain
      obtain ⟨r', rfl, hg', -, rfl⟩ := scan_eq_gap_cons.1 hscan
      have hlen := List.length_pos_iff.2 hg.ne_nil
      exact .gap hg hg' hr (ih r.length (by rw [List.length_append]; omega) hrest.symm rfl)
    · rw [scan_mark hc, List.map_cons] at h
      obtain ⟨_, _, hscan, hplain, hrest⟩ := List.map_eq_cons_iff.1 h.symm
      rw [plain_eq_mark.1 hplain] at hscan
      obtain ⟨r', rfl, -, rfl⟩ := scan_eq_mark_cons.1 hscan
      exact .char hc.2 rfl (ih r.length (by simp) hrest.symm rfl)

/-- **A text is another one restyled exactly if both have the same plain lexemes.** -/
theorem restyled_iff : Restyled cs ds ↔ (scan cs).map plain = (scan ds).map plain :=
  ⟨map_plain_scan, restyled_of_map_plain_scan⟩

instance (cs ds : List Char) : Decidable (Restyled cs ds) :=
  decidable_of_iff _ restyled_iff.symm

end ReadGate.Lexeme
