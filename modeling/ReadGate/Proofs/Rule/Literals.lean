import ReadGate.Proofs.Rule.Parts

/-!
# Reading literals

A text literal may hold anything at all: keywords, terminators, line breaks and quotes.  It falls
into lexemes as any other text does, but it is read back character by character.

* `literalBody_attach` — a character that is no quote is read as itself, whatever lexeme it is in.
* `literal_sound`, `literal_scan` — what stands between the quotes is the text with each quote
  written twice; the first quote that is not followed by another one ends it.
* `numeric_sound`, `numeric_scan` — number literals.
-/

namespace ReadGate.Grammar

open Text Lexeme Shape

variable {cs rest : List Char} {ls : List Lexeme}

/-! ## Text literals -/

theorem isMark_quote : IsMark '\'' := by decide

theorem literalBody_cons {l : Lexeme} (hl : l ≠ .mark '\'') (ls : List Lexeme) :
    literalBody (l :: ls) = (literalBody ls).map fun p => (l.chars ++ p.1, p.2) := by
  rw [literalBody, if_neg hl]
  rintro rest rfl
  exact absurd rfl hl

/-- A quote that no other quote follows ends the literal. -/
theorem literalBody_close (h : ∀ ls', ls ≠ .mark '\'' :: ls') :
    literalBody (.mark '\'' :: ls) = some ([], ls) := by
  rw [literalBody, if_pos rfl]
  rintro rest - rfl
  exact h rest rfl

/-- A character that is no quote is read as itself, whether it joins a run or stands alone. -/
theorem literalBody_attach {c : Char} (hc : c ≠ '\'') (ls : List Lexeme) :
    literalBody (attach c ls) = (literalBody ls).map fun p => (c :: p.1, p.2) := by
  have hword (w : List Char) : Lexeme.word w ≠ .mark '\'' := nofun
  have hgap (g : List Char) : Lexeme.gap g ≠ .mark '\'' := nofun
  have hmark : Lexeme.mark c ≠ .mark '\'' := by simpa using hc
  unfold attach
  split
  · split
    · rw [literalBody_cons (hword _), literalBody_cons (hword _), Option.map_map]
      rfl
    · rw [literalBody_cons (hword _)]
      rfl
  · split
    · split
      · rw [literalBody_cons (hgap _), literalBody_cons (hgap _), Option.map_map]
        rfl
      · rw [literalBody_cons (hgap _)]
        rfl
    · rw [literalBody_cons hmark]
      rfl

theorem escape_quote (text : List Char) : escape ('\'' :: text) = '\'' :: '\'' :: escape text := rfl

theorem escape_other {c : Char} (hc : c ≠ '\'') (text : List Char) :
    escape (c :: text) = c :: escape text := by
  simp [escape, hc]

theorem literalBody_sound {text : List Char} (h : literalBody (scan cs) = some (text, ls)) :
    ∃ rest, cs = escape text ++ '\'' :: rest ∧ scan rest = ls := by
  -- on the length, because two quotes are taken from the front at once
  generalize hn : cs.length = n
  induction n using Nat.strongRecOn generalizing cs text with
  | ind n ih =>
    subst hn
    rcases cs with _ | ⟨c, cs⟩
    · cases h
    · by_cases hc : c = '\''
      · subst hc
        rw [scan_mark isMark_quote] at h
        rcases cs with _ | ⟨d, cs⟩
        · rw [literalBody_close (by simp [scan])] at h
          cases h
          exact ⟨[], rfl, rfl⟩
        · by_cases hd : d = '\''
          · subst hd
            rw [scan_mark isMark_quote, literalBody, Option.map_eq_some_iff] at h
            obtain ⟨⟨text', ls'⟩, hbody, heq⟩ := h
            cases heq
            have hlen : cs.length < ('\'' :: '\'' :: cs).length := by
              simp only [List.length_cons]
              omega
            obtain ⟨rest, rfl, hscan⟩ := ih cs.length hlen hbody rfl
            exact ⟨rest, by rw [escape_quote]; rfl, hscan⟩
          · have hother (ls' : List Lexeme) : scan (d :: cs) ≠ .mark '\'' :: ls' := by
              intro hscan
              obtain ⟨_, heq, -⟩ := scan_eq_mark_cons.1 hscan
              cases heq
              exact hd rfl
            rw [literalBody_close hother] at h
            cases h
            exact ⟨d :: cs, rfl, rfl⟩
      · rw [scan, literalBody_attach hc, Option.map_eq_some_iff] at h
        obtain ⟨⟨text', ls'⟩, hbody, heq⟩ := h
        cases heq
        obtain ⟨rest, rfl, hscan⟩ := ih cs.length (by simp) hbody rfl
        exact ⟨rest, by rw [escape_other hc]; rfl, hscan⟩

theorem literalBody_scan (text : List Char) (hr : Stops (· == '\'') rest) :
    literalBody (scan (escape text ++ '\'' :: rest)) = some (text, scan rest) := by
  induction text with
  | nil =>
    have hother (ls' : List Lexeme) : scan rest ≠ .mark '\'' :: ls' := by
      intro hscan
      obtain ⟨_, rfl, -⟩ := scan_eq_mark_cons.1 hscan
      simp at hr
    rw [escape, List.flatMap_nil, List.nil_append, scan_mark isMark_quote,
      literalBody_close hother]
  | cons c text ih =>
    by_cases hc : c = '\''
    · subst hc
      rw [escape_quote, List.cons_append, List.cons_append, scan_mark isMark_quote,
        scan_mark isMark_quote, literalBody, ih]
      rfl
    · rw [escape_other hc, List.cons_append, scan, literalBody_attach hc, ih]
      rfl

theorem literal_sound {text : List Char} (h : literal (scan cs) = some (text, ls)) :
    ∃ rest, cs = quotedText text ++ rest ∧ scan rest = ls := by
  unfold literal at h
  split at h
  · rename_i hquote
    obtain ⟨r, rfl, -, rfl⟩ := scan_eq_mark_cons.1 hquote
    obtain ⟨rest, rfl, hscan⟩ := literalBody_sound h
    exact ⟨rest, by simp [quotedText], hscan⟩
  · cases h

/-- **Every text is read back from between quotes**, whatever it holds. -/
theorem literal_scan (text : List Char) (hr : Follows rest) :
    literal (scan (quotedText text ++ rest)) = some (text, scan rest) := by
  have hstop : Stops (· == '\'') rest :=
    hr.stops (by decide) (beq_of_isBlank (by decide))
  have hbody := literalBody_scan text hstop
  rw [quotedText, List.append_assoc, List.cons_append, scan_mark isMark_quote, literal]
  exact hbody

/-! ## Number literals -/

theorem IsNumber.stops_blank {number : Numeric} (h : IsNumber number) (rest : List Char) :
    Stops isBlank (numberText number ++ rest) := by
  have hminus : IsMark '-' := by decide
  cases hsign : number.negative with
  | true => simpa [numberText, hsign] using hminus.2
  | false =>
    simp only [numberText, hsign, Bool.false_eq_true, if_false, List.append_assoc, List.nil_append]
    exact h.whole.word.stops_blank _

theorem unsignedNumeric_sound {negative : Bool} {number : Numeric}
    (h : unsignedNumeric negative (scan cs) = some (number, ls)) :
    ∃ rest, cs = number.whole ++ (fractionText number.fraction ++ rest) ∧
      number.negative = negative ∧ IsNumber number ∧ scan rest = ls := by
  unfold unsignedNumeric at h
  split at h
  · rename_i whole fraction ls' hscan
    split at h
    · rename_i hcond
      simp only [Bool.and_eq_true, List.all_eq_true] at hcond
      cases h
      obtain ⟨_, rfl, hwhole, -, hscan⟩ := scan_eq_word_cons.1 hscan
      obtain ⟨_, rfl, -, hscan⟩ := scan_eq_mark_cons.1 hscan
      obtain ⟨rest, rfl, hfraction, -, hscan⟩ := scan_eq_word_cons.1 hscan
      refine ⟨rest, rfl, rfl, ⟨⟨hwhole.ne_nil, hcond.1⟩, ?_⟩, hscan⟩
      rintro _ ⟨⟩
      exact ⟨hfraction.ne_nil, hcond.2⟩
    · cases h
  · rename_i whole ls' _ hscan
    split at h
    · rename_i hd
      cases h
      obtain ⟨rest, rfl, hwhole, -, hscan⟩ := scan_eq_word_cons.1 hscan
      exact ⟨rest, rfl, rfl, ⟨⟨hwhole.ne_nil, List.all_eq_true.1 hd⟩, nofun⟩, hscan⟩
    · cases h
  · cases h

theorem unsignedNumeric_scan {number : Numeric} (h : IsNumber number) (hr : Follows rest) :
    unsignedNumeric number.negative
      (scan (number.whole ++ (fractionText number.fraction ++ rest))) =
        some (number, scan rest) := by
  obtain ⟨negative, whole, fraction⟩ := number
  have hwhole : Digits whole := h.whole
  have hpoint : IsMark '.' := by decide
  cases fraction with
  | some fraction =>
    have hfraction : Digits fraction := h.fraction fraction rfl
    have hstop : Stops isWord (('.' :: fraction) ++ rest) := stops_cons.2 hpoint.1
    simp only [fractionText]
    rw [scan_append_word hwhole.word hstop, List.cons_append, scan_mark hpoint,
      scan_append_word hfraction.word hr.stops_word]
    simp [unsignedNumeric, List.all_eq_true.2 hwhole.all, List.all_eq_true.2 hfraction.all]
  | none =>
    have hother (ls' : List Lexeme) : scan rest ≠ .mark '.' :: ls' := by
      intro hscan
      obtain ⟨_, rfl, -⟩ := scan_eq_mark_cons.1 hscan
      rcases hr '.' rfl with hp | hp <;> exact absurd hp (by decide)
    simp only [fractionText, List.nil_append]
    rw [scan_append_word hwhole.word hr.stops_word]
    unfold unsignedNumeric
    split
    · rename_i heq
      simp only [List.cons.injEq] at heq
      exact absurd heq.2 (hother _)
    · rename_i heq
      simp only [List.cons.injEq, word.injEq] at heq
      obtain ⟨rfl, rfl⟩ := heq
      rw [if_pos (List.all_eq_true.2 hwhole.all)]
    · rename_i hnone
      exact absurd rfl (hnone whole (scan rest))

theorem numeric_sound {number : Numeric} (h : numeric (scan cs) = some (number, ls)) :
    ∃ rest, cs = numberText number ++ rest ∧ IsNumber number ∧ scan rest = ls := by
  unfold numeric at h
  split at h
  · rename_i hminus
    obtain ⟨r, rfl, -, rfl⟩ := scan_eq_mark_cons.1 hminus
    obtain ⟨rest, rfl, hsign, hnumber, hscan⟩ := unsignedNumeric_sound h
    exact ⟨rest, by simp [numberText, hsign], hnumber, hscan⟩
  · obtain ⟨rest, rfl, hsign, hnumber, hscan⟩ := unsignedNumeric_sound h
    exact ⟨rest, by simp [numberText, hsign], hnumber, hscan⟩

theorem numeric_scan {number : Numeric} (h : IsNumber number) (hr : Follows rest) :
    numeric (scan (numberText number ++ rest)) = some (number, scan rest) := by
  have hminus : IsMark '-' := by decide
  have hunsigned := unsignedNumeric_scan h hr
  cases hsign : number.negative with
  | true =>
    rw [hsign] at hunsigned
    simp only [numberText, hsign, if_true, List.append_assoc, List.cons_append, List.nil_append]
    rw [scan_mark hminus]
    exact hunsigned
  | false =>
    rw [hsign] at hunsigned
    simp only [numberText, hsign, Bool.false_eq_true, if_false, List.append_assoc, List.nil_append]
    unfold numeric
    split
    · rename_i hscan
      obtain ⟨_, heq, hmark, -⟩ := scan_eq_mark_cons.1 hscan
      obtain ⟨c, cs, hwhole, hc⟩ := h.whole.word.exists_cons
      rw [hwhole] at heq
      cases heq
      rw [hminus.1] at hc
      cases hc
    · exact hunsigned

end ReadGate.Grammar
