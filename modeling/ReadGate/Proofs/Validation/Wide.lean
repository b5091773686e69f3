import ReadGate.Proofs.Text.Wide
import ReadGate.Proofs.Validation.Language

/-!
# Validation of wide texts

A text in which halves of surrogate pairs stand alone is judged as its plain text is, and what is
accepted of it has the halves where they were.  A text without halves is validated as ever.

* `plain_cleanCodes`, `any_isHalf_cleanCodes` — cleaning codes cleans the plain text, and drops no
  half.
* `validate_plain` — the plain text of an accepted text is what is accepted of the plain text.
* `validateWide_eq_whole` — only texts without halves are accepted as such.
-/

namespace ReadGate.Validation

open Text

variable {raw : Option WideText} {codes : List Nat}

/-! ## Cleaning -/

theorem map_dropEnd {α β : Type} (f : α → β) (p : β → Bool) (as : List α) :
    (dropEnd (p ∘ f) as).map f = dropEnd p (as.map f) := by
  rw [dropEnd, dropEnd, List.map_reverse, ← List.dropWhile_map, List.map_reverse]

/-- Cleaning codes cleans the plain text. -/
theorem plain_cleanCodes (codes : List Nat) :
    (WideText.ofCodes (cleanCodes codes)).plain = normalize (ofCodes codes) := by
  have hclean : (cleanCodes codes).map charOfCode = clean (codes.map charOfCode) := by
    rw [clean, trim, List.dropWhile_map, ← map_dropEnd, ← map_dropEnd]
    rfl
  rw [WideText.plain_ofCodes, ofCodes, hclean, normalize, ofCodes, String.toList_ofList]

theorem mem_dropWhile {α : Type} {p : α → Bool} {as : List α} {a : α} (ha : a ∈ as)
    (h : p a = false) : a ∈ as.dropWhile p := by
  rw [← List.takeWhile_append_dropWhile (p := p) (l := as), List.mem_append] at ha
  refine ha.resolve_left fun htaken => ?_
  rw [List.all_eq_true.1 List.all_takeWhile a htaken] at h
  cases h

theorem mem_dropEnd {α : Type} {p : α → Bool} {as : List α} {a : α} (ha : a ∈ as)
    (h : p a = false) : a ∈ dropEnd p as :=
  List.mem_reverse.2 (mem_dropWhile (List.mem_reverse.2 ha) h)

/-- A half is neither blank nor a terminator, so cleaning keeps it. -/
theorem any_isHalf_cleanCodes (half : codes.any isHalf = true) :
    (cleanCodes codes).any isHalf = true := by
  obtain ⟨code, hcode, hhalf⟩ := List.any_eq_true.1 half
  have hshown : charOfCode code = '\uFFFD' := by rw [charOfCode, if_pos hhalf]
  have hblank : isBlank (charOfCode code) = false := by rw [hshown]; decide
  have htrailer : isTrailer (charOfCode code) = false := by rw [hshown]; decide
  refine List.any_eq_true.2 ⟨code, ?_, hhalf⟩
  exact mem_dropEnd (mem_dropEnd (mem_dropWhile hcode hblank) hblank) htrailer

/-! ## Accepted texts -/

/-- What is accepted is the text without what stands around it. -/
theorem normalize_of_validate {s text : String} (h : validate (some s) = .ok text) :
    text = normalize s ∧ text ≠ "" := by
  unfold validate at h
  dsimp only at h
  split at h
  · cases h
  · split at h
    · cases h
    · rename_i hempty
      split at h
      · cases h
      · split at h
        · cases h
        · split at h
          · cases h
          · cases h
            exact ⟨rfl, by simpa using hempty⟩

/-- Texts without halves are validated as ever. -/
theorem validateWide_whole (raw : Option String) :
    validateWide (raw.map .whole) = (validate raw).map .whole := by
  cases raw <;> rfl

theorem validateWide_of_error {raw : Option String} {rejection : Rejection}
    (h : validate raw = .error rejection) : validateWide (raw.map .whole) = .error rejection := by
  rw [validateWide_whole, h]
  rfl

theorem validateWide_some_whole {s : String} {text : WideText}
    (h : validateWide (some (.whole s)) = .ok text) :
    ∃ accepted, validate (some s) = .ok accepted ∧ text = .whole accepted := by
  rw [← Option.map_some, validateWide_whole] at h
  rcases hs : validate (some s) with rejection | accepted <;> rw [hs] at h <;> cases h
  exact ⟨accepted, rfl, rfl⟩

/-- What is accepted of a text with halves has the halves. -/
theorem validateWide_broken {half : codes.any isHalf = true} {text : WideText}
    (h : validateWide (some (.broken codes half)) = .ok text) :
    text = .broken (cleanCodes codes) (any_isHalf_cleanCodes half) := by
  unfold validateWide at h
  dsimp only at h
  split at h
  · cases h
    exact WideText.ofCodes_of_half _
  · cases h
  · cases h

/-- **The plain text of an accepted text is what is accepted of the plain text.** -/
theorem validate_plain {text : WideText} (h : validateWide raw = .ok text) :
    validate (raw.map WideText.plain) = .ok text.plain := by
  rcases raw with _ | (s | ⟨codes, half⟩)
  · cases h
  · obtain ⟨accepted, hs, rfl⟩ := validateWide_some_whole h
    exact hs
  · obtain rfl := validateWide_broken h
    unfold validateWide at h
    dsimp only at h
    split at h
    · rename_i accepted hplain
      show validate (some (ofCodes codes)) = .ok (ofCodes (cleanCodes codes))
      rw [hplain, (normalize_of_validate hplain).1, ← plain_cleanCodes, WideText.plain_ofCodes]
    · cases h
    · cases h

/-- **Only texts without halves are accepted as such.** -/
theorem validateWide_eq_whole {text : String} :
    validateWide raw = .ok (.whole text) ↔
      ∃ s, raw = some (.whole s) ∧ validate (some s) = .ok text := by
  constructor
  · intro h
    rcases raw with _ | (s | ⟨codes, half⟩)
    · cases h
    · exact ⟨s, rfl, validate_plain h⟩
    · cases validateWide_broken h
  · rintro ⟨s, rfl, hs⟩
    exact (validateWide_whole (some s)).trans (congrArg (Except.map WideText.whole) hs)

/-- An accepted text without halves is not empty. -/
theorem ne_empty_of_validateWide {text : String} (h : validateWide raw = .ok (.whole text)) :
    text ≠ "" := by
  obtain ⟨s, -, hs⟩ := validateWide_eq_whole.1 h
  exact (normalize_of_validate hs).2

end ReadGate.Validation
