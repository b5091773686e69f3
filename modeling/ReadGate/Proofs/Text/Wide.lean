import ReadGate.Proofs.Json.Strings
import ReadGate.Text.Wide

/-!
# Wide texts by their codes

Putting wide texts behind each other puts their codes behind each other.  So nothing is lost if one
of them is broken.

* `codes_ofCodes_of_half`, `codes_append` — the codes of a text that was put together.
* `plain_append` — its text with the replacement character.
-/

namespace ReadGate.WideText

open Text

theorem any_isHalf_whole (s : String) : (whole s).codes.any isHalf = false :=
  Json.any_isHalf_toNat s.toList

theorem ofCodes_of_half {codes : List Nat} (h : codes.any isHalf = true) :
    ofCodes codes = broken codes h :=
  dif_pos h

theorem codes_ofCodes_of_half {codes : List Nat} (h : codes.any isHalf = true) :
    (ofCodes codes).codes = codes := by
  rw [ofCodes_of_half h]
  rfl

theorem plain_ofCodes (codes : List Nat) : (ofCodes codes).plain = Text.ofCodes codes := by
  unfold ofCodes
  split <;> rfl

theorem plain_eq (t : WideText) : t.plain = Text.ofCodes t.codes := by
  cases t with
  | whole s => exact (Json.ofCodes_toNat s).symm
  | broken codes half => rfl

/-- A text that is put together is broken if a part of it is. -/
theorem append_eq_ofCodes (s t : WideText)
    (h : s.codes.any isHalf = true ∨ t.codes.any isHalf = true) :
    s ++ t = ofCodes (s.codes ++ t.codes) := by
  cases s with
  | whole s =>
    cases t with
    | whole t =>
      rw [any_isHalf_whole, any_isHalf_whole] at h
      cases h <;> contradiction
    | broken codes half => rfl
  | broken codes half => cases t <;> rfl

/-- **Texts are put together code by code.** -/
theorem codes_append (s t : WideText) : (s ++ t).codes = s.codes ++ t.codes := by
  by_cases h : s.codes.any isHalf = true ∨ t.codes.any isHalf = true
  · rw [append_eq_ofCodes s t h, codes_ofCodes_of_half (by simpa using h)]
  · cases s with
    | whole s =>
      cases t with
      | whole t => simp [whole_append_whole, codes]
      | broken codes half => exact absurd (.inr half) h
    | broken codes half => exact absurd (.inl half) h

theorem plain_append (s t : WideText) : (s ++ t).plain = s.plain ++ t.plain := by
  simp only [plain_eq, codes_append, Text.ofCodes, List.map_append, String.ofList_append]

end ReadGate.WideText
