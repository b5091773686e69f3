import ReadGate.Proofs.Text.Classes
import ReadGate.Validation

/-!
# The slice of a text that is left to run

Cleaning cuts a text into white space, a slice, and a tail of terminators and white space.  The
slice is described without the functions that cut it out (`IsSlice`), and there is at most one:

* `isSlice_iff` — a list is the slice of a text iff cleaning gives it and something is left.
* `clean_eq_nil_iff` — nothing is left iff the text holds only white space and terminators.
-/

namespace ReadGate.Validation

open Text

/-- The slice of a text: white space before it, white space and terminators behind it, and neither
white space at its start nor either of both at its end. -/
structure IsSlice (raw slice : List Char) : Prop where
  within : ∃ before after, raw = before ++ slice ++ after ∧
    before.all isBlank = true ∧ after.all isTrailer = true
  ne_nil : slice ≠ []
  starts : Stops isBlank slice
  ends : Stops isTrailer slice.reverse

theorem isTrailer_of_isBlank {c : Char} (h : isBlank c = true) : isTrailer c = true := by
  simp [isTrailer, h]

section Ends

variable {p q : Char → Bool} {cs rest : List Char}

theorem stops_reverse_dropEnd : Stops p (dropEnd p cs).reverse := by
  rw [dropEnd, List.reverse_reverse]
  exact stops_dropWhile

theorem dropEnd_append_rest (p : Char → Bool) (cs : List Char) :
    ∃ rest, cs = dropEnd p cs ++ rest ∧ rest.all p = true := by
  refine ⟨(cs.reverse.takeWhile p).reverse, ?_, by simp⟩
  rw [dropEnd, ← List.reverse_append, List.takeWhile_append_dropWhile, List.reverse_reverse]

theorem dropEnd_append (hr : rest.all p = true) (hs : Stops p cs.reverse) :
    dropEnd p (cs ++ rest) = cs := by
  have hall : ∀ c ∈ rest.reverse, p c = true := fun c hc =>
    List.all_eq_true.1 hr c (List.mem_reverse.1 hc)
  rw [dropEnd, List.reverse_append, List.dropWhile_append_of_pos hall]
  cases hrev : cs.reverse with
  | nil => simpa using hrev.symm
  | cons c ds =>
    rw [hrev] at hs
    rw [List.dropWhile_cons_of_neg (by simp [stops_cons.1 hs]), ← hrev, List.reverse_reverse]

/-- Dropping a smaller class first changes nothing. -/
theorem dropEnd_dropEnd (hpq : ∀ c, p c = true → q c = true) (cs : List Char) :
    dropEnd q (dropEnd p cs) = dropEnd q cs := by
  obtain ⟨rest, hcs, hrest⟩ := dropEnd_append_rest p cs
  obtain ⟨tail, hcut, htail⟩ := dropEnd_append_rest q (dropEnd p cs)
  have hsplit : cs = dropEnd q (dropEnd p cs) ++ (tail ++ rest) := by
    rw [← List.append_assoc, ← hcut, ← hcs]
  have hall : (tail ++ rest).all q = true := by
    rw [List.all_append, htail, Bool.true_and, List.all_eq_true]
    exact fun c hc => hpq c (List.all_eq_true.1 hrest c hc)
  conv => rhs; rw [hsplit]
  rw [dropEnd_append hall stops_reverse_dropEnd]

end Ends

/-- Cleaning drops white space from the front and terminators with white space from the end. -/
theorem clean_eq (cs : List Char) : clean cs = dropEnd isTrailer (cs.dropWhile isBlank) := by
  rw [clean, trim, dropEnd_dropEnd fun _ => isTrailer_of_isBlank]

theorem clean_within (cs : List Char) :
    ∃ before after, cs = before ++ clean cs ++ after ∧
      before.all isBlank = true ∧ after.all isTrailer = true := by
  obtain ⟨after, hcut, hafter⟩ := dropEnd_append_rest isTrailer (cs.dropWhile isBlank)
  refine ⟨cs.takeWhile isBlank, after, ?_, List.all_takeWhile, hafter⟩
  rw [clean_eq, List.append_assoc, ← hcut, List.takeWhile_append_dropWhile]

theorem clean_eq_nil_iff {cs : List Char} : clean cs = [] ↔ cs.all isTrailer = true := by
  constructor
  · intro h
    obtain ⟨before, after, hcs, hbefore, hafter⟩ := clean_within cs
    rw [hcs, h, List.append_nil, List.all_append, hafter, Bool.and_true, List.all_eq_true]
    exact fun c hc => isTrailer_of_isBlank (List.all_eq_true.1 hbefore c hc)
  · intro h
    have htail : (cs.dropWhile isBlank).all isTrailer = true :=
      List.all_eq_true.2 fun c hc =>
        List.all_eq_true.1 h c ((List.dropWhile_sublist isBlank).subset hc)
    rw [clean_eq]
    rw [← List.nil_append (cs.dropWhile isBlank)]
    exact dropEnd_append htail stops_nil

theorem isSlice_clean {cs : List Char} (h : clean cs ≠ []) : IsSlice cs (clean cs) := by
  refine ⟨clean_within cs, h, ?_, ?_⟩
  · obtain ⟨after, hcut, -⟩ := dropEnd_append_rest isTrailer (cs.dropWhile isBlank)
    rw [← clean_eq] at hcut
    have hstart : Stops isBlank (cs.dropWhile isBlank) := stops_dropWhile
    rw [hcut] at hstart
    cases hc : clean cs with
    | nil => exact stops_nil
    | cons c ds =>
      rw [hc, List.cons_append] at hstart
      exact stops_cons.2 (stops_cons.1 hstart)
  · rw [clean_eq]
    exact stops_reverse_dropEnd

theorem IsSlice.eq_clean {raw slice : List Char} (h : IsSlice raw slice) : slice = clean raw := by
  obtain ⟨before, after, rfl, hbefore, hafter⟩ := h.within
  have hdrop : (before ++ slice ++ after).dropWhile isBlank = slice ++ after := by
    rw [List.append_assoc, List.dropWhile_append_of_pos (List.all_eq_true.1 hbefore)]
    cases slice with
    | nil => exact absurd rfl h.ne_nil
    | cons c cs => simp [stops_cons.1 h.starts]
  rw [clean_eq, hdrop, dropEnd_append hafter h.ends]

/-- **A text has one slice at most, the one that cleaning gives.** -/
theorem isSlice_iff {raw slice : List Char} :
    IsSlice raw slice ↔ slice = clean raw ∧ clean raw ≠ [] := by
  constructor
  · intro h
    exact ⟨h.eq_clean, h.eq_clean ▸ h.ne_nil⟩
  · rintro ⟨rfl, h⟩
    exact isSlice_clean h

end ReadGate.Validation
