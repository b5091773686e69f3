import Mathlib.Data.List.Infix
import ReadGate.Text.Trim

/-!
# Occurrences of a text in another

A text is contained in another when its characters stand there as neighbours.  A phrase that has
not the character at which a text is cut occurs in one of the two parts, for no occurrence reaches
across the cut.  A phrase that fits onto no end of what stands in front occurs behind it only.

* `contains_iff` — the test decides it.
* `infix_cut_iff` — occurrences in a text with a cut.
* `infix_behind_iff` — occurrences in a text with a start of its own.
-/

namespace ReadGate.Text

theorem occursIn_iff {needle cs : List Char} : occursIn needle cs = true ↔ needle <:+: cs := by
  induction cs with
  | nil => rw [occursIn, List.isEmpty_iff, List.infix_nil]
  | cons c rest ih =>
    rw [occursIn, Bool.or_eq_true, List.isPrefixOf_iff_prefix, ih, List.infix_cons_iff]

theorem contains_iff {haystack needle : String} :
    contains haystack needle = true ↔ needle.toList <:+: haystack.toList :=
  occursIn_iff

section Parts

variable {α : Type} {phrase start xs ys : List α} {c : α}

/-- A phrase without the character at a cut occurs before the cut or behind it. -/
theorem infix_cut_iff (h : c ∉ phrase) :
    phrase <:+: xs ++ c :: ys ↔ phrase <:+: xs ∨ phrase <:+: ys := by
  rw [List.infix_append_iff, List.infix_cons_iff]
  constructor
  · rintro (hxs | (hfront | hys) | ⟨before, behind, rfl, hbefore, hbehind⟩)
    · exact .inl hxs
    · -- only the empty phrase stands in front of the cut
      rcases List.prefix_cons_iff.1 hfront with rfl | ⟨rest, rfl, -⟩
      · exact .inl (List.nil_infix)
      · exact absurd List.mem_cons_self h
    · exact .inr hys
    · rcases List.prefix_cons_iff.1 hbehind with rfl | ⟨rest, rfl, -⟩
      · rw [List.append_nil]
        exact .inl hbefore.isInfix
      · exact absurd (List.mem_append_right before List.mem_cons_self) h
  · rintro (hxs | hys)
    · exact .inl hxs
    · exact .inr (.inl (.inr hys))

/-- A phrase occurs behind a start when no end of the start begins with it or begins it. -/
theorem infix_behind_iff
    (h : ∀ tail ∈ start.tails, tail ≠ [] → ¬ tail <+: phrase ∧ ¬ phrase <+: tail) :
    phrase <:+: start ++ ys ↔ phrase <:+: ys := by
  induction start with
  | nil => rw [List.nil_append]
  | cons x rest ih =>
    rw [List.tails_cons, List.forall_mem_cons] at h
    obtain ⟨hshort, hlong⟩ := h.1 (List.cons_ne_nil x rest)
    rw [List.cons_append, List.infix_cons_iff, ih h.2, or_iff_right]
    intro hphrase
    rcases List.prefix_or_prefix_of_prefix hphrase (List.prefix_append (x :: rest) ys) with hp | hp
    · exact hlong hp
    · exact hshort hp

end Parts

end ReadGate.Text
