import ReadGate.Proofs.Value.Decoding
import ReadGate.Proofs.Value.Plain
import ReadGate.Summary

/-!
# Rows that have a summary

A summary shows the values of the fields that are not hidden, and of a list or a record it shows
only that it is one.  So it can be written as long as no integer that it shows has too many digits,
and no half of a surrogate pair stands alone in it as long as none stands in a value that it shows.

* `Shows`, `shows_iff` — the values of which a summary shows a text.
* `summary_isOk_iff` — the rows that have a summary.
* `summary_whole` — a summary without halves of surrogate pairs.
-/

namespace ReadGate

namespace WideText

variable {s t : WideText}

/-- No half of a surrogate pair stands alone in the text. -/
def IsWhole (t : WideText) : Prop :=
  ∃ text, t = whole text

theorem IsWhole.append (hs : s.IsWhole) (ht : t.IsWhole) : (s ++ t).IsWhole := by
  obtain ⟨s, rfl⟩ := hs
  obtain ⟨t, rfl⟩ := ht
  exact ⟨s ++ t, rfl⟩

theorem IsWhole.first (ht : t.IsWhole) (n : Nat) : (t.first n).IsWhole := by
  obtain ⟨t, rfl⟩ := ht
  exact ⟨Text.first n t, rfl⟩

theorem isWhole_joined (hs : s.IsWhole) {ts : List WideText} (h : ∀ t ∈ ts, t.IsWhole) :
    (joined s ts).IsWhole := by
  induction ts with
  | nil => exact ⟨"", rfl⟩
  | cons t rest ih =>
    obtain ⟨hfirst, hrest⟩ := List.forall_mem_cons.1 h
    cases rest with
    | nil => exact hfirst
    | cons next rest => exact (hfirst.append hs).append (ih hrest)

end WideText

namespace Summary

variable {hidden : List String} {rows : List Row} {row : Row} {v : Value}

/-! ## Cells -/

/-- A summary can show the value. -/
def Shows (v : Value) : Prop :=
  ∃ text, cellText v = .ok text

/-- The value is only named by a summary. -/
def IsNamed : Value → Prop
  | .list _ | .record _ => True
  | _ => False

theorem cellText_eq_display (h : ¬ IsNamed v) : cellText v = v.display := by
  unfold cellText
  split
  · exact absurd trivial h
  · exact absurd trivial h
  · rfl

/-- Values that are not only named are shown if they can be written. -/
theorem shows_iff (v : Value) : Shows v ↔ IsNamed v ∨ v.isWritable = true := by
  by_cases hnamed : IsNamed v
  · refine iff_of_true ?_ (.inl hnamed)
    cases v with
    | list items | record fields => exact ⟨_, rfl⟩
    | _ => cases hnamed
  · rw [Shows, cellText_eq_display hnamed, Value.display, or_iff_right hnamed]
    split <;> rename_i h <;> simp [h]

/-- No half of a surrogate pair is shown of a value that a result shows as it is. -/
theorem cellText_whole {text : WideText} (h : Http.IsSerialized v)
    (htext : cellText v = .ok text) : text.IsWhole := by
  have hwide : v.wide.IsWhole := by
    cases v with
    | halves codes =>
      have hnone : Http.serialized? Http.resultDepth (.halves codes) = none := by
        simp [Http.serialized?, Http.resultDepth]
      rw [h] at hnone
      cases hnone
    | _ => exact ⟨_, rfl⟩
  by_cases hnamed : IsNamed v
  · cases v with
    | list items | record fields =>
      cases htext
      exact ⟨_, rfl⟩
    | _ => cases hnamed
  · rw [cellText_eq_display hnamed, Value.display] at htext
    split at htext <;> cases htext
    exact hwide

/-! ## Records -/

theorem cellLine_isOk_iff (cell : String × Value) :
    (∃ line, cellLine cell = .ok line) ↔ Shows cell.2 := by
  unfold cellLine Shows
  cases cellText cell.2 <;> simp [bind, Except.bind, pure, Except.pure]

theorem recordsFrom_isOk_iff (number : Nat) (rows : List Row) :
    (∃ lines, recordsFrom number rows = .ok lines) ↔ ∀ row ∈ rows, ∀ p ∈ row, Shows p.2 := by
  induction rows generalizing number with
  | nil => exact iff_of_true ⟨[], rfl⟩ nofun
  | cons row rest ih =>
    have hcells : (∃ lines, row.mapM cellLine = .ok lines) ↔ ∀ p ∈ row, Shows p.2 := by
      simp only [mapM_isOk_iff, cellLine_isOk_iff]
    rw [List.forall_mem_cons, ← hcells, ← ih (number + 1), recordsFrom, recordLines]
    cases row.mapM cellLine <;> cases recordsFrom (number + 1) rest <;>
      simp [bind, Except.bind, pure, Except.pure]

theorem cellLine_whole {cell : String × Value} {line : WideText} (h : Http.IsSerialized cell.2)
    (hline : cellLine cell = .ok line) : line.IsWhole := by
  unfold cellLine at hline
  rcases htext : cellText cell.2 with e | text <;> rw [htext] at hline <;> cases hline
  exact .append ⟨_, rfl⟩ (cellText_whole h htext)

theorem recordsFrom_whole {number : Nat} {lines : List WideText}
    (h : ∀ row ∈ rows, ∀ p ∈ row, Http.IsSerialized p.2)
    (hlines : recordsFrom number rows = .ok lines) :
    ∀ line ∈ lines, line.IsWhole := by
  induction rows generalizing number lines with
  | nil =>
    cases hlines
    exact nofun
  | cons row rest ih =>
    obtain ⟨hrow, hrest⟩ := List.forall_mem_cons.1 h
    unfold recordsFrom recordLines at hlines
    rcases hcells : row.mapM cellLine with e | cells <;>
      rcases hmore : recordsFrom (number + 1) rest with e | more <;>
      rw [hcells] at hlines <;> try rw [hmore] at hlines
    all_goals cases hlines
    have hmine := forall_mem_of_mapM (fun p hp line => cellLine_whole (hrow p hp)) hcells
    intro line hline
    simp only [List.cons_append, List.append_assoc, List.mem_cons, List.mem_append,
      List.not_mem_nil, false_or] at hline
    obtain rfl | hcell | rfl | hlater := hline
    · exact ⟨_, rfl⟩
    · exact hmine line hcell
    · exact ⟨_, rfl⟩
    · exact ih hrest hmore line hlater

/-! ## Summaries -/

theorem limited_whole {text : WideText} (h : text.IsWhole) : (limited text).IsWhole := by
  unfold limited
  split
  · exact (h.first _).append ⟨_, rfl⟩
  · exact h

/-- A row is hidden cell by cell. -/
theorem mem_mask (good : Value → Prop) (hmask : good (.text maskText)) :
    (∀ row ∈ mask hidden rows, ∀ p ∈ row, good p.2) ↔
      ∀ row ∈ rows, ∀ p ∈ row, p.1 ∉ hidden → good p.2 := by
  simp only [mask, maskRow, List.forall_mem_map]
  refine forall₂_congr fun row _ => forall₂_congr fun p _ => ?_
  by_cases hmem : p.1 ∈ hidden <;> simp [hmem, hmask]

/-- **Rows have a summary if and only if it can show all that is not hidden.** -/
theorem summary_isOk_iff (hidden : List String) (rows : List Row) :
    (∃ text, summary hidden rows = .ok text) ↔
      ∀ row ∈ rows, ∀ p ∈ row, p.1 ∉ hidden → Shows p.2 := by
  cases rows with
  | nil => exact iff_of_true ⟨_, rfl⟩ nofun
  | cons row rest =>
    rw [← mem_mask Shows ⟨_, rfl⟩, ← recordsFrom_isOk_iff 1, summary]
    cases recordsFrom 1 (mask hidden (row :: rest)) <;> simp [bind, Except.bind, pure, Except.pure]

/-- The summary of rows that a result shows as they are has no half of a surrogate pair. -/
theorem summary_whole {text : WideText} (h : ∀ row ∈ rows, ∀ p ∈ row, Http.IsSerialized p.2)
    (htext : summary hidden rows = .ok text) : text.IsWhole := by
  cases rows with
  | nil =>
    cases htext
    exact ⟨_, rfl⟩
  | cons row rest =>
    have hmasked : Http.IsSerialized (.text maskText) := Http.serialized?_of_plain (.text 254 _)
    have hserved := (mem_mask Http.IsSerialized hmasked).2
      fun row hrow p hp (_ : p.1 ∉ hidden) => h row hrow p hp
    unfold summary at htext
    rcases hlines : recordsFrom 1 (mask hidden (row :: rest)) with e | lines
    · rw [hlines] at htext
      cases htext
    · rw [hlines] at htext
      cases htext
      have hall := recordsFrom_whole hserved hlines
      refine limited_whole (WideText.isWhole_joined ⟨_, rfl⟩ ?_)
      rw [List.forall_mem_cons, List.forall_mem_cons]
      exact ⟨⟨_, rfl⟩, ⟨_, rfl⟩, hall⟩

end Summary

end ReadGate
