import ReadGate.Proofs.Lexeme.Scan
import ReadGate.Proofs.Validation.Slice

/-!
# The language that validation accepts

A query text runs if its slice begins with the word that reads, has no word that writes, and has no
terminator.  Otherwise the first of these demands that fails tells why the text is rejected.

* `startsReading_iff`, `findForbidden?_eq_none_iff` — the two tests on words, in terms of the words
  of the text and not of its lexemes.
* `continuesAfterTerminator_iff` — once a text ends in neither white space nor a terminator, "a
  terminator with more text behind it" means any terminator at all.
* `validate_some` — validation decides on the slice alone.
* `validate_exact` — the accepted language, and each rejection with the condition for it.
-/

namespace ReadGate.Validation

open Text Lexeme

/-! ## The demands on a slice -/

/-- The text begins with the word that reads, as a whole word. -/
def Reads (cs : List Char) : Prop :=
  ∃ word rest, cs = word ++ rest ∧ isKeyword readKeyword word = true ∧ Stops isWord rest

/-- Some word of the text is one that writes. -/
def Writes (cs : List Char) : Prop :=
  ∃ word, MaximalRun isWord word cs ∧
    ∃ keyword ∈ forbiddenKeywords, isKeyword keyword word = true

theorem startsReading_iff {text : String} : startsReading text = true ↔ Reads text.toList := by
  have hall : readKeyword.toList.all isWord = true := by decide
  have hread : IsRun isWord readKeyword.toList := ⟨by decide, List.all_eq_true.1 hall⟩
  constructor
  · intro h
    unfold startsReading at h
    split at h
    · rename_i first ls hscan
      cases first with
      | word w =>
        obtain ⟨rest, hcs, -, hrest, -⟩ := scan_eq_word_cons.1 hscan
        exact ⟨w, rest, hcs, h, hrest⟩
      | gap g => cases h
      | mark c => cases h
    · cases h
  · rintro ⟨word, rest, hcs, hk, hrest⟩
    have hscan := scan_append_word (IsRun.of_isKeyword hread hk) hrest
    rw [startsReading, hcs, hscan]
    exact hk

theorem findForbidden?_eq_none_iff (text : String) :
    findForbidden? text = none ↔ ¬ Writes text.toList := by
  rw [findForbidden?, Option.map_eq_none_iff, List.find?_eq_none]
  constructor
  · rintro h ⟨word, hrun, keyword, hmem, hk⟩
    exact h word (mem_wordsOf_scan.2 hrun) (List.any_eq_true.2 ⟨keyword, hmem, hk⟩)
  · intro h word hword hforbidden
    obtain ⟨keyword, hmem, hk⟩ := List.any_eq_true.1 hforbidden
    exact h ⟨word, mem_wordsOf_scan.1 hword, keyword, hmem, hk⟩

/-- In a text that ends in neither white space nor a terminator every terminator has more text
behind it. -/
theorem continuesAfterTerminator_iff {cs : List Char} (h : Stops isTrailer cs.reverse) :
    continuesAfterTerminator cs = true ↔ ';' ∈ cs := by
  induction cs with
  | nil => simp [continuesAfterTerminator]
  | cons c rest ih =>
    rcases List.eq_nil_or_concat rest with rfl | ⟨init, last, rfl⟩
    · have hc : c ≠ ';' := by
        rintro rfl
        have hs : isTrailer ';' = false := by simpa using h
        exact absurd hs (by decide)
      simp [continuesAfterTerminator, hc.symm]
    · have hlast : isTrailer last = false := by simpa using h
      have hblank : isBlank last = false := by
        cases hb : isBlank last with
        | false => rfl
        | true => rw [isTrailer_of_isBlank hb] at hlast; cases hlast
      have hmore : (init.concat last).any (!isBlank ·) = true := by simp [hblank]
      rw [continuesAfterTerminator, hmore, Bool.and_true, Bool.or_eq_true,
        ih (by simpa using hlast), List.mem_cons, beq_iff_eq, eq_comm]

/-! ## Verdicts -/

/-- Validation rejects the text with a failure of the given kind. -/
def RejectedAs (raw : Option String) (kind : FailureKind) : Prop :=
  ∃ rejection, validate raw = .error rejection ∧ rejection.failure.kind = kind

/-- What validation says of a slice. -/
def verdict (slice : String) : Except Rejection String :=
  if !startsReading slice then .error (.notReadOnly (first reportedChars slice))
  else
    match findForbidden? slice with
    | some keyword => .error (.forbidden keyword)
    | none => if continuesAfterTerminator slice.toList then .error .multiple else .ok slice

/-- A text without a slice is rejected as empty, for either of two reasons. -/
theorem validate_nothing {raw : String} (h : clean raw.toList = []) :
    validate (some raw) = .error .blank ∨ validate (some raw) = .error .onlyTerminators := by
  unfold validate
  by_cases hb : isBlankText raw = true
  · left; simp [hb]
  · right; simp [hb, normalize, h]

theorem validate_some {raw : String} (h : clean raw.toList ≠ []) :
    validate (some raw) = verdict (normalize raw) := by
  have hblank : isBlankText raw = false := by
    rw [Bool.eq_false_iff]
    intro hb
    refine h (clean_eq_nil_iff.2 (List.all_eq_true.2 fun c hc => ?_))
    exact isTrailer_of_isBlank (List.all_eq_true.1 hb c hc)
  have hempty : (normalize raw).isEmpty = false := by
    rw [Bool.eq_false_iff]
    intro he
    exact h (by simpa [normalize] using he)
  cases hf : findForbidden? (normalize raw) with
  | none => simp only [validate, verdict, hblank, hempty, hf, Bool.false_eq_true, if_false]
  | some keyword =>
    simp only [validate, verdict, hblank, hempty, hf, Bool.false_eq_true, if_false]

/-- The verdict on a slice, by the first demand that fails. -/
theorem verdict_cases {slice : String} (h : Stops isTrailer slice.toList.reverse) :
    (¬ Reads slice.toList ∧
      verdict slice = .error (.notReadOnly (first reportedChars slice))) ∨
    (Reads slice.toList ∧ Writes slice.toList ∧
      ∃ keyword, verdict slice = .error (.forbidden keyword)) ∨
    (Reads slice.toList ∧ ¬ Writes slice.toList ∧ ';' ∈ slice.toList ∧
      verdict slice = .error .multiple) ∨
    (Reads slice.toList ∧ ¬ Writes slice.toList ∧ ';' ∉ slice.toList ∧
      verdict slice = .ok slice) := by
  have hforbidden := findForbidden?_eq_none_iff slice
  rw [← startsReading_iff, ← continuesAfterTerminator_iff h]
  unfold verdict
  cases startsReading slice with
  | false => left; simp
  | true =>
    right
    cases hf : findForbidden? slice with
    | some keyword =>
      left
      have hw : Writes slice.toList := Classical.byContradiction fun hw => by
        rw [hforbidden.2 hw] at hf; cases hf
      exact ⟨rfl, hw, keyword, rfl⟩
    | none =>
      right
      have hw := hforbidden.1 hf
      cases continuesAfterTerminator slice.toList with
      | true => left; exact ⟨rfl, hw, rfl, rfl⟩
      | false => right; exact ⟨rfl, hw, Bool.false_ne_true, rfl⟩

/-! ## The accepted language -/

/-- Some text has a slice of which the property holds. -/
def SliceOf (raw : Option String) (p : List Char → Prop) : Prop :=
  ∃ text slice, raw = some text ∧ IsSlice text.toList slice ∧ p slice

theorem sliceOf_none (p : List Char → Prop) : ¬ SliceOf none p := by
  rintro ⟨text, slice, h, -⟩; cases h

theorem sliceOf_some {raw : String} {p : List Char → Prop} :
    SliceOf (some raw) p ↔ clean raw.toList ≠ [] ∧ p (clean raw.toList) := by
  constructor
  · rintro ⟨text, slice, htext, hslice, hp⟩
    cases htext
    obtain ⟨rfl, hne⟩ := isSlice_iff.1 hslice
    exact ⟨hne, hp⟩
  · rintro ⟨hne, hp⟩
    exact ⟨raw, _, rfl, isSlice_clean hne, hp⟩

theorem rejectedAs_of_error {raw : Option String} {rejection : Rejection} {kind : FailureKind}
    (h : validate raw = .error rejection) :
    RejectedAs raw kind ↔ rejection.failure.kind = kind := by
  simp [RejectedAs, h]

theorem not_rejectedAs_of_ok {raw : Option String} {text : String} {kind : FailureKind}
    (h : validate raw = .ok text) : ¬ RejectedAs raw kind := by
  simp [RejectedAs, h]

/-- **Validation accepts exactly one language and gives exactly one slice.**  A text is accepted iff
its slice reads, has no word that writes and has no terminator, and then the slice is the result;
a text without a slice is empty; any other text is rejected for the first of these demands that
fails. -/
theorem validate_exact (raw : Option String) :
    (∀ text, validate raw = .ok text ↔ SliceOf raw fun slice =>
      slice = text.toList ∧ Reads slice ∧ ¬ Writes slice ∧ ';' ∉ slice) ∧
    (RejectedAs raw .emptyQuery ↔ raw.all (fun text => text.toList.all isTrailer) = true) ∧
    (RejectedAs raw .notReadOnly ↔ SliceOf raw fun slice => ¬ Reads slice) ∧
    (RejectedAs raw .forbiddenKeyword ↔ SliceOf raw fun slice => Reads slice ∧ Writes slice) ∧
    (RejectedAs raw .multipleStatements ↔ SliceOf raw fun slice =>
      Reads slice ∧ ¬ Writes slice ∧ ';' ∈ slice) := by
  cases raw with
  | none =>
    have h : validate none = .error .blank := rfl
    simp [rejectedAs_of_error h, h, sliceOf_none, Rejection.failure, Failure.of]
  | some raw =>
    by_cases hne : clean raw.toList = []
    · -- nothing is left: no slice, and both rejections of such a text are of one kind
      have hall := clean_eq_nil_iff.1 hne
      rcases validate_nothing hne with h | h <;>
        simp [rejectedAs_of_error h, h, sliceOf_some, hne, hall, Rejection.failure, Failure.of]
    · have hall : ¬ raw.toList.all isTrailer = true := fun h => hne (clean_eq_nil_iff.2 h)
      have hslice : (normalize raw).toList = clean raw.toList := by simp [normalize]
      have hends : Stops isTrailer (normalize raw).toList.reverse :=
        hslice ▸ (isSlice_clean hne).ends
      have hcases := verdict_cases hends
      rw [hslice, ← validate_some hne] at hcases
      rcases hcases with ⟨hr, h⟩ | ⟨hr, hw, keyword, h⟩ | ⟨hr, hw, hm, h⟩ | ⟨hr, hw, hm, h⟩
      · simp [rejectedAs_of_error h, h, sliceOf_some, hne, hall, hr, Rejection.failure, Failure.of]
      · simp [rejectedAs_of_error h, h, sliceOf_some, hne, hall, hr, hw, Rejection.failure,
          Failure.ofKeyword, Failure.of]
      · simp [rejectedAs_of_error h, h, sliceOf_some, hne, hall, hr, hw, hm, Rejection.failure,
          Failure.of]
      · have hresult (text : String) : normalize raw = text ↔ clean raw.toList = text.toList := by
          rw [← hslice, String.toList_inj]
        simp [not_rejectedAs_of_ok h, h, sliceOf_some, hne, hall, hr, hw, hm, hresult]

end ReadGate.Validation
