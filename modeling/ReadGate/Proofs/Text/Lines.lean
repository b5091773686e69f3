import ReadGate.Text.Lines

/-!
# Lines of a file and of a text

A text that is put together from complete lines has these lines and no others, whatever else they
hold, where it is read as a file: a file knows no line ends but the line feed and the carriage
return.  A text in memory knows more of them, and a line that holds one is split there.

* `fileLines_linesText` — a file of complete lines.
* `textLines_joined` — lines without any line end, joined by line feeds.
* `textLines_joined_split` — the first line with a line end among them is split at it.
-/

namespace ReadGate.Text

/-- The characters hold no end of a line of a file. -/
def Inline (cs : List Char) : Prop :=
  ∀ c ∈ cs, c ≠ '\n' ∧ c ≠ '\r'

instance : DecidablePred Inline :=
  fun cs => List.decidableBAll (fun c => c ≠ '\n' ∧ c ≠ '\r') cs

theorem Inline.append {cs ds : List Char} (h : Inline cs) (h' : Inline ds) : Inline (cs ++ ds) := by
  intro c hc
  rcases List.mem_append.1 hc with hc | hc
  · exact h c hc
  · exact h' c hc

/-- The text of complete lines. -/
def linesText (lines : List (List Char)) : List Char :=
  lines.flatMap (· ++ ['\n'])

theorem unifyLineEnds_of_free {cs : List Char} (h : ∀ c ∈ cs, c ≠ '\r') :
    unifyLineEnds cs = cs := by
  induction cs with
  | nil => rfl
  | cons c cs ih =>
    have hc : c ≠ '\r' := h c (by simp)
    have hcs := ih fun d hd => h d (List.mem_cons_of_mem c hd)
    rw [unifyLineEnds, hcs]
    · exact fun _ heq => absurd heq hc
    · exact hc

theorem splitAfterFeeds_line {cs : List Char} (h : Inline cs) (line rest : List Char) :
    splitAfterFeeds line (cs ++ '\n' :: rest) =
      (line.reverse ++ cs ++ ['\n']) :: splitAfterFeeds [] rest := by
  induction cs generalizing line with
  | nil => simp [splitAfterFeeds]
  | cons c cs ih =>
    have hc : c ≠ '\n' := (h c (by simp)).1
    have hcs := ih (fun d hd => h d (List.mem_cons_of_mem c hd)) (c :: line)
    rw [List.cons_append, splitAfterFeeds, hcs]
    · simp
    · exact hc

theorem splitAfterFeeds_linesText {lines : List (List Char)} (h : ∀ l ∈ lines, Inline l) :
    splitAfterFeeds [] (linesText lines) = lines.map (· ++ ['\n']) := by
  induction lines with
  | nil => rfl
  | cons l lines ih =>
    have hlines := ih fun m hm => h m (List.mem_cons_of_mem l hm)
    have hcons : linesText (l :: lines) = l ++ '\n' :: linesText lines := by simp [linesText]
    rw [hcons, splitAfterFeeds_line (h l (by simp)), hlines]
    rfl

/-- **A file of complete lines has exactly these lines.** -/
theorem fileLines_linesText {lines : List (List Char)} (h : ∀ l ∈ lines, Inline l) :
    fileLines (String.ofList (linesText lines)) =
      lines.map fun l => String.ofList (l ++ ['\n']) := by
  have hfree : ∀ c ∈ linesText lines, c ≠ '\r' := by
    intro c hc
    obtain ⟨l, hl, hc⟩ := List.mem_flatMap.1 hc
    rcases List.mem_append.1 hc with hc | hc
    · exact (h l hl c hc).2
    · rw [List.mem_singleton] at hc
      rw [hc]
      decide
  rw [fileLines, String.toList_ofList, unifyLineEnds_of_free hfree, splitAfterFeeds_linesText h,
    List.map_map]
  rfl

/-! ## Lines of a text -/

/-- The characters hold no end of a line of a text. -/
def Unbroken (cs : List Char) : Prop :=
  ∀ c ∈ cs, endsLine c = false

/-- Lines with a line feed between them. -/
def joined (lines : List (List Char)) : List Char :=
  ['\n'].intercalate lines

theorem joined_cons (l l' : List Char) (lines : List (List Char)) :
    joined (l :: l' :: lines) = l ++ '\n' :: joined (l' :: lines) := by
  rw [joined, List.intercalate_cons_cons, List.append_assoc, List.singleton_append]
  rfl

theorem toList_intercalate_newline (lines : List String) :
    ("\n".intercalate lines).toList = joined (lines.map String.toList) := by
  rw [String.toList_intercalate]
  rfl

theorem splitAtEnds_line {cs : List Char} (h : Unbroken cs) {e : Char} (he : endsLine e = true)
    (line rest : List Char) :
    splitAtEnds line (cs ++ e :: rest) = (line.reverse ++ cs) :: splitAtEnds [] rest := by
  induction cs generalizing line with
  | nil => rw [List.nil_append, splitAtEnds, if_pos he, List.append_nil]
  | cons c cs ih =>
    have hc : ¬ endsLine c = true := by simp [h c List.mem_cons_self]
    rw [List.cons_append, splitAtEnds, if_neg hc, ih fun d hd => h d (List.mem_cons_of_mem c hd)]
    simp

theorem splitAtEnds_last {cs : List Char} (h : Unbroken cs) (hne : cs ≠ []) (line : List Char) :
    splitAtEnds line cs = [line.reverse ++ cs] := by
  induction cs generalizing line with
  | nil => exact absurd rfl hne
  | cons c cs ih =>
    have hc : ¬ endsLine c = true := by simp [h c List.mem_cons_self]
    rw [splitAtEnds, if_neg hc]
    cases cs with
    | nil => simp [splitAtEnds]
    | cons d cs =>
      rw [ih (fun e he => h e (List.mem_cons_of_mem c he)) (List.cons_ne_nil d cs)]
      simp

theorem splitAtEnds_joined {lines : List (List Char)} (h : ∀ l ∈ lines, Unbroken l)
    (hne : ∀ l ∈ lines, l ≠ []) : splitAtEnds [] (joined lines) = lines := by
  induction lines with
  | nil => rfl
  | cons l lines ih =>
    cases lines with
    | nil =>
      rw [joined, List.intercalate_singleton]
      exact splitAtEnds_last (h l (by simp)) (hne l (by simp)) []
    | cons l' lines =>
      rw [joined_cons, splitAtEnds_line (h l (by simp)) rfl,
        ih (fun m hm => h m (List.mem_cons_of_mem l hm))
          (fun m hm => hne m (List.mem_cons_of_mem l hm))]
      rfl

/-- The first line end of a line ends it. -/
theorem splitAtEnds_joined_split {before : List (List Char)} (h : ∀ l ∈ before, Unbroken l)
    {cs : List Char} (hcs : Unbroken cs) {e : Char} (he : endsLine e = true) (rest : List Char)
    (after : List (List Char)) :
    splitAtEnds [] (joined (before ++ (cs ++ e :: rest) :: after)) =
      before ++ cs :: splitAtEnds [] (joined (rest :: after)) := by
  induction before with
  | nil =>
    cases after with
    | nil =>
      rw [List.nil_append, joined, List.intercalate_singleton, splitAtEnds_line hcs he, joined,
        List.intercalate_singleton]
      rfl
    | cons l after =>
      rw [List.nil_append, joined_cons, List.append_assoc, List.cons_append,
        splitAtEnds_line hcs he, joined_cons]
      rfl
  | cons l before ih =>
    have hbefore := ih fun m hm => h m (List.mem_cons_of_mem l hm)
    obtain ⟨l', lines, hlines⟩ : ∃ l' lines,
        before ++ (cs ++ e :: rest) :: after = l' :: lines :=
      List.exists_cons_of_ne_nil (by simp)
    rw [List.cons_append, hlines, joined_cons, splitAtEnds_line (h l (by simp)) rfl, ← hlines,
      hbefore]
    rfl

theorem mem_joined {lines : List (List Char)} {c : Char} (h : c ∈ joined lines) :
    c = '\n' ∨ ∃ l ∈ lines, c ∈ l := by
  induction lines with
  | nil => cases h
  | cons l lines ih =>
    cases lines with
    | nil =>
      rw [joined, List.intercalate_singleton] at h
      exact .inr ⟨l, by simp, h⟩
    | cons l' lines =>
      rw [joined_cons] at h
      rcases List.mem_append.1 h with h | h
      · exact .inr ⟨l, by simp, h⟩
      · rcases List.mem_cons.1 h with rfl | h
        · exact .inl rfl
        · exact (ih h).imp_right fun ⟨m, hm, hc⟩ => ⟨m, List.mem_cons_of_mem l hm, hc⟩

/-- Joined lines hold no line ends of a file but those between them. -/
theorem textLines_eq {lines : List String} (h : ∀ l ∈ lines, Inline l.toList) :
    textLines ("\n".intercalate lines) =
      (splitAtEnds [] (joined (lines.map String.toList))).map String.ofList := by
  have hfree : ∀ c ∈ joined (lines.map String.toList), c ≠ '\r' := by
    intro c hc
    rcases mem_joined hc with rfl | ⟨l, hl, hc⟩
    · decide
    · obtain ⟨s, hs, rfl⟩ := List.mem_map.1 hl
      exact (h s hs c hc).2
  rw [textLines, toList_intercalate_newline, unifyLineEnds_of_free hfree]

/-- **Lines without line ends are read back from the text that joins them.** -/
theorem textLines_joined {lines : List String} (h : ∀ l ∈ lines, Unbroken l.toList)
    (hne : ∀ l ∈ lines, l ≠ "") : textLines ("\n".intercalate lines) = lines := by
  have hinline : ∀ l ∈ lines, Inline l.toList := by
    intro l hl c hc
    have hbroken := h l hl c hc
    constructor <;> rintro rfl <;> cases hbroken
  have hparts : splitAtEnds [] (joined (lines.map String.toList)) = lines.map String.toList := by
    refine splitAtEnds_joined ?_ ?_ <;> simpa
  rw [textLines_eq hinline, hparts, List.map_map]
  simp [Function.comp_def]

/-- **The first line that holds a line end is split there.** -/
theorem textLines_joined_split {before after : List String} {line : String}
    (hinline : ∀ l ∈ before ++ line :: after, Inline l.toList)
    (h : ∀ l ∈ before, Unbroken l.toList) {cs : List Char} (hcs : Unbroken cs) {e : Char}
    (he : endsLine e = true) {rest : List Char} (hline : line.toList = cs ++ e :: rest) :
    ∃ more, textLines ("\n".intercalate (before ++ line :: after)) =
      before ++ String.ofList cs :: more := by
  have hbefore : ∀ l ∈ before.map String.toList, Unbroken l := by simpa
  have hsplit := splitAtEnds_joined_split hbefore hcs he rest (after.map String.toList)
  refine ⟨(splitAtEnds [] (joined (rest :: after.map String.toList))).map String.ofList, ?_⟩
  rw [textLines_eq hinline, List.map_append, List.map_cons, hline, hsplit, List.map_append,
    List.map_cons, List.map_map]
  simp [Function.comp_def]

end ReadGate.Text
