import ReadGate.Lexeme
import ReadGate.Proofs.Text.Classes

/-!
# What scanning finds

Scanning takes the longest run of word characters or of white space that stands first, or else one
character.  Each kind of lexeme has one equation that says when it comes out first and what is left
to scan, so that later proofs read lexemes as texts and never open `scan`:

* `scan_eq_word_cons`, `scan_eq_gap_cons`, `scan_eq_mark_cons`, `scan_eq_nil`.
* `mem_wordsOf_scan` — the words among the lexemes of a text are its maximal runs of word
  characters, no more and no less.
-/

namespace ReadGate.Lexeme

open Text

/-- Is the character neither a word character nor white space? -/
def IsMark (c : Char) : Prop :=
  isWord c = false ∧ isBlank c = false

instance (c : Char) : Decidable (IsMark c) :=
  inferInstanceAs (Decidable (_ ∧ _))

variable {c : Char} {cs run rest : List Char} {ls : List Lexeme}

/-! ## The first lexeme -/

theorem attach_word (hc : isWord c = true) (hls : ∀ w ls', ls ≠ word w :: ls') :
    attach c ls = word [c] :: ls := by
  unfold attach
  rw [if_pos hc]
  split
  · rename_i w ls'; exact absurd rfl (hls w ls')
  · rfl

theorem attach_gap (hc : isBlank c = true) (hls : ∀ g ls', ls ≠ gap g :: ls') :
    attach c ls = gap [c] :: ls := by
  unfold attach
  rw [if_neg (by simp [isWord_of_isBlank hc]), if_pos hc]
  split
  · rename_i g ls'; exact absurd rfl (hls g ls')
  · rfl

theorem scan_mark (hc : IsMark c) : scan (c :: cs) = mark c :: scan cs := by
  simp [scan, attach, hc.1, hc.2]

/-- A word comes out first only where a word character stands first. -/
theorem not_word_of_stops (h : Stops isWord cs) (w : List Char) (ls : List Lexeme) :
    scan cs ≠ word w :: ls := by
  cases cs with
  | nil => simp [scan]
  | cons d ds =>
    simp only [scan, attach, stops_cons.1 h]
    split
    · contradiction
    · split
      · split <;> simp
      · simp

/-- A gap comes out first only where white space stands first. -/
theorem not_gap_of_stops (h : Stops isBlank cs) (g : List Char) (ls : List Lexeme) :
    scan cs ≠ gap g :: ls := by
  cases cs with
  | nil => simp [scan]
  | cons d ds =>
    simp only [scan, attach, stops_cons.1 h]
    split
    · split <;> simp
    · simp

theorem scan_append_word (hw : IsRun isWord run) (hr : Stops isWord rest) :
    scan (run ++ rest) = word run :: scan rest := by
  obtain ⟨c, cs, rfl, hc⟩ := hw.exists_cons
  induction cs generalizing c with
  | nil => exact attach_word hc (not_word_of_stops hr)
  | cons d ds ih =>
    have hd : isWord d = true := hw.all d (by simp)
    have hscan := ih d hd hw.tail
    rw [List.cons_append, scan, hscan]
    simp [attach, hc]

theorem scan_append_gap (hg : IsRun isBlank run) (hr : Stops isBlank rest) :
    scan (run ++ rest) = gap run :: scan rest := by
  obtain ⟨c, cs, rfl, hc⟩ := hg.exists_cons
  induction cs generalizing c with
  | nil => exact attach_gap hc (not_gap_of_stops hr)
  | cons d ds ih =>
    have hd : isBlank d = true := hg.all d (by simp)
    have hscan := ih d hd hg.tail
    rw [List.cons_append, scan, hscan]
    simp [attach, hc, isWord_of_isBlank hc]

/-- The three ways in which a text that is not empty starts. -/
theorem scan_first (cs : List Char) :
    cs = [] ∨
    (∃ run rest, cs = run ++ rest ∧ IsRun isWord run ∧ Stops isWord rest) ∨
    (∃ run rest, cs = run ++ rest ∧ IsRun isBlank run ∧ Stops isBlank rest) ∨
    (∃ c rest, cs = c :: rest ∧ IsMark c) := by
  have split (p : Char → Bool) (c : Char) (cs : List Char) (hc : p c = true) :
      ∃ run rest, c :: cs = run ++ rest ∧ IsRun p run ∧ Stops p rest :=
    ⟨c :: cs.takeWhile p, cs.dropWhile p, by simp, .cons_takeWhile hc, stops_dropWhile⟩
  cases cs with
  | nil => exact .inl rfl
  | cons c cs =>
    cases hw : isWord c with
    | true => exact .inr (.inl (split isWord c cs hw))
    | false =>
      cases hb : isBlank c with
      | true => exact .inr (.inr (.inl (split isBlank c cs hb)))
      | false => exact .inr (.inr (.inr ⟨c, cs, rfl, hw, hb⟩))

@[simp] theorem scan_eq_nil : scan cs = [] ↔ cs = [] := by
  constructor
  · intro h
    rw [← textOf_scan cs, h]; rfl
  · rintro rfl; rfl

theorem scan_eq_word_cons :
    scan cs = word run :: ls ↔
      ∃ rest, cs = run ++ rest ∧ IsRun isWord run ∧ Stops isWord rest ∧ scan rest = ls := by
  constructor
  · intro h
    rcases scan_first cs with rfl | ⟨w, rest, rfl, hw, hr⟩ | ⟨g, rest, rfl, hg, hr⟩ |
      ⟨c, rest, rfl, hc⟩
    · simp [scan] at h
    · rw [scan_append_word hw hr] at h
      simp only [List.cons.injEq, word.injEq] at h
      obtain ⟨rfl, rfl⟩ := h
      exact ⟨rest, rfl, hw, hr, rfl⟩
    · rw [scan_append_gap hg hr] at h; simp at h
    · rw [scan_mark hc] at h; simp at h
  · rintro ⟨rest, rfl, hw, hr, rfl⟩
    exact scan_append_word hw hr

theorem scan_eq_gap_cons :
    scan cs = gap run :: ls ↔
      ∃ rest, cs = run ++ rest ∧ IsRun isBlank run ∧ Stops isBlank rest ∧ scan rest = ls := by
  constructor
  · intro h
    rcases scan_first cs with rfl | ⟨w, rest, rfl, hw, hr⟩ | ⟨g, rest, rfl, hg, hr⟩ |
      ⟨c, rest, rfl, hc⟩
    · simp [scan] at h
    · rw [scan_append_word hw hr] at h; simp at h
    · rw [scan_append_gap hg hr] at h
      simp only [List.cons.injEq, gap.injEq] at h
      obtain ⟨rfl, rfl⟩ := h
      exact ⟨rest, rfl, hg, hr, rfl⟩
    · rw [scan_mark hc] at h; simp at h
  · rintro ⟨rest, rfl, hg, hr, rfl⟩
    exact scan_append_gap hg hr

theorem scan_eq_mark_cons :
    scan cs = mark c :: ls ↔ ∃ rest, cs = c :: rest ∧ IsMark c ∧ scan rest = ls := by
  constructor
  · intro h
    rcases scan_first cs with rfl | ⟨w, rest, rfl, hw, hr⟩ | ⟨g, rest, rfl, hg, hr⟩ |
      ⟨d, rest, rfl, hd⟩
    · simp [scan] at h
    · rw [scan_append_word hw hr] at h; simp at h
    · rw [scan_append_gap hg hr] at h; simp at h
    · rw [scan_mark hd] at h
      simp only [List.cons.injEq, mark.injEq] at h
      obtain ⟨rfl, rfl⟩ := h
      exact ⟨rest, rfl, hd, rfl⟩
  · rintro ⟨rest, rfl, hc, rfl⟩
    exact scan_mark hc

/-! ## The words of a text -/

/-- A maximal run of a class: it cannot be made longer at either end. -/
structure MaximalRun (p : Char → Bool) (run cs : List Char) : Prop where
  isRun : IsRun p run
  within : ∃ before after, cs = before ++ run ++ after ∧ Stops p before.reverse ∧ Stops p after

/-- A character that is not part of a word adds no word in front of a text. -/
theorem wordsOf_scan_cons (hc : isWord c = false) :
    wordsOf (scan (c :: cs)) = wordsOf (scan cs) := by
  simp only [scan, attach, hc]
  split
  · contradiction
  · split
    · split <;> simp_all [wordsOf]
    · rfl

/-- **Words are separated by any character that is not part of one.** -/
theorem wordsOf_scan_append (hc : isWord c = false) (before after : List Char) :
    wordsOf (scan (before ++ c :: after)) =
      wordsOf (scan before) ++ wordsOf (scan after) := by
  -- the induction is on the length, because a word is taken from the front as a whole
  generalize hn : before.length = n
  induction n using Nat.strongRecOn generalizing before with
  | ind n ih =>
    cases before with
    | nil => rw [List.nil_append, wordsOf_scan_cons hc]; rfl
    | cons d ds =>
      subst hn
      cases hd : isWord d with
      | false =>
        rw [List.cons_append, wordsOf_scan_cons hd, wordsOf_scan_cons hd]
        exact ih ds.length (by simp) ds rfl
      | true =>
        have hrun : IsRun isWord (d :: ds.takeWhile isWord) := .cons_takeWhile hd
        have hsplit : d :: ds = (d :: ds.takeWhile isWord) ++ ds.dropWhile isWord := by simp
        have hstop : Stops isWord (ds.dropWhile isWord ++ c :: after) := by
          cases hdrop : ds.dropWhile isWord with
          | nil => simpa using hc
          | cons x xs =>
            have hx : Stops isWord (ds.dropWhile isWord) := stops_dropWhile
            rw [hdrop] at hx
            simpa using hx
        have hlen : (ds.dropWhile isWord).length < (d :: ds).length :=
          Nat.lt_succ_of_le (List.dropWhile_sublist isWord).length_le
        have hrest := ih _ hlen (ds.dropWhile isWord) rfl
        rw [hsplit, List.append_assoc, scan_append_word hrun hstop,
          scan_append_word hrun stops_dropWhile, wordsOf, wordsOf, hrest, List.cons_append]

/-- A maximal run stays one when text is put before it that ends outside the class, or that is
followed by a character outside the class. -/
theorem MaximalRun.append {p : Char → Bool} (h : MaximalRun p run rest) (front : List Char)
    (hf : Stops p front.reverse ∨ Stops p rest) : MaximalRun p run (front ++ rest) := by
  obtain ⟨hrun, before, after, rfl, hb, ha⟩ := h
  refine ⟨hrun, front ++ before, after, by simp, ?_, ha⟩
  rw [List.reverse_append]
  rcases List.eq_nil_or_concat before with rfl | ⟨init, b, rfl⟩
  · rcases hf with hf | hf
    · simpa using hf
    · have hstops : Stops p (run ++ after) := by simpa using hf
      exact absurd hstops hrun.not_stops
  · simpa using hb

/-- **The words among the lexemes of a text are its maximal runs of word characters.** -/
theorem mem_wordsOf_scan : run ∈ wordsOf (scan cs) ↔ MaximalRun isWord run cs := by
  constructor
  · intro h
    -- again on the length: the first lexeme is taken off as a whole
    generalize hn : cs.length = n
    induction n using Nat.strongRecOn generalizing cs with
    | ind n ih =>
      rcases scan_first cs with rfl | ⟨w, rest, rfl, hw, hr⟩ | ⟨g, rest, rfl, hg, hr⟩ |
      ⟨d, rest, rfl, hd⟩
      · simp [scan, wordsOf] at h
      · rw [scan_append_word hw hr, wordsOf] at h
        rcases List.mem_cons.1 h with rfl | hrest
        · exact ⟨hw, [], rest, by simp, by simp, hr⟩
        · obtain ⟨c, cs, rfl, -⟩ := hw.exists_cons
          exact (ih _ (by simp at hn; omega) hrest rfl).append _ (.inr hr)
      · rw [scan_append_gap hg hr, wordsOf] at h
        · obtain ⟨c, cs, rfl, -⟩ := hg.exists_cons
          refine (ih _ (by simp at hn; omega) h rfl).append _ (.inl ?_)
          intro x hx
          exact isWord_of_isBlank (hg.all x (List.mem_reverse.1 (List.mem_of_head? hx)))
        · simp
      · rw [wordsOf_scan_cons hd.1] at h
        exact (ih _ (by simp at hn; omega) h rfl).append [d] (.inl (by simpa using hd.1))
  · rintro ⟨hrun, before, after, rfl, hb, ha⟩
    have hafter : wordsOf (scan (run ++ after)) = run :: wordsOf (scan after) := by
      rw [scan_append_word hrun ha, wordsOf]
    rcases List.eq_nil_or_concat before with rfl | ⟨init, b, rfl⟩
    · simp [hafter]
    · have hbw : isWord b = false := by simpa using hb
      obtain ⟨c, cs, rfl, hc⟩ := hrun.exists_cons
      rw [List.concat_eq_append, List.append_assoc, List.append_assoc, List.singleton_append,
        wordsOf_scan_append hbw, hafter]
      simp

end ReadGate.Lexeme
