import ReadGate.Proofs.Lexeme.Scan
import ReadGate.Proofs.Rule.Grammar

/-!
# Reading the parts of a shape

Every part of a shape is read from lexemes in one pass that never goes back.  For each part there
are two lemmas: what is read is the part as the grammar has it (`_sound`), and the part is read
wherever it stands (`_scan`), provided that what follows it cannot be taken for more of it.

* `Follows` — the proviso: white space, a terminator or the end of the text comes next.
* `scan_clause`, `scan_eq_clause` — the gap, the keyword and the gap that every clause begins with.
* `atEnd_scan`, `limitThenEnd_scan`, `groupByEnd_scan` — the parts that end a text need none.
-/

namespace ReadGate.Grammar

open Text Lexeme Shape

variable {cs rest : List Char} {ls : List Lexeme}

/-! ## What follows a part -/

/-- White space, a terminator or the end of the text comes next. -/
def Follows (cs : List Char) : Prop :=
  ∀ c ∈ cs.head?, c = ';' ∨ isBlank c = true

theorem Follows.stops {p : Char → Bool} (h : Follows cs) (hmark : p ';' = false)
    (hblank : ∀ c, isBlank c = true → p c = false) : Stops p cs := by
  intro c hc
  rcases h c hc with rfl | hb
  · exact hmark
  · exact hblank c hb

theorem Follows.stops_word (h : Follows cs) : Stops isWord cs :=
  h.stops (by decide) fun _ => isWord_of_isBlank

/-- No white space is the given character, if the character is none. -/
theorem beq_of_isBlank {d : Char} (hd : isBlank d = false) (c : Char) (hc : isBlank c = true) :
    (c == d) = false := by
  rw [beq_eq_false_iff_ne]
  rintro rfl
  rw [hd] at hc
  cases hc

theorem Gap.follows {g : List Char} (hg : Gap g) (rest : List Char) : Follows (g ++ rest) := by
  obtain ⟨c, cs, rfl, hc⟩ := hg.exists_cons
  intro d hd
  right
  simp only [List.cons_append, List.head?_cons, Option.mem_some] at hd
  exact hd ▸ hc

theorem Ending.follows (h : Ending cs) : Follows cs := by
  cases h with
  | bare => simp [Follows]
  | @terminated s hs =>
    cases s with
    | nil => simp [Follows]
    | cons c s => exact Gap.follows ⟨List.cons_ne_nil c s, hs⟩ _

theorem Limited.follows {limit : Option Name} (h : Limited limit cs) : Follows cs := by
  cases h with
  | without he => exact he.follows
  | upTo hg => simpa only [List.append_assoc] using Gap.follows hg _

theorem FromTable.follows {table : Name} (h : FromTable table cs) (rest : List Char) :
    Follows (cs ++ rest) := by
  obtain ⟨hg⟩ := h
  simpa only [List.append_assoc] using Gap.follows hg _

theorem GroupBy.follows {column : Name} (h : GroupBy column cs) (rest : List Char) :
    Follows (cs ++ rest) := by
  obtain ⟨hg⟩ := h
  simpa only [List.append_assoc] using Gap.follows hg _

theorem WhereColumn.follows {column : Name} (h : WhereColumn column cs) (rest : List Char) :
    Follows (cs ++ rest) := by
  obtain ⟨hg⟩ := h
  simpa only [List.append_assoc] using Gap.follows hg _

/-! ## Words and white space -/

theorem Keyword.word {keyword : String} {w : List Char} (h : Keyword keyword w)
    (hk : (!keyword.toList.isEmpty && keyword.toList.all isWord) = true) : Word w := by
  simp only [Bool.and_eq_true, Bool.not_eq_true', List.isEmpty_eq_false_iff] at hk
  exact IsRun.of_isKeyword ⟨hk.1, List.all_eq_true.1 hk.2⟩ h

/-- A text is at most one keyword. -/
theorem Keyword.ne {keyword other : String} {w : List Char} (h : Keyword keyword w)
    (hne : keyword.toList ≠ other.toList) : Text.isKeyword other w = false := by
  have hw : w.map foldLetter = keyword.toList := eq_of_beq h
  simp [Text.isKeyword, hw, hne]

theorem Word.stops_blank {w : List Char} (h : Word w) (rest : List Char) :
    Stops isBlank (w ++ rest) :=
  h.stops fun _ => isBlank_of_isWord

theorem Gap.stops_word {g : List Char} (h : Gap g) (rest : List Char) : Stops isWord (g ++ rest) :=
  h.stops fun _ => isWord_of_isBlank

theorem Digits.word {digits : List Char} (h : Digits digits) : Word digits :=
  ⟨h.ne_nil, fun c hc => isWord_of_isDigit (h.all c hc)⟩

theorem Space.stops_word {s : List Char} {c : Char} (h : Space s) (hc : isWord c = false)
    (rest : List Char) : Stops isWord (s ++ c :: rest) := by
  cases s with
  | nil => simpa using hc
  | cons d s => simpa using isWord_of_isBlank (h d (by simp))

/-- Every clause begins with a gap, a keyword and another gap. -/
theorem scan_clause {g w h : List Char} (hg : Gap g) (hw : Word w) (hh : Gap h)
    (hr : Stops isBlank rest) :
    scan (g ++ (w ++ (h ++ rest))) = .gap g :: .word w :: .gap h :: scan rest := by
  rw [scan_append_gap hg (hw.stops_blank _), scan_append_word hw (hh.stops_word _),
    scan_append_gap hh hr]

theorem scan_eq_clause {g w h : List Char} (hscan : scan cs = .gap g :: .word w :: .gap h :: ls) :
    ∃ rest, cs = g ++ (w ++ (h ++ rest)) ∧ Gap g ∧ Gap h ∧ scan rest = ls := by
  obtain ⟨_, rfl, hg, -, hscan⟩ := scan_eq_gap_cons.1 hscan
  obtain ⟨_, rfl, -, -, hscan⟩ := scan_eq_word_cons.1 hscan
  obtain ⟨rest, rfl, hh, -, hscan⟩ := scan_eq_gap_cons.1 hscan
  exact ⟨rest, rfl, hg, hh, hscan⟩

/-- After the white space that may come first, the rest is scanned as if it stood alone. -/
theorem skipGap_scan {s : List Char} (hs : Space s) (hr : Stops isBlank rest) :
    skipGap (scan (s ++ rest)) = scan rest := by
  cases s with
  | cons c s => rw [scan_append_gap ⟨List.cons_ne_nil c s, hs⟩ hr, skipGap]
  | nil =>
    rw [List.nil_append]
    cases hscan : scan rest with
    | nil => rfl
    | cons l ls =>
      cases l with
      | gap g => exact absurd hscan (not_gap_of_stops hr g ls)
      | word w => rfl
      | mark c => rfl

theorem skipGap_sound (cs : List Char) :
    ∃ s rest, cs = s ++ rest ∧ Space s ∧ skipGap (scan cs) = scan rest := by
  have hs : Space (cs.takeWhile isBlank) :=
    fun c hc => List.all_eq_true.1 List.all_takeWhile c hc
  refine ⟨cs.takeWhile isBlank, cs.dropWhile isBlank, List.takeWhile_append_dropWhile.symm, hs, ?_⟩
  have hstops : Stops isBlank (cs.dropWhile isBlank) := stops_dropWhile
  have hskip := skipGap_scan hs hstops
  rwa [List.takeWhile_append_dropWhile] at hskip

/-! ## The end of a text -/

theorem atEnd_scan : atEnd (scan cs) = true ↔ Ending cs := by
  constructor
  · intro h
    unfold atEnd at h
    split at h
    · rename_i hscan
      rw [scan_eq_nil.1 hscan]
      exact .bare
    · rename_i hscan
      obtain ⟨rest, rfl, -, hrest⟩ := scan_eq_mark_cons.1 hscan
      rw [scan_eq_nil.1 hrest]
      exact .terminated (s := []) (by simp [Space])
    · rename_i g hscan
      obtain ⟨rest, rfl, hg, -, hmark⟩ := scan_eq_gap_cons.1 hscan
      obtain ⟨rest, rfl, -, hrest⟩ := scan_eq_mark_cons.1 hmark
      rw [scan_eq_nil.1 hrest]
      exact .terminated hg.all
    · cases h
  · intro h
    have hmark : scan [';'] = [.mark ';'] := by decide
    cases h with
    | bare => rfl
    | @terminated s hs =>
      cases s with
      | nil => rw [List.nil_append, hmark]; rfl
      | cons c s =>
        have hstop : Stops isBlank [';'] := stops_cons.2 (by decide)
        rw [scan_append_gap ⟨List.cons_ne_nil c s, hs⟩ hstop, hmark]
        rfl

theorem limitThenEnd_scan {limit : Option Name} :
    limitThenEnd (scan cs) = some limit ↔ Limited limit cs := by
  constructor
  · intro h
    unfold limitThenEnd at h
    split at h
    · rename_i g w h' digits ls hscan
      split at h
      · rename_i hcond
        simp only [Bool.and_eq_true] at hcond
        obtain ⟨⟨hw, hd⟩, he⟩ := hcond
        cases h
        obtain ⟨_, rfl, hg, hh, hscan⟩ := scan_eq_clause hscan
        obtain ⟨e, rfl, hdigits, -, rfl⟩ := scan_eq_word_cons.1 hscan
        have hlimit := Limited.upTo hg hw hh ⟨hdigits.ne_nil, List.all_eq_true.1 hd⟩
          (atEnd_scan.1 he)
        simpa only [List.append_assoc] using hlimit
      · cases h
    · split at h
      · rename_i he
        cases h
        exact .without (atEnd_scan.1 he)
      · cases h
  · intro h
    cases h with
    | without he =>
      have hend := atEnd_scan.2 he
      unfold limitThenEnd
      split
      · -- no text that ends here goes on with four lexemes
        rename_i hscan
        rw [hscan] at hend
        cases hend
      · rw [if_pos hend]
    | @upTo g w h' digits e hg hw hh hd he =>
      simp only [List.append_assoc]
      rw [scan_clause hg (hw.word (by decide)) hh (hd.word.stops_blank _),
        scan_append_word hd.word he.follows.stops_word]
      simp [limitThenEnd, hw, List.all_eq_true.2 hd.all, atEnd_scan.2 he]

/-! ## The parts before it -/

theorem select_sound (h : select (scan cs) = some ls) :
    ∃ s rest, cs = s ++ rest ∧ Select s ∧ scan rest = ls := by
  unfold select at h
  split at h
  · rename_i w g ls' hscan
    split at h
    · rename_i hw
      cases h
      obtain ⟨_, rfl, -, -, hscan⟩ := scan_eq_word_cons.1 hscan
      obtain ⟨rest, rfl, hg, -, hscan⟩ := scan_eq_gap_cons.1 hscan
      exact ⟨w ++ g, rest, (List.append_assoc ..).symm, .mk hw hg, hscan⟩
    · cases h
  · cases h

theorem select_scan (h : Select cs) (hr : Stops isBlank rest) :
    select (scan (cs ++ rest)) = some (scan rest) := by
  obtain ⟨hw, hg⟩ := h
  rw [List.append_assoc, scan_append_word (hw.word (by decide)) (hg.stops_word _),
    scan_append_gap hg hr, select, if_pos hw]

theorem fromTable_sound {table : Name} (h : fromTable (scan cs) = some (table, ls)) :
    ∃ f rest, cs = f ++ rest ∧ FromTable table f ∧ scan rest = ls := by
  unfold fromTable at h
  split at h
  · rename_i g w h' table' ls' hscan
    split at h
    · rename_i hw
      cases h
      obtain ⟨_, rfl, hg, hh, hscan⟩ := scan_eq_clause hscan
      obtain ⟨rest, rfl, ht, -, hscan⟩ := scan_eq_word_cons.1 hscan
      exact ⟨_, rest, by simp only [List.append_assoc], .mk hg hw hh ht, hscan⟩
    · cases h
  · cases h

theorem fromTable_scan {table : Name} (h : FromTable table cs) (hr : Stops isWord rest) :
    fromTable (scan (cs ++ rest)) = some (table, scan rest) := by
  obtain ⟨hg, hw, hh, ht⟩ := h
  simp only [List.append_assoc]
  rw [scan_clause hg (hw.word (by decide)) hh (ht.stops_blank _), scan_append_word ht hr,
    fromTable, if_pos hw]

theorem starFrom_sound {table : Name} (h : starFrom (scan cs) = some (table, ls)) :
    ∃ s rest, cs = s ++ rest ∧ StarFrom table s ∧ scan rest = ls := by
  unfold starFrom at h
  split at h
  · rename_i ls' hselect
    obtain ⟨s, _, rfl, hs, hscan⟩ := select_sound hselect
    obtain ⟨_, rfl, -, rfl⟩ := scan_eq_mark_cons.1 hscan
    obtain ⟨f, rest, rfl, hf, hscan⟩ := fromTable_sound h
    exact ⟨_, rest, by simp only [List.append_assoc, List.cons_append], .mk hs hf, hscan⟩
  · cases h

theorem starFrom_scan {table : Name} (h : StarFrom table cs) (hr : Stops isWord rest) :
    starFrom (scan (cs ++ rest)) = some (table, scan rest) := by
  obtain ⟨hs, hf⟩ := h
  have hstar : IsMark '*' := by decide
  rw [List.append_assoc, List.cons_append]
  rw [starFrom, select_scan hs (stops_cons.2 hstar.2), scan_mark hstar]
  exact fromTable_scan hf hr

/-! ## Counts and aliases -/

theorem countStar_sound (h : countStar (scan cs) = some ls) :
    ∃ c rest, cs = c ++ rest ∧ CountStar c ∧ scan rest = ls := by
  unfold countStar at h
  split at h
  · rename_i w ls' hscan
    obtain ⟨r, rfl, -, -, rfl⟩ := scan_eq_word_cons.1 hscan
    split at h
    · rename_i hw
      obtain ⟨a, r, rfl, ha, hskip⟩ := skipGap_sound r
      rw [hskip] at h
      split at h
      · rename_i hscan
        obtain ⟨r, rfl, -, rfl⟩ := scan_eq_mark_cons.1 hscan
        obtain ⟨b, r, rfl, hb, hskip⟩ := skipGap_sound r
        rw [hskip] at h
        split at h
        · rename_i hscan
          obtain ⟨r, rfl, -, rfl⟩ := scan_eq_mark_cons.1 hscan
          obtain ⟨c, r, rfl, hc, hskip⟩ := skipGap_sound r
          rw [hskip] at h
          split at h
          · rename_i hscan
            obtain ⟨r, rfl, -, rfl⟩ := scan_eq_mark_cons.1 hscan
            cases h
            exact ⟨_, r, by simp, .mk hw ha hb hc, rfl⟩
          · cases h
        · cases h
      · cases h
    · cases h
  · cases h

theorem countStar_scan (h : CountStar cs) : countStar (scan (cs ++ rest)) = some (scan rest) := by
  obtain ⟨hw, ha, hb, hc⟩ := h
  have hopen : IsMark '(' := by decide
  have hstar : IsMark '*' := by decide
  have hclose : IsMark ')' := by decide
  simp only [List.append_assoc, List.cons_append, List.nil_append]
  rw [scan_append_word (hw.word (by decide)) (ha.stops_word hopen.1 _)]
  simp only [countStar, if_pos hw, skipGap_scan ha (stops_cons.2 hopen.2), scan_mark hopen,
    skipGap_scan hb (stops_cons.2 hstar.2), scan_mark hstar,
    skipGap_scan hc (stops_cons.2 hclose.2), scan_mark hclose]

theorem CountStar.stops_blank (h : CountStar cs) (rest : List Char) :
    Stops isBlank (cs ++ rest) := by
  obtain ⟨hw⟩ := h
  simpa only [List.append_assoc] using (hw.word (by decide)).stops_blank _

/-- After the optional alias comes what the lemma on it says; nothing is lost without one. -/
theorem optionalAlias_sound {name : Option Name} (h : optionalAlias (scan cs) = (name, ls)) :
    ∃ a rest, cs = a ++ rest ∧ Alias name a ∧ scan rest = ls := by
  unfold optionalAlias at h
  split at h
  · rename_i g w h' name' ls' hscan
    split at h
    · rename_i hw
      cases h
      obtain ⟨_, rfl, hg, hh, hscan⟩ := scan_eq_clause hscan
      obtain ⟨rest, rfl, hn, -, hscan⟩ := scan_eq_word_cons.1 hscan
      exact ⟨_, rest, by simp only [List.append_assoc], .called hg hw hh hn, hscan⟩
    · cases h
      exact ⟨[], cs, rfl, .without, hscan⟩
  · cases h
    exact ⟨[], cs, rfl, .without, rfl⟩

/-- An alias is read where a table follows: `FROM` is never taken for `AS`. -/
theorem optionalAlias_scan {name : Option Name} {table : Name} {f : List Char}
    (h : Alias name cs) (hf : FromTable table f) :
    optionalAlias (scan (cs ++ (f ++ rest))) = (name, scan (f ++ rest)) := by
  cases h with
  | called hg hw hh hn =>
    simp only [List.append_assoc]
    rw [scan_clause hg (hw.word (by decide)) hh (hn.stops_blank _),
      scan_append_word hn (hf.follows rest).stops_word, optionalAlias, if_pos hw]
  | without =>
    obtain ⟨hg, hw, hh, ht⟩ := hf
    have hnot : Text.isKeyword "as" _ = false := hw.ne (by decide)
    simp only [List.append_assoc, List.nil_append]
    rw [scan_clause hg (hw.word (by decide)) hh (ht.stops_blank _)]
    unfold optionalAlias
    split
    · rename_i heq
      simp only [List.cons.injEq, gap.injEq, word.injEq] at heq
      obtain ⟨rfl, rfl, rfl, heq⟩ := heq
      rw [if_neg (by simp [hnot]), heq]
    · rfl

/-! ## Names and columns -/

theorem names_more {name a b : List Char} {names : List Name} (hn : Word name) (ha : Space a)
    (hb : Space b) (h : Names names cs) :
    Names (name :: names) (name ++ (a ++ ',' :: (b ++ cs))) := by
  simpa only [List.append_assoc, List.cons_append] using Names.more hn ha hb h

theorem Names.stops_blank {names : List Name} (h : Names names cs) (rest : List Char) :
    Stops isBlank (cs ++ rest) := by
  cases h with
  | one hn => exact hn.stops_blank _
  | more hn => simpa only [List.append_assoc] using hn.stops_blank _

theorem nameList_more (w : Name) (ls : List Lexeme) :
    nameList.more w ls = (nameList (skipGap ls)).map fun p => (w :: p.1, p.2) := by
  unfold nameList.more
  split
  · rfl
  · rename_i hgap
    unfold skipGap
    split
    · rename_i g rest
      exact absurd rfl (hgap g rest)
    · rfl

/-- A list of names goes on exactly after a comma. -/
theorem nameList_word (w : Name) (ls : List Lexeme) :
    nameList (.word w :: ls) =
      match skipGap ls with
      | .mark ',' :: rest => nameList.more w rest
      | _ => some ([w], ls) := by
  rcases ls with _ | ⟨_ | _ | c, ls⟩
  · simp [nameList, skipGap]
  · simp [nameList, skipGap]
  · rcases ls with _ | ⟨_ | _ | c, ls⟩
    · simp [nameList, skipGap]
    · simp [nameList, skipGap]
    · simp [nameList, skipGap]
    · by_cases hc : c = ','
      · subst hc
        simp [nameList, skipGap]
      · simp [nameList, skipGap, hc]
  · by_cases hc : c = ','
    · subst hc
      simp [nameList, skipGap]
    · simp [nameList, skipGap, hc]

theorem nameList_sound {names : List Name} (h : nameList (scan cs) = some (names, ls)) :
    ∃ c rest, cs = c ++ rest ∧ Names names c ∧ scan rest = ls := by
  -- on the length, because a name with its comma is taken from the front as a whole
  generalize hn : cs.length = n
  induction n using Nat.strongRecOn generalizing cs names with
  | ind n ih =>
    rcases scan_first cs with rfl | ⟨w, r, rfl, hw, hr⟩ | ⟨g, r, rfl, hg, hr⟩ | ⟨d, r, rfl, hd⟩
    · simp [scan, nameList] at h
    · rw [scan_append_word hw hr, nameList_word] at h
      obtain ⟨a, r, rfl, ha, hskip⟩ := skipGap_sound r
      rw [hskip] at h
      split at h
      · rename_i hscan
        obtain ⟨r, rfl, -, rfl⟩ := scan_eq_mark_cons.1 hscan
        obtain ⟨b, r, rfl, hb, hskip⟩ := skipGap_sound r
        rw [nameList_more, hskip, Option.map_eq_some_iff] at h
        obtain ⟨⟨names', ls'⟩, hlist, heq⟩ := h
        cases heq
        have hlen : r.length < n := by
          simp only [List.length_append, List.length_cons] at hn
          omega
        obtain ⟨c, rest, rfl, hc, hscan⟩ := ih r.length hlen hlist rfl
        exact ⟨_, rest, by simp, names_more hw ha hb hc, hscan⟩
      · cases h
        exact ⟨w, _, rfl, .one hw, rfl⟩
    · rw [scan_append_gap hg hr] at h
      simp [nameList] at h
    · rw [scan_mark hd] at h
      simp [nameList] at h

theorem nameList_scan {names : List Name} {table : Name} {f : List Char} (h : Names names cs)
    (hf : FromTable table f) :
    nameList (scan (cs ++ (f ++ rest))) = some (names, scan (f ++ rest)) := by
  have hcomma : IsMark ',' := by decide
  induction h with
  | @one name hn =>
    rw [scan_append_word hn (hf.follows rest).stops_word, nameList_word]
    obtain ⟨hg, hw, hh, ht⟩ := hf
    simp only [List.append_assoc]
    rw [scan_clause hg (hw.word (by decide)) hh (ht.stops_blank _), skipGap]
  | @more name a b cs names hn ha hb hnames ih =>
    have hstop := hnames.stops_blank (f ++ rest)
    simp only [List.append_assoc, List.cons_append]
    rw [scan_append_word hn (ha.stops_word hcomma.1 _), nameList_word]
    simp only [skipGap_scan ha (stops_cons.2 hcomma.2), scan_mark hcomma, nameList_more,
      skipGap_scan hb hstop, ih, Option.map_some]

theorem whereColumn_sound {column : Name} (h : whereColumn (scan cs) = some (column, ls)) :
    ∃ w rest, cs = w ++ rest ∧ WhereColumn column w ∧ scan rest = ls := by
  unfold whereColumn at h
  split at h
  · rename_i g w h' column' ls' hscan
    obtain ⟨_, rfl, hg, hh, hscan⟩ := scan_eq_clause hscan
    obtain ⟨r, rfl, hc, -, rfl⟩ := scan_eq_word_cons.1 hscan
    split at h
    · rename_i hw
      obtain ⟨a, r, rfl, ha, hskip⟩ := skipGap_sound r
      rw [hskip] at h
      split at h
      · rename_i hscan
        obtain ⟨r, rfl, -, rfl⟩ := scan_eq_mark_cons.1 hscan
        obtain ⟨b, r, rfl, hb, hskip⟩ := skipGap_sound r
        cases h
        exact ⟨_, r, by simp, .mk hg hw hh hc ha hb, hskip.symm⟩
      · cases h
    · cases h
  · cases h

theorem whereColumn_scan {column : Name} (h : WhereColumn column cs) (hr : Stops isBlank rest) :
    whereColumn (scan (cs ++ rest)) = some (column, scan rest) := by
  obtain ⟨hg, hw, hh, hc, ha, hb⟩ := h
  have hequal : IsMark '=' := by decide
  simp only [List.append_assoc, List.cons_append]
  rw [scan_clause hg (hw.word (by decide)) hh (hc.stops_blank _),
    scan_append_word hc (ha.stops_word hequal.1 _)]
  simp only [whereColumn, if_pos hw, skipGap_scan ha (stops_cons.2 hequal.2), scan_mark hequal,
    skipGap_scan hb hr]

theorem groupByEnd_scan {column : Name} :
    groupByEnd (scan cs) = some column ↔ ∃ b e, cs = b ++ e ∧ GroupBy column b ∧ Ending e := by
  constructor
  · intro h
    unfold groupByEnd at h
    split at h
    · rename_i g w h' v i column' ls' hscan
      split at h
      · rename_i hcond
        simp only [Bool.and_eq_true] at hcond
        obtain ⟨⟨hw, hv⟩, he⟩ := hcond
        cases h
        obtain ⟨_, rfl, hg, hh, hscan⟩ := scan_eq_clause hscan
        obtain ⟨_, rfl, -, -, hscan⟩ := scan_eq_word_cons.1 hscan
        obtain ⟨_, rfl, hi, -, hscan⟩ := scan_eq_gap_cons.1 hscan
        obtain ⟨e, rfl, hc, -, rfl⟩ := scan_eq_word_cons.1 hscan
        exact ⟨_, e, by simp only [List.append_assoc], .mk hg hw hh hv hi hc, atEnd_scan.1 he⟩
      · cases h
    · cases h
  · rintro ⟨b, e, rfl, ⟨hg, hw, hh, hv, hi, hc⟩, he⟩
    have hby := hv.word (by decide)
    simp only [List.append_assoc]
    rw [scan_clause hg (hw.word (by decide)) hh (hby.stops_blank _),
      scan_append_word hby (hi.stops_word _), scan_append_gap hi (hc.stops_blank _),
      scan_append_word hc he.follows.stops_word]
    simp [groupByEnd, hw, hv, atEnd_scan.2 he]

end ReadGate.Grammar
