import ReadGate.Proofs.Text.Keywords
import ReadGate.Proofs.Validation.Language

/-!
# The keyword that is reported

A text with a word that writes is rejected for the leftmost of these words.  What is reported is the
word as it stands in the text, in lower case, and not the keyword that it counts as.  The two are
the same unless the word is written with one of the letters that lower-casing does not take back;
then what is reported is no keyword at all.

* `Lexeme.exists_of_wordsOf_scan` — a word of a text, with the text before it and behind it.
* `Leftmost` — the leftmost word that writes, and the keyword that it counts as.
* `findForbidden?_eq_some_iff` — what is found.
* `Names` — a failure names a keyword in all three places.
* `validate_forbidden_iff` — the texts that are rejected for a word.
* `findForbidden?_keyword_iff` — when the keyword itself is reported.
-/

namespace ReadGate

open Text

/-! ## The words before and behind a word -/

namespace Lexeme

variable {cs before run after : List Char} {xs ys : List (List Char)}

theorem wordsOf_scan_run (hrun : IsRun isWord run) (hbefore : Stops isWord before.reverse)
    (hafter : Stops isWord after) :
    wordsOf (scan (before ++ run ++ after)) =
      wordsOf (scan before) ++ run :: wordsOf (scan after) := by
  have hword : wordsOf (scan (run ++ after)) = run :: wordsOf (scan after) := by
    rw [scan_append_word hrun hafter, wordsOf]
  rw [List.append_assoc]
  rcases List.eq_nil_or_concat before with rfl | ⟨init, b, rfl⟩
  · exact hword
  · have hb : isWord b = false := by simpa using hbefore
    obtain ⟨c, rest, rfl, -⟩ := hrun.exists_cons
    -- the last character in front separates words, and belongs to none
    have hinit : wordsOf (scan (init.concat b)) = wordsOf (scan init) := by
      rw [List.concat_eq_append, wordsOf_scan_append hb]
      simp [scan, wordsOf]
    rw [hinit, List.concat_eq_append, List.append_assoc, List.singleton_append,
      wordsOf_scan_append hb, hword]

/-- The place of a word among the words of a text is its place in the text. -/
theorem exists_of_wordsOf_scan (h : wordsOf (scan cs) = xs ++ run :: ys) :
    ∃ before after, cs = before ++ run ++ after ∧ IsRun isWord run ∧
      Stops isWord before.reverse ∧ Stops isWord after ∧ wordsOf (scan before) = xs := by
  -- on the length, because a word is taken off as a whole
  generalize hn : cs.length = n
  induction n using Nat.strongRecOn generalizing cs xs with
  | ind n ih =>
    subst hn
    cases cs with
    | nil => simp [scan, wordsOf] at h
    | cons c rest =>
      cases hc : isWord c with
      | false =>
        rw [wordsOf_scan_cons hc] at h
        obtain ⟨before, after, rfl, hrun, hbefore, hafter, hxs⟩ := ih rest.length (by simp) h rfl
        refine ⟨c :: before, after, by simp, hrun, ?_, hafter, ?_⟩
        · rw [List.reverse_cons]
          exact hbefore.append (stops_cons.2 hc)
        · rw [wordsOf_scan_cons hc, hxs]
      | true =>
        obtain ⟨w, rest', hsplit, hw, hr⟩ : ∃ w rest', c :: rest = w ++ rest' ∧ IsRun isWord w ∧
            Stops isWord rest' :=
          ⟨c :: rest.takeWhile isWord, rest.dropWhile isWord, by simp, .cons_takeWhile hc,
            stops_dropWhile⟩
        have hlen : rest'.length < (c :: rest).length := by
          rw [hsplit, List.length_append]
          exact Nat.lt_add_of_pos_left (List.length_pos_iff.2 hw.ne_nil)
        rw [hsplit] at h ⊢
        rw [scan_append_word hw hr, wordsOf] at h
        rcases List.cons_eq_append_iff.1 h with ⟨rfl, hfirst⟩ | ⟨xs', rfl, hlater⟩
        · obtain ⟨rfl, -⟩ := List.cons.inj hfirst
          exact ⟨[], rest', by simp, hw, stops_nil, hr, rfl⟩
        · obtain ⟨before, after, rfl, hrun, hbefore, hafter, hxs⟩ := ih _ hlen hlater rfl
          have hne : before ≠ [] := by
            rintro rfl
            exact hrun.not_stops (by simpa using hr)
          have hstops : Stops isWord before := by
            rwa [List.append_assoc, stops_append_iff hne] at hr
          refine ⟨w ++ before, after, by simp, hrun, ?_, hafter, ?_⟩
          · rw [List.reverse_append]
            exact (stops_append_iff (by simpa using hne)).2 hbefore
          · rw [scan_append_word hw hstops, wordsOf, hxs]

end Lexeme

namespace Validation

open Lexeme

/-! ## The word that is found -/

/-- The word counts as the keyword, is a maximal run of word characters in the text, and no word
that writes stands before it. -/
structure Leftmost (cs : List Char) (keyword : String) (run : List Char) : Prop where
  forbidden : keyword ∈ forbiddenKeywords
  spells : isKeyword keyword run = true
  place : ∃ before after, cs = before ++ run ++ after ∧ Stops isWord before.reverse ∧
    Stops isWord after ∧ ¬ Writes before

/-- The word is written without the letters that lower-casing does not take back. -/
def IsPlain (run : List Char) : Prop :=
  ∀ c ∈ run, c ∉ strays

theorem forbiddenKeywords_ascii : ∀ keyword ∈ forbiddenKeywords, IsAscii keyword := by
  decide

theorem forbiddenKeywords_run :
    ∀ keyword ∈ forbiddenKeywords, IsRun isWord keyword.toList := by
  intro keyword hmem
  have table : ∀ keyword ∈ forbiddenKeywords,
      keyword.toList ≠ [] ∧ keyword.toList.all isWord = true := by decide
  exact ⟨(table keyword hmem).1, List.all_eq_true.1 (table keyword hmem).2⟩

variable {text keyword : String} {cs run : List Char}

theorem isForbidden_iff :
    isForbidden run = true ↔ ∃ keyword ∈ forbiddenKeywords, isKeyword keyword run = true :=
  List.any_eq_true

theorem writes_iff : Writes cs ↔ ∃ word ∈ wordsOf (scan cs), isForbidden word = true := by
  simp only [Writes, isForbidden_iff, mem_wordsOf_scan]

/-- The first of the words that write is the leftmost one. -/
theorem find?_wordsOf_iff :
    (wordsOf (scan cs)).find? isForbidden = some run ↔ ∃ keyword, Leftmost cs keyword run := by
  rw [List.find?_eq_some_iff_append, isForbidden_iff]
  constructor
  · rintro ⟨⟨keyword, hmem, hspells⟩, xs, ys, hwords, hxs⟩
    obtain ⟨before, after, hcs, -, hbefore, hafter, rfl⟩ := exists_of_wordsOf_scan hwords
    refine ⟨keyword, hmem, hspells, before, after, hcs, hbefore, hafter, fun hwrites => ?_⟩
    obtain ⟨word, hword, hforbidden⟩ := writes_iff.1 hwrites
    simpa [hforbidden] using hxs word hword
  · rintro ⟨keyword, hmem, hspells, before, after, rfl, hbefore, hafter, hfirst⟩
    have hrun : IsRun isWord run := .of_isKeyword (forbiddenKeywords_run keyword hmem) hspells
    refine ⟨⟨keyword, hmem, hspells⟩, _, _, wordsOf_scan_run hrun hbefore hafter, fun word hword => ?_⟩
    rw [Bool.not_eq_true']
    exact Bool.eq_false_iff.2 fun hforbidden => hfirst (writes_iff.2 ⟨word, hword, hforbidden⟩)

/-- What is found is the leftmost word that writes, in lower case. -/
theorem findForbidden?_eq_some_iff {reported : String} :
    findForbidden? text = some reported ↔
      ∃ keyword run, Leftmost text.toList keyword run ∧ lower (String.ofList run) = reported := by
  rw [findForbidden?, Option.map_eq_some_iff]
  constructor
  · rintro ⟨run, hfind, hlow⟩
    obtain ⟨keyword, hleft⟩ := find?_wordsOf_iff.1 hfind
    exact ⟨keyword, run, hleft, hlow⟩
  · rintro ⟨keyword, run, hleft, hlow⟩
    exact ⟨run, find?_wordsOf_iff.2 ⟨keyword, hleft⟩, hlow⟩

/-- Of the keyword itself the lower case of the word tells only if the word is plain; otherwise it
is no keyword that writes. -/
theorem Leftmost.lower_iff (h : Leftmost cs keyword run) :
    (lower (String.ofList run) = keyword ↔ IsPlain run) ∧
    (lower (String.ofList run) ∈ forbiddenKeywords ↔ IsPlain run) := by
  obtain ⟨hplain, hascii⟩ :=
    lower_eq_keyword_iff (forbiddenKeywords_ascii keyword h.forbidden) h.spells
  refine ⟨hplain, fun hmem => hascii.1 (forbiddenKeywords_ascii _ hmem), fun hrun => ?_⟩
  rw [hplain.2 hrun]
  exact h.forbidden

/-! ## The failure -/

/-- The message about a keyword. -/
def messageFor (keyword : String) : String :=
  "Keyword '" ++ upperKeyword keyword ++ "' is not allowed"

theorem messageFor_inj {a b : String} :
    messageFor a = messageFor b ↔ upperKeyword a = upperKeyword b := by
  simp [messageFor, ← String.toList_inj]

/-- The failure names the keyword: as its keyword, in its details and in its message. -/
structure Names (f : Failure) (keyword : String) : Prop where
  held : f.keyword = some (.text keyword)
  details : f.details = .record [("keyword", .text keyword)]
  message : f.message = .text (messageFor keyword)

theorem names_forbidden (reported : String) : Names (Rejection.forbidden reported).failure reported :=
  ⟨rfl, rfl, rfl⟩

theorem kind_eq_forbiddenKeyword_iff {rejection : Rejection} :
    rejection.failure.kind = .forbiddenKeyword ↔ ∃ reported, rejection = .forbidden reported := by
  cases rejection <;> simp [Rejection.failure, Failure.of, Failure.ofKeyword]

theorem verdict_forbidden_iff {slice reported : String} :
    verdict slice = .error (.forbidden reported) ↔
      Reads slice.toList ∧ findForbidden? slice = some reported := by
  rw [← startsReading_iff, verdict]
  cases startsReading slice with
  | false => simp
  | true =>
    cases findForbidden? slice with
    | none => cases continuesAfterTerminator slice.toList <;> simp
    | some keyword => simp

/-- **A text is rejected for a word** if its slice reads and has a word that writes, and the failure
is about the leftmost of these words, in lower case. -/
theorem validate_forbidden_iff {raw : Option String} {reported : String} :
    validate raw = .error (.forbidden reported) ↔ SliceOf raw fun slice => Reads slice ∧
      ∃ keyword run, Leftmost slice keyword run ∧ lower (String.ofList run) = reported := by
  cases raw with
  | none => simp [validate, sliceOf_none]
  | some raw =>
    have hslice : (normalize raw).toList = clean raw.toList := by simp [normalize]
    rw [sliceOf_some]
    by_cases hne : clean raw.toList = []
    · rcases validate_nothing hne with h | h <;> simp [h, hne]
    · rw [validate_some hne, verdict_forbidden_iff, findForbidden?_eq_some_iff, hslice]
      exact (and_iff_right hne).symm

/-- **The keyword is reported if and only if its word is plain.**  Nothing is found in a text
without a word that writes; otherwise the leftmost of these words is found, and a text is rejected
for it if its slice reads.  The failure names the word in lower case in all three places.  This is
the keyword that the word counts as if the word has none of the letters that lower-casing does not
take back, and no keyword that writes otherwise; the message is the one about the keyword unless the
word has the dotted capital. -/
theorem findForbidden?_keyword_iff (text : String) (raw : Option String) :
    (findForbidden? text = none ↔ ¬ Writes text.toList) ∧
    (∀ reported, findForbidden? text = some reported ↔
      ∃ keyword run, Leftmost text.toList keyword run ∧ lower (String.ofList run) = reported) ∧
    (∀ rejection, validate raw = .error rejection ∧ rejection.failure.kind = .forbiddenKeyword ↔
      SliceOf raw fun slice => Reads slice ∧ ∃ keyword run, Leftmost slice keyword run ∧
        rejection = .forbidden (lower (String.ofList run))) ∧
    ∀ cs keyword run, Leftmost cs keyword run →
      let reported := lower (String.ofList run)
      let failure := (Rejection.forbidden reported).failure
      Names failure reported ∧
      (reported = keyword ↔ IsPlain run) ∧ (reported ∈ forbiddenKeywords ↔ IsPlain run) ∧
      (failure.message = .text (messageFor keyword) ↔ dottedCapital ∉ run) := by
  refine ⟨findForbidden?_eq_none_iff text, fun _ => findForbidden?_eq_some_iff, ?_, ?_⟩
  · intro rejection
    rw [kind_eq_forbiddenKeyword_iff]
    constructor
    · rintro ⟨hrejected, reported, rfl⟩
      obtain ⟨text, slice, hraw, hslice, hreads, keyword, run, hleft, hlow⟩ :=
        validate_forbidden_iff.1 hrejected
      exact ⟨text, slice, hraw, hslice, hreads, keyword, run, hleft, by rw [hlow]⟩
    · rintro ⟨text, slice, hraw, hslice, hreads, keyword, run, hleft, rfl⟩
      exact ⟨validate_forbidden_iff.2 ⟨text, slice, hraw, hslice, hreads, keyword, run, hleft, rfl⟩,
        _, rfl⟩
  · intro cs keyword run hleft
    have hascii := forbiddenKeywords_ascii keyword hleft.forbidden
    refine ⟨names_forbidden _, hleft.lower_iff.1, hleft.lower_iff.2, ?_⟩
    rw [(names_forbidden _).message, Value.text.injEq, messageFor_inj]
    exact upperKeyword_lower_iff hascii hleft.spells

/-- A text whose only word that writes has a dotless small i. -/
def dotlessInsert : String := "select \u0131nsert"

/-- It is rejected for a word that is no keyword, under a message about one. -/
theorem findForbidden?_keyword_iff_dotless :
    findForbidden? dotlessInsert = some "\u0131nsert" ∧
      "\u0131nsert" ∉ forbiddenKeywords ∧
      validate (some dotlessInsert) = .error (.forbidden "\u0131nsert") ∧
      (Rejection.forbidden "\u0131nsert").failure.message =
        .text "Keyword 'INSERT' is not allowed" := by
  have hleft : Leftmost dotlessInsert.toList "insert" "\u0131nsert".toList := by
    refine ⟨by decide, by decide, "select ".toList, [], by decide, ?_, stops_nil, ?_⟩
    · exact stops_cons.2 (by decide)
    · rw [writes_iff]
      decide
  have hlow : lower (String.ofList "\u0131nsert".toList) = "\u0131nsert" := by decide
  obtain ⟨-, hfound, -, hreported⟩ := findForbidden?_keyword_iff dotlessInsert none
  obtain ⟨-, -, hmember, hmessage⟩ := hreported _ _ _ hleft
  rw [hlow] at hmember hmessage
  refine ⟨(hfound _).2 ⟨_, _, hleft, hlow⟩, fun hmem => ?_, by decide, ?_⟩
  · exact hmember.1 hmem '\u0131' (by decide) (by decide)
  · rw [hmessage.2 (by decide)]
    exact congrArg Value.text (by decide)

end Validation

end ReadGate
