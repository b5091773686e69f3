import ReadGate.Proofs.Rule.Recognition
import ReadGate.Proofs.Validation.Language

/-!
# Limits with too many digits

A limit may be written with any number of digits: validation accepts the text, and its shape is that
of a selection.  But an integer is read only up to a number of digits, so a longer limit leaves the
text without a translation.

* `longLimit` — a selection whose limit has the given number of digits.
* `validate_longLimit`, `selectAll_longLimit` — it is accepted, and has the shape of a selection.
* `translate_longLimit` — its translation fails if there are too many digits.
-/

namespace ReadGate.Grammar

open Lexeme Text

/-- So many digits. -/
def ones (n : ℕ) : List Char :=
  List.replicate n '1'

/-- A selection with a limit of so many digits. -/
def longLimit (n : ℕ) : String :=
  String.ofList ("SELECT * FROM t LIMIT ".toList ++ ones n)

theorem toList_longLimit (n : ℕ) :
    (longLimit n).toList = "SELECT * FROM t LIMIT ".toList ++ ones n :=
  String.toList_ofList

variable {n : ℕ}

theorem ones_run (hn : 0 < n) {p : Char → Bool} (hp : p '1' = true) : IsRun p (ones n) := by
  refine ⟨by simpa [ones] using hn.ne', fun c hc => ?_⟩
  rw [List.eq_of_mem_replicate hc]
  exact hp

/-! ## Validation -/

theorem isSlice_longLimit (hn : 0 < n) :
    Validation.IsSlice (longLimit n).toList (longLimit n).toList := by
  rw [toList_longLimit]
  refine ⟨⟨[], [], by simp⟩, ?_, ?_, ?_⟩
  · exact List.append_ne_nil_of_left_ne_nil (by decide) _
  · intro c hc
    obtain rfl : 'S' = c := Option.some.inj hc
    decide
  · intro c hc
    have hlast : (ones n).reverse.head? = some '1' := by
      rw [ones, List.reverse_replicate, List.head?_replicate, if_neg hn.ne']
    rw [List.reverse_append, List.head?_append, hlast] at hc
    obtain rfl : '1' = c := Option.some.inj hc
    decide

theorem wordsOf_longLimit (hn : 0 < n) :
    wordsOf (scan (longLimit n).toList) =
      ["SELECT".toList, "FROM".toList, "t".toList, "LIMIT".toList, ones n] := by
  have hones : scan (ones n) = [.word (ones n)] := by
    have h := scan_append_word (ones_run hn (by decide : isWord '1' = true)) stops_nil
    rwa [List.append_nil] at h
  have hfront : wordsOf (scan "SELECT * FROM t LIMIT".toList) =
    ["SELECT".toList, "FROM".toList, "t".toList, "LIMIT".toList] := by decide
  have hgap : "SELECT * FROM t LIMIT ".toList = "SELECT * FROM t LIMIT".toList ++ [' '] := by
    decide
  rw [toList_longLimit, hgap, List.append_assoc, List.singleton_append,
    wordsOf_scan_append (by decide), hones, hfront]
  rfl

/-- No word that writes has a digit in it. -/
theorem ones_not_forbidden (hn : 0 < n) : ¬ Validation.isForbidden (ones n) = true := by
  intro h
  obtain ⟨keyword, hmem, hk⟩ := List.any_eq_true.1 h
  have hfold : foldLetter '1' = '1' := by decide
  have heq : ones n = keyword.toList := by
    have hmap := eq_of_beq hk
    rwa [ones, List.map_replicate, hfold] at hmap
  have hone : '1' ∈ keyword.toList := by
    rw [← heq]
    exact List.mem_replicate.2 ⟨hn.ne', rfl⟩
  have hnone : ∀ keyword ∈ Validation.forbiddenKeywords, '1' ∉ keyword.toList := by decide
  exact hnone keyword hmem hone

/-- **Validation accepts the text**, whatever the number of digits. -/
theorem validate_longLimit (hn : 0 < n) :
    Validation.validate (some (longLimit n)) = .ok (longLimit n) := by
  have hslice := isSlice_longLimit hn
  have hreads : Validation.Reads (longLimit n).toList := by
    refine ⟨"SELECT".toList, " * FROM t LIMIT ".toList ++ ones n, ?_, by decide, ?_⟩
    · rw [toList_longLimit]
      rfl
    · intro c hc
      obtain rfl : ' ' = c := Option.some.inj hc
      decide
  have hwrites : ¬ Validation.Writes (longLimit n).toList := by
    rw [← Validation.findForbidden?_eq_none_iff, Validation.findForbidden?, wordsOf_longLimit hn,
      Option.map_eq_none_iff, List.find?_eq_none]
    simp only [List.forall_mem_cons]
    exact ⟨by decide, by decide, by decide, by decide,
      ones_not_forbidden hn, by simp⟩
  have hmark : ';' ∉ (longLimit n).toList := by
    rw [toList_longLimit, List.mem_append]
    rintro (h | h)
    · revert h
      decide
    · cases List.eq_of_mem_replicate h
  have hnormalize : Validation.normalize (longLimit n) = longLimit n := by
    rw [Validation.normalize, ← hslice.eq_clean, String.ofList_toList]
  rw [Validation.validate_some (hslice.eq_clean ▸ hslice.ne_nil), hnormalize]
  rcases Validation.verdict_cases hslice.ends with ⟨hno, -⟩ | ⟨-, hno, -⟩ | ⟨-, -, hno, -⟩ |
    ⟨-, -, -, hok⟩
  · exact (hno hreads).elim
  · exact (hwrites hno).elim
  · exact (hmark hno).elim
  · exact hok

/-! ## Translation -/

theorem gap_space : Gap " ".toList :=
  ⟨by decide, List.all_eq_true.1 (by decide)⟩

theorem starFrom_t : StarFrom "t".toList "SELECT * FROM t".toList := by
  have ht : Word "t".toList := ⟨by decide, List.all_eq_true.1 (by decide)⟩
  have hselect : Select ("SELECT".toList ++ " ".toList) := .mk (by decide) gap_space
  have hfrom : FromTable "t".toList (" ".toList ++ "FROM".toList ++ " ".toList ++ "t".toList) :=
    .mk gap_space (by decide) gap_space ht
  exact .mk hselect hfrom

theorem selectAll_longLimit (hn : 0 < n) :
    Shape.selectAll (scan (longLimit n).toList) = some ("t".toList, some (ones n)) := by
  have hlimited : Limited (some (ones n))
      (" ".toList ++ "LIMIT".toList ++ " ".toList ++ ones n ++ []) :=
    .upTo gap_space (by decide) gap_space (ones_run hn (by decide)) .bare
  have h := selectAll_scan starFrom_t hlimited
  rw [List.append_nil, ← List.append_assoc] at h
  rw [toList_longLimit]
  exact h

/-- **A limit with too many digits has no translation.** -/
theorem translate_longLimit (hn : maxDigits < n) :
    translate (longLimit n) = .error (.tooManyDigits n) := by
  have hvalue : digitValue? '1' = some 1 := by decide
  have hlength : ((ones n).filterMap digitValue?).length = n := by
    rw [ones, List.filterMap_replicate_of_some hvalue, List.length_replicate]
  have hlimit : Rule.natOf (ones n) = .error (.tooManyDigits n) := by
    rw [Rule.natOf, Numeral.natOfDigits, hlength, if_pos hn]
  have hquery : Rule.selectAll.query (scan (longLimit n).toList) = .error (.tooManyDigits n) := by
    simp only [Rule.query, selectAll_longLimit (Nat.zero_lt_of_lt hn), Rule.limitOf, hlimit]
    rfl
  simp only [translate, Rule.all, Rule.firstMatch, hquery]

end ReadGate.Grammar
