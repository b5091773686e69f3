import ReadGate.Text.Blank
import ReadGate.Text.Case
import ReadGate.Text.Digit
import ReadGate.Text.Word

/-!
# Runs of characters, and how the character classes lie to each other

A *run* of a class is a text that is not empty and has only characters of the class; a text *stops*
a class if it does not go on with one of its characters.  A run followed by a text that stops its
class is what `takeWhile` takes and what `dropWhile` leaves behind (`IsRun.takeWhile_append`,
`IsRun.dropWhile_append`).

* `isWord_of_isBlank` — no word character is white space.
* `isWord_of_isDigit` — every decimal digit, of whatever script, is a word character.
* `isWord_of_foldLetter`, `IsRun.of_isKeyword` — a character that counts as a letter of a keyword is
  a word character, so a keyword in any letter case is a run of word characters.
-/

namespace ReadGate.Text

/-! ## Runs -/

/-- A run of a class: at least one character, and all of them in the class. -/
structure IsRun (p : Char → Bool) (cs : List Char) : Prop where
  ne_nil : cs ≠ []
  all : ∀ c ∈ cs, p c = true

/-- The text does not go on with a character of the class. -/
def Stops (p : Char → Bool) (cs : List Char) : Prop :=
  ∀ c ∈ cs.head?, p c = false

section Runs

variable {p : Char → Bool} {c : Char} {cs run rest : List Char}

@[simp] theorem stops_nil : Stops p [] := by simp [Stops]

@[simp] theorem stops_cons : Stops p (c :: cs) ↔ p c = false := by simp [Stops]

theorem stops_dropWhile : Stops p (cs.dropWhile p) := by
  intro c hc
  have h := List.head?_dropWhile_not p cs
  rw [Option.mem_def.1 hc] at h
  exact h

/-- What stops a class stops any smaller one. -/
theorem Stops.mono {q : Char → Bool} (h : Stops q cs) (hpq : ∀ c, p c = true → q c = true) :
    Stops p cs := by
  intro c hc
  have hq := h c hc
  cases hp : p c with
  | false => rfl
  | true => exact absurd (hpq c hp) (by simp [hq])

theorem Stops.append (h : Stops p cs) (hrest : Stops p rest) : Stops p (cs ++ rest) := by
  cases cs with
  | nil => exact hrest
  | cons c cs => exact stops_cons.2 (stops_cons.1 h)

/-- Only the first character matters. -/
theorem stops_append_iff (hne : cs ≠ []) : Stops p (cs ++ rest) ↔ Stops p cs := by
  cases cs with
  | nil => exact absurd rfl hne
  | cons c cs => rw [List.cons_append, stops_cons, stops_cons]

theorem Stops.takeWhile_append (h : Stops p rest) : (cs ++ rest).takeWhile p = cs.takeWhile p := by
  induction cs with
  | nil =>
    cases rest with
    | nil => rfl
    | cons c rest => simp [stops_cons.1 h]
  | cons c cs ih => rw [List.cons_append, List.takeWhile_cons, List.takeWhile_cons, ih]

/-- Characters of a class before anything that stops it are all that is taken. -/
theorem Stops.takeWhile_of_all (h : Stops p rest) (hall : ∀ c ∈ cs, p c = true) :
    (cs ++ rest).takeWhile p = cs := by
  rw [List.takeWhile_append_of_pos hall]
  cases rest with
  | nil => simp
  | cons c rest => simp [stops_cons.1 h]

theorem Stops.dropWhile_of_all (h : Stops p rest) (hall : ∀ c ∈ cs, p c = true) :
    (cs ++ rest).dropWhile p = rest := by
  rw [List.dropWhile_append_of_pos hall]
  cases rest with
  | nil => rfl
  | cons c rest => simp [stops_cons.1 h]

/-- What was taken once is taken again. -/
theorem Stops.takeWhile_again (h : Stops p rest) :
    (cs.takeWhile p ++ rest).takeWhile p = cs.takeWhile p :=
  h.takeWhile_of_all fun c hc => List.all_eq_true.1 List.all_takeWhile c hc

theorem Stops.dropWhile_again (h : Stops p rest) : (cs.takeWhile p ++ rest).dropWhile p = rest :=
  h.dropWhile_of_all fun c hc => List.all_eq_true.1 List.all_takeWhile c hc

theorem IsRun.exists_cons (h : IsRun p run) : ∃ c cs, run = c :: cs ∧ p c = true := by
  cases run with
  | nil => exact absurd rfl h.ne_nil
  | cons c cs => exact ⟨c, cs, rfl, h.all c (by simp)⟩

theorem IsRun.tail {d : Char} (h : IsRun p (c :: d :: cs)) : IsRun p (d :: cs) :=
  ⟨List.cons_ne_nil d cs, fun x hx => h.all x (List.mem_cons_of_mem c hx)⟩

/-- A run goes on with a character of its class, so it does not stop it. -/
theorem IsRun.not_stops (h : IsRun p run) : ¬ Stops p (run ++ rest) := by
  obtain ⟨c, cs, rfl, hc⟩ := h.exists_cons
  simp [hc]

/-- A run stops every class that has none of its characters. -/
theorem IsRun.stops {q : Char → Bool} (h : IsRun p run) (hq : ∀ c, p c = true → q c = false) :
    Stops q (run ++ rest) := by
  obtain ⟨c, cs, rfl, hc⟩ := h.exists_cons
  simp [hq c hc]

theorem IsRun.takeWhile_append (h : IsRun p run) (hr : Stops p rest) :
    (run ++ rest).takeWhile p = run :=
  hr.takeWhile_of_all h.all

theorem IsRun.dropWhile_append (h : IsRun p run) (hr : Stops p rest) :
    (run ++ rest).dropWhile p = rest :=
  hr.dropWhile_of_all h.all

/-- A character of the class together with those that follow it is a run. -/
theorem IsRun.cons_takeWhile (hc : p c = true) : IsRun p (c :: cs.takeWhile p) := by
  refine ⟨by simp, fun d hd => ?_⟩
  rcases List.mem_cons.1 hd with rfl | hd
  · exact hc
  · exact List.all_eq_true.1 List.all_takeWhile d hd

end Runs

/-! ## Classes -/

/-- What a table says of the ASCII characters holds of each of them. -/
theorem of_ascii {P : Char → Prop} (table : ∀ code < 0x80, P (Char.ofNat code)) {c : Char}
    (h : c.toNat < 0x80) : P c := by
  have hc := table c.toNat h
  rwa [Char.ofNat_toNat] at hc

/-- The code points of a set, one by one. -/
def Ranges.codes (ranges : Ranges) : List Nat :=
  ranges.flatMap fun r => List.range' r.1 (r.2 + 1 - r.1)

theorem Ranges.mem_codes {ranges : Ranges} {code : Nat} (h : ranges.has code = true) :
    code ∈ ranges.codes := by
  obtain ⟨r, hr, hlo, hhi⟩ := Ranges.has_iff.1 h
  exact List.mem_flatMap.2 ⟨r, hr, List.mem_range'_1.2 ⟨hlo, by omega⟩⟩

theorem isWord_of_isBlank {c : Char} (h : isBlank c = true) : isWord c = false := by
  have table : ∀ code ∈ blankRanges.codes, isWord (Char.ofNat code) = false := by decide +kernel
  have hc := table c.toNat (Ranges.mem_codes h)
  rwa [Char.ofNat_toNat] at hc

theorem isBlank_of_isWord {c : Char} (h : isWord c = true) : isBlank c = false := by
  cases hb : isBlank c with
  | false => rfl
  | true => rw [isWord_of_isBlank hb] at h; cases h

theorem isDigit_iff {c : Char} :
    isDigit c = true ↔ ∃ base ∈ digitZeros, base ≤ c.toNat ∧ c.toNat < base + 10 := by
  simp [isDigit, digitValue?]

/-- The ten digits of every script but the first lie in one interval of the table of words. -/
theorem digitZeros_within :
    (digitZeros.tail.all fun base => Nat.ble 0x80 base &&
      wordRanges.any fun r => Nat.ble r.1 base && Nat.ble (base + 9) r.2) = true := by
  decide +kernel

theorem isWord_of_isDigit {c : Char} (h : isDigit c = true) : isWord c = true := by
  obtain ⟨base, hmem, hlo, hhi⟩ := isDigit_iff.1 h
  rcases List.mem_cons.1 (show base ∈ 0x30 :: digitZeros.tail from hmem) with rfl | htail
  · have table : ∀ d < 10, isWord (Char.ofNat (0x30 + d)) = true := by decide
    have hc := table (c.toNat - 0x30) (by omega)
    rwa [show 0x30 + (c.toNat - 0x30) = c.toNat by omega, Char.ofNat_toNat] at hc
  · have hin := List.all_eq_true.1 digitZeros_within base htail
    simp only [Bool.and_eq_true, List.any_eq_true, Nat.ble_eq] at hin
    obtain ⟨hbase, r, hr, hrlo, hrhi⟩ := hin
    rw [isWord, if_neg (by omega)]
    exact Ranges.has_iff.2 ⟨r, hr, by omega, by omega⟩

/-! ## Keywords -/

theorem isWord_of_foldLetter {c : Char} (h : isWord (foldLetter c) = true) : isWord c = true := by
  unfold foldLetter at h
  split at h
  · rename_i hascii
    have hc : isWord c.toLower = isWord c :=
      of_ascii (P := fun c => isWord c.toLower = isWord c) (by decide) hascii
    rw [← hc]; exact h
  split at h
  · subst_vars; decide +kernel
  split at h
  · subst_vars; decide +kernel
  split at h
  · rename_i hi
    rcases (by simpa using hi : c = '\u0130' ∨ c = '\u0131') with rfl | rfl <;> decide +kernel
  · exact h

/-- A keyword, however its letters are written, is a run of word characters. -/
theorem IsRun.of_isKeyword {keyword : String} {cs : List Char}
    (hk : IsRun isWord keyword.toList) (h : isKeyword keyword cs = true) : IsRun isWord cs := by
  have hmap : cs.map foldLetter = keyword.toList := by simpa [isKeyword] using h
  refine ⟨fun hnil => hk.ne_nil (by rw [← hmap, hnil]; rfl), fun c hc => ?_⟩
  apply isWord_of_foldLetter
  exact hk.all _ (hmap ▸ List.mem_map_of_mem hc)

end ReadGate.Text
