import ReadGate.Calendar.Timestamp
import ReadGate.Proofs.Number.Numeral

/-!
# Moments that were written here

A moment on the clock of UTC is written with padded numbers, and read back from either of its texts:
the one that names the zone by a letter, and the one that writes its offset.

* `padded_two`, `padded_digits` — what padding makes of a number.
* `datePart?_text`, `timePart?_text` — the two parts of a moment.
* `timestamp_isoText`, `timestamp_zonedText` — a whole one.
-/

namespace ReadGate

open Text

/-! ## Padded numbers -/

theorem toList_padded (width n : Nat) : (padded width n).toList =
    List.replicate (width - (Nat.toDigits 10 n).length) '0' ++ Nat.toDigits 10 n := by
  simp [padded]

/-- The last digit stands behind the padded rest of the number. -/
theorem padded_succ (width n : Nat) : (padded (width + 2) n).toList =
    (padded (width + 1) (n / 10)).toList ++ [(n % 10).digitChar] := by
  rw [toList_padded, toList_padded]
  by_cases hn : n < 10
  · have hzero : n / 10 = 0 := by omega
    have hself : n % 10 = n := by omega
    rw [Nat.toDigits_of_lt_base hn, hzero, Nat.toDigits_zero, hself]
    simp [List.replicate_succ']
  · have hlength : width + 2 - ((Nat.toDigits 10 (n / 10)).length + 1) =
        width + 1 - (Nat.toDigits 10 (n / 10)).length := by omega
    rw [Nat.toDigits_of_base_le (by decide) (by omega), List.length_append, List.length_singleton,
      hlength, List.append_assoc]

theorem padded_one {n : Nat} (hn : n < 10) : (padded 1 n).toList = [n.digitChar] := by
  rw [toList_padded, Nat.toDigits_of_lt_base hn]
  rfl

theorem padded_two {n : Nat} (hn : n < 100) :
    (padded 2 n).toList = [(n / 10).digitChar, (n % 10).digitChar] := by
  rw [padded_succ 0 n, padded_one (by omega)]
  rfl

theorem padded_four {n : Nat} (hn : n < 10000) : (padded 4 n).toList =
    [(n / 1000).digitChar, (n / 100 % 10).digitChar, (n / 10 % 10).digitChar,
      (n % 10).digitChar] := by
  have hhundreds : n / 10 / 10 = n / 100 := by omega
  have hthousands : n / 100 / 10 = n / 1000 := by omega
  rw [padded_succ 2 n, padded_succ 1 (n / 10), hhundreds, padded_two (by omega), hthousands]
  rfl

/-- A number that fits its width is written with digits of that width, and these write it. -/
theorem padded_digits {width n : Nat} (hwidth : 0 < width) (hn : n < 10 ^ width) :
    (padded width n).toList.length = width ∧
    (∀ c ∈ (padded width n).toList, c.isDigit = true) ∧
    Numeral.ofDigits ((padded width n).toList.map fun c => c.toNat - 48) = n := by
  have hlength : (Nat.toDigits 10 n).length ≤ width :=
    (Nat.length_toDigits_le_iff (by decide) hwidth).2 hn
  rw [toList_padded]
  refine ⟨?_, fun c hc => ?_, ?_⟩
  · rw [List.length_append, List.length_replicate]
    omega
  · rcases List.mem_append.1 hc with hc | hc
    · rw [(List.mem_replicate.1 hc).2]
      rfl
    · exact Nat.isDigit_of_mem_toDigits (by decide) (by decide) hc
  · have hdigits := Numeral.ofDigits_toDigits n
    unfold Numeral.ofDigits at hdigits ⊢
    rw [List.map_append, List.foldl_append, List.map_replicate]
    have hzeros : ∀ k,
        List.foldl (fun m d => 10 * m + d) 0 (List.replicate k ('0'.toNat - 48)) = 0 := by
      intro k
      induction k with
      | zero => rfl
      | succ k ih => exact ih
    rw [hzeros, hdigits]

/-! ## Moments -/

/-- A moment of the years that have four digits, on the clock of UTC. -/
structure Moment.IsUtc (m : Moment) : Prop where
  year : 1 ≤ m.date.year ∧ m.date.year ≤ 9999
  month : 1 ≤ m.date.month ∧ m.date.month ≤ 12
  day : 1 ≤ m.date.day ∧ m.date.day ≤ monthDays m.date.year m.date.month
  hour : m.time.hour < 24
  minute : m.time.minute < 60
  second : m.time.second < 60
  micro : m.time.micro < 1000000
  offset : m.offset = some 0

namespace Timestamp

theorem twoDigits?_digitChar {a b : Nat} (ha : a < 10) (hb : b < 10) :
    twoDigits? a.digitChar b.digitChar = some (a * 10 + b) := by
  simp [twoDigits?, ha, hb, Nat.isDigit_digitChar, Nat.toNat_digitChar_sub_48_of_lt_ten]

/-- Two padded digits are read as the number that they write. -/
theorem twoDigits?_padded {n : Nat} (hn : n < 100) :
    twoDigits? (n / 10).digitChar (n % 10).digitChar = some n := by
  rw [twoDigits?_digitChar (by omega) (by omega)]
  congr 1
  omega

theorem monthDays_le (year month : Nat) : monthDays year month ≤ 31 := by
  unfold monthDays
  repeat' split
  all_goals omega

theorem datePart?_text {d : Date} (hyear : d.year ≤ 9999) (hmonth : 1 ≤ d.month ∧ d.month ≤ 12)
    (hday : 1 ≤ d.day ∧ d.day ≤ monthDays d.year d.month) (rest : List Char) :
    datePart? (d.text.toList ++ rest) = some (d, rest) := by
  have hdays := monthDays_le d.year d.month
  have hcentury : twoDigits? (d.year / 1000).digitChar (d.year / 100 % 10).digitChar =
      some (d.year / 100) := by
    rw [twoDigits?_digitChar (by omega) (by omega)]
    congr 1
    omega
  have hyears : twoDigits? (d.year / 10 % 10).digitChar (d.year % 10).digitChar =
      some (d.year % 100) := by
    rw [twoDigits?_digitChar (by omega) (by omega)]
    congr 1
    omega
  have hsum : d.year / 100 * 100 + d.year % 100 = d.year := by omega
  have hdash : ("-" : String).toList = ['-'] := rfl
  simp only [Date.text, String.toList_append, padded_four (show d.year < 10000 by omega),
    padded_two (show d.month < 100 by omega), padded_two (show d.day < 100 by omega), hdash,
    List.cons_append, List.nil_append, datePart?, hcentury, hyears,
    twoDigits?_padded (show d.month < 100 by omega), twoDigits?_padded (show d.day < 100 by omega),
    Option.bind_eq_bind, Option.bind_some, hsum]
  simp [hmonth, hday]

/-! ## Times -/

/-- The zones in which a moment of UTC is written. -/
inductive UtcZone : List Char → Prop
  | letter : UtcZone ['Z']
  | offset : UtcZone ['+', '0', '0', ':', '0', '0']

/-- A fraction of six digits is read as its microseconds. -/
theorem fractionPart?_micro {micro : Nat} (hmicro : micro < 1000000) {zone : List Char}
    (hzone : UtcZone zone) :
    fractionPart? ((if micro = 0 then "" else "." ++ padded 6 micro).toList ++ zone) =
      some (micro, zone) := by
  by_cases hzero : micro = 0
  · rw [if_pos hzero, hzero]
    cases hzone <;> rfl
  · obtain ⟨hlength, hdigits, hvalue⟩ := padded_digits (n := micro) (show 0 < 6 by decide) hmicro
    have hstop : Stops Char.isDigit zone := by cases hzone <;> simp
    have hsome : (padded 6 micro).toList ≠ [] := by
      rintro heq
      rw [heq] at hlength
      cases hlength
    have hrun : IsRun Char.isDigit (padded 6 micro).toList := ⟨hsome, hdigits⟩
    -- six digits are neither filled up nor cut
    have hmicros : microOf (padded 6 micro).toList = micro := by
      rw [microOf, List.take_append_of_le_length (by omega), List.take_of_length_le (by omega)]
      exact hvalue
    have hdot : ("." : String).toList = ['.'] := rfl
    rw [if_neg hzero, String.toList_append, hdot, List.append_assoc, List.singleton_append]
    simp [fractionPart?, hrun.takeWhile_append hstop, hrun.dropWhile_append hstop, hsome, hmicros]

theorem timePart?_text {t : Time} (hhour : t.hour < 24) (hminute : t.minute < 60)
    (hsecond : t.second < 60) (hmicro : t.micro < 1000000) {zone : List Char}
    (hzone : UtcZone zone) : timePart? (t.text.toList ++ zone) = some (t, zone) := by
  have hfraction := fractionPart?_micro hmicro hzone
  have hcolon : (":" : String).toList = [':'] := rfl
  have htext : t.text.toList ++ zone =
      (t.hour / 10).digitChar :: (t.hour % 10).digitChar :: ':' ::
        (t.minute / 10).digitChar :: (t.minute % 10).digitChar :: ':' ::
          (t.second / 10).digitChar :: (t.second % 10).digitChar ::
            ((if t.micro = 0 then "" else "." ++ padded 6 t.micro).toList ++ zone) := by
    simp only [Time.text, String.toList_append, padded_two (show t.hour < 100 by omega),
      padded_two (show t.minute < 100 by omega), padded_two (show t.second < 100 by omega), hcolon,
      List.cons_append, List.nil_append]
  rw [htext]
  simp only [timePart?, secondPart?, twoDigits?_padded (show t.hour < 100 by omega),
    twoDigits?_padded (show t.minute < 100 by omega),
    twoDigits?_padded (show t.second < 100 by omega), hfraction, Option.bind_eq_bind,
    Option.bind_some, if_pos hsecond]
  simp [hhour, hminute]

/-! ## Whole moments -/

theorem calendarText?_written {m : Moment} (h : m.IsUtc) {zone : List Char}
    (hzone : UtcZone zone) :
    calendarText? (m.date.text.toList ++ 'T' :: (m.time.text.toList ++ zone)) = some m := by
  have hdate := datePart?_text h.year.2 h.month h.day ('T' :: (m.time.text.toList ++ zone))
  have htime := timePart?_text h.hour h.minute h.second h.micro hzone
  have hoffset : offsetPart? zone = some m.offset := by
    rw [h.offset]
    cases hzone <;> rfl
  have hseparator : isSeparator 'T' = true := rfl
  simp only [calendarText?, hdate, htime, hoffset, hseparator, Option.bind_eq_bind,
    Option.bind_some, if_true, Option.pure_def]

/-- A moment is read back from its text with either zone. -/
theorem timestamp_written {m : Moment} (h : m.IsUtc) {zone : List Char} (hzone : UtcZone zone)
    {text : String}
    (htext : text.toList = m.date.text.toList ++ 'T' :: (m.time.text.toList ++ zone)) :
    Record.timestamp (.text text) = .ok m := by
  have hyear : m.date.year ≠ 0 := by
    have hfirst := h.year.1
    omega
  have hread : ofText? text = some m := by
    unfold ofText?
    rw [htext, calendarText?_written h hzone]
    rfl
  simp only [Record.timestamp, hread, if_neg hyear]

end Timestamp

theorem timestamp_isoText {m : Moment} (h : m.IsUtc) :
    Record.timestamp (.text m.isoText) = .ok m := by
  refine Timestamp.timestamp_written h .offset ?_
  have hoffset : (offsetText 0).toList = ['+', '0', '0', ':', '0', '0'] := by decide
  have hmark : ("T" : String).toList = ['T'] := rfl
  simp [Moment.isoText, Moment.textWith, h.offset, hoffset, hmark]

theorem timestamp_zonedText {m : Moment} (h : m.IsUtc) :
    Record.timestamp (.text m.zonedText) = .ok m := by
  refine Timestamp.timestamp_written h .letter ?_
  have hzone : (zoneText 0).toList = ['Z'] := by decide
  have hmark : ("T" : String).toList = ['T'] := rfl
  simp [Moment.zonedText, h.offset, hzone, hmark]

end ReadGate
