import ReadGate.Proofs.Json.Documents

/-!
# Strings, numbers and words where they stand

A string, a number or a word is read from the characters up to its end.  None of these is a control
character, and what stands behind them is not looked at, unless it could go on with a number.

* `Takes` — characters that are read as the same part wherever they stand.
* `Extends` — whatever a function reads, it takes.
* `string_extent`, `number_extent`, `scalar_extent` — the scalars do.
-/

namespace ReadGate.Json

open Text

/-- The character may stand in a document: only white space is a control character. -/
def Printed (c : Char) : Prop :=
  0x20 ≤ c.toNat ∨ isSpace c = true

/-- Anything may stand behind. -/
abbrev Anything : List Char → Prop := fun _ => True

/-- The characters are read as `a`, whatever stands behind them, as long as it fits. -/
structure Takes {α : Type} (fits : List Char → Prop) (parse : List Char → Parsed α)
    (used : List Char) (a : α) : Prop where
  ne_nil : used ≠ []
  printed : ∀ c ∈ used, Printed c
  reads : ∀ tail, fits tail → parse (used ++ tail) = .ok (a, tail)

/-- What the first function reads before anything that fits, the second one takes. -/
def Extends {α : Type} (fits : List Char → Prop) (parse parse' : List Char → Parsed α) : Prop :=
  ∀ cs a rest, parse cs = .ok (a, rest) → fits rest →
    ∃ used, cs = used ++ rest ∧ Takes fits parse' used a

variable {α β : Type} {fits : List Char → Prop} {dialect : Dialect} {rest used used' : List Char}

theorem exists_of_map_ok {x : Except ReadError α} {f : α → β} {b : β} (h : x.map f = .ok b) :
    ∃ a, x = .ok a ∧ f a = b := by
  cases x with
  | error e => cases h
  | ok a => exact ⟨a, rfl, Except.ok.inj h⟩

/-! ## Strings -/

theorem printed_of_hexValue? {c : Char} {n : Nat} (h : hexValue? c = some n) : Printed c := by
  left
  rcases Nat.lt_or_ge c.toNat 0x80 with hascii | hbeyond
  · have htable : ∀ code < 0x80, hexValue? (Char.ofNat code) ≠ none →
        0x20 ≤ (Char.ofNat code).toNat := by decide
    have hdigit := of_ascii (P := fun c => hexValue? c ≠ none → 0x20 ≤ c.toNat) htable hascii
    exact hdigit (by simp [h])
  · omega

theorem printed_of_hexUnit? {a b c d : Char} {unit : Nat} (h : hexUnit? a b c d = some unit) :
    ∀ x ∈ [a, b, c, d], Printed x := by
  obtain ⟨_, ha, h⟩ := Option.bind_eq_some_iff.1 h
  obtain ⟨_, hb, h⟩ := Option.bind_eq_some_iff.1 h
  obtain ⟨_, hc, h⟩ := Option.bind_eq_some_iff.1 h
  obtain ⟨_, hd, -⟩ := Option.bind_eq_some_iff.1 h
  simp [printed_of_hexValue? ha, printed_of_hexValue? hb, printed_of_hexValue? hc,
    printed_of_hexValue? hd]

theorem printed_of_escaped? {c e : Char} (h : escaped? c = some e) : Printed c := by
  unfold escaped? at h
  split at h
  all_goals first
    | exact .inl (by decide)
    | cases h

/-- A code takes the characters that are read as this code. -/
theorem Takes.andCode {start code : Nat} {codes : List Nat}
    (h : Takes fits (stringCodes start) used codes) (lead : List Char)
    (hlead : ∀ c ∈ lead, Printed c)
    (hstep : ∀ more ≠ [], stringCodes start (lead ++ more) =
      Json.andCode code (stringCodes start more)) :
    Takes fits (stringCodes start) (lead ++ used) (code :: codes) where
  ne_nil := List.append_ne_nil_of_right_ne_nil lead h.ne_nil
  printed := List.forall_mem_append.2 ⟨hlead, h.printed⟩
  reads tail htail := by
    have hmore : used ++ tail ≠ [] := List.append_ne_nil_of_left_ne_nil h.ne_nil tail
    rw [List.append_assoc, hstep _ hmore, h.reads tail htail]
    rfl

theorem eq_of_andCode {code : Nat} {x : Parsed (List Nat)} {codes : List Nat}
    (h : andCode code x = .ok (codes, rest)) :
    ∃ more, x = .ok (more, rest) ∧ codes = code :: more := by
  cases x with
  | error e => cases h
  | ok p =>
    cases h
    exact ⟨p.1, rfl, rfl⟩

/-- A string takes its characters up to the closing quote. -/
theorem stringCodes_extent {start : Nat} {cs : List Char} {codes : List Nat}
    (h : stringCodes start cs = .ok (codes, rest)) :
    ∃ used, cs = used ++ rest ∧ ∀ start, Takes Anything (stringCodes start) used codes := by
  induction cs using stringCodes.induct generalizing codes rest with
  | case1 => cases h
  | case2 more =>
    cases h
    refine ⟨['"'], rfl, fun start => ⟨by simp, ?_, fun tail _ => rfl⟩⟩
    simp [Printed]
  | case3 => cases h
  | case4 a b c d more unit hunit hend =>
    simp [stringCodes, hunit, hend] at h
  | case5 a b c d more unit hunit hend ih =>
    have hread (t : List Char) (ht : t ≠ []) (start : Nat) :
        stringCodes start ('\\' :: 'u' :: a :: b :: c :: d :: t) =
          andCode unit (stringCodes start t) := by
      simp [stringCodes, hunit, ht]
    rw [hread more (by simpa using hend)] at h
    obtain ⟨codes, hcodes, rfl⟩ := eq_of_andCode h
    obtain ⟨used, rfl, hused⟩ := ih hcodes
    have hlead : ∀ x ∈ ['\\', 'u', a, b, c, d], Printed x :=
      List.forall_mem_cons.2 ⟨.inl (by decide),
        List.forall_mem_cons.2 ⟨.inl (by decide), printed_of_hexUnit? hunit⟩⟩
    exact ⟨_, rfl, fun start => (hused start).andCode _ hlead fun t ht => hread t ht start⟩
  | case6 a b c d more hunit =>
    simp [stringCodes, hunit] at h
  | case7 more hshort =>
    rw [stringCodes] at h
    · cases h
    · exact hshort
  | case8 c more hlong hu e he ih =>
    have hread (t : List Char) (start : Nat) :
        stringCodes start ('\\' :: c :: t) = andCode e.toNat (stringCodes start t) := by
      rw [stringCodes.eq_def]
      simp_all
    rw [hread] at h
    obtain ⟨codes, hcodes, rfl⟩ := eq_of_andCode h
    obtain ⟨used, rfl, hused⟩ := ih hcodes
    have hlead : ∀ x ∈ ['\\', c], Printed x :=
      List.forall_mem_cons.2 ⟨.inl (by decide), List.forall_mem_singleton.2 (printed_of_escaped? he)⟩
    exact ⟨_, rfl, fun start => (hused start).andCode _ hlead fun t _ => hread t start⟩
  | case9 c more hlong hu he =>
    rw [stringCodes.eq_def] at h
    simp_all
  | case10 c more hquote hslash hunit hu hescape hcontrol =>
    rw [stringCodes.eq_def] at h
    simp_all
  | case11 c more hquote hslash hunit hu hescape hcontrol ih =>
    have hplain : c ≠ '\\' := by
      rintro rfl
      cases more with
      | nil => exact hslash rfl rfl
      | cons d more => exact hescape d more rfl rfl
    have hshort : shortEscape? c = none := by
      unfold shortEscape?
      split <;> simp_all
    rw [stringCodes_plain start hshort hcontrol] at h
    obtain ⟨codes, hcodes, rfl⟩ := eq_of_andCode h
    obtain ⟨used, rfl, hused⟩ := ih hcodes
    have hlead : ∀ x ∈ [c], Printed x := List.forall_mem_singleton.2 (.inl (by omega))
    exact ⟨_, rfl, fun start => (hused start).andCode _ hlead fun t _ =>
      stringCodes_plain start hshort hcontrol t⟩

theorem string_extent (dialect : Dialect) :
    Extends Anything (string dialect) (string dialect) := by
  intro cs codes rest h _
  unfold string at h
  split at h
  · rename_i units more hunits
    split at h
    · cases h
    · rename_i hwhole
      cases h
      obtain ⟨used, hsplit, hused⟩ := stringCodes_extent hunits
      refine ⟨used, hsplit, (hused 0).ne_nil, (hused 0).printed, fun tail _ => ?_⟩
      have hread := (hused ((used ++ tail).length + 1)).reads tail trivial
      simp only [string, hread, hwhole, Bool.false_eq_true, if_false]
  · cases h

/-! ## Numbers -/

/-- The character may go on with the digits of a number, before or behind its point. -/
def isFractional (c : Char) : Bool :=
  isDecimal c || c == '.'

/-- The character may go on with a number. -/
def isNumeric (c : Char) : Bool :=
  isFractional c || c == 'e' || c == 'E'

theorem isFractional_of_isDecimal {c : Char} (h : isDecimal c = true) : isFractional c = true := by
  simp [isFractional, h]

theorem isNumeric_of_isFractional {c : Char} (h : isFractional c = true) : isNumeric c = true := by
  simp [isNumeric, h]

theorem toNat_of_isDecimal {c : Char} (h : isDecimal c = true) : 48 ≤ c.toNat ∧ c.toNat ≤ 57 := by
  simpa [isDecimal, Char.le_def, UInt32.le_iff_toNat_le] using h

theorem printed_of_isDecimal {c : Char} (h : isDecimal c = true) : Printed c := by
  exact .inl (Nat.le_trans (by decide) (toNat_of_isDecimal h).1)

/-- The whole part of a number: digits, up to one that it does not need. -/
theorem wholePart?_extent {cs whole rest : List Char} (h : wholePart? cs = some (whole, rest)) :
    cs = whole ++ rest ∧ (∃ d ds, whole = d :: ds ∧ isDecimal d = true) ∧
      (∀ c ∈ whole, Printed c) ∧
      ∀ tail, Stops isDecimal tail → wholePart? (whole ++ tail) = some (whole, tail) := by
  unfold wholePart? at h
  split at h
  · cases h
  · cases h
    refine ⟨rfl, ⟨'0', [], rfl, rfl⟩, ?_, fun tail _ => rfl⟩
    simp [Printed]
  · rename_i c more hzero
    split at h
    · rename_i hc
      cases h
      have hrun : IsRun isDecimal (c :: more.takeWhile isDecimal) := IsRun.cons_takeWhile hc
      refine ⟨by simp, ⟨c, _, rfl, hc⟩, fun d hd => printed_of_isDecimal (hrun.all d hd), ?_⟩
      intro tail htail
      rw [List.cons_append, wholePart?, if_pos hc, htail.takeWhile_again, htail.dropWhile_again]
      exact hzero
    · cases h

/-- The digits behind a point, with the point. -/
theorem fractionPart_extent {cs fraction rest : List Char}
    (h : fractionPart cs = (fraction, rest)) :
    ∃ used, cs = used ++ rest ∧ Stops isDecimal used ∧ (∀ c ∈ used, Printed c) ∧
      ∀ tail, Stops isFractional tail → fractionPart (used ++ tail) = (fraction, tail) := by
  have hnone (tail : List Char) (htail : Stops isFractional tail) :
      fractionPart tail = ([], tail) := by
    unfold fractionPart
    split
    · simp [isFractional] at htail
    · rfl
  unfold fractionPart at h
  split at h
  · rename_i c more
    split at h
    · rename_i hc
      cases h
      have hrun : IsRun isDecimal (c :: more.takeWhile isDecimal) := IsRun.cons_takeWhile hc
      have hprinted : ∀ d ∈ c :: more.takeWhile isDecimal, Printed d :=
        fun d hd => printed_of_isDecimal (hrun.all d hd)
      refine ⟨'.' :: c :: more.takeWhile isDecimal, by simp, stops_cons.2 rfl,
        List.forall_mem_cons.2 ⟨.inl (by decide), hprinted⟩, fun tail htail => ?_⟩
      have hstop := htail.mono fun _ => isFractional_of_isDecimal
      simp only [List.cons_append, fractionPart, hc, if_true, hstop.takeWhile_again,
        hstop.dropWhile_again]
    · cases h
      exact ⟨[], rfl, stops_nil, by simp, hnone⟩
  · cases h
    exact ⟨[], rfl, stops_nil, by simp, hnone⟩

/-- A sign stands before anything that starts with a digit. -/
theorem splitSign_extent (cs : List Char) :
    ∃ sign, cs = sign ++ (Numeral.splitSign cs).2 ∧ (∀ c ∈ sign, Printed c) ∧
      ∀ run tail, IsRun isDecimal run →
        Numeral.splitSign (sign ++ (run ++ tail)) = ((Numeral.splitSign cs).1, run ++ tail) := by
  unfold Numeral.splitSign
  split
  · exact ⟨['-'], rfl, by simp [Printed], fun _ _ _ => rfl⟩
  · exact ⟨['+'], rfl, by simp [Printed], fun _ _ _ => rfl⟩
  · refine ⟨[], rfl, by simp, fun run tail hrun => ?_⟩
    obtain ⟨d, ds, rfl, hd⟩ := hrun.exists_cons
    exact Numeral.splitSign_cons (ne_of_isDecimal hd rfl) (ne_of_isDecimal hd rfl) (ds ++ tail)

/-- The digits of an exponent, with its letter and its sign. -/
theorem exponentPart_extent {cs rest : List Char} {exponent : Option Int}
    (h : exponentPart cs = (exponent, rest)) :
    ∃ used, cs = used ++ rest ∧ Stops isFractional used ∧ (∀ c ∈ used, Printed c) ∧
      ∀ tail, Stops isNumeric tail → exponentPart (used ++ tail) = (exponent, tail) := by
  have hnone (tail : List Char) (htail : Stops isNumeric tail) :
      exponentPart tail = (none, tail) := by
    unfold exponentPart
    split
    · rename_i c more
      have hletter := stops_cons.1 htail
      simp only [isNumeric, Bool.or_eq_false_iff, beq_eq_false_iff_ne] at hletter
      simp [hletter.1.2, hletter.2]
    · rfl
  unfold exponentPart at h
  split at h
  · rename_i c more
    split at h
    · rename_i hletter
      dsimp only at h
      split at h
      · cases h
        exact ⟨[], rfl, stops_nil, by simp, hnone⟩
      · rename_i hdigits
        cases h
        obtain ⟨sign, hsign, hprinted, hread⟩ := splitSign_extent more
        have hrun : IsRun isDecimal ((Numeral.splitSign more).2.takeWhile isDecimal) :=
          ⟨by simpa using hdigits, fun d hd => List.all_eq_true.1 List.all_takeWhile d hd⟩
        have hc : isFractional c = false ∧ Printed c := by
          simp only [Bool.or_eq_true, decide_eq_true_eq] at hletter
          rcases hletter with rfl | rfl <;> exact ⟨rfl, .inl (by decide)⟩
        refine ⟨c :: (sign ++ (Numeral.splitSign more).2.takeWhile isDecimal), ?_,
          stops_cons.2 hc.1, ?_, fun tail htail => ?_⟩
        · rw [List.cons_append, List.append_assoc, List.takeWhile_append_dropWhile, ← hsign]
        · refine List.forall_mem_cons.2 ⟨hc.2, List.forall_mem_append.2 ⟨hprinted, ?_⟩⟩
          exact fun d hd => printed_of_isDecimal (hrun.all d hd)
        · have hstop := htail.mono fun c hc =>
            isNumeric_of_isFractional (isFractional_of_isDecimal hc)
          rw [List.cons_append, List.append_assoc, exponentPart, if_pos hletter, hread _ tail hrun]
          simp only [hstop.takeWhile_again, hstop.dropWhile_again, hdigits, Bool.false_eq_true,
            if_false]
    · cases h
      exact ⟨[], rfl, stops_nil, by simp, hnone⟩
  · cases h
    exact ⟨[], rfl, stops_nil, by simp, hnone⟩

/-- The number that three parts write. -/
def ofParts (negative : Bool) (whole fraction : List Char) (exponent : Option Int) :
    Except ReadError Value :=
  if fraction.isEmpty && exponent.isNone then
    match Numeral.natOfDigits (whole.map fun d => d.toNat - 48) with
    | .ok n => .ok (.int (if negative then -(n : Int) else n))
    | .error e => .error (.numeral e)
  else
    .ok (.float (.ofDecimal negative (natOf (whole ++ fraction))
      (exponent.getD 0 - fraction.length)))

theorem unsignedNumber?_of_parts {negative : Bool} {cs whole fraction point power rest : List Char}
    {exponent : Option Int} (hwhole : wholePart? cs = some (whole, point))
    (hpoint : fractionPart point = (fraction, power))
    (hpower : exponentPart power = (exponent, rest)) :
    unsignedNumber? negative cs =
      some ((ofParts negative whole fraction exponent).map fun v => (v, rest)) := by
  simp only [unsignedNumber?, hwhole, bind, Option.bind, hpoint, hpower, ofParts]
  split
  · cases Numeral.natOfDigits (whole.map fun d => d.toNat - 48) <;> rfl
  · rfl

/-- A number without its sign takes its three parts. -/
theorem unsignedNumber?_extent {negative : Bool} {cs rest : List Char} {v : Value}
    (h : unsignedNumber? negative cs = some (.ok (v, rest))) :
    ∃ used, cs = used ++ rest ∧ (∃ d ds, used = d :: ds ∧ isDecimal d = true) ∧
      (∀ c ∈ used, Printed c) ∧ ∀ tail, Stops isNumeric tail →
        unsignedNumber? negative (used ++ tail) = some (.ok (v, tail)) := by
  obtain ⟨⟨whole, afterWhole⟩, hwhole, -⟩ := Option.bind_eq_some_iff.1 h
  cases hfraction : fractionPart afterWhole with
  | mk fraction afterPoint =>
    cases hexponent : exponentPart afterPoint with
    | mk exponent left =>
      rw [unsignedNumber?_of_parts hwhole hfraction hexponent] at h
      obtain ⟨w, hparts, hw⟩ := exists_of_map_ok (Option.some.inj h)
      cases hw
      obtain ⟨hsplit, ⟨d, ds, hd, hdecimal⟩, hprinted, hreads⟩ := wholePart?_extent hwhole
      obtain ⟨point, hsplit', hstops', hprinted', hreads'⟩ := fractionPart_extent hfraction
      obtain ⟨power, hsplit'', hstops'', hprinted'', hreads''⟩ := exponentPart_extent hexponent
      refine ⟨whole ++ (point ++ power), ?_, ⟨d, ds ++ (point ++ power), ?_, hdecimal⟩, ?_, ?_⟩
      · rw [hsplit, hsplit', hsplit'', List.append_assoc, List.append_assoc]
      · rw [hd, List.cons_append]
      · exact List.forall_mem_append.2 ⟨hprinted, List.forall_mem_append.2 ⟨hprinted', hprinted''⟩⟩
      · intro tail htail
        have hpower : Stops isFractional (power ++ tail) :=
          hstops''.append (htail.mono fun _ => isNumeric_of_isFractional)
        have hpoint : Stops isDecimal (point ++ (power ++ tail)) :=
          hstops'.append (hpower.mono fun _ => isFractional_of_isDecimal)
        rw [List.append_assoc, List.append_assoc,
          unsignedNumber?_of_parts (hreads _ hpoint) (hreads' _ hpower) (hreads'' tail htail), hparts]
        rfl

theorem signedNumber?_extent {cs rest : List Char} {v : Value}
    (h : signedNumber? cs = some (.ok (v, rest))) :
    ∃ used, cs = used ++ rest ∧
      (∃ d ds, isDecimal d = true ∧ (used = d :: ds ∨ used = '-' :: d :: ds)) ∧
      (∀ c ∈ used, Printed c) ∧ ∀ tail, Stops isNumeric tail →
        signedNumber? (used ++ tail) = some (.ok (v, tail)) := by
  unfold signedNumber? at h
  split at h
  · obtain ⟨used, hsplit, ⟨d, ds, hd, hdecimal⟩, hprinted, hreads⟩ := unsignedNumber?_extent h
    refine ⟨'-' :: used, ?_, ⟨d, ds, hdecimal, .inr ?_⟩,
      List.forall_mem_cons.2 ⟨.inl (by decide), hprinted⟩, fun tail htail => hreads tail htail⟩
    · rw [hsplit, List.cons_append]
    · rw [hd]
  · obtain ⟨used, hsplit, ⟨d, ds, hd, hdecimal⟩, hprinted, hreads⟩ := unsignedNumber?_extent h
    refine ⟨used, hsplit, ⟨d, ds, hdecimal, .inl hd⟩, hprinted, fun tail htail => ?_⟩
    rw [← hreads tail htail, hd, List.cons_append, signedNumber?]
    rintro _ ⟨⟩
    cases hdecimal

/-- How long a number is does not depend on what stands behind it. -/
theorem isLongNumber_append {tail : List Char} (hne : used ≠ []) (hrest : Stops isDecimal rest)
    (htail : Stops isDecimal tail) : isLongNumber (used ++ tail) = isLongNumber (used ++ rest) := by
  cases used with
  | nil => exact absurd rfl hne
  | cons c cs =>
    by_cases hminus : c = '-'
    · subst hminus
      simp only [isLongNumber, List.cons_append, hrest.takeWhile_append, htail.takeWhile_append]
    · have hbody (more : List Char) (hmore : Stops isDecimal more) :
          isLongNumber (c :: cs ++ more) =
            decide (maxDigits < ((c :: cs).takeWhile isDecimal).length + 0) := by
        unfold isLongNumber
        split
        rename_i negative body heq
        split at heq
        · rename_i hcons
          cases hcons
          exact absurd rfl hminus
        · cases heq
          rw [hmore.takeWhile_append]
          rfl
      rw [hbody tail htail, hbody rest hrest]

/-- A number takes its characters, where nothing goes on with it. -/
theorem number_extent (dialect : Dialect) :
    Extends (Stops isNumeric) (number dialect) (number dialect) := by
  intro cs v rest h hrest
  unfold number at h
  split at h
  · cases h
  · rename_i hlong
    cases hsigned : signedNumber? cs with
    | none =>
      rw [hsigned] at h
      cases h
    | some x =>
      rw [hsigned] at h
      obtain rfl : x = .ok (v, rest) := h
      obtain ⟨used, rfl, ⟨d, ds, -, hused⟩, hprinted, hreads⟩ := signedNumber?_extent hsigned
      have hne : used ≠ [] := by rcases hused with rfl | rfl <;> simp
      refine ⟨used, rfl, hne, hprinted, fun tail htail => ?_⟩
      have hdecimal (c : Char) (hc : isDecimal c = true) : isNumeric c = true :=
        isNumeric_of_isFractional (isFractional_of_isDecimal hc)
      rw [number, isLongNumber_append hne (hrest.mono hdecimal) (htail.mono hdecimal), if_neg hlong,
        hreads tail htail]
      rfl

/-- A number starts with a digit, perhaps behind a minus sign. -/
theorem number_start {cs : List Char} {v : Value} (h : number dialect cs = .ok (v, rest)) :
    ∃ d ds, isDecimal d = true ∧ (cs = d :: ds ∨ cs = '-' :: d :: ds) := by
  unfold number at h
  split at h
  · cases h
  · cases hsigned : signedNumber? cs with
    | none =>
      rw [hsigned] at h
      cases h
    | some x =>
      rw [hsigned] at h
      obtain rfl : x = .ok (v, rest) := h
      obtain ⟨used, rfl, ⟨d, ds, hd, hused⟩, -, -⟩ := signedNumber?_extent hsigned
      refine ⟨d, ds ++ rest, hd, hused.imp ?_ ?_⟩ <;> rintro rfl <;> rfl

/-! ## Words -/

/-- A number starts no word. -/
theorem scalar_of_number {cs : List Char} {v : Value} (h : number dialect cs = .ok (v, rest)) :
    scalar dialect cs = .ok (v, rest) := by
  obtain ⟨d, ds, hd, rfl | rfl⟩ := number_start h
  · rw [scalar_digit hd, h]
  · have hI : 'I' ≠ d := (ne_of_isDecimal hd rfl).symm
    have hwords : words.find? (·.1.isPrefixOf ('-' :: d :: ds)) = none := by
      simp [words, List.isPrefixOf, hI]
    rw [scalar, hwords]
    exact h

/-- A word is made of characters of ASCII that are no white space and open nothing. -/
theorem words_plain {word : List Char} {v : Value} (h : (word, v) ∈ words) :
    word ≠ [] ∧ ∀ c ∈ word, 0x20 < c.toNat ∧ c.toNat < 0x80 ∧ isOpening c = false := by
  have htable : ∀ entry ∈ words, entry.1 ≠ [] ∧ (entry.1.all fun c =>
      decide (0x20 < c.toNat) && decide (c.toNat < 0x80) && !isOpening c) = true := by decide
  obtain ⟨hne, hall⟩ := htable (word, v) h
  refine ⟨hne, fun c hc => ?_⟩
  have hplain := List.all_eq_true.1 hall c hc
  simp only [Bool.and_eq_true, decide_eq_true_eq, Bool.not_eq_true'] at hplain
  exact ⟨hplain.1.1, hplain.1.2, hplain.2⟩

theorem scalar_word {word : List Char} {v : Value} (h : (word, v) ∈ words) (tail : List Char) :
    scalar dialect (word ++ tail) = .ok (v, tail) := by
  simp only [words, List.mem_cons, Prod.mk.injEq, List.not_mem_nil, or_false] at h
  rcases h with ⟨rfl, rfl⟩ | ⟨rfl, rfl⟩ | ⟨rfl, rfl⟩ | ⟨rfl, rfl⟩ | ⟨rfl, rfl⟩ | ⟨rfl, rfl⟩ <;> rfl

/-- A word or a number takes its characters, where nothing goes on with a number. -/
theorem scalar_extent (dialect : Dialect) :
    Extends (Stops isNumeric) (scalar dialect) (scalar dialect) := by
  intro cs v rest h hrest
  unfold scalar at h
  split at h
  · rename_i word w hfind
    cases h
    have hword := List.mem_of_find?_eq_some hfind
    obtain ⟨hne, hplain⟩ := words_plain hword
    have hlead := List.find?_some hfind
    obtain ⟨more, rfl⟩ := List.isPrefixOf_iff_prefix.1 hlead
    refine ⟨word, by simp, hne, fun c hc => .inl (Nat.le_of_lt (hplain c hc).1), ?_⟩
    exact fun tail _ => scalar_word hword tail
  · obtain ⟨used, hsplit, htakes⟩ := number_extent dialect cs v rest h hrest
    refine ⟨used, hsplit, htakes.ne_nil, htakes.printed, fun tail htail => ?_⟩
    exact scalar_of_number (htakes.reads tail htail)

/-- A word or a number starts with a character of ASCII that is no white space and opens nothing. -/
theorem scalar_start {cs : List Char} {v : Value} (h : scalar dialect cs = .ok (v, rest)) :
    ∃ c more, cs = c :: more ∧ 0x20 < c.toNat ∧ c.toNat < 0x80 ∧ isOpening c = false := by
  unfold scalar at h
  split at h
  · rename_i word w hfind
    obtain ⟨hne, hplain⟩ := words_plain (List.mem_of_find?_eq_some hfind)
    obtain ⟨c, letters, rfl⟩ := List.exists_cons_of_ne_nil hne
    have hlead := List.find?_some hfind
    obtain ⟨more, rfl⟩ := List.isPrefixOf_iff_prefix.1 hlead
    exact ⟨c, letters ++ more, rfl, hplain c List.mem_cons_self⟩
  · obtain ⟨d, ds, hd, rfl | rfl⟩ := number_start h
    · obtain ⟨hlow, hhigh⟩ := toNat_of_isDecimal hd
      exact ⟨d, ds, rfl, by omega, by omega, isOpening_of_isDecimal hd⟩
    · exact ⟨'-', d :: ds, rfl, by decide, by decide, rfl⟩

theorem scalar_stops {cs : List Char} {v : Value} (h : scalar dialect cs = .ok (v, rest)) :
    Stops isOpening cs := by
  obtain ⟨c, more, rfl, -, -, hopening⟩ := scalar_start h
  exact stops_cons.2 hopening

end ReadGate.Json
