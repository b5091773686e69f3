import ReadGate.Proofs.Json.Strings
import ReadGate.Proofs.Number.Numeral

/-!
# Documents that were written here

A record is written as an object without white space.  Each of its values is read back up to the
comma or the brace behind it, so the whole object is.

* `read_of_chars` — a document with one value.
* `Writes` — characters that are read as a value, wherever they stand in an object.
* `writes_text`, `writes_nat`, `writes_bool`, `writes_null` — the scalars of a record.
* `fields_written` — the fields of an object, by induction on what is left of them.
* `read_written` — an object on a line of its own.
-/

namespace ReadGate.Json

open Text Numeral

variable {dialect : Dialect}

/-- A document is read if it holds one value, and nothing but white space behind it. -/
theorem read_of_chars {document : String} {v : Value} {rest : List Char} (cs : List Char)
    (hcs : document.toList = cs) (hmark : cs.head? ≠ some '\uFEFF')
    (hvalue : value dialect (2 * cs.length + 2) dialect.depth (skipSpace cs) = .ok (v, rest))
    (hrest : (skipSpace rest).isEmpty = true) : read dialect document = .ok v := by
  simp only [read, hcs, if_neg hmark, hvalue, hrest, if_true]

/-! ## Values in an object -/

/-- What stands behind a value in an object without white space. -/
inductive Ends : List Char → Prop
  | comma (rest : List Char) : Ends (',' :: rest)
  | brace (rest : List Char) : Ends ('\x7d' :: rest)

/-- The characters stay on their line, and are read as the value where they stand in an object. -/
structure Writes (dialect : Dialect) (cs : List Char) (v : Value) : Prop where
  inline : Inline cs
  solid : ∀ rest, skipSpace (cs ++ rest) = cs ++ rest
  reads : ∀ fuel depth rest, Ends rest →
    value dialect (fuel + 1) depth (cs ++ rest) = .ok (v, rest)

theorem skipSpace_cons {c : Char} (h : isSpace c = false) (rest : List Char) :
    skipSpace (c :: rest) = c :: rest :=
  List.dropWhile_cons_of_neg (by simp [h])

theorem writes_text (s : String) : Writes dialect (compactString s) (.text s) where
  inline := compactString_inline s
  solid rest := skipSpace_cons rfl _
  reads fuel depth rest _ := by
    have hread := string_compact dialect s rest
    show value dialect (fuel + 1) depth
      ('"' :: (s.toList.flatMap compactChar ++ ['"'] ++ rest)) = _
    rw [List.append_assoc, List.singleton_append, value, hread]
    show Except.ok (stringValue (s.toList.map (·.toNat)), rest) = _
    rw [stringValue_toNat]

theorem writes_null : Writes dialect "null".toList .null where
  inline := by decide
  solid _ := skipSpace_cons rfl _
  reads _ _ _ _ := rfl

theorem writes_bool (b : Bool) : Writes dialect (bool b) (.bool b) where
  inline := by cases b <;> decide
  solid _ := by cases b <;> exact skipSpace_cons rfl _
  reads _ _ _ _ := by cases b <;> rfl

/-! ## Numbers -/

theorem isDecimal_of_mem_toDigits {n : Nat} {c : Char} (h : c ∈ Nat.toDigits 10 n) :
    isDecimal c = true := by
  have hdigit := Nat.isDigit_of_mem_toDigits (by decide) (by decide) h
  simpa [isDecimal, Char.isDigit, Char.le_def] using hdigit

theorem ne_of_isDecimal {c d : Char} (hc : isDecimal c = true) (hd : isDecimal d = false) :
    c ≠ d := by
  rintro rfl
  rw [hc] at hd
  cases hd

/-- The character opens a string, an object or a list. -/
def isOpening (c : Char) : Bool :=
  c == '"' || c == '\x7b' || c == '['

theorem isOpening_of_isDecimal {c : Char} (hc : isDecimal c = true) : isOpening c = false := by
  have hne (d : Char) (hd : isDecimal d = false) : c ≠ d := ne_of_isDecimal hc hd
  simp [isOpening, hne '"' rfl, hne '\x7b' rfl, hne '[' rfl]

/-- What opens nothing is a word or a number. -/
theorem value_scalar {cs : List Char} (h : Stops isOpening cs) (fuel depth : Nat) :
    value dialect (fuel + 1) depth cs = scalar dialect cs := by
  rw [value.eq_def]
  split
  · rename_i heq
    cases heq
  · rename_i heq
    cases heq
    split
    · cases stops_cons.1 h
    · cases stops_cons.1 h
    · cases stops_cons.1 h
    · rfl

/-- A digit starts no word. -/
theorem scalar_digit {c : Char} (hc : isDecimal c = true) (cs : List Char) :
    scalar dialect (c :: cs) = number dialect (c :: cs) := by
  have hne (d : Char) (hd : isDecimal d = false) : d ≠ c := (ne_of_isDecimal hc hd).symm
  have hwords : words.find? (·.1.isPrefixOf (c :: cs)) = none := by
    simp [words, List.isPrefixOf, hne 'n' rfl, hne 't' rfl, hne 'f' rfl, hne 'N' rfl, hne 'I' rfl,
      hne '-' rfl]
  rw [scalar, hwords]

theorem value_digit {c : Char} (hc : isDecimal c = true) (fuel depth : Nat) (cs : List Char) :
    value dialect (fuel + 1) depth (c :: cs) = number dialect (c :: cs) := by
  rw [value_scalar (stops_cons.2 (isOpening_of_isDecimal hc)), scalar_digit hc]

/-- Only the number zero is written with a zero in front. -/
theorem toDigits_head (n : Nat) : ∃ c cs, Nat.toDigits 10 n = c :: cs ∧ (c = '0' → cs = []) := by
  induction n using Nat.strongRecOn with
  | ind n ih =>
    rw [Nat.toDigits_eq_if (by decide)]
    by_cases hn : n < 10
    · exact ⟨n.digitChar, [], by rw [if_pos hn], fun _ => rfl⟩
    · obtain ⟨c, cs, hcs, hzero⟩ := ih (n / 10) (by omega)
      refine ⟨c, cs ++ [(n % 10).digitChar], by rw [if_neg hn, hcs]; rfl, fun hc => ?_⟩
      -- a zero would be all that is written for the tens
      exfalso
      have hvalue := ofDigits_toDigits (n / 10)
      rw [hcs, hzero hc, hc] at hvalue
      have : n / 10 = 0 := hvalue.symm
      omega

theorem Ends.stops {rest : List Char} (h : Ends rest) : Stops isDecimal rest := by
  cases h <;> simp only [stops_cons] <;> rfl

theorem wholePart?_toDigits (n : Nat) {rest : List Char} (hrest : Stops isDecimal rest) :
    wholePart? (Nat.toDigits 10 n ++ rest) = some (Nat.toDigits 10 n, rest) := by
  obtain ⟨c, cs, hcs, hzero⟩ := toDigits_head n
  have hall : ∀ d ∈ c :: cs, isDecimal d = true := by
    rw [← hcs]
    exact fun _ => isDecimal_of_mem_toDigits
  rw [hcs]
  by_cases hc : c = '0'
  · rw [hzero hc, hc]
    rfl
  · have htake : (cs ++ rest).takeWhile isDecimal = cs ∧
        (cs ++ rest).dropWhile isDecimal = rest := by
      cases cs with
      | nil =>
        cases rest with
        | nil => exact ⟨rfl, rfl⟩
        | cons d ds => simp [stops_cons.1 hrest]
      | cons d ds =>
        have hrun : IsRun isDecimal (d :: ds) :=
          ⟨List.cons_ne_nil d ds, fun x hx => hall x (List.mem_cons_of_mem c hx)⟩
        exact ⟨hrun.takeWhile_append hrest, hrun.dropWhile_append hrest⟩
    rw [List.cons_append, wholePart?, htake.1, htake.2, if_pos (hall c (by simp))]
    exact fun heq => hc heq

/-- A number that is not too long is read up to its end. -/
theorem number_toDigits {n : Nat} (hn : IsShort n) {rest : List Char} (hrest : Ends rest) :
    number dialect (Nat.toDigits 10 n ++ rest) = .ok (.int n, rest) := by
  obtain ⟨c, cs, hcs, -⟩ := toDigits_head n
  have hall : ∀ d ∈ Nat.toDigits 10 n, isDecimal d = true := fun _ => isDecimal_of_mem_toDigits
  have hrun : IsRun isDecimal (Nat.toDigits 10 n) := ⟨by rw [hcs]; simp, hall⟩
  have hlength : (Nat.toDigits 10 n).length ≤ maxDigits := by
    have hlist : (toString n).toList = Nat.toDigits 10 n := by simp
    rwa [IsShort, ← String.length_toList, hlist] at hn
  have hminus : c ≠ '-' := ne_of_isDecimal (hall c (by rw [hcs]; simp)) rfl
  have hlong : isLongNumber (Nat.toDigits 10 n ++ rest) = false := by
    have htake := hrun.takeWhile_append hrest.stops
    rw [hcs, List.cons_append] at htake ⊢
    rw [hcs] at hlength
    simpa [isLongNumber, hminus, htake] using hlength
  have hsigned : signedNumber? (Nat.toDigits 10 n ++ rest) =
      unsignedNumber? false (Nat.toDigits 10 n ++ rest) := by
    rw [hcs, List.cons_append, signedNumber?]
    exact fun _ heq => by cases heq; exact hminus rfl
  have hfraction : fractionPart rest = ([], rest) := by cases hrest <;> rfl
  have hexponent : exponentPart rest = (none, rest) := by cases hrest <;> rfl
  have hvalue : natOfDigits ((Nat.toDigits 10 n).map fun d => d.toNat - 48) = .ok n := by
    rw [natOfDigits, List.length_map, if_neg (by omega), ofDigits_toDigits]
  have hunsigned : unsignedNumber? false (Nat.toDigits 10 n ++ rest) =
      some (.ok (.int n, rest)) := by
    unfold unsignedNumber?
    simp [wholePart?_toDigits n hrest.stops, hfraction, hexponent, hvalue]
  simp [number, hlong, hsigned, hunsigned]

theorem writes_nat {n : Nat} (hn : IsShort n) : Writes dialect (int n) (.int n) := by
  have hint : int n = Nat.toDigits 10 n := by
    have hpositive : ¬ (n : Int) < 0 := by omega
    simp [int, hpositive]
  rw [hint]
  obtain ⟨c, cs, hcs, -⟩ := toDigits_head n
  have hc : isDecimal c = true := isDecimal_of_mem_toDigits (n := n) (by rw [hcs]; simp)
  refine ⟨fun d hd => ?_, fun rest => ?_, fun fuel depth rest hrest => ?_⟩
  · have hdigit := isDecimal_of_mem_toDigits hd
    exact ⟨ne_of_isDecimal hdigit rfl, ne_of_isDecimal hdigit rfl⟩
  · rw [hcs]
    have hspace : isSpace c = false := by
      simp [isSpace, ne_of_isDecimal hc (d := ' ') rfl, ne_of_isDecimal hc (d := '\t') rfl,
        ne_of_isDecimal hc (d := '\n') rfl, ne_of_isDecimal hc (d := '\r') rfl]
    exact skipSpace_cons hspace _
  · rw [← number_toDigits hn hrest, hcs]
    exact value_digit hc fuel depth _

/-! ## Objects -/

/-- A field of an object: its name, its value, and how the value is written. -/
structure Part where
  name : String
  chars : List Char
  value : Value

/-- The field as it is written. -/
def Part.text (p : Part) : List Char :=
  compactString p.name ++ ':' :: p.chars

/-- The field as it is read. -/
def Part.field (p : Part) : String × Value :=
  (p.name, p.value)

/-- A written field is read, up to the comma or the brace behind it. -/
theorem field_written {p : Part} (hp : Writes dialect p.chars p.value) (fuel depth : Nat)
    (before : List (String × Value)) {rest : List Char} :
    Ends rest → fields dialect (fuel + 2) depth before (p.text ++ rest) =
      match rest with
      | ',' :: rest =>
        fields dialect (fuel + 1) depth (Row.put before p.name p.value) (skipSpace rest)
      | rest => .ok (Row.put before p.name p.value, rest.tail) := by
  intro hrest
  have hname := string_compact dialect p.name (':' :: (p.chars ++ rest))
  have htext : p.text ++ rest =
      '"' :: (p.name.toList.flatMap compactChar ++ '"' :: ':' :: (p.chars ++ rest)) := by
    simp [Part.text, compactString]
  have hvalue : fieldValue (p.name.toList.map (·.toNat)) p.value = p.value := by
    unfold fieldValue
    rw [any_isHalf_toNat, if_neg Bool.false_ne_true]
  rw [htext, fields, hname]
  simp only [skipSpace_cons (show isSpace ':' = false from rfl), hp.solid,
    hp.reads fuel depth rest hrest, fieldName_toNat, hvalue]
  cases hrest <;> rfl

/-- The fields of an object, as they are written. -/
def objectText (parts : List Part) : List Char :=
  separated [','] (parts.map Part.text)

/-- Written fields start with the name of the first. -/
theorem objectText_cons (p : Part) (parts : List Part) :
    ∃ cs, objectText (p :: parts) = '"' :: cs := by
  cases parts <;> exact ⟨_, rfl⟩

/-- Written fields stay on their line. -/
theorem objectText_inline {parts : List Part}
    (hparts : ∀ p ∈ parts, Writes dialect p.chars p.value) : Inline (objectText parts) := by
  have hpart (p : Part) (hp : Writes dialect p.chars p.value) : Inline p.text := by
    have hcolon : Inline [':'] := by decide
    exact (compactString_inline p.name).append (hcolon.append hp.inline)
  induction parts with
  | nil => exact fun _ => nofun
  | cons p parts ih =>
    have hp := hpart p (hparts p (by simp))
    cases parts with
    | nil => exact hp
    | cons q parts =>
      have hcomma : Inline [','] := by decide
      exact (hp.append hcomma).append (ih fun r hr => hparts r (List.mem_cons_of_mem p hr))

/-- **Written fields are read**, each behind those before it. -/
theorem fields_written {parts : List Part} (hne : parts ≠ [])
    (hparts : ∀ p ∈ parts, Writes dialect p.chars p.value) {fuel : Nat}
    (hfuel : parts.length < fuel) (depth : Nat) (before : List (String × Value))
    (rest : List Char) :
    fields dialect fuel depth before (objectText parts ++ '\x7d' :: rest) =
      .ok (Row.putAll before (parts.map Part.field), rest) := by
  induction parts generalizing fuel before with
  | nil => exact absurd rfl hne
  | cons p parts ih =>
    obtain ⟨fuel, rfl⟩ : ∃ n, fuel = n + 2 := ⟨fuel - 2, by rw [List.length_cons] at hfuel; omega⟩
    have hp := hparts p (by simp)
    cases parts with
    | nil => exact field_written hp fuel depth before (.brace rest)
    | cons q parts =>
      have hrest := ih (List.cons_ne_nil q parts)
        (fun r hr => hparts r (List.mem_cons_of_mem p hr))
        (show (q :: parts).length < fuel + 1 by simp only [List.length_cons] at hfuel ⊢; omega)
        (Row.put before p.name p.value)
      obtain ⟨cs, hcs⟩ := objectText_cons q parts
      have htext : objectText (p :: q :: parts) ++ '\x7d' :: rest =
          p.text ++ ',' :: (objectText (q :: parts) ++ '\x7d' :: rest) := by
        simp [objectText, separated]
      rw [htext, field_written hp fuel depth before (.comma _)]
      show fields dialect (fuel + 1) depth _ (skipSpace _) = _
      rw [hcs, List.cons_append, skipSpace_cons rfl, ← List.cons_append, ← hcs, hrest]
      rfl

/-- A written object is read. -/
theorem value_written {parts : List Part} (hne : parts ≠ [])
    (hparts : ∀ p ∈ parts, Writes dialect p.chars p.value) {fuel : Nat}
    (hfuel : parts.length < fuel) (depth : Nat) (rest : List Char) :
    value dialect (fuel + 1) (depth + 1) ('\x7b' :: (objectText parts ++ '\x7d' :: rest)) =
      .ok (.record (Row.ofPairs (parts.map Part.field)), rest) := by
  have hfields := fields_written hne hparts hfuel depth [] rest
  obtain ⟨p, parts, rfl⟩ := List.exists_cons_of_ne_nil hne
  obtain ⟨cs, hcs⟩ := objectText_cons p parts
  rw [hcs, List.cons_append] at hfields ⊢
  rw [value, skipSpace_cons rfl]
  show (fields dialect fuel depth [] _).map _ = _
  rw [hfields]
  rfl

theorem length_objectText (parts : List Part) : parts.length ≤ (objectText parts).length := by
  induction parts with
  | nil => exact Nat.zero_le _
  | cons p parts ih =>
    have htext : 0 < p.text.length := by simp [Part.text, compactString]
    cases parts with
    | nil => exact htext
    | cons q parts =>
      have hlength : (objectText (p :: q :: parts)).length =
          p.text.length + 1 + (objectText (q :: parts)).length := by
        simp [objectText, separated]
        omega
      rw [hlength, List.length_cons]
      omega

/-- **A line that holds a written object is read as the record of its fields.** -/
theorem read_written {parts : List Part} (hne : parts ≠ [])
    (hparts : ∀ p ∈ parts, Writes dialect p.chars p.value) (hdepth : 0 < dialect.depth) :
    read dialect (String.ofList ('\x7b' :: objectText parts ++ ['\x7d']) ++ "\n") =
      .ok (.record (Row.ofPairs (parts.map Part.field))) := by
  obtain ⟨depth, hdepth⟩ : ∃ n, dialect.depth = n + 1 := ⟨dialect.depth - 1, by omega⟩
  have hlist : (String.ofList ('\x7b' :: objectText parts ++ ['\x7d']) ++ "\n").toList =
      '\x7b' :: (objectText parts ++ '\x7d' :: ['\n']) := by
    simp
  -- two for each character is more than one for each field
  have hfuel :
      parts.length < 2 * ('\x7b' :: (objectText parts ++ '\x7d' :: ['\n'])).length + 1 := by
    have hlength := length_objectText parts
    simp only [List.length_cons, List.length_append]
    omega
  have hvalue := value_written hne hparts hfuel depth ['\n']
  have hmark : ¬ ('\x7b' :: (objectText parts ++ '\x7d' :: ['\n'])).head? = some '\uFEFF' := by
    simp
  have hend : (skipSpace ['\n']).isEmpty = true := rfl
  refine read_of_chars _ hlist hmark ?_ hend
  rw [hdepth, skipSpace_cons rfl, hvalue]

end ReadGate.Json
