import ReadGate.Proofs.Lexeme.Layout
import ReadGate.Proofs.Rule.Recognition

/-!
# Layout and letter case of query texts

Outside literals the rules do not ask what a gap is made of, nor in which case a letter is written.
Every part of a shape is read from plain lexemes as it is from the lexemes themselves, and the names
that are read are the same in small letters; this holds of the search for a star too.  So texts that
are restyled are translated alike.

* `clause`, `pastMark` — the two steps that most parts are read by.
* `fromTable_plain`, `nameList_plain` and their like — the parts, read from plain lexemes.
* `looseTable_plain` — the search for a star.
* `query_plain` — a rule on plain lexemes.
* `translate_restyled` — restyled texts without quotes have the same translation.
-/

namespace ReadGate.Grammar

open Text Lexeme Shape

variable {ls rest : List Lexeme} {c : Char} {keyword : String}

/-- A name in small letters, and plain lexemes after it. -/
def plainRead (p : Name × List Lexeme) : Name × List Lexeme :=
  (p.1.map Char.toLower, p.2.map plain)

/-! ## Steps -/

/-- What every clause begins with: a gap, a keyword, another gap and a name. -/
def clause (keyword : String) : List Lexeme → Option (Name × List Lexeme)
  | .gap _ :: .word w :: .gap _ :: .word name :: rest =>
    if Text.isKeyword keyword w then some (name, rest) else none
  | _ => none

theorem clause_cons (keyword : String) (g w h name : List Char) (rest : List Lexeme) :
    clause keyword (.gap g :: .word w :: .gap h :: .word name :: rest) =
      if Text.isKeyword keyword w then some (name, rest) else none := rfl

theorem clause_eq_none (hnot : ∀ g w h name rest,
    ls = .gap g :: .word w :: .gap h :: .word name :: rest → False) : clause keyword ls = none :=
  clause.eq_2 keyword ls hnot

theorem exists_of_clause {p : Name × List Lexeme} (hclause : clause keyword ls = some p) :
    ∃ g w h, ls = .gap g :: .word w :: .gap h :: .word p.1 :: p.2 := by
  unfold clause at hclause
  split at hclause
  · split at hclause <;> cases hclause
    exact ⟨_, _, _, rfl⟩
  · cases hclause

theorem clause_plain (keyword : String) (ls : List Lexeme) :
    clause keyword (ls.map plain) = (clause keyword ls).map plainRead := by
  fun_cases clause keyword ls with
  | case1 g w h name rest hw =>
    simp [plain, clause_cons, isKeyword_map_toLower, hw, plainRead]
  | case2 g w h name rest hw =>
    simp [plain, clause_cons, isKeyword_map_toLower, hw]
  | case3 _ hnot =>
    apply clause_eq_none
    intro g w h name rest heq
    simp only [List.map_eq_cons_iff, plain_eq_gap, plain_eq_word] at heq
    obtain ⟨_, _, rfl, ⟨⟨g, rfl⟩, -⟩, _, _, rfl, ⟨w, rfl, -⟩, _, _, rfl, ⟨⟨h, rfl⟩, -⟩, _, _, rfl,
      ⟨name, rfl, -⟩, -⟩ := heq
    exact hnot g w h name _ rfl

/-- What stands behind a mark, with or without white space before it. -/
def pastMark (c : Char) (ls : List Lexeme) : Option (List Lexeme) :=
  match skipGap ls with
  | .mark d :: rest => if d = c then some rest else none
  | _ => none

theorem pastMark_eq_some (h : skipGap ls = .mark c :: rest) : pastMark c ls = some rest := by
  simp [pastMark, h]

theorem pastMark_eq_none (hnot : ∀ rest, skipGap ls = .mark c :: rest → False) :
    pastMark c ls = none := by
  unfold pastMark
  split
  · rename_i heq
    rw [if_neg]
    rintro rfl
    exact hnot _ heq
  · rfl

theorem skipGap_plain : ∀ ls, skipGap (ls.map plain) = (skipGap ls).map plain
  | [] | .word _ :: _ | .gap _ :: _ | .mark _ :: _ => rfl

theorem length_skipGap_le : ∀ ls, (skipGap ls).length ≤ ls.length
  | [] | .word _ :: _ | .mark _ :: _ => Nat.le_refl _
  | .gap _ :: rest => Nat.le_succ rest.length

theorem pastMark_plain (c : Char) (ls : List Lexeme) :
    pastMark c (ls.map plain) = (pastMark c ls).map (List.map plain) := by
  unfold pastMark
  rw [skipGap_plain]
  rcases skipGap ls with _ | ⟨_ | _ | d, rest⟩
  · rfl
  · rfl
  · rfl
  · by_cases hd : d = c <;> simp [plain, hd]

theorem length_lt_of_pastMark (h : pastMark c ls = some rest) : rest.length < ls.length := by
  unfold pastMark at h
  split at h
  · rename_i heq
    split at h <;> cases h
    have hle := length_skipGap_le ls
    rw [heq, List.length_cons] at hle
    exact hle
  · cases h

/-! ## The parts by their steps -/

theorem fromTable_eq (ls : List Lexeme) : fromTable ls = clause "from" ls := rfl

theorem whereColumn_eq (ls : List Lexeme) :
    whereColumn ls = (clause "where" ls).bind fun p =>
      (pastMark '=' p.2).map fun rest => (p.1, skipGap rest) := by
  unfold whereColumn
  split
  · rw [clause_cons]
    split
    · split
      · rename_i hmark
        simp [pastMark_eq_some hmark]
      · rename_i hnot
        simp [pastMark_eq_none hnot]
    · rfl
  · rename_i hnot
    rw [clause_eq_none hnot]
    rfl

theorem optionalAlias_eq (ls : List Lexeme) :
    optionalAlias ls =
      match clause "as" ls with
      | some p => (some p.1, p.2)
      | none => (none, ls) := by
  unfold optionalAlias
  split
  · rw [clause_cons]
    split <;> rfl
  · rename_i hnot
    rw [clause_eq_none hnot]

/-- A word that is no limit does not end the text either. -/
theorem limitThenEnd_eq (ls : List Lexeme) :
    limitThenEnd ls =
      match clause "limit" ls with
      | some p => if p.1.all isDigit && atEnd p.2 then some (some p.1) else none
      | none => if atEnd ls then some none else none := by
  fun_cases limitThenEnd ls with
  | case1 g w h digits rest hcond =>
    simp only [Bool.and_eq_true] at hcond
    simp [clause_cons, hcond]
  | case2 g w h digits rest hcond =>
    rw [clause_cons]
    by_cases hw : Text.isKeyword "limit" w = true
    · simp_all
    · simp [hw, atEnd]
  | case3 _ hnot hend => simp [clause_eq_none hnot, hend]
  | case4 _ hnot hend => simp [clause_eq_none hnot, hend]

/-- The keyword `BY` stands before the column as another clause would. -/
theorem groupByEnd_eq (ls : List Lexeme) :
    groupByEnd ls = (clause "group" ls).bind fun p =>
      (clause "by" (.gap [' '] :: .word p.1 :: p.2)).bind fun q =>
        if atEnd q.2 then some q.1 else none := by
  fun_cases groupByEnd ls with
  | case1 g w h b i column rest hcond =>
    simp only [Bool.and_eq_true] at hcond
    simp [clause_cons, hcond]
  | case2 g w h b i column rest hcond =>
    by_cases hw : Text.isKeyword "group" w = true <;>
      by_cases hb : Text.isKeyword "by" b = true <;> simp_all [clause_cons]
  | case3 _ hnot =>
    rcases hgroup : clause "group" ls with _ | p
    · rfl
    · rcases hby : clause "by" (.gap [' '] :: .word p.1 :: p.2) with _ | q
      · simp [hby]
      · obtain ⟨g, w, h, rfl⟩ := exists_of_clause hgroup
        obtain ⟨_, b, i, heq⟩ := exists_of_clause hby
        simp only [List.cons.injEq] at heq
        exact (hnot g w h p.1 i q.1 q.2 (by rw [heq.2.2])).elim

theorem countStar_word (w : Name) (ls : List Lexeme) :
    countStar (.word w :: ls) = if Text.isKeyword "count" w
      then (pastMark '(' ls).bind fun ls => (pastMark '*' ls).bind (pastMark ')') else none := by
  rw [countStar]
  split
  · split
    · rename_i hopen
      rw [pastMark_eq_some hopen, Option.bind_some]
      split
      · rename_i hstar
        rw [pastMark_eq_some hstar, Option.bind_some]
        split
        · rename_i hclose
          rw [pastMark_eq_some hclose]
        · rename_i hnot
          rw [pastMark_eq_none hnot]
      · rename_i hnot
        rw [pastMark_eq_none hnot, Option.bind_none]
    · rename_i hnot
      rw [pastMark_eq_none hnot, Option.bind_none]
  · rfl

theorem nameList_comma (w : Name) (ls : List Lexeme) :
    nameList (.word w :: ls) =
      match pastMark ',' ls with
      | some rest => (nameList (skipGap rest)).map fun p => (w :: p.1, p.2)
      | none => some ([w], ls) := by
  rw [nameList_word]
  split
  · rename_i hcomma
    rw [pastMark_eq_some hcomma, nameList_more]
  · rename_i hnot
    rw [pastMark_eq_none hnot]

theorem tableHere_eq (ls : List Lexeme) :
    tableHere ls = (clause "from" (.gap [' '] :: ls)).map Prod.fst := by
  unfold tableHere
  split
  · rw [clause_cons]
    split <;> rfl
  · rename_i hnot
    rw [clause_eq_none]
    · rfl
    · rintro g w h name rest ⟨⟩
      exact hnot _ _ _ _ rfl

theorem tableAfterStar_eq (ls : List Lexeme) :
    tableAfterStar ls =
      match pastMark ',' ls with
      | some rest => tableLater rest
      | none => tableHere (skipGap ls) := by
  unfold tableAfterStar
  split
  · rename_i hcomma
    rw [pastMark_eq_some hcomma]
  · rename_i hnot
    rw [pastMark_eq_none hnot]

/-! ## The parts of plain lexemes -/

theorem atEnd_plain (ls : List Lexeme) : atEnd (ls.map plain) = atEnd ls := by
  fun_cases atEnd ls with
  | case1 => rfl
  | case2 => rfl
  | case3 g => rfl
  | case4 _ hbare hmark hgap =>
    rw [Bool.eq_false_iff]
    intro hend
    unfold atEnd at hend
    split at hend
    · rename_i heq
      exact hbare (List.map_eq_nil_iff.1 heq)
    · rename_i heq
      simp only [List.map_eq_cons_iff, plain_eq_mark, List.map_eq_nil_iff] at heq
      obtain ⟨_, _, rfl, rfl, rfl⟩ := heq
      exact hmark rfl
    · rename_i heq
      simp only [List.map_eq_cons_iff, plain_eq_gap, plain_eq_mark, List.map_eq_nil_iff] at heq
      obtain ⟨_, _, rfl, ⟨⟨g, rfl⟩, -⟩, _, _, rfl, rfl, rfl⟩ := heq
      exact hgap g rfl
    · cases hend

/-- The digits of a limit are no letters, so the limit is the same. -/
theorem limitThenEnd_plain (ls : List Lexeme) : limitThenEnd (ls.map plain) = limitThenEnd ls := by
  rw [limitThenEnd_eq, limitThenEnd_eq, clause_plain, atEnd_plain]
  cases clause "limit" ls with
  | none => rfl
  | some p =>
    simp only [Option.map_some, plainRead, all_isDigit_map_toLower, atEnd_plain]
    by_cases hdigits : p.1.all isDigit = true
    · rw [map_toLower_of_isDigit hdigits]
    · simp [hdigits]

theorem select_plain (ls : List Lexeme) :
    select (ls.map plain) = (select ls).map (List.map plain) := by
  fun_cases select ls with
  | case1 w g rest hw => simp [plain, select, isKeyword_map_toLower, hw]
  | case2 w g rest hw => simp [plain, select, isKeyword_map_toLower, hw]
  | case3 _ hnot =>
    refine select.eq_2 _ fun w g rest heq => ?_
    simp only [List.map_eq_cons_iff, plain_eq_gap, plain_eq_word] at heq
    obtain ⟨_, _, rfl, ⟨w, rfl, -⟩, _, _, rfl, ⟨⟨g, rfl⟩, -⟩, -⟩ := heq
    exact hnot w g _ rfl

theorem fromTable_plain (ls : List Lexeme) :
    fromTable (ls.map plain) = (fromTable ls).map plainRead := by
  rw [fromTable_eq, fromTable_eq, clause_plain]

theorem starFrom_plain (ls : List Lexeme) :
    starFrom (ls.map plain) = (starFrom ls).map plainRead := by
  unfold starFrom
  rw [select_plain]
  rcases select ls with _ | _ | ⟨_ | _ | c, rest⟩
  · rfl
  · rfl
  · rfl
  · rfl
  · by_cases hc : c = '*'
    · subst hc
      exact fromTable_plain rest
    · simp [plain, hc]

theorem countStar_plain (ls : List Lexeme) :
    countStar (ls.map plain) = (countStar ls).map (List.map plain) := by
  rcases ls with _ | ⟨w | _ | _, ls⟩
  · rfl
  · simp only [List.map_cons, plain, countStar_word, isKeyword_map_toLower, pastMark_plain]
    split
    · simp [Option.map_bind, Option.bind_map, pastMark_plain]
    · rfl
  · rfl
  · rfl

theorem optionalAlias_plain (ls : List Lexeme) :
    optionalAlias (ls.map plain) =
      ((optionalAlias ls).1.map (List.map Char.toLower), (optionalAlias ls).2.map plain) := by
  rw [optionalAlias_eq, optionalAlias_eq, clause_plain]
  cases clause "as" ls <;> rfl

theorem nameList_plain (ls : List Lexeme) :
    nameList (ls.map plain) =
      (nameList ls).map fun p => (p.1.map (List.map Char.toLower), p.2.map plain) := by
  -- on the length, because a name with its comma is taken from the front as a whole
  generalize hn : ls.length = n
  induction n using Nat.strongRecOn generalizing ls with
  | ind n ih =>
    rcases ls with _ | ⟨w | _ | _, ls⟩
    · simp [nameList]
    · simp only [List.map_cons, plain, nameList_comma, pastMark_plain]
      rcases hcomma : pastMark ',' ls with _ | rest
      · rfl
      · have hlen : (skipGap rest).length < n := by
          have hskip := length_skipGap_le rest
          have hpast := length_lt_of_pastMark hcomma
          rw [List.length_cons] at hn
          omega
        simp only [Option.map_some, skipGap_plain, ih _ hlen _ rfl, Option.map_map]
        rfl
    · simp [plain, nameList]
    · simp [plain, nameList]

theorem whereColumn_plain (ls : List Lexeme) :
    whereColumn (ls.map plain) = (whereColumn ls).map plainRead := by
  rw [whereColumn_eq, whereColumn_eq, clause_plain]
  cases clause "where" ls with
  | none => rfl
  | some p =>
    simp only [Option.map_some, Option.bind_some, plainRead, pastMark_plain, Option.map_map]
    cases pastMark '=' p.2 with
    | none => rfl
    | some rest => simp [plainRead, skipGap_plain]

theorem groupByEnd_plain (ls : List Lexeme) :
    groupByEnd (ls.map plain) = (groupByEnd ls).map (List.map Char.toLower) := by
  have hby (p : Name × List Lexeme) : .gap [' '] :: .word (plainRead p).1 :: (plainRead p).2 =
      (.gap [' '] :: .word p.1 :: p.2 : List Lexeme).map plain := rfl
  rw [groupByEnd_eq, groupByEnd_eq, clause_plain]
  cases clause "group" ls with
  | none => rfl
  | some p =>
    simp only [Option.map_some, Option.bind_some]
    rw [hby, clause_plain]
    cases clause "by" (.gap [' '] :: .word p.1 :: p.2) with
    | none => rfl
    | some q =>
      simp only [Option.map_some, Option.bind_some, plainRead, atEnd_plain]
      split <;> rfl

/-- A point and the digits behind it. -/
def fractionHere : List Lexeme → Option (Name × List Lexeme)
  | .mark '.' :: .word fraction :: rest => some (fraction, rest)
  | _ => none

theorem fractionHere_plain :
    ∀ ls, fractionHere (ls.map plain) = (fractionHere ls).map plainRead
  | [] | .word _ :: _ | .gap _ :: _ => rfl
  | [.mark c] | .mark c :: .word _ :: _ | .mark c :: .gap _ :: _ | .mark c :: .mark _ :: _ => by
    by_cases hc : c = '.' <;> simp [fractionHere, plain, plainRead, hc]

theorem unsignedNumeric_word (negative : Bool) (whole : Name) (ls : List Lexeme) :
    unsignedNumeric negative (.word whole :: ls) =
      match fractionHere ls with
      | some p => if whole.all isDigit && p.1.all isDigit
          then some (⟨negative, whole, some p.1⟩, p.2) else none
      | none => if whole.all isDigit then some (⟨negative, whole, none⟩, ls) else none := by
  unfold unsignedNumeric fractionHere
  split <;> simp_all

/-- A number has no letters, so it is the same. -/
theorem unsignedNumeric_plain (negative : Bool) (ls : List Lexeme) :
    unsignedNumeric negative (ls.map plain) =
      (unsignedNumeric negative ls).map fun p => (p.1, p.2.map plain) := by
  rcases ls with _ | ⟨whole | _ | _, ls⟩
  · rfl
  · simp only [List.map_cons, plain, unsignedNumeric_word, fractionHere_plain,
      all_isDigit_map_toLower]
    by_cases hwhole : whole.all isDigit = true
    · rw [map_toLower_of_isDigit hwhole, hwhole]
      cases fractionHere ls with
      | none => rfl
      | some p =>
        simp only [Option.map_some, plainRead, all_isDigit_map_toLower, Bool.true_and]
        split
        · rename_i hfraction
          rw [map_toLower_of_isDigit hfraction]
          rfl
        · rfl
    · cases fractionHere ls <;> simp [hwhole]
  · rfl
  · rfl

theorem numeric_plain (ls : List Lexeme) :
    numeric (ls.map plain) = (numeric ls).map fun p => (p.1, p.2.map plain) := by
  rcases ls with _ | ⟨w | g | c, rest⟩
  · exact unsignedNumeric_plain false []
  · exact unsignedNumeric_plain false (.word w :: rest)
  · exact unsignedNumeric_plain false (.gap g :: rest)
  · by_cases hc : c = '-'
    · subst hc
      exact unsignedNumeric_plain true rest
    · simp [plain, numeric, hc, unsignedNumeric]

/-! ## The search for a star -/

theorem tableHere_plain (ls : List Lexeme) :
    tableHere (ls.map plain) = (tableHere ls).map (List.map Char.toLower) := by
  have hgap : .gap [' '] :: ls.map plain = (.gap [' '] :: ls : List Lexeme).map plain := rfl
  rw [tableHere_eq, tableHere_eq, hgap, clause_plain, Option.map_map, Option.map_map]
  rfl

theorem tableLater_plain (ls : List Lexeme) :
    tableLater (ls.map plain) = (tableLater ls).map (List.map Char.toLower) := by
  induction ls with
  | nil => rfl
  | cons l rest ih =>
    have hhere := tableHere_plain (l :: rest)
    rw [List.map_cons] at hhere
    rw [List.map_cons, tableLater, tableLater, hhere]
    cases tableHere (l :: rest) with
    | some table => rfl
    | none =>
      simp only [Option.map_none, plain_eq_mark, ih]
      split <;> rfl

theorem tableAfterStar_plain (ls : List Lexeme) :
    tableAfterStar (ls.map plain) = (tableAfterStar ls).map (List.map Char.toLower) := by
  rw [tableAfterStar_eq, tableAfterStar_eq, pastMark_plain, skipGap_plain]
  cases pastMark ',' ls with
  | none => exact tableHere_plain (skipGap ls)
  | some rest => exact tableLater_plain rest

theorem admitsStar_plain : ∀ l, admitsStar (plain l) = admitsStar l
  | .word _ | .gap _ | .mark _ => rfl

theorem starTable_plain (before : Lexeme) (ls : List Lexeme) :
    starTable (plain before) (ls.map plain) =
      (starTable before ls).map (List.map Char.toLower) := by
  induction ls generalizing before with
  | nil => rfl
  | cons l rest ih =>
    simp only [List.map_cons, starTable, plain_eq_mark, admitsStar_plain, tableAfterStar_plain, ih]
    split
    · rfl
    · split
      · cases tableAfterStar rest <;> rfl
      · rfl

theorem isKeyword_plain (keyword : String) : ∀ l, (plain l).isKeyword keyword = l.isKeyword keyword
  | .word w => isKeyword_map_toLower keyword w
  | .gap _ | .mark _ => rfl

/-- **The search for a star** finds the same table, in small letters. -/
theorem looseTable_plain (ls : List Lexeme) :
    looseTable (ls.map plain) = (looseTable ls).map (List.map Char.toLower) := by
  induction ls with
  | nil => rfl
  | cons l rest ih =>
    simp only [List.map_cons, looseTable, isKeyword_plain, starTable_plain, ih]
    split
    · cases starTable l rest <;> rfl
    · rfl

/-! ## The rules -/

theorem ident_map_toLower (name : Name) : Rule.ident (name.map Char.toLower) = Rule.ident name :=
  lower_map_toLower name

theorem aliasOf_map_toLower (name : Option Name) :
    Rule.aliasOf (name.map (List.map Char.toLower)) = Rule.aliasOf name := by
  cases name with
  | none => rfl
  | some name => exact ident_map_toLower name

theorem selectAll_plain (ls : List Lexeme) :
    Shape.selectAll (ls.map plain) =
      (Shape.selectAll ls).map fun p => (p.1.map Char.toLower, p.2) := by
  simp only [Shape.selectAll, starFrom_plain]
  cases starFrom ls with
  | none => rfl
  | some p =>
    simp only [Option.map_some, Option.bind_eq_bind, Option.bind_some, plainRead,
      limitThenEnd_plain]
    cases limitThenEnd p.2 <;> rfl

theorem countAll_plain (ls : List Lexeme) :
    Shape.countAll (ls.map plain) = (Shape.countAll ls).map fun p =>
      (p.1.map (List.map Char.toLower), p.2.map Char.toLower) := by
  simp only [Shape.countAll, select_plain]
  cases select ls with
  | none => rfl
  | some rest =>
    simp only [Option.map_some, Option.bind_eq_bind, Option.bind_some, countStar_plain]
    cases countStar rest with
    | none => rfl
    | some rest =>
      simp only [Option.map_some, Option.bind_some, optionalAlias_plain, fromTable_plain]
      cases fromTable (optionalAlias rest).2 with
      | none => rfl
      | some p =>
        simp only [Option.map_some, Option.bind_some, plainRead, atEnd_plain]
        split <;> rfl

theorem whereNumber_plain (ls : List Lexeme) :
    Shape.whereNumber (ls.map plain) = (Shape.whereNumber ls).map fun p =>
      (p.1.map Char.toLower, p.2.1.map Char.toLower, p.2.2) := by
  simp only [Shape.whereNumber, starFrom_plain]
  cases starFrom ls with
  | none => rfl
  | some p =>
    simp only [Option.map_some, Option.bind_eq_bind, Option.bind_some, plainRead,
      whereColumn_plain]
    cases whereColumn p.2 with
    | none => rfl
    | some q =>
      simp only [Option.map_some, Option.bind_some, plainRead, numeric_plain]
      cases numeric q.2 with
      | none => rfl
      | some r =>
        simp only [Option.map_some, Option.bind_some, limitThenEnd_plain]
        cases limitThenEnd r.2 <;> rfl

theorem selectColumns_plain (ls : List Lexeme) :
    Shape.selectColumns (ls.map plain) = (Shape.selectColumns ls).map fun p =>
      (p.1.map (List.map Char.toLower), p.2.1.map Char.toLower, p.2.2) := by
  simp only [Shape.selectColumns, select_plain]
  cases select ls with
  | none => rfl
  | some rest =>
    simp only [Option.map_some, Option.bind_eq_bind, Option.bind_some, nameList_plain]
    cases nameList rest with
    | none => rfl
    | some p =>
      simp only [Option.map_some, Option.bind_some, fromTable_plain]
      cases fromTable p.2 with
      | none => rfl
      | some q =>
        simp only [Option.map_some, Option.bind_some, plainRead, limitThenEnd_plain]
        cases limitThenEnd q.2 <;> rfl

theorem groupCount_plain (ls : List Lexeme) :
    Shape.groupCount (ls.map plain) = (Shape.groupCount ls).map fun p =>
      (p.1.map Char.toLower, p.2.1.map (List.map Char.toLower), p.2.2.1.map Char.toLower,
        p.2.2.2.map Char.toLower) := by
  simp only [Shape.groupCount, select_plain]
  rcases select ls with _ | _ | ⟨column | _ | _, rest⟩
  · rfl
  · rfl
  · simp only [Option.map_some, Option.bind_eq_bind, Option.bind_some, List.map_cons, plain,
      skipGap_plain]
    rcases skipGap rest with _ | ⟨_ | _ | c, rest⟩
    · rfl
    · rfl
    · rfl
    · by_cases hc : c = ','
      · subst hc
        simp only [List.map_cons, plain, skipGap_plain, countStar_plain]
        cases countStar (skipGap rest) with
        | none => rfl
        | some rest =>
          simp only [Option.map_some, Option.bind_some, optionalAlias_plain, fromTable_plain]
          cases fromTable (optionalAlias rest).2 with
          | none => rfl
          | some p =>
            simp only [Option.map_some, Option.bind_some, plainRead, groupByEnd_plain]
            cases groupByEnd p.2 <;> rfl
      · simp [plain, hc]
  · rfl
  · rfl

/-- **A rule makes the same query of plain lexemes.**  Only a text literal is read otherwise. -/
theorem query_plain {rule : Rule} (hrule : rule ≠ .whereString) (ls : List Lexeme) :
    rule.query (ls.map plain) = rule.query ls := by
  cases rule with
  | selectAll =>
    rw [Rule.query, Rule.query, selectAll_plain]
    cases Shape.selectAll ls with
    | none => rfl
    | some p => simp only [Option.map_some, ident_map_toLower]
  | countAll =>
    rw [Rule.query, Rule.query, countAll_plain]
    cases Shape.countAll ls with
    | none => rfl
    | some p => simp only [Option.map_some, ident_map_toLower, aliasOf_map_toLower]
  | whereString => exact absurd rfl hrule
  | whereNumber =>
    rw [Rule.query, Rule.query, whereNumber_plain]
    cases Shape.whereNumber ls with
    | none => rfl
    | some p => simp only [Option.map_some, ident_map_toLower]
  | selectColumns =>
    have hident : Rule.ident ∘ List.map Char.toLower = Rule.ident := funext ident_map_toLower
    rw [Rule.query, Rule.query, selectColumns_plain]
    cases Shape.selectColumns ls with
    | none => rfl
    | some p => simp only [Option.map_some, ident_map_toLower, List.map_map, hident]
  | groupCount =>
    rw [Rule.query, Rule.query, groupCount_plain]
    cases Shape.groupCount ls with
    | none => rfl
    | some p => simp only [Option.map_some, ident_map_toLower, aliasOf_map_toLower]
  | looseSelectAll =>
    rw [Rule.query, Rule.query, looseTable_plain, Option.map_map]
    simp only [Function.comp_def, ident_map_toLower]

/-- A text literal has quotes around it. -/
theorem query_whereString_of_quote_notMem {cs : List Char} (hquote : '\'' ∉ cs) :
    Rule.query .whereString (scan cs) = .ok none := by
  rcases hshape : Shape.whereString (scan cs) with _ | ⟨table, column, text, limit⟩
  · rw [Rule.query, hshape]
  · obtain ⟨s, w, l, rfl, -⟩ := whereString_sound hshape
    simp [quotedText] at hquote

theorem query_restyled {cs ds : List Char} (h : Restyled cs ds) (hquote : '\'' ∉ cs)
    (rule : Rule) : rule.query (scan cs) = rule.query (scan ds) := by
  by_cases hrule : rule = .whereString
  · rw [hrule, query_whereString_of_quote_notMem hquote,
      query_whereString_of_quote_notMem (h.notMem isMark_quote hquote)]
  · rw [← query_plain hrule, map_plain_scan h, query_plain hrule]

theorem firstMatch_congr {ls' : List Lexeme} {rules : List Rule}
    (h : ∀ rule ∈ rules, rule.query ls = rule.query ls') :
    Rule.firstMatch ls rules = Rule.firstMatch ls' rules := by
  induction rules with
  | nil => rfl
  | cons rule rest ih =>
    have hrest := ih fun later hlater => h later (List.mem_cons_of_mem rule hlater)
    rw [Rule.firstMatch, Rule.firstMatch, h rule List.mem_cons_self, hrest]

/-- **Layout and letter case do not matter outside literals.**  Of two texts without quotes that
differ in the case of ASCII letters and in the white space of their gaps only, both are translated
by the same rule to the same query, or neither is, or both fail alike. -/
theorem translate_restyled {text text' : String} (hquote : '\'' ∉ text.toList)
    (h : Restyled text.toList text'.toList) : translate text = translate text' :=
  firstMatch_congr fun rule _ => query_restyled h hquote rule

/-- A query on a line for each clause. -/
def lineByLine : String := "SELECT *\n  FROM Orders\n LIMIT 5;"

/-- The same query on one line, with other keywords in large letters. -/
def inOneLine : String := "select * From ORDERS\tLimit 5;"

theorem translate_restyled_lineByLine :
    '\'' ∉ lineByLine.toList ∧ Restyled lineByLine.toList inOneLine.toList ∧
      translate inOneLine =
        .ok (some (.selectAll, ⟨"orders", .all, none, none, some 5, .rows, none, none⟩)) := by
  have hquote : '\'' ∉ lineByLine.toList := by decide
  have h : Restyled lineByLine.toList inOneLine.toList := by decide
  exact ⟨hquote, h, (translate_restyled hquote h).symm.trans (by decide)⟩

end ReadGate.Grammar
