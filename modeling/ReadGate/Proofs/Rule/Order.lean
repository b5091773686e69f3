import ReadGate.Proofs.Rule.Parts

/-!
# The order of the rules

The rules are tried one after the other, and the first that applies wins.  Among the six that match
whole texts this order decides nothing: the first lexemes of a text show which of them it could be
recognized by, and the others do not apply to it, not even with a failure.

* `limitThenEnd_of_whereColumn`, `fromTable_of_mark` and their like — where shapes part.
* `candidate` — the one rule that lexemes could be recognized by.
* `candidate_of_applies` — a rule that matches whole texts applies only where it is the candidate.
* `firstMatch_of_applies` — the rule that applies wins in every order.
* `firstMatch_perm` — the six rules in any order translate every text alike.
-/

namespace ReadGate.Grammar

open Lexeme Shape

variable {ls rest after back : List Lexeme} {table column w : Name} {number : Numeric}

/-! ## Where shapes part -/

/-- A filter is no limit, and not the end. -/
theorem limitThenEnd_of_whereColumn (h : whereColumn ls = some (column, rest)) :
    limitThenEnd ls = none := by
  unfold whereColumn at h
  split at h
  · split at h
    · rename_i hw
      have hnot : Text.isKeyword "limit" _ = false := Keyword.ne hw (by decide)
      simp [limitThenEnd, hnot]
    · cases h
  · cases h

/-- A number does not begin with a quote. -/
theorem literal_of_numeric (h : numeric ls = some (number, rest)) : literal ls = none := by
  unfold numeric at h
  split at h
  · rfl
  · unfold unsignedNumeric at h
    split at h
    · rfl
    · rfl
    · cases h

/-- A word is no star. -/
theorem starFrom_of_word (h : select ls = some (.word w :: rest)) : starFrom ls = none := by
  unfold starFrom
  rw [h]

/-- A table is named behind a gap and a word, not behind a mark. -/
theorem fromTable_of_mark {c : Char} (h : skipGap ls = .mark c :: rest) : fromTable ls = none := by
  unfold fromTable
  split
  · cases h
  · rfl

/-- A count is a word, and its bracket is open. -/
theorem exists_of_countStar (h : countStar ls = some rest) :
    ∃ w ls' inside, ls = .word w :: ls' ∧ skipGap ls' = .mark '(' :: inside := by
  unfold countStar at h
  split at h
  · rename_i w ls'
    split at h
    · split at h
      · rename_i inside hopen
        exact ⟨w, ls', inside, rfl, hopen⟩
      · cases h
    · cases h
  · cases h

/-- A word that no bracket follows is no count. -/
theorem countStar_of_comma (h : skipGap ls = .mark ',' :: rest) :
    countStar (.word w :: ls) = none := by
  cases hcount : countStar (.word w :: ls) with
  | none => rfl
  | some back =>
    obtain ⟨_, _, inside, heq, hopen⟩ := exists_of_countStar hcount
    cases heq
    rw [h] at hopen
    cases hopen

theorem exists_of_nameList {names : List Name} (h : nameList ls = some (names, rest)) :
    ∃ w ls', ls = .word w :: ls' := by
  unfold nameList at h
  split at h
  · exact ⟨_, _, rfl⟩
  · exact ⟨_, _, rfl⟩
  · exact ⟨_, _, rfl⟩
  · cases h

/-- A list of names ends where a bracket is open. -/
theorem nameList_of_open (h : skipGap ls = .mark '(' :: rest) :
    nameList (.word w :: ls) = some ([w], ls) := by
  rw [nameList_word, h]
  simp

/-! ## The candidate -/

/-- Names, and then a table. -/
def namesTable (ls : List Lexeme) : Bool :=
  ((nameList ls).bind fun p => fromTable p.2).isSome

/-- The only rule among those that match whole texts that the lexemes could be recognized by. -/
def candidate (ls : List Lexeme) : Rule :=
  match starFrom ls with
  | some (_, rest) =>
    match whereColumn rest with
    | some (_, rest) => if (literal rest).isSome then .whereString else .whereNumber
    | none => .selectAll
  | none =>
    let projection := (select ls).getD []
    if (countStar projection).isSome then .countAll
    else if namesTable projection then .selectColumns
    else .groupCount

theorem candidate_selectAll (h : (Shape.selectAll ls).isSome) : candidate ls = .selectAll := by
  obtain ⟨_, hshape⟩ := Option.isSome_iff_exists.1 h
  simp only [Shape.selectAll, Option.bind_eq_bind, Option.bind_eq_some_iff] at hshape
  obtain ⟨⟨table, rest⟩, hstar, limit, hlimit, -⟩ := hshape
  have hwhere : whereColumn rest = none := by
    cases hw : whereColumn rest with
    | none => rfl
    | some p =>
      rw [limitThenEnd_of_whereColumn hw] at hlimit
      cases hlimit
  simp only [candidate, hstar, hwhere]

theorem candidate_whereString (h : (Shape.whereString ls).isSome) :
    candidate ls = .whereString := by
  obtain ⟨_, hshape⟩ := Option.isSome_iff_exists.1 h
  simp only [Shape.whereString, Option.bind_eq_bind, Option.bind_eq_some_iff] at hshape
  obtain ⟨⟨table, rest⟩, hstar, ⟨column, after⟩, hwhere, ⟨text, back⟩, hliteral, -⟩ := hshape
  simp only [candidate, hstar, hwhere, hliteral, Option.isSome_some, if_true]

theorem candidate_whereNumber (h : (Shape.whereNumber ls).isSome) :
    candidate ls = .whereNumber := by
  obtain ⟨_, hshape⟩ := Option.isSome_iff_exists.1 h
  simp only [Shape.whereNumber, Option.bind_eq_bind, Option.bind_eq_some_iff] at hshape
  obtain ⟨⟨table, rest⟩, hstar, ⟨column, after⟩, hwhere, ⟨number, back⟩, hnumeric, -⟩ := hshape
  simp only [candidate, hstar, hwhere, literal_of_numeric hnumeric, Option.isSome_none,
    Bool.false_eq_true, if_false]

theorem candidate_countAll (h : (Shape.countAll ls).isSome) : candidate ls = .countAll := by
  obtain ⟨_, hshape⟩ := Option.isSome_iff_exists.1 h
  simp only [Shape.countAll, Option.bind_eq_bind, Option.bind_eq_some_iff] at hshape
  obtain ⟨projection, hselect, rest, hcount, -⟩ := hshape
  obtain ⟨w, ls', inside, rfl, -⟩ := exists_of_countStar hcount
  simp only [candidate, starFrom_of_word hselect, hselect, Option.getD_some, hcount,
    Option.isSome_some, if_true]

theorem candidate_selectColumns (h : (Shape.selectColumns ls).isSome) :
    candidate ls = .selectColumns := by
  obtain ⟨_, hshape⟩ := Option.isSome_iff_exists.1 h
  simp only [Shape.selectColumns, Option.bind_eq_bind, Option.bind_eq_some_iff] at hshape
  obtain ⟨projection, hselect, ⟨names, rest⟩, hnames, ⟨table, after⟩, hfrom, -⟩ := hshape
  obtain ⟨w, ls', rfl⟩ := exists_of_nameList hnames
  have hcount : countStar (.word w :: ls') = none := by
    cases hcount : countStar (.word w :: ls') with
    | none => rfl
    | some back =>
      -- behind the first name a bracket would be open, and no table would follow
      obtain ⟨_, _, inside, heq, hopen⟩ := exists_of_countStar hcount
      cases heq
      rw [nameList_of_open hopen] at hnames
      cases hnames
      rw [fromTable_of_mark hopen] at hfrom
      cases hfrom
  have htable : namesTable (.word w :: ls') = true := by
    simp only [namesTable, hnames, Option.bind_some, hfrom, Option.isSome_some]
  simp only [candidate, starFrom_of_word hselect, hselect, Option.getD_some, hcount,
    Option.isSome_none, Bool.false_eq_true, if_false, htable, if_true]

theorem candidate_groupCount (h : (Shape.groupCount ls).isSome) : candidate ls = .groupCount := by
  obtain ⟨_, hshape⟩ := Option.isSome_iff_exists.1 h
  unfold Shape.groupCount at hshape
  rw [Option.bind_eq_bind, Option.bind_eq_some_iff] at hshape
  obtain ⟨projection, hselect, hshape⟩ := hshape
  split at hshape
  · rename_i column rest
    split at hshape
    · rename_i more hcomma
      simp only [Option.bind_eq_bind, Option.bind_eq_some_iff] at hshape
      obtain ⟨back, hcount, -⟩ := hshape
      obtain ⟨w, ls', inside, hmore, hopen⟩ := exists_of_countStar hcount
      -- the second name is that of the count, so no table follows the names
      have htable : namesTable (.word column :: rest) = false := by
        rw [namesTable, nameList_word, hcomma]
        simp only [nameList_more, hmore, nameList_of_open hopen, Option.map_some,
          Option.bind_some, fromTable_of_mark hopen, Option.isSome_none]
      simp only [candidate, starFrom_of_word hselect, hselect, Option.getD_some,
        countStar_of_comma hcomma, Option.isSome_none, Bool.false_eq_true, if_false, htable]
    · cases hshape
  · cases hshape

/-- **A rule that matches whole texts applies only where it is the candidate**, with a query or with
a failure. -/
theorem candidate_of_applies {rule : Rule} (hrule : rule.isLoose = false)
    (h : rule.query ls ≠ .ok none) : candidate ls = rule := by
  have hsome {α : Type} {shape : Option α} (hnone : shape = none → rule.query ls = .ok none) :
      shape.isSome := by
    cases shape with
    | none => exact absurd (hnone rfl) h
    | some _ => rfl
  cases rule with
  | selectAll => exact candidate_selectAll (hsome fun hnone => by simp only [Rule.query, hnone])
  | countAll => exact candidate_countAll (hsome fun hnone => by simp only [Rule.query, hnone])
  | whereString => exact candidate_whereString (hsome fun hnone => by simp only [Rule.query, hnone])
  | whereNumber => exact candidate_whereNumber (hsome fun hnone => by simp only [Rule.query, hnone])
  | selectColumns =>
    exact candidate_selectColumns (hsome fun hnone => by simp only [Rule.query, hnone])
  | groupCount => exact candidate_groupCount (hsome fun hnone => by simp only [Rule.query, hnone])
  | looseSelectAll => cases hrule

/-- Where one rule that matches whole texts applies, no other one does. -/
theorem query_of_applies {rule other : Rule} (hrule : rule.isLoose = false)
    (h : rule.query ls ≠ .ok none) (hother : other.isLoose = false) (hne : other ≠ rule) :
    other.query ls = .ok none := by
  by_contra hquery
  exact hne ((candidate_of_applies hother hquery).symm.trans (candidate_of_applies hrule h))

/-! ## First matches -/

/-- Rules that do not apply are passed over. -/
theorem firstMatch_append {before : List Rule} (h : ∀ rule ∈ before, rule.query ls = .ok none)
    (rules : List Rule) : Rule.firstMatch ls (before ++ rules) = Rule.firstMatch ls rules := by
  induction before with
  | nil => rfl
  | cons rule before ih =>
    rw [List.cons_append, Rule.firstMatch, h rule List.mem_cons_self]
    exact ih fun rule' hrule' => h rule' (List.mem_cons_of_mem rule hrule')

/-- What a rule makes of the lexemes, under its name. -/
def named (rule : Rule) (ls : List Lexeme) : Except NumeralError (Option (Rule × StructuredQuery)) :=
  (rule.query ls).map (Option.map (rule, ·))

theorem firstMatch_cons {rule : Rule} (h : rule.query ls ≠ .ok none) (rules : List Rule) :
    Rule.firstMatch ls (rule :: rules) = named rule ls := by
  unfold Rule.firstMatch named
  rcases hquery : rule.query ls with e | _ | q
  · rfl
  · exact absurd hquery h
  · rfl

/-- **The rule that applies wins in every order** of rules that match whole texts. -/
theorem firstMatch_of_applies {rule : Rule} {order : List Rule} (hmem : rule ∈ order)
    (horder : ∀ other ∈ order, other.isLoose = false) (h : rule.query ls ≠ .ok none)
    (rules : List Rule) : Rule.firstMatch ls (order ++ rules) = named rule ls := by
  obtain ⟨before, back, rfl, hnot⟩ := List.eq_append_cons_of_mem hmem
  have hbefore : ∀ other ∈ before, other.query ls = .ok none := fun other hother =>
    query_of_applies (horder rule hmem) h (horder other (List.mem_append_left _ hother))
      fun heq => hnot (heq ▸ hother)
  rw [List.append_assoc, firstMatch_append hbefore, List.cons_append, firstMatch_cons h]

/-- The rules that match whole texts. -/
def fullRules : List Rule :=
  Rule.all.filter fun rule => !rule.isLoose

theorem mem_fullRules {rule : Rule} : rule ∈ fullRules ↔ rule.isLoose = false := by
  cases rule <;> decide

/-- The loose rule is the last in the order in which the rules are tried. -/
theorem all_eq : Rule.all = fullRules ++ [.looseSelectAll] := rfl

/-- The rule that applies gives the translation. -/
theorem translate_of_applies {rule : Rule} {text : String} (hrule : rule.isLoose = false)
    (h : rule.query (scan text.toList) ≠ .ok none) :
    translate text = named rule (scan text.toList) := by
  rw [translate, all_eq]
  exact firstMatch_of_applies (mem_fullRules.2 hrule) (fun _ => mem_fullRules.1) h _

/-- **The rules that match whole texts never compete.**  At most one of them applies to a text, with
a query or with a failure; and tried in any order before the loose one, they give the translation of
the text. -/
theorem firstMatch_perm (text : String) :
    (∀ rule ∈ fullRules, ∀ other ∈ fullRules, rule.apply text ≠ .ok none →
      other.apply text ≠ .ok none → rule = other) ∧
    ∀ order : List Rule, order.Perm fullRules →
      Rule.firstMatch (scan text.toList) (order ++ [.looseSelectAll]) = translate text := by
  constructor
  · intro rule hrule other hother h hother'
    exact (candidate_of_applies (mem_fullRules.1 hrule) h).symm.trans
      (candidate_of_applies (mem_fullRules.1 hother) hother')
  · intro order hperm
    have horder : ∀ rule ∈ order, rule.isLoose = false := fun rule hrule =>
      mem_fullRules.1 (hperm.mem_iff.1 hrule)
    by_cases h : ∃ rule ∈ fullRules, rule.query (scan text.toList) ≠ .ok none
    · obtain ⟨rule, hrule, happlies⟩ := h
      rw [firstMatch_of_applies (hperm.mem_iff.2 hrule) horder happlies,
        translate_of_applies (mem_fullRules.1 hrule) happlies]
    · have hnone : ∀ rule ∈ fullRules, rule.query (scan text.toList) = .ok none :=
        fun rule hrule => by_contra fun happlies => h ⟨rule, hrule, happlies⟩
      rw [translate, all_eq, firstMatch_append hnone,
        firstMatch_append fun rule hrule => hnone rule (hperm.mem_iff.1 hrule)]

/-- A filtered selection whose names are keywords, with another query in its literal. -/
def keywordNames : String :=
  "SELECT * FROM limit WHERE from = 'SELECT count, COUNT(*) FROM t GROUP BY count'"

/-- No other rule applies to it, and in the reverse order it has the same translation. -/
theorem firstMatch_perm_reversed :
    (∀ other ∈ fullRules, other.apply keywordNames ≠ .ok none → other = .whereString) ∧
      Rule.firstMatch (scan keywordNames.toList) (fullRules.reverse ++ [.looseSelectAll]) =
        .ok (some (.whereString,
          { table := "limit"
            predicate := some
              ⟨"from", .text "SELECT count, COUNT(*) FROM t GROUP BY count"⟩ })) := by
  obtain ⟨hunique, horder⟩ := firstMatch_perm keywordNames
  constructor
  · intro other hother hquery
    exact (hunique .whereString (by decide) other hother (by decide) hquery).symm
  · rw [horder _ (List.reverse_perm fullRules)]
    decide

end ReadGate.Grammar
