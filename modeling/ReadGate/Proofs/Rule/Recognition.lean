import ReadGate.Proofs.Number.Numeral
import ReadGate.Proofs.Rule.Literals

/-!
# What the rules recognize

Each of the six rules that match whole texts applies to a text exactly if the text is written in the
rule's shape, and then the query holds what is written there.  A text can be written in a shape in
one way only, since the query is the same for all of them.

* `selectAll_sound`, `selectAll_scan` and their like — the shapes, part by part.
* `natOf_eq`, `operandOf_eq` — digits that are not too many have the value that they write.
* `apply_exact` — the rules apply to their shapes and to nothing else.
-/

namespace ReadGate.Grammar

open Text Lexeme Shape

variable {cs : List Char}

/-! ## Whole shapes -/

theorem selectAll_sound {table : Name} {limit : Option Name}
    (h : Shape.selectAll (scan cs) = some (table, limit)) :
    ∃ s l, cs = s ++ l ∧ StarFrom table s ∧ Limited limit l := by
  unfold Shape.selectAll at h
  simp only [Option.bind_eq_bind, Option.bind_eq_some_iff, Option.pure_def, Option.some.injEq] at h
  obtain ⟨⟨table', ls⟩, hstar, limit', hlimit, heq⟩ := h
  cases heq
  obtain ⟨s, l, rfl, hs, rfl⟩ := starFrom_sound hstar
  exact ⟨s, l, rfl, hs, limitThenEnd_scan.1 hlimit⟩

theorem selectAll_scan {table s l : List Char} {limit : Option Name} (hs : StarFrom table s)
    (hl : Limited limit l) : Shape.selectAll (scan (s ++ l)) = some (table, limit) := by
  have hstar := starFrom_scan hs hl.follows.stops_word
  simp [Shape.selectAll, hstar, limitThenEnd_scan.2 hl]

theorem countAll_sound {table : Name} {name : Option Name}
    (h : Shape.countAll (scan cs) = some (name, table)) :
    ∃ s c a f e, cs = s ++ c ++ a ++ f ++ e ∧ Select s ∧ CountStar c ∧ Alias name a ∧
      FromTable table f ∧ Ending e := by
  unfold Shape.countAll at h
  simp only [Option.bind_eq_bind, Option.bind_eq_some_iff] at h
  obtain ⟨ls, hselect, ls', hcount, ⟨table', ls''⟩, hfrom, hend⟩ := h
  split at hend
  · rename_i he
    cases hend
    obtain ⟨s, r, rfl, hs, rfl⟩ := select_sound hselect
    obtain ⟨c, r, rfl, hc, rfl⟩ := countStar_sound hcount
    obtain ⟨a, r, rfl, ha, hscan⟩ := optionalAlias_sound (Prod.eta (optionalAlias (scan r))).symm
    rw [← hscan] at hfrom
    obtain ⟨f, e, rfl, hf, rfl⟩ := fromTable_sound hfrom
    exact ⟨s, c, a, f, e, by simp only [List.append_assoc], hs, hc, ha, hf, atEnd_scan.1 he⟩
  · cases hend

theorem countAll_scan {table s c a f e : List Char} {name : Option Name} (hs : Select s)
    (hc : CountStar c) (ha : Alias name a) (hf : FromTable table f) (he : Ending e) :
    Shape.countAll (scan (s ++ c ++ a ++ f ++ e)) = some (name, table) := by
  have hselect := select_scan hs (hc.stops_blank (a ++ (f ++ e)))
  have hfrom := fromTable_scan hf he.follows.stops_word
  simp only [List.append_assoc]
  simp [Shape.countAll, hselect, countStar_scan hc, optionalAlias_scan ha hf, hfrom,
    atEnd_scan.2 he]

theorem whereString_sound {table column text : List Char} {limit : Option Name}
    (h : Shape.whereString (scan cs) = some (table, column, text, limit)) :
    ∃ s w l, cs = s ++ w ++ quotedText text ++ l ∧ StarFrom table s ∧ WhereColumn column w ∧
      Limited limit l := by
  unfold Shape.whereString at h
  simp only [Option.bind_eq_bind, Option.bind_eq_some_iff, Option.pure_def, Option.some.injEq] at h
  obtain ⟨⟨_, _⟩, hstar, ⟨_, _⟩, hwhere, ⟨_, _⟩, hliteral, _, hlimit, heq⟩ := h
  cases heq
  obtain ⟨s, r, rfl, hs, rfl⟩ := starFrom_sound hstar
  obtain ⟨w, r, rfl, hw, rfl⟩ := whereColumn_sound hwhere
  obtain ⟨l, rfl, rfl⟩ := literal_sound hliteral
  exact ⟨s, w, l, by simp only [List.append_assoc], hs, hw, limitThenEnd_scan.1 hlimit⟩

theorem whereString_scan {table column s w l : List Char} {limit : Option Name}
    (text : List Char) (hs : StarFrom table s) (hw : WhereColumn column w)
    (hl : Limited limit l) :
    Shape.whereString (scan (s ++ w ++ quotedText text ++ l)) =
      some (table, column, text, limit) := by
  have hstop : Stops isBlank (quotedText text ++ l) := stops_cons.2 isMark_quote.2
  have hstar := starFrom_scan hs (hw.follows (quotedText text ++ l)).stops_word
  simp only [List.append_assoc]
  simp [Shape.whereString, hstar, whereColumn_scan hw hstop, literal_scan text hl.follows,
    limitThenEnd_scan.2 hl]

theorem whereNumber_sound {table column : List Char} {number : Numeric} {limit : Option Name}
    (h : Shape.whereNumber (scan cs) = some (table, column, number, limit)) :
    ∃ s w l, cs = s ++ w ++ numberText number ++ l ∧ StarFrom table s ∧ WhereColumn column w ∧
      IsNumber number ∧ Limited limit l := by
  unfold Shape.whereNumber at h
  simp only [Option.bind_eq_bind, Option.bind_eq_some_iff, Option.pure_def, Option.some.injEq] at h
  obtain ⟨⟨_, _⟩, hstar, ⟨_, _⟩, hwhere, ⟨_, _⟩, hnumeric, _, hlimit, heq⟩ := h
  cases heq
  obtain ⟨s, r, rfl, hs, rfl⟩ := starFrom_sound hstar
  obtain ⟨w, r, rfl, hw, rfl⟩ := whereColumn_sound hwhere
  obtain ⟨l, rfl, hnumber, rfl⟩ := numeric_sound hnumeric
  exact ⟨s, w, l, by simp only [List.append_assoc], hs, hw, hnumber, limitThenEnd_scan.1 hlimit⟩

theorem whereNumber_scan {table column s w l : List Char} {number : Numeric} {limit : Option Name}
    (hs : StarFrom table s) (hw : WhereColumn column w) (hn : IsNumber number)
    (hl : Limited limit l) :
    Shape.whereNumber (scan (s ++ w ++ numberText number ++ l)) =
      some (table, column, number, limit) := by
  have hstar := starFrom_scan hs (hw.follows (numberText number ++ l)).stops_word
  simp only [List.append_assoc]
  simp [Shape.whereNumber, hstar, whereColumn_scan hw (hn.stops_blank l),
    numeric_scan hn hl.follows, limitThenEnd_scan.2 hl]

theorem selectColumns_sound {names : List Name} {table : Name} {limit : Option Name}
    (h : Shape.selectColumns (scan cs) = some (names, table, limit)) :
    ∃ s c f l, cs = s ++ c ++ f ++ l ∧ Select s ∧ Names names c ∧ FromTable table f ∧
      Limited limit l := by
  unfold Shape.selectColumns at h
  simp only [Option.bind_eq_bind, Option.bind_eq_some_iff, Option.pure_def, Option.some.injEq] at h
  obtain ⟨_, hselect, ⟨_, _⟩, hnames, ⟨_, _⟩, hfrom, _, hlimit, heq⟩ := h
  cases heq
  obtain ⟨s, r, rfl, hs, rfl⟩ := select_sound hselect
  obtain ⟨c, r, rfl, hc, rfl⟩ := nameList_sound hnames
  obtain ⟨f, l, rfl, hf, rfl⟩ := fromTable_sound hfrom
  exact ⟨s, c, f, l, by simp only [List.append_assoc], hs, hc, hf, limitThenEnd_scan.1 hlimit⟩

theorem selectColumns_scan {table s c f l : List Char} {names : List Name} {limit : Option Name}
    (hs : Select s) (hc : Names names c) (hf : FromTable table f) (hl : Limited limit l) :
    Shape.selectColumns (scan (s ++ c ++ f ++ l)) = some (names, table, limit) := by
  have hselect := select_scan hs (hc.stops_blank (f ++ l))
  have hfrom := fromTable_scan hf hl.follows.stops_word
  simp only [List.append_assoc]
  simp [Shape.selectColumns, hselect, nameList_scan hc hf, hfrom, limitThenEnd_scan.2 hl]

theorem groupCount_sound {table column group : List Char} {name : Option Name}
    (h : Shape.groupCount (scan cs) = some (column, name, table, group)) :
    ∃ s p q c a f b e, cs = s ++ column ++ p ++ ',' :: q ++ c ++ a ++ f ++ b ++ e ∧ Select s ∧
      Word column ∧ Space p ∧ Space q ∧ CountStar c ∧ Alias name a ∧ FromTable table f ∧
      GroupBy group b ∧ Ending e := by
  unfold Shape.groupCount at h
  rw [Option.bind_eq_bind, Option.bind_eq_some_iff] at h
  obtain ⟨_, hselect, h⟩ := h
  obtain ⟨s, r, rfl, hs, rfl⟩ := select_sound hselect
  split at h
  · rename_i column' ls hword
    obtain ⟨r, rfl, hcol, -, rfl⟩ := scan_eq_word_cons.1 hword
    obtain ⟨p, r, rfl, hp, hskip⟩ := skipGap_sound r
    rw [hskip] at h
    split at h
    · rename_i hcomma
      obtain ⟨r, rfl, -, rfl⟩ := scan_eq_mark_cons.1 hcomma
      obtain ⟨q, r, rfl, hq, hskip⟩ := skipGap_sound r
      rw [hskip] at h
      simp only [Option.bind_eq_bind, Option.bind_eq_some_iff, Option.pure_def,
        Option.some.injEq] at h
      obtain ⟨_, hcount, ⟨_, _⟩, hfrom, _, hgroup, heq⟩ := h
      cases heq
      obtain ⟨c, r, rfl, hc, rfl⟩ := countStar_sound hcount
      obtain ⟨a, r, rfl, ha, hscan⟩ := optionalAlias_sound (Prod.eta (optionalAlias (scan r))).symm
      rw [← hscan] at hfrom
      obtain ⟨f, r, rfl, hf, rfl⟩ := fromTable_sound hfrom
      obtain ⟨b, e, rfl, hb, he⟩ := groupByEnd_scan.1 hgroup
      exact ⟨s, p, q, c, a, f, b, e, by simp, hs, hcol, hp, hq, hc, ha, hf, hb, he⟩
    · cases h
  · cases h

theorem groupCount_scan {table column group s p q c a f b e : List Char} {name : Option Name}
    (hs : Select s) (hcol : Word column) (hp : Space p) (hq : Space q) (hc : CountStar c)
    (ha : Alias name a) (hf : FromTable table f) (hb : GroupBy group b) (he : Ending e) :
    Shape.groupCount (scan (s ++ column ++ p ++ ',' :: q ++ c ++ a ++ f ++ b ++ e)) =
      some (column, name, table, group) := by
  have hcomma : IsMark ',' := by decide
  have hselect := select_scan hs
    (Word.stops_blank hcol (p ++ ',' :: (q ++ (c ++ (a ++ (f ++ (b ++ e)))))))
  have hcount : countStar (scan (c ++ (a ++ (f ++ (b ++ e))))) = _ := countStar_scan hc
  have hfrom := fromTable_scan hf (hb.follows e).stops_word
  simp only [List.append_assoc, List.cons_append]
  rw [Shape.groupCount, hselect, scan_append_word hcol (hp.stops_word hcomma.1 _)]
  simp [skipGap_scan hp (stops_cons.2 hcomma.2), scan_mark hcomma,
    skipGap_scan hq (hc.stops_blank _), hcount, optionalAlias_scan ha hf, hfrom,
    groupByEnd_scan.2 ⟨b, e, rfl, hb, he⟩]

/-! ## Values -/

/-- No run of decimal digits in the text has more digits than an integer may have. -/
def ShortNumbers (cs : List Char) : Prop :=
  ∀ digits, digits <:+: cs → (∀ c ∈ digits, isDigit c = true) → digits.length ≤ maxDigits

/-- A text that is itself no longer than that is such a text. -/
theorem shortNumbers_of_length (h : cs.length ≤ maxDigits) : ShortNumbers cs :=
  fun _ hwithin _ => Nat.le_trans hwithin.length_le h

theorem ofDigits_eq (ds : List Nat) : Numeral.ofDigits ds = Nat.ofDigits 10 ds.reverse := by
  rw [Nat.ofDigits_eq_foldr, List.foldr_reverse, Numeral.ofDigits]
  congr 1
  funext n d
  simp [Nat.add_comm]

theorem ofDigits_filterMap (digits : Name) :
    Numeral.ofDigits (digits.filterMap digitValue?) = valueOf digits := by
  rw [ofDigits_eq, valueOf, List.filterMap_reverse]

/-- Digits that are not too many have the value that they write. -/
theorem natOf_eq {digits : Name} (h : digits.length ≤ maxDigits) :
    Rule.natOf digits = .ok (valueOf digits) := by
  have hlen := List.length_filterMap_le digitValue? digits
  rw [Rule.natOf, Numeral.natOfDigits, if_neg (by omega), ofDigits_filterMap]

theorem Limited.digits {limit : Option Name} (h : Limited limit cs) :
    ∀ digits ∈ limit, Digits digits ∧ digits <:+: cs := by
  rintro digits hmem
  cases h with
  | without => cases hmem
  | @upTo g w h' _ e hg hw hh hd he =>
    cases hmem
    exact ⟨hd, g ++ w ++ h', e, rfl⟩

theorem limitOf_eq {limit : Option Name} {l front : List Char} (hl : Limited limit l)
    (h : ShortNumbers (front ++ l)) : Rule.limitOf limit = .ok (limit.map valueOf) := by
  cases limit with
  | none => rfl
  | some digits =>
    obtain ⟨hdigits, hwithin⟩ := hl.digits digits rfl
    have hlen := h digits (hwithin.trans (List.suffix_append front l).isInfix) hdigits.all
    rw [Rule.limitOf, natOf_eq hlen]
    rfl

theorem operandOf_eq {number : Numeric} {front back : List Char} (hn : IsNumber number)
    (h : ShortNumbers (front ++ numberText number ++ back)) :
    Rule.operandOf number = .ok (operandOf number) := by
  obtain ⟨negative, whole, fraction⟩ := number
  cases fraction with
  | some fraction => simp only [Rule.operandOf, operandOf, ofDigits_filterMap]
  | none =>
    have hwithin : whole <:+: front ++ numberText ⟨negative, whole, none⟩ ++ back :=
      ⟨front ++ if negative then ['-'] else [], back, by simp [numberText, fractionText]⟩
    have hlen := h whole hwithin hn.whole.all
    simp only [Rule.operandOf, natOf_eq hlen]
    rfl

theorem aliasOf_eq (name : Option Name) : Rule.aliasOf name = countName name := by
  cases name <;> rfl

/-! ## The rules -/

section Queries

variable {table column : Name} {name limit : Option Name} {back : List Char}

theorem query_selectAll (hshape : Shape.selectAll (scan cs) = some (table, limit))
    (hlimit : Rule.limitOf limit = .ok (limit.map valueOf)) :
    Rule.selectAll.query (scan cs) =
      .ok (some { table := Rule.ident table, limit := limit.map valueOf }) := by
  simp only [Rule.query, hshape, hlimit]
  rfl

theorem query_countAll (hshape : Shape.countAll (scan cs) = some (name, table)) :
    Rule.countAll.query (scan cs) = .ok (some
      { table := Rule.ident table
        aggregate := .count
        resultAlias := some (countName name) }) := by
  simp only [Rule.query, hshape, aliasOf_eq]

theorem query_whereString {text : List Char}
    (hshape : Shape.whereString (scan cs) = some (table, column, text, limit))
    (hlimit : Rule.limitOf limit = .ok (limit.map valueOf)) :
    Rule.whereString.query (scan cs) = .ok (some
      { table := Rule.ident table
        predicate := some ⟨Rule.ident column, .text (String.ofList text)⟩
        limit := limit.map valueOf }) := by
  simp only [Rule.query, hshape, hlimit]
  rfl

theorem query_whereNumber {number : Numeric}
    (hshape : Shape.whereNumber (scan cs) = some (table, column, number, limit))
    (hoperand : Rule.operandOf number = .ok (operandOf number))
    (hlimit : Rule.limitOf limit = .ok (limit.map valueOf)) :
    Rule.whereNumber.query (scan cs) = .ok (some
      { table := Rule.ident table
        predicate := some ⟨Rule.ident column, operandOf number⟩
        limit := limit.map valueOf }) := by
  simp only [Rule.query, hshape, hoperand, hlimit]
  rfl

theorem query_selectColumns {names : List Name}
    (hshape : Shape.selectColumns (scan cs) = some (names, table, limit))
    (hlimit : Rule.limitOf limit = .ok (limit.map valueOf)) :
    Rule.selectColumns.query (scan cs) = .ok (some
      { table := Rule.ident table
        columns := .these (names.map Rule.ident)
        limit := limit.map valueOf }) := by
  simp only [Rule.query, hshape, hlimit]
  rfl

theorem query_groupCount {group : Name}
    (hshape : Shape.groupCount (scan cs) = some (column, name, table, group))
    (hsame : Rule.ident column = Rule.ident group) :
    Rule.groupCount.query (scan cs) = .ok (some
      { table := Rule.ident table
        columns := .these [Rule.ident column]
        aggregate := .groupCount
        groupBy := some (Rule.ident column)
        resultAlias := some (countName name) }) := by
  simp only [Rule.query, hshape, aliasOf_eq, if_pos hsame]

end Queries

/-- A rule that matches whole texts gives a query only for a text in its shape, and it never fails
on one whose numbers are short. -/
theorem query_sound {rule : Rule} (hrule : rule.isLoose = false) (h : ShortNumbers cs) :
    ∃ result, rule.query (scan cs) = .ok result ∧ ∀ q, result = some q → Written rule q cs := by
  have hnone (q : StructuredQuery) (hq : none = some q) : Written rule q cs := by cases hq
  cases rule with
  | looseSelectAll => cases hrule
  | selectAll =>
    rcases hshape : Shape.selectAll (scan cs) with _ | ⟨table, limit⟩
    · exact ⟨none, by simp only [Rule.query, hshape], hnone⟩
    · obtain ⟨s, l, rfl, hs, hl⟩ := selectAll_sound hshape
      refine ⟨_, query_selectAll hshape (limitOf_eq hl h), ?_⟩
      rintro q ⟨⟩
      exact .selectAll hs hl
  | countAll =>
    rcases hshape : Shape.countAll (scan cs) with _ | ⟨name, table⟩
    · exact ⟨none, by simp only [Rule.query, hshape], hnone⟩
    · obtain ⟨s, c, a, f, e, rfl, hs, hc, ha, hf, he⟩ := countAll_sound hshape
      refine ⟨_, query_countAll hshape, ?_⟩
      rintro q ⟨⟩
      exact .countAll hs hc ha hf he
  | whereString =>
    rcases hshape : Shape.whereString (scan cs) with _ | ⟨table, column, text, limit⟩
    · exact ⟨none, by simp only [Rule.query, hshape], hnone⟩
    · obtain ⟨s, w, l, rfl, hs, hw, hl⟩ := whereString_sound hshape
      refine ⟨_, query_whereString hshape (limitOf_eq hl h), ?_⟩
      rintro q ⟨⟩
      exact .whereString hs hw hl
  | whereNumber =>
    rcases hshape : Shape.whereNumber (scan cs) with _ | ⟨table, column, number, limit⟩
    · exact ⟨none, by simp only [Rule.query, hshape], hnone⟩
    · obtain ⟨s, w, l, rfl, hs, hw, hn, hl⟩ := whereNumber_sound hshape
      refine ⟨_, query_whereNumber hshape (operandOf_eq hn h) (limitOf_eq hl h), ?_⟩
      rintro q ⟨⟩
      exact .whereNumber hs hw hn hl
  | selectColumns =>
    rcases hshape : Shape.selectColumns (scan cs) with _ | ⟨names, table, limit⟩
    · exact ⟨none, by simp only [Rule.query, hshape], hnone⟩
    · obtain ⟨s, c, f, l, rfl, hs, hc, hf, hl⟩ := selectColumns_sound hshape
      refine ⟨_, query_selectColumns hshape (limitOf_eq hl h), ?_⟩
      rintro q ⟨⟩
      exact .selectColumns hs hc hf hl
  | groupCount =>
    rcases hshape : Shape.groupCount (scan cs) with _ | ⟨column, name, table, group⟩
    · exact ⟨none, by simp only [Rule.query, hshape], hnone⟩
    · by_cases hsame : Rule.ident column = Rule.ident group
      · obtain ⟨s, p, q, c, a, f, b, e, rfl, hs, hcol, hp, hq, hc, ha, hf, hb, he⟩ :=
          groupCount_sound hshape
        refine ⟨_, query_groupCount hshape hsame, ?_⟩
        rintro q ⟨⟩
        exact .groupCount hs hcol hp hq hc ha hf hb he hsame
      · exact ⟨none, by simp only [Rule.query, hshape, if_neg hsame], hnone⟩

/-- A text in the shape of a rule gives the query that is written in it. -/
theorem query_of_written {rule : Rule} {q : StructuredQuery} (hq : Written rule q cs)
    (h : ShortNumbers cs) : rule.query (scan cs) = .ok (some q) := by
  cases hq with
  | selectAll hs hl => exact query_selectAll (selectAll_scan hs hl) (limitOf_eq hl h)
  | countAll hs hc ha hf he => exact query_countAll (countAll_scan hs hc ha hf he)
  | whereString hs hw hl =>
    exact query_whereString (whereString_scan _ hs hw hl) (limitOf_eq hl h)
  | whereNumber hs hw hn hl =>
    exact query_whereNumber (whereNumber_scan hs hw hn hl) (operandOf_eq hn h) (limitOf_eq hl h)
  | selectColumns hs hc hf hl =>
    exact query_selectColumns (selectColumns_scan hs hc hf hl) (limitOf_eq hl h)
  | groupCount hs hcol hp hq hc ha hf hb he hsame =>
    exact query_groupCount (groupCount_scan hs hcol hp hq hc ha hf hb he) hsame

/-- **The rules that match whole texts apply to their shapes and to nothing else**, and the query is
what is written in the shape. -/
theorem apply_exact {rule : Rule} {text : String} (hrule : rule.isLoose = false)
    (h : ShortNumbers text.toList) :
    ∃ result, rule.apply text = .ok result ∧
      ∀ q, result = some q ↔ Written rule q text.toList := by
  obtain ⟨result, hresult, hsound⟩ := query_sound hrule h
  refine ⟨result, hresult, fun q => ⟨hsound q, fun hq => ?_⟩⟩
  have hquery := query_of_written hq h
  rw [hresult] at hquery
  exact Except.ok.inj hquery

/-- A keyword, a terminator and a quote inside a literal are part of its text. -/
theorem apply_exact_quoted :
    Written .whereString
      { table := "t", predicate := some ⟨"name", .text "it's; LIMIT 1"⟩, limit := some 5 }
      "SELECT * FROM T WHERE Name='it''s; LIMIT 1' limit 5 ;".toList := by
  obtain ⟨result, hresult, hwritten⟩ :=
    @apply_exact .whereString "SELECT * FROM T WHERE Name='it''s; LIMIT 1' limit 5 ;" rfl
      (shortNumbers_of_length (by decide))
  refine (hwritten _).1 (Except.ok.inj (hresult.symm.trans ?_))
  decide +kernel

end ReadGate.Grammar
