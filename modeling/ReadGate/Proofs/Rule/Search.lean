import Mathlib.Data.List.TakeWhile
import ReadGate.Proofs.Rule.Names

/-!
# The search for a star

The last rule takes any text in which a star stands behind the keyword `SELECT` and before the
keyword `FROM` with a table.  Of all such places it takes the first: the first `SELECT` that has a
star, for it the first star that has a table, and for this the first table.  It does not ask whether
the star stands in the projection of that `SELECT`, nor whether another `FROM` comes before.

* `Leads` — the first place of a kind in a list, one element after the other.
* `TableAt`, `StarAt`, `SelectAt` — the places that the search looks for, and `looseTable_finds`:
  it finds the first of each kind, whenever there is any.
* `Finding`, `looseSelectAll_exact` — what the rule makes of every text, and when its star and its
  table are those of the first `SELECT`.
* `looseSelectAll_exact_quoted` — a star in a quoted text is taken for one of a projection.
-/

namespace ReadGate.Grammar

open Text Lexeme Shape

variable {ls : List Lexeme} {table : Name}

/-! ## First places -/

/-- A place in a list is the first at which the list falls into two parts of a kind. -/
structure Leads {α : Type} (P : List α → List α → Prop) (xs front back : List α) : Prop where
  parts : xs = front ++ back
  holds : P front back
  first : ∀ front' back', xs = front' ++ back' → P front' back' → front.length ≤ front'.length

/-- What is read at the first place of a kind, or nothing if there is none. -/
def Finds {α β : Type} (P : List α → List α → Prop) (read : List α → Option β) (xs : List α) :
    Option β → Prop
  | some b => ∃ front back, Leads P xs front back ∧ read back = some b
  | none => ∀ front back, xs = front ++ back → ¬ P front back

namespace Finds

variable {α β : Type} {P Q : List α → List α → Prop} {read : List α → Option β} {x : α}
  {xs : List α}

theorem here {b : β} (h : P [] xs) (hread : read xs = some b) : Finds P read xs (some b) :=
  ⟨[], xs, ⟨rfl, h, fun _ _ _ _ => Nat.zero_le _⟩, hread⟩

/-- If there is no place at the front, it is looked for behind the first element. -/
theorem later (hnot : ¬ P [] (x :: xs)) (hcons : ∀ front back, P (x :: front) back ↔ Q front back)
    {found : Option β} (h : Finds Q read xs found) : Finds P read (x :: xs) found := by
  have hbehind {front' back' : List α} (hparts : x :: xs = front' ++ back')
      (hplace : P front' back') :
      ∃ front'', front' = x :: front'' ∧ xs = front'' ++ back' ∧ Q front'' back' := by
    cases front' with
    | nil =>
      rw [List.nil_append] at hparts
      exact absurd (hparts ▸ hplace) hnot
    | cons x' front'' =>
      obtain ⟨rfl, hrest⟩ := List.cons.inj hparts
      exact ⟨front'', rfl, hrest, (hcons ..).1 hplace⟩
  cases found with
  | none =>
    intro front' back' hparts hplace
    obtain ⟨front'', -, hrest, hplace'⟩ := hbehind hparts hplace
    exact h front'' back' hrest hplace'
  | some b =>
    obtain ⟨front, back, hleads, hread⟩ := h
    refine ⟨x :: front, back, ⟨?_, (hcons ..).2 hleads.holds, ?_⟩, hread⟩
    · rw [hleads.parts]
      rfl
    · intro front' back' hparts hplace
      obtain ⟨front'', rfl, hrest, hplace'⟩ := hbehind hparts hplace
      exact Nat.succ_le_succ (hleads.first front'' back' hrest hplace')

/-- An element that no place has before it ends the search. -/
theorem stop (hnot : ¬ P [] (x :: xs)) (hstop : ∀ front back, ¬ P (x :: front) back) :
    Finds P read (x :: xs) none := by
  have hnothing : Finds (fun _ _ => False) read xs none := fun _ _ _ => id
  exact hnothing.later hnot fun front back => iff_of_false (hstop front back) id

theorem congr (h : ∀ front back, xs = front ++ back → (P front back ↔ Q front back))
    {found : Option β} (hfinds : Finds Q read xs found) : Finds P read xs found := by
  cases found with
  | none => exact fun front back hparts hplace => hfinds front back hparts ((h _ _ hparts).1 hplace)
  | some b =>
    obtain ⟨front, back, hleads, hread⟩ := hfinds
    refine ⟨front, back, ⟨hleads.parts, (h _ _ hleads.parts).2 hleads.holds, ?_⟩, hread⟩
    exact fun front' back' hparts hplace =>
      hleads.first front' back' hparts ((h _ _ hparts).1 hplace)

end Finds

/-! ## The table -/

theorem exists_of_tableHere {tail : List Lexeme} (h : (tableHere tail).isSome = true) :
    ∃ w g t rest, tail = .word w :: .gap g :: .word t :: rest ∧
      Text.isKeyword "from" w = true := by
  unfold tableHere at h
  split at h
  · rename_i w g t rest
    split at h
    · exact ⟨w, g, t, rest, rfl, ‹_›⟩
    · cases h
  · cases h

/-- Behind more of the same statement, `FROM` stands with a table. -/
def LaterAt (more tail : List Lexeme) : Prop :=
  .mark ';' ∉ more ∧ (tableHere tail).isSome = true

theorem tableLater_finds (ls : List Lexeme) : Finds LaterAt tableHere ls (tableLater ls) := by
  induction ls with
  | nil =>
    intro more tail hls hplace
    obtain ⟨-, rfl⟩ := List.append_eq_nil_iff.1 hls.symm
    cases hplace.2
  | cons l rest ih =>
    unfold tableLater
    split
    · rename_i found hhere
      exact .here ⟨List.not_mem_nil, by rw [hhere]; rfl⟩ hhere
    · rename_i hhere
      have hnot : ¬ LaterAt [] (l :: rest) := fun hplace => by
        rw [LaterAt, hhere] at hplace
        cases hplace.2
      split
      · rename_i hmark
        exact .stop hnot fun more tail hplace => hplace.1 (hmark ▸ List.mem_cons_self)
      · rename_i hmark
        exact ih.later hnot fun more tail => by simp [LaterAt, Ne.symm hmark]

/-- The rest of a projection: nothing, or a comma and anything else within the statement. -/
inductive More : List Lexeme → Prop
  | nothing : More []
  | comma {more : List Lexeme} (inside : .mark ';' ∉ more) : More (.mark ',' :: more)

/-- What may stand between a star and `FROM`: the rest of a projection, behind white space or not.
-/
inductive Aside : List Lexeme → Prop
  | direct {more : List Lexeme} (h : More more) : Aside more
  | space (g : List Char) {more : List Lexeme} (h : More more) : Aside (.gap g :: more)

/-- A projection that is cut off at a word stays one. -/
theorem More.of_append {w : List Char} {a b : List Lexeme} (h : More (a ++ .word w :: b)) :
    More a := by
  generalize hls : a ++ .word w :: b = ls at h
  cases a with
  | nil => exact .nothing
  | cons first a =>
    cases h with
    | nothing => cases hls
    | comma inside =>
      cases hls
      exact .comma fun hmem => inside (List.mem_append_left _ hmem)

theorem Aside.of_append {w : List Char} {a b : List Lexeme} (h : Aside (a ++ .word w :: b)) :
    Aside a := by
  generalize hls : a ++ .word w :: b = ls at h
  cases h with
  | direct h => exact .direct (hls ▸ h).of_append
  | space g h =>
    cases a with
    | nil => cases hls
    | cons first a =>
      cases hls
      exact .space g h.of_append

/-- Behind the rest of a projection, `FROM` stands with a table. -/
def MoreAt (more tail : List Lexeme) : Prop :=
  More more ∧ (tableHere tail).isSome = true

/-- The same where the rest of the projection may have white space before it. -/
def TableAt (aside tail : List Lexeme) : Prop :=
  Aside aside ∧ (tableHere tail).isSome = true

theorem moreAt_comma (more tail : List Lexeme) :
    MoreAt (.mark ',' :: more) tail ↔ LaterAt more tail := by
  constructor
  · rintro ⟨⟨⟩, htail⟩
    exact ⟨‹_›, htail⟩
  · rintro ⟨inside, htail⟩
    exact ⟨.comma inside, htail⟩

theorem tableAt_space (g : List Char) (more tail : List Lexeme) :
    TableAt (.gap g :: more) tail ↔ MoreAt more tail := by
  constructor
  · rintro ⟨⟨⟨⟩⟩ | ⟨_, hmore⟩, htail⟩
    exact ⟨hmore, htail⟩
  · rintro ⟨hmore, htail⟩
    exact ⟨.space g hmore, htail⟩

theorem moreAt_finds (ls : List Lexeme) : Finds MoreAt tableHere ls
    (match ls with | .mark ',' :: rest => tableLater rest | rest => tableHere rest) := by
  split
  · rename_i rest
    exact (tableLater_finds rest).later (fun hplace => by cases hplace.2) moreAt_comma
  · rename_i hcomma
    rcases htable : tableHere ls with _ | table
    · rintro more tail rfl ⟨hmore, htail⟩
      cases hmore with
      | nothing =>
        rw [List.nil_append] at htable
        rw [htable] at htail
        cases htail
      | comma => exact hcomma _ rfl
    · exact .here ⟨.nothing, by rw [htable]; rfl⟩ htable

theorem tableAfterStar_finds (ls : List Lexeme) :
    Finds TableAt tableHere ls (tableAfterStar ls) := by
  have hmore := moreAt_finds (skipGap ls)
  unfold skipGap at hmore
  split at hmore
  · exact hmore.later (fun hplace => by cases hplace.2) (tableAt_space _)
  · rename_i hgap
    have hskip : skipGap ls = ls := by
      unfold skipGap
      split
      · exact absurd rfl (hgap _ _)
      · rfl
    rw [tableAfterStar, hskip]
    refine hmore.congr fun aside tail hls => and_congr_left fun _ => ⟨fun haside => ?_, .direct⟩
    cases haside with
    | direct h => exact h
    | space g h => exact absurd hls (hgap g _)

/-! ## The star -/

/-- Behind more of the same statement stands a star that may be one for all columns, and it has a
table. -/
structure StarAt (first : Lexeme) (between rest : List Lexeme) : Prop where
  inside : .mark ';' ∉ between
  bare : admitsStar (between.getLastD first) = true
  star : ∃ aside tail, rest = .mark '*' :: (aside ++ tail) ∧ TableAt aside tail

/-- The table of the star that stands first. -/
def tableOfStar : List Lexeme → Option Name
  | .mark '*' :: rest => tableAfterStar rest
  | _ => none

theorem starAt_cons {first l : Lexeme} (hl : l ≠ .mark ';') (between rest : List Lexeme) :
    StarAt first (l :: between) rest ↔ StarAt l between rest := by
  have hlast : (l :: between).getLastD first = between.getLastD l := by
    cases between <;> rfl
  constructor
  · rintro ⟨inside, bare, star⟩
    exact ⟨fun hmem => inside (List.mem_cons_of_mem l hmem), hlast ▸ bare, star⟩
  · rintro ⟨inside, bare, star⟩
    refine ⟨fun hmem => ?_, hlast ▸ bare, star⟩
    rcases List.mem_cons.1 hmem with rfl | hlater
    · exact hl rfl
    · exact inside hlater

theorem starAt_nil {first l : Lexeme} {rest : List Lexeme} : StarAt first [] (l :: rest) ↔
    l = .mark '*' ∧ admitsStar first = true ∧ ∃ aside tail, rest = aside ++ tail ∧
      TableAt aside tail := by
  constructor
  · rintro ⟨-, bare, aside, tail, hrest, htable⟩
    obtain ⟨rfl, rfl⟩ := List.cons.inj hrest
    exact ⟨rfl, bare, aside, tail, rfl, htable⟩
  · rintro ⟨rfl, bare, aside, tail, rfl, htable⟩
    exact ⟨List.not_mem_nil, bare, aside, tail, rfl, htable⟩

theorem starTable_finds (first : Lexeme) (ls : List Lexeme) :
    Finds (StarAt first) tableOfStar ls (starTable first ls) := by
  induction ls generalizing first with
  | nil =>
    rintro between rest hls ⟨-, -, aside, tail, rfl, -⟩
    simp at hls
  | cons l rest ih =>
    unfold starTable
    split
    · rename_i hmark
      refine .stop (fun hplace => ?_) fun between rest hplace =>
        hplace.inside (hmark ▸ List.mem_cons_self)
      have hstar := (starAt_nil.1 hplace).1
      rw [hmark] at hstar
      cases hstar
    · rename_i hmark
      split
      · rename_i hbare
        simp only [Bool.and_eq_true, decide_eq_true_eq] at hbare
        obtain ⟨rfl, hbare⟩ := hbare
        have hfinds := tableAfterStar_finds rest
        split
        · rename_i table htable
          rw [htable] at hfinds
          obtain ⟨aside, tail, hleads, -⟩ := hfinds
          exact .here (starAt_nil.2 ⟨rfl, hbare, aside, tail, hleads.parts, hleads.holds⟩) htable
        · rename_i htable
          rw [htable] at hfinds
          refine (ih _).later (fun hplace => ?_) (starAt_cons hmark)
          obtain ⟨-, -, aside, tail, hrest, hplace⟩ := starAt_nil.1 hplace
          exact hfinds aside tail hrest hplace
      · rename_i hbare
        refine (ih _).later (fun hplace => hbare ?_) (starAt_cons hmark)
        obtain ⟨hl, hadmits, -⟩ := starAt_nil.1 hplace
        simp [hl, hadmits]

/-! ## The keyword `SELECT` -/

/-- The keyword `SELECT` has a star behind it. -/
def SelectAt (rest : List Lexeme) : Prop :=
  ∃ select between behind, rest = select :: (between ++ behind) ∧
    select.isKeyword "select" = true ∧ StarAt select between behind

/-- The table of the `SELECT` that stands first. -/
def tableOfSelect : List Lexeme → Option Name
  | select :: rest => starTable select rest
  | [] => none

theorem looseTable_finds (ls : List Lexeme) :
    Finds (fun _ rest => SelectAt rest) tableOfSelect ls (looseTable ls) := by
  induction ls with
  | nil =>
    rintro before rest hls ⟨select, between, behind, rfl, -⟩
    simp at hls
  | cons l rest ih =>
    unfold looseTable
    split
    · rename_i hselect
      have hfinds := starTable_finds l rest
      split
      · rename_i table htable
        rw [htable] at hfinds
        obtain ⟨between, behind, hleads, -⟩ := hfinds
        refine .here ⟨l, between, behind, ?_, hselect, hleads.holds⟩ htable
        rw [hleads.parts]
      · rename_i htable
        rw [htable] at hfinds
        refine ih.later ?_ fun _ _ => Iff.rfl
        rintro ⟨select, between, behind, hrest, -, hstar⟩
        obtain ⟨rfl, rfl⟩ := List.cons.inj hrest
        exact hfinds between behind rfl hstar
    · rename_i hselect
      refine ih.later ?_ fun _ _ => Iff.rfl
      rintro ⟨select, between, behind, hrest, hkeyword, -⟩
      obtain ⟨rfl, -⟩ := List.cons.inj hrest
      exact hselect hkeyword

/-! ## What the rule finds -/

/-- A star with the keyword `SELECT` before it and `FROM` with a table behind it: the lexemes around
and between them. -/
structure Finding where
  before : List Lexeme
  select : Lexeme
  between : List Lexeme
  aside : List Lexeme
  tail : List Lexeme

namespace Finding

variable (f : Finding)

/-- The lexemes from the star on. -/
def fromStar : List Lexeme :=
  .mark '*' :: (f.aside ++ f.tail)

/-- The lexemes from the keyword `SELECT` on. -/
def fromSelect : List Lexeme :=
  f.select :: (f.between ++ f.fromStar)

/-- The lexemes from the first `SELECT` of the text to the star. -/
def projection : List Lexeme :=
  (f.before ++ f.select :: f.between).dropWhile fun l => !l.isKeyword "select"

/-- The finding is the first in a text: its `SELECT` is the first that has a star, its star the
first that this one has, and its table the first of this star. -/
structure IsFirst (ls : List Lexeme) (table : Name) : Prop where
  select : Leads (fun _ rest => SelectAt rest) ls f.before f.fromSelect
  star : Leads (StarAt f.select) (f.between ++ f.fromStar) f.between f.fromStar
  keyword : Leads TableAt (f.aside ++ f.tail) f.aside f.tail
  named : tableHere f.tail = some table

/-- No `FROM` stands between the first `SELECT` of the text and the star. -/
def InProjection : Prop :=
  ∀ l ∈ f.projection, l.isKeyword "from" = false

/-- None stands before the one with the table either. -/
def IsPlain : Prop :=
  f.InProjection ∧ ∀ l ∈ f.aside, l.isKeyword "from" = false

end Finding

/-- The name directly behind the first `FROM` after the first `SELECT`. -/
def firstTable? (ls : List Lexeme) : Option Name :=
  tableHere ((ls.dropWhile fun l => !l.isKeyword "select").dropWhile fun l => !l.isKeyword "from")

theorem exists_of_looseTable (h : looseTable ls = some table) :
    ∃ f : Finding, f.IsFirst ls table := by
  have hselects := looseTable_finds ls
  rw [h] at hselects
  obtain ⟨before, rest, hselect, hread⟩ := hselects
  cases rest with
  | nil => cases hread
  | cons select after =>
    have hstars := starTable_finds select after
    rw [show starTable select after = some table from hread] at hstars
    obtain ⟨between, behind, hstar, hread⟩ := hstars
    obtain ⟨rest, rfl⟩ : ∃ rest, behind = .mark '*' :: rest := by
      obtain ⟨aside, tail, hbehind, -⟩ := hstar.holds.star
      exact ⟨aside ++ tail, hbehind⟩
    have htables := tableAfterStar_finds rest
    rw [show tableAfterStar rest = some table from hread] at htables
    obtain ⟨aside, tail, hkeyword, hnamed⟩ := htables
    obtain rfl := hstar.parts
    obtain rfl := hkeyword.parts
    exact ⟨⟨before, select, between, aside, tail⟩, hselect, hstar, hkeyword, hnamed⟩

namespace Finding.IsFirst

variable {f : Finding}

theorem isSelect (h : f.IsFirst ls table) : f.select.isKeyword "select" = true := by
  obtain ⟨select, between, behind, hselect, hkeyword, -⟩ := h.select.holds
  obtain ⟨rfl, -⟩ := List.cons.inj hselect
  exact hkeyword

/-- The text from its first `SELECT` on. -/
theorem dropWhile_select (h : f.IsFirst ls table) :
    ls.dropWhile (fun l => !l.isKeyword "select") = f.projection ++ f.fromStar := by
  have hls : ls = (f.before ++ f.select :: f.between) ++ f.fromStar := by
    rw [h.select.parts, fromSelect]
    simp
  have hne : f.projection ≠ [] := by
    intro hnil
    have hall := List.dropWhile_eq_nil_iff.1 hnil f.select (by simp)
    rw [h.isSelect] at hall
    cases hall
  rw [hls, List.dropWhile_append, if_neg (by simpa [projection] using hne), projection]

/-- Behind a plain finding, the first `FROM` is the one with its table. -/
theorem firstTable?_of_isPlain (h : f.IsFirst ls table) (hplain : f.IsPlain) :
    firstTable? ls = some table := by
  obtain ⟨w, g, t, rest, htail, hfrom⟩ := exists_of_tableHere h.keyword.holds.2
  have hskip : ∀ l ∈ f.projection ++ .mark '*' :: f.aside,
      (!l.isKeyword "from") = true := by
    intro l hl
    rcases List.mem_append.1 hl with hbefore | hbehind
    · rw [hplain.1 l hbefore]
      rfl
    · rcases List.mem_cons.1 hbehind with rfl | haside
      · rfl
      · rw [hplain.2 l haside]
        rfl
  have hls : f.projection ++ f.fromStar = (f.projection ++ .mark '*' :: f.aside) ++ f.tail := by
    simp [fromStar]
  rw [firstTable?, h.dropWhile_select, hls, List.dropWhile_append_of_pos hskip, htail,
    List.dropWhile_cons_of_neg (by simp [Lexeme.isKeyword, hfrom]), ← htail, h.named]

/-- If the first `FROM` has the table, none stands beside the star. -/
theorem isPlain_of_firstTable? (h : f.IsFirst ls table) (hprojection : f.InProjection)
    (hfirst : firstTable? ls = some table) : f.IsPlain := by
  refine ⟨hprojection, fun l hl => ?_⟩
  by_contra hfrom
  rw [Bool.not_eq_false] at hfrom
  -- the first `FROM` beside the star would have been taken
  obtain ⟨l, hfind⟩ := Option.isSome_iff_exists.1
    (List.find?_isSome (p := fun l => l.isKeyword "from").2 ⟨l, hl, hfrom⟩)
  obtain ⟨hkeyword, a, b, haside, ha⟩ := List.find?_eq_some_iff_append.1 hfind
  have hskip : ∀ l ∈ f.projection ++ .mark '*' :: a, (!l.isKeyword "from") = true := by
    intro l hl
    rcases List.mem_append.1 hl with hbefore | hbehind
    · rw [hprojection l hbefore]
      rfl
    · rcases List.mem_cons.1 hbehind with rfl | hmem
      · rfl
      · exact ha l hmem
  have hls : f.projection ++ f.fromStar =
      (f.projection ++ .mark '*' :: a) ++ l :: (b ++ f.tail) := by
    simp [fromStar, haside]
  rw [firstTable?, h.dropWhile_select, hls, List.dropWhile_append_of_pos hskip,
    List.dropWhile_cons_of_neg (by simp [hkeyword])] at hfirst
  obtain ⟨w, rfl⟩ : ∃ w, l = .word w := by
    cases l with
    | word w => exact ⟨w, rfl⟩
    | gap => cases hkeyword
    | mark => cases hkeyword
  have haside' : Aside a := (haside ▸ h.keyword.holds.1).of_append
  have hle := h.keyword.first a (.word w :: (b ++ f.tail)) (by simp [haside])
    ⟨haside', by rw [hfirst]; rfl⟩
  rw [haside, List.length_append, List.length_cons] at hle
  omega

end Finding.IsFirst

/-! ## The rule -/

/-- The query for all columns of all rows of a table. -/
def allOf (table : Name) : StructuredQuery where
  table := Rule.ident table

/-- **The search finds the first star that has a table, wherever it stands.**  The rule applies if
and only if there is one, and the query is for its table.  The star is one of the first `SELECT`'s
projection, and the table the one that follows the first `FROM` after it, if and only if no `FROM`
stands between that `SELECT` and the one with the table. -/
theorem looseSelectAll_exact (text : String) :
    (Rule.looseSelectAll.apply text = .ok none ↔
      ∀ before rest, scan text.toList = before ++ rest → ¬ SelectAt rest) ∧
    ∀ q, Rule.looseSelectAll.apply text = .ok (some q) → ∃ (f : Finding) (table : Name),
      f.IsFirst (scan text.toList) table ∧ q = allOf table ∧
      (f.InProjection ∧ firstTable? (scan text.toList) = some table ↔ f.IsPlain) := by
  have happly : Rule.looseSelectAll.apply text =
      .ok ((looseTable (scan text.toList)).map allOf) := rfl
  have hfinds := looseTable_finds (scan text.toList)
  rw [happly]
  constructor
  · cases hloose : looseTable (scan text.toList) with
    | none =>
      rw [hloose] at hfinds
      exact iff_of_true rfl hfinds
    | some table =>
      rw [hloose] at hfinds
      obtain ⟨before, rest, hleads, -⟩ := hfinds
      exact iff_of_false nofun fun hnone => hnone before rest hleads.parts hleads.holds
  · intro q hq
    obtain ⟨table, htable, rfl⟩ := Option.map_eq_some_iff.1 (Except.ok.inj hq)
    obtain ⟨f, hfirst⟩ := exists_of_looseTable htable
    exact ⟨f, table, hfirst, rfl, fun h => hfirst.isPlain_of_firstTable? h.1 h.2,
      fun hplain => ⟨hplain.1, hfirst.firstTable?_of_isPlain hplain⟩⟩

/-- A query with a quoted text that has a star in it. -/
def quotedStar : String :=
  "SELECT name FROM users WHERE note = 'see * from admins'"

/-- The quoted star is taken for one of the projection, and a quoted word for the table. -/
theorem looseSelectAll_exact_quoted :
    firstTable? (scan quotedStar.toList) = some "users".toList ∧
    ∃ (f : Finding) (table : Name), f.IsFirst (scan quotedStar.toList) table ∧
      Rule.ident table = "admins" ∧ ¬ f.IsPlain := by
  have hq : Rule.looseSelectAll.apply quotedStar = .ok (some (allOf "admins".toList)) := by
    decide +kernel
  have husers : firstTable? (scan quotedStar.toList) = some "users".toList := by
    decide +kernel
  obtain ⟨f, table, hfirst, htable, hplain⟩ := (looseSelectAll_exact quotedStar).2 _ hq
  refine ⟨husers, f, table, hfirst, (congrArg StructuredQuery.table htable).symm, fun h => ?_⟩
  rw [← hplain, husers] at h
  obtain rfl := Option.some.inj h.2
  revert htable
  decide +kernel

end ReadGate.Grammar
