import Mathlib.Data.Nat.Digits.Defs
import ReadGate.Proofs.Text.Classes
import ReadGate.Rule

/-!
# The shapes of query texts

What the shape of a rule means for a text, character by character and without lexemes.  A shape is
made of parts that are put together with `++`: keywords in any letter case, names, white space that
has to be there and white space that may be missing, digits, and quoted text.

* `Limited`, `Alias`, `Names`, `escape`, `numberText` — the parts that recur or repeat.
* `Written` — the text is a rule's shape, and these are the values written in it.
-/

namespace ReadGate.Grammar

open Text Shape

/-! ## Characters -/

/-- White space that separates. -/
abbrev Gap (cs : List Char) : Prop := IsRun isBlank cs

/-- White space that may be missing. -/
def Space (cs : List Char) : Prop :=
  ∀ c ∈ cs, isBlank c = true

/-- A name, of whatever word characters. -/
abbrev Word (cs : List Char) : Prop := IsRun isWord cs

/-- Decimal digits, of whatever script. -/
abbrev Digits (cs : List Char) : Prop := IsRun isDigit cs

/-- A keyword in any letter case. -/
abbrev Keyword (keyword : String) (cs : List Char) : Prop := isKeyword keyword cs = true

/-! ## Parts -/

/-- The end of the text, with or without a terminator. -/
inductive Ending : List Char → Prop
  | bare : Ending []
  | terminated {s : List Char} (hs : Space s) : Ending (s ++ [';'])

/-- An optional limit, and then the end of the text. -/
inductive Limited : Option Name → List Char → Prop
  | without {e : List Char} (he : Ending e) : Limited none e
  | upTo {g w h digits e : List Char} (hg : Gap g) (hw : Keyword "limit" w) (hh : Gap h)
    (hd : Digits digits) (he : Ending e) : Limited (some digits) (g ++ w ++ h ++ digits ++ e)

/-- The keyword `SELECT` and a gap. -/
inductive Select : List Char → Prop
  | mk {w g : List Char} (hw : Keyword "select" w) (hg : Gap g) : Select (w ++ g)

/-- A gap, the keyword `FROM`, a gap and the name of the table. -/
inductive FromTable (table : Name) : List Char → Prop
  | mk {g w h : List Char} (hg : Gap g) (hw : Keyword "from" w) (hh : Gap h) (ht : Word table) :
    FromTable table (g ++ w ++ h ++ table)

/-- `SELECT * FROM table`. -/
inductive StarFrom (table : Name) : List Char → Prop
  | mk {s f : List Char} (hs : Select s) (hf : FromTable table f) :
    StarFrom table (s ++ '*' :: f)

/-- `COUNT(*)`, with white space between its signs. -/
inductive CountStar : List Char → Prop
  | mk {w a b c : List Char} (hw : Keyword "count" w) (ha : Space a) (hb : Space b) (hc : Space c) :
    CountStar (w ++ a ++ '(' :: b ++ '*' :: c ++ [')'])

/-- An optional alias. -/
inductive Alias : Option Name → List Char → Prop
  | without : Alias none []
  | called {g w h name : List Char} (hg : Gap g) (hw : Keyword "as" w) (hh : Gap h)
    (hn : Word name) : Alias (some name) (g ++ w ++ h ++ name)

/-- One or more names with commas between them. -/
inductive Names : List Name → List Char → Prop
  | one {name : List Char} (hn : Word name) : Names [name] name
  | more {name a b cs : List Char} {names : List Name} (hn : Word name) (ha : Space a)
    (hb : Space b) (h : Names names cs) : Names (name :: names) (name ++ a ++ ',' :: b ++ cs)

/-- A gap, the keyword `WHERE`, a gap, the name of a column and an equals sign. -/
inductive WhereColumn (column : Name) : List Char → Prop
  | mk {g w h a b : List Char} (hg : Gap g) (hw : Keyword "where" w) (hh : Gap h)
    (hc : Word column) (ha : Space a) (hb : Space b) :
    WhereColumn column (g ++ w ++ h ++ column ++ a ++ '=' :: b)

/-- A gap, the keywords `GROUP BY`, a gap and the name of a column. -/
inductive GroupBy (column : Name) : List Char → Prop
  | mk {g w h v i : List Char} (hg : Gap g) (hw : Keyword "group" w) (hh : Gap h)
    (hv : Keyword "by" v) (hi : Gap i) (hc : Word column) :
    GroupBy column (g ++ w ++ h ++ v ++ i ++ column)

/-- A text as it stands between quotes: each quote in it is written twice. -/
def escape (text : List Char) : List Char :=
  text.flatMap fun c => if c = '\'' then ['\'', '\''] else [c]

/-- A text literal. -/
def quotedText (text : List Char) : List Char :=
  '\'' :: escape text ++ ['\'']

/-- An optional fraction with its point. -/
def fractionText : Option Name → List Char
  | some fraction => '.' :: fraction
  | none => []

/-- A number literal: a sign, digits, and perhaps a fraction. -/
def numberText (number : Numeric) : List Char :=
  (if number.negative then ['-'] else []) ++ number.whole ++ fractionText number.fraction

/-- The parts of a number literal are digits. -/
structure IsNumber (number : Numeric) : Prop where
  whole : Digits number.whole
  fraction : ∀ fraction ∈ number.fraction, Digits fraction

/-! ## Values -/

/-- The number that decimal digits write, the most significant first. -/
def valueOf (digits : Name) : Nat :=
  Nat.ofDigits 10 (digits.reverse.filterMap digitValue?)

/-- The operand that a number literal writes: an integer, or the nearest double-precision number if
it has a point. -/
def operandOf (number : Numeric) : Operand :=
  match number.fraction with
  | some fraction =>
    .float (.ofDecimal number.negative (valueOf (number.whole ++ fraction)) (-fraction.length))
  | none => .int (if number.negative then -(valueOf number.whole : Int) else valueOf number.whole)

/-- The name of a count: its alias in lower case, or `count`. -/
def countName (name : Option Name) : String :=
  (name.map Rule.ident).getD "count"

/-! ## Shapes -/

/-- The text is the shape of a rule that matches whole texts, and the query holds what is written
in it. -/
inductive Written : Rule → StructuredQuery → List Char → Prop
  | selectAll {table s l : List Char} {limit : Option Name}
    (hs : StarFrom table s) (hl : Limited limit l) :
    Written .selectAll { table := Rule.ident table, limit := limit.map valueOf } (s ++ l)
  | countAll {table s c a f e : List Char} {name : Option Name}
    (hs : Select s) (hc : CountStar c) (ha : Alias name a) (hf : FromTable table f)
    (he : Ending e) :
    Written .countAll
      { table := Rule.ident table, aggregate := .count, resultAlias := some (countName name) }
      (s ++ c ++ a ++ f ++ e)
  | whereString {table column text s w l : List Char} {limit : Option Name}
    (hs : StarFrom table s) (hw : WhereColumn column w) (hl : Limited limit l) :
    Written .whereString
      { table := Rule.ident table
        predicate := some ⟨Rule.ident column, .text (String.ofList text)⟩
        limit := limit.map valueOf }
      (s ++ w ++ quotedText text ++ l)
  | whereNumber {table column s w l : List Char} {number : Numeric} {limit : Option Name}
    (hs : StarFrom table s) (hw : WhereColumn column w) (hn : IsNumber number)
    (hl : Limited limit l) :
    Written .whereNumber
      { table := Rule.ident table
        predicate := some ⟨Rule.ident column, operandOf number⟩
        limit := limit.map valueOf }
      (s ++ w ++ numberText number ++ l)
  | selectColumns {table s c f l : List Char} {names : List Name} {limit : Option Name}
    (hs : Select s) (hc : Names names c) (hf : FromTable table f) (hl : Limited limit l) :
    Written .selectColumns
      { table := Rule.ident table
        columns := .these (names.map Rule.ident)
        limit := limit.map valueOf }
      (s ++ c ++ f ++ l)
  | groupCount {table column group s p q c a f b e : List Char} {name : Option Name}
    (hs : Select s) (hcol : Word column) (hp : Space p) (hq : Space q) (hc : CountStar c)
    (ha : Alias name a) (hf : FromTable table f) (hb : GroupBy group b) (he : Ending e)
    (hsame : Rule.ident column = Rule.ident group) :
    Written .groupCount
      { table := Rule.ident table
        columns := .these [Rule.ident column]
        aggregate := .groupCount
        groupBy := some (Rule.ident column)
        resultAlias := some (countName name) }
      (s ++ column ++ p ++ ',' :: q ++ c ++ a ++ f ++ b ++ e)

end ReadGate.Grammar
