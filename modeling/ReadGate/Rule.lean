import ReadGate.Lexeme
import ReadGate.Query

/-!
# Translation rules

When a backend cannot execute query texts, a text is translated to a structured query by the first
of seven rules that recognizes it.  Six rules match a whole text; the last one searches the text for
a star in a projection and the table it is selected from.

* `Rule.apply` is one rule on one text.
* `translate` tries the rules in their order.
* `unsupported` is the failure when none of them applies.
-/

namespace ReadGate

open Text Lexeme

/-! ## Parts of a shape -/

namespace Shape

/-- A name as it was written. -/
abbrev Name := List Char

/-- May the text end here, with or without a terminator? -/
def atEnd : List Lexeme → Bool
  | [] => true
  | [.mark ';'] => true
  | [.gap _, .mark ';'] => true
  | _ => false

/-- An optional limit, and then the end of the text. -/
def limitThenEnd : List Lexeme → Option (Option Name)
  | .gap _ :: .word w :: .gap _ :: .word digits :: rest =>
    if isKeyword "limit" w && digits.all isDigit && atEnd rest then some (some digits) else none
  | ls => if atEnd ls then some none else none

/-- The keyword `SELECT` and a gap. -/
def select : List Lexeme → Option (List Lexeme)
  | .word w :: .gap _ :: rest => if isKeyword "select" w then some rest else none
  | _ => none

/-- A gap, the keyword `FROM`, a gap and the name of the table. -/
def fromTable : List Lexeme → Option (Name × List Lexeme)
  | .gap _ :: .word w :: .gap _ :: .word table :: rest =>
    if isKeyword "from" w then some (table, rest) else none
  | _ => none

/-- The count of all rows: `COUNT ( * )`. -/
def countStar : List Lexeme → Option (List Lexeme)
  | .word w :: rest =>
    if isKeyword "count" w then
      match skipGap rest with
      | .mark '(' :: rest =>
        match skipGap rest with
        | .mark '*' :: rest =>
          match skipGap rest with
          | .mark ')' :: rest => some rest
          | _ => none
        | _ => none
      | _ => none
    else none
  | _ => none

/-- An optional alias. -/
def optionalAlias : List Lexeme → Option Name × List Lexeme
  | .gap g :: .word w :: .gap h :: .word name :: rest =>
    if isKeyword "as" w then (some name, rest)
    else (none, .gap g :: .word w :: .gap h :: .word name :: rest)
  | ls => (none, ls)

/-- Names with commas between them. -/
def nameList : List Lexeme → Option (List Name × List Lexeme)
  | .word w :: .mark ',' :: rest => more w rest
  | .word w :: .gap _ :: .mark ',' :: rest => more w rest
  | .word w :: rest => some ([w], rest)
  | _ => none
where
  /-- The names after a comma. -/
  more (w : Name) : List Lexeme → Option (List Name × List Lexeme)
    | .gap _ :: rest => (nameList rest).map fun p => (w :: p.1, p.2)
    | rest => (nameList rest).map fun p => (w :: p.1, p.2)

/-- A gap, the keyword `WHERE`, a gap, the name of a column and an equals sign. -/
def whereColumn : List Lexeme → Option (Name × List Lexeme)
  | .gap _ :: .word w :: .gap _ :: .word column :: rest =>
    if isKeyword "where" w then
      match skipGap rest with
      | .mark '=' :: rest => some (column, skipGap rest)
      | _ => none
    else none
  | _ => none

/-- The text of a literal after its opening quote: a quote inside it is written twice. -/
def literalBody : List Lexeme → Option (List Char × List Lexeme)
  | [] => none
  | .mark '\'' :: .mark '\'' :: rest => (literalBody rest).map fun p => ('\'' :: p.1, p.2)
  | l :: rest =>
    if l = .mark '\'' then some ([], rest)
    else (literalBody rest).map fun p => (l.chars ++ p.1, p.2)

/-- A text literal. -/
def literal : List Lexeme → Option (List Char × List Lexeme)
  | .mark '\'' :: rest => literalBody rest
  | _ => none

/-- A number as it was written: its sign, its whole part and its fraction. -/
structure Numeric where
  negative : Bool
  whole : Name
  fraction : Option Name
  deriving DecidableEq, Repr

/-- A number without its sign. -/
def unsignedNumeric (negative : Bool) : List Lexeme → Option (Numeric × List Lexeme)
  | .word whole :: .mark '.' :: .word fraction :: rest =>
    if whole.all isDigit && fraction.all isDigit then some (⟨negative, whole, some fraction⟩, rest)
    else none
  | .word whole :: rest =>
    if whole.all isDigit then some (⟨negative, whole, none⟩, rest) else none
  | _ => none

/-- A number literal. -/
def numeric : List Lexeme → Option (Numeric × List Lexeme)
  | .mark '-' :: rest => unsignedNumeric true rest
  | rest => unsignedNumeric false rest

/-! ## Whole shapes -/

/-- `SELECT * FROM table` and what follows. -/
def starFrom (ls : List Lexeme) : Option (Name × List Lexeme) :=
  match select ls with
  | some (.mark '*' :: rest) => fromTable rest
  | _ => none

/-- `SELECT * FROM table [LIMIT n]`. -/
def selectAll (ls : List Lexeme) : Option (Name × Option Name) := do
  let (table, rest) ← starFrom ls
  return (table, ← limitThenEnd rest)

/-- `SELECT COUNT(*) [AS alias] FROM table`. -/
def countAll (ls : List Lexeme) : Option (Option Name × Name) := do
  let (name, rest) := optionalAlias (← countStar (← select ls))
  let (table, rest) ← fromTable rest
  if atEnd rest then some (name, table) else none

/-- `SELECT * FROM table WHERE column = 'text' [LIMIT n]`. -/
def whereString (ls : List Lexeme) : Option (Name × Name × List Char × Option Name) := do
  let (table, rest) ← starFrom ls
  let (column, rest) ← whereColumn rest
  let (text, rest) ← literal rest
  return (table, column, text, ← limitThenEnd rest)

/-- `SELECT * FROM table WHERE column = number [LIMIT n]`. -/
def whereNumber (ls : List Lexeme) : Option (Name × Name × Numeric × Option Name) := do
  let (table, rest) ← starFrom ls
  let (column, rest) ← whereColumn rest
  let (number, rest) ← numeric rest
  return (table, column, number, ← limitThenEnd rest)

/-- `SELECT column, column FROM table [LIMIT n]`. -/
def selectColumns (ls : List Lexeme) : Option (List Name × Name × Option Name) := do
  let (columns, rest) ← nameList (← select ls)
  let (table, rest) ← fromTable rest
  return (columns, table, ← limitThenEnd rest)

/-- A gap, the keywords `GROUP BY`, the name of a column and the end of the text. -/
def groupByEnd : List Lexeme → Option Name
  | .gap _ :: .word g :: .gap _ :: .word b :: .gap _ :: .word column :: rest =>
    if isKeyword "group" g && isKeyword "by" b && atEnd rest then some column else none
  | _ => none

/-- `SELECT column, COUNT(*) [AS alias] FROM table GROUP BY column`. -/
def groupCount (ls : List Lexeme) : Option (Name × Option Name × Name × Name) := do
  match ← select ls with
  | .word column :: rest =>
    match skipGap rest with
    | .mark ',' :: rest =>
      let (name, rest) := optionalAlias (← countStar (skipGap rest))
      let (table, rest) ← fromTable rest
      return (column, name, table, ← groupByEnd rest)
    | _ => none
  | _ => none

/-! ## The search for a star -/

/-- The table, if the keyword `FROM` stands first. -/
def tableHere : List Lexeme → Option Name
  | .word w :: .gap _ :: .word table :: _ => if isKeyword "from" w then some table else none
  | _ => none

/-- The table after the first `FROM` that names one, within the statement. -/
def tableLater : List Lexeme → Option Name
  | [] => none
  | l :: rest =>
    match tableHere (l :: rest) with
    | some table => some table
    | none => if l = .mark ';' then none else tableLater rest

/-- The table that a star is selected from: at once, or after more of the projection. -/
def tableAfterStar (ls : List Lexeme) : Option Name :=
  match skipGap ls with
  | .mark ',' :: rest => tableLater rest
  | rest => tableHere rest

/-- May a star after this lexeme stand for all columns? -/
def admitsStar : Lexeme → Bool
  | .word _ => false
  | .mark '(' => false
  | _ => true

/-- The table of the first star in the rest of the statement that has one. -/
def starTable (before : Lexeme) : List Lexeme → Option Name
  | [] => none
  | l :: rest =>
    if l = .mark ';' then none
    else if l = .mark '*' && admitsStar before then
      match tableAfterStar rest with
      | some table => some table
      | none => starTable l rest
    else starTable l rest

/-- The table of the first `SELECT` that has a star with a table. -/
def looseTable : List Lexeme → Option Name
  | [] => none
  | l :: rest =>
    if l.isKeyword "select" then
      match starTable l rest with
      | some table => some table
      | none => looseTable rest
    else looseTable rest

end Shape

/-! ## Rules -/

/-- The rules that recognize a query text. -/
inductive Rule
  | selectAll
  | countAll
  | whereString
  | whereNumber
  | selectColumns
  | groupCount
  | looseSelectAll
  deriving DecidableEq, Repr

namespace Rule

/-- All rules, in the order in which they are tried. -/
def all : List Rule :=
  [selectAll, countAll, whereString, whereNumber, selectColumns, groupCount, looseSelectAll]

/-- The name under which a rule is reported. -/
def name : Rule → String
  | selectAll => "select_all"
  | countAll => "count_all"
  | whereString => "where_string"
  | whereNumber => "where_number"
  | selectColumns => "select_columns"
  | groupCount => "group_count"
  | looseSelectAll => "loose_select_all"

/-- The shape of the texts that a rule recognizes. -/
def shape : Rule → String
  | selectAll => "SELECT * FROM table [LIMIT n]"
  | countAll => "SELECT COUNT(*) [AS alias] FROM table"
  | whereString => "SELECT * FROM table WHERE column = 'text' [LIMIT n]"
  | whereNumber => "SELECT * FROM table WHERE column = number [LIMIT n]"
  | selectColumns => "SELECT col1, col2 FROM table [LIMIT n]"
  | groupCount => "SELECT column, COUNT(*) [AS alias] FROM table GROUP BY column"
  | looseSelectAll =>
    "... SELECT [DISTINCT] * | t.* [, ...] FROM table ... (additional clauses ignored)"

/-- Does the rule search the text instead of matching all of it? -/
def isLoose : Rule → Bool
  | looseSelectAll => true
  | _ => false

/-- The rule of the given name. -/
def ofName? (name : String) : Option Rule :=
  all.find? (·.name == name)

/-! ## Queries -/

/-- A name in lower case. -/
def ident (name : Shape.Name) : String :=
  lower (String.ofList name)

/-- The number that decimal digits write. -/
def natOf (digits : Shape.Name) : Except NumeralError Nat :=
  Numeral.natOfDigits (digits.filterMap digitValue?)

/-- An optional limit. -/
def limitOf : Option Shape.Name → Except NumeralError (Option Nat)
  | some digits => (natOf digits).map some
  | none => .ok none

/-- The operand that a number literal stands for. -/
def operandOf (number : Shape.Numeric) : Except NumeralError Operand :=
  match number.fraction with
  | some fraction =>
    let digits := Numeral.ofDigits ((number.whole ++ fraction).filterMap digitValue?)
    .ok (.float (.ofDecimal number.negative digits (-fraction.length)))
  | none => (natOf number.whole).map fun n => .int (if number.negative then -(n : Int) else n)

/-- The name of a count that has no alias. -/
def defaultAlias : String := "count"

/-- The alias, or the name of a count without one. -/
def aliasOf : Option Shape.Name → String
  | some name => ident name
  | none => defaultAlias

/-- The query that a rule reads from lexemes, or nothing if it does not recognize them. -/
def query (rule : Rule) (ls : List Lexeme) : Except NumeralError (Option StructuredQuery) :=
  match rule with
  | selectAll =>
    match Shape.selectAll ls with
    | some (table, limit) => do
      return some ⟨ident table, .all, none, none, ← limitOf limit, .rows, none, none⟩
    | none => .ok none
  | countAll =>
    match Shape.countAll ls with
    | some (name, table) =>
      .ok (some ⟨ident table, .all, none, none, none, .count, none, some (aliasOf name)⟩)
    | none => .ok none
  | whereString =>
    match Shape.whereString ls with
    | some (table, column, text, limit) => do
      return some ⟨ident table, .all, some ⟨ident column, .text (String.ofList text)⟩, none,
        ← limitOf limit, .rows, none, none⟩
    | none => .ok none
  | whereNumber =>
    match Shape.whereNumber ls with
    | some (table, column, number, limit) => do
      let operand ← operandOf number
      return some ⟨ident table, .all, some ⟨ident column, operand⟩, none, ← limitOf limit, .rows,
        none, none⟩
    | none => .ok none
  | selectColumns =>
    match Shape.selectColumns ls with
    | some (columns, table, limit) => do
      return some ⟨ident table, .these (columns.map ident), none, none, ← limitOf limit, .rows,
        none, none⟩
    | none => .ok none
  | groupCount =>
    match Shape.groupCount ls with
    | some (column, name, table, group) =>
      if ident column = ident group then
        .ok (some ⟨ident table, .these [ident column], none, none, none, .groupCount,
          some (ident column), some (aliasOf name)⟩)
      else .ok none
    | none => .ok none
  | looseSelectAll =>
    .ok ((Shape.looseTable ls).map fun table =>
      ⟨ident table, .all, none, none, none, .rows, none, none⟩)

/-- One rule on one text. -/
def apply (rule : Rule) (text : String) : Except NumeralError (Option StructuredQuery) :=
  rule.query (scan text.toList)

/-- The first of the rules that recognizes the lexemes, with its query. -/
def firstMatch (ls : List Lexeme) : List Rule →
    Except NumeralError (Option (Rule × StructuredQuery))
  | [] => .ok none
  | rule :: rest =>
    match rule.query ls with
    | .error e => .error e
    | .ok (some q) => .ok (some (rule, q))
    | .ok none => firstMatch ls rest

end Rule

/-- The first rule that recognizes the text, with its query. -/
def translate (text : String) : Except NumeralError (Option (Rule × StructuredQuery)) :=
  Rule.firstMatch (scan text.toList) Rule.all

/-- The shapes of all rules. -/
def supportedShapes : List String :=
  Rule.all.map Rule.shape

/-- The failure for a text that no rule recognizes. -/
def unsupported (text : String) : Failure :=
  let listing := joined "\n" (supportedShapes.map ("  - " ++ ·))
  .of .unsupportedPattern
    ("Query pattern not supported by the structured query fallback. " ++
      "Supported shapes (optional trailing semicolon):\n" ++ listing)
    [("query", .text text), ("supported_shapes", .texts supportedShapes)]

end ReadGate
