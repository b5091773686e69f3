import ReadGate.Backend.Basic

/-!
# Composed statements

A selection becomes one statement.  Names stand between double quotes, with quotes inside them
written twice, and values are bound as parameters, so no name or value is read as part of the
statement.

* `identifier` quotes a name.
* `Statement.ofSelection` composes the statement of a selection with its parameters.
-/

namespace ReadGate.Postgres

/-! ## Names -/

/-- The characters of a name with its quotes written twice. -/
def doubleQuotes : List Char → List Char
  | [] => []
  | c :: rest => if c = '"' then '"' :: '"' :: doubleQuotes rest else c :: doubleQuotes rest

/-- A name between quotes. -/
def identifier (name : String) : String :=
  String.ofList ('"' :: doubleQuotes name.toList ++ ['"'])

/-! ## Selections -/

/-- A statement and its parameters. -/
structure Statement where
  sql : String
  params : List Value
  deriving Repr

namespace Statement

/-- The columns of a selection. -/
def projection : Columns → String
  | .all => "*"
  | columns => joined ", " (columns.names.map identifier)

/-- The filter of a statement. -/
def filterClause (p : Predicate) : Statement :=
  ⟨s!"WHERE {identifier p.column} = %s", [p.operand.value]⟩

/-- The order of a statement. -/
def orderClause (o : OrderBy) : Statement :=
  let direction := if o.ascending then "ASC" else "DESC"
  ⟨s!"ORDER BY {identifier o.column} {direction}", []⟩

/-- The limit of a statement. -/
def limitClause (n : Int) : Statement :=
  ⟨"LIMIT %s", [.int n]⟩

/-- The clauses that a selection has. -/
def clauses (q : Selection) : List Statement :=
  ⟨s!"SELECT {projection q.columns} FROM {identifier q.table}", []⟩ ::
    (q.predicate.map filterClause).toList ++ (q.orderBy.map orderClause).toList ++
    (q.limit.map limitClause).toList

/-- The statement of a selection. -/
def ofSelection (q : Selection) : Statement :=
  ⟨joined " " ((clauses q).map (·.sql)), (clauses q).flatMap (·.params)⟩

/-- The statement that counts the rows of a table. -/
def countRows (table : String) : String :=
  s!"SELECT COUNT(*) AS n FROM {identifier table}"

/-- The statement that lists a column. -/
def listColumn (table column : String) : String :=
  s!"SELECT {identifier column} AS v FROM {identifier table}"

/-- The statement that hands a text to a function. -/
def callFunction (name : String) : String :=
  s!"SELECT {identifier name}(%s) AS result"

end Statement

end ReadGate.Postgres
