import ReadGate.Proofs.Postgres.Pieces

/-!
# The frame of a selection in its statement

The statement of a selection tells everything about it but the values.  Outside its quoted names it
is made of fixed words only, whatever characters the names have.

* `Frame`, `Selection.frame` — a selection without its values.
* `template` — the pieces of the statement of a frame.
* `pieces_ofSelection` — every statement is read as these pieces.
-/

namespace ReadGate

/-- A selection without its values. -/
structure Frame where
  table : String
  /-- The named columns, or none if all are meant. -/
  columns : Option (List String)
  filter : Option String
  order : Option OrderBy
  limited : Bool
  deriving DecidableEq, Repr

/-- The named columns, unless all are meant. -/
def Columns.listed : Columns → Option (List String)
  | .all => none
  | columns => some columns.names

/-- What the selection is without its values. -/
def Selection.frame (q : Selection) : Frame :=
  { table := q.table
    columns := q.columns.listed
    filter := q.predicate.map (·.column)
    order := q.orderBy
    limited := q.limit.isSome }

namespace Postgres

/-! ## Templates -/

/-- The pieces of a list of names. -/
def listing : List String → List Piece
  | [] => []
  | [name] => [.name name]
  | name :: rest => .name name :: word ", " ++ listing rest

/-- The pieces of the columns. -/
def projectionPieces : Option (List String) → List Piece
  | none => word "*"
  | some names => listing names

/-- The pieces of a filter. -/
def filterPieces (column : String) : List Piece :=
  word " WHERE " ++ .name column :: word " = %s"

/-- The word of a direction. -/
def direction (ascending : Bool) : String :=
  if ascending then " ASC" else " DESC"

/-- The pieces of an order. -/
def orderPieces (o : OrderBy) : List Piece :=
  word " ORDER BY " ++ .name o.column :: word (direction o.ascending)

/-- The pieces of a limit. -/
def limitPieces (limited : Bool) : List Piece :=
  if limited then word " LIMIT %s" else []

/-- The pieces of a statement: fixed words, and the names of its frame. -/
def template (f : Frame) : List Piece :=
  word "SELECT " ++ (projectionPieces f.columns ++ (word " FROM " ++ .name f.table ::
    (f.filter.toList.flatMap filterPieces ++ (f.order.toList.flatMap orderPieces ++
      limitPieces f.limited))))

/-! ## The pieces of a statement -/

/-- The first part comes first, and each of the others has the separator in front. -/
theorem toList_joined (separator part : String) (rest : List String) :
    (joined separator (part :: rest)).toList =
      part.toList ++ rest.flatMap fun p => separator.toList ++ p.toList := by
  induction rest generalizing part with
  | nil => simp [joined]
  | cons next rest ih =>
    have hcons : joined separator (part :: next :: rest) =
        part ++ separator ++ joined separator (next :: rest) := rfl
    rw [hcons, String.toList_append, String.toList_append, ih, List.flatMap_cons]
    simp only [List.append_assoc]

section Pieces

variable {cs : List Char} {ps : List Piece}

/-- Names between commas are read one by one. -/
theorem pieces_listing (h : Spells cs ps) (names : List String) :
    pieces ((joined ", " (names.map identifier)).toList ++ cs) = some (listing names ++ ps) := by
  induction names with
  | nil => exact h.read
  | cons name rest ih =>
    cases rest with
    | nil => exact pieces_identifier h name
    | cons next rest =>
      have hcomma := spells_word (w := ", ") (by decide) (by decide) ih
      have hname := pieces_identifier hcomma name
      have hchars : (joined ", " ((name :: next :: rest).map identifier)).toList =
          (identifier name).toList ++ ((", " : String).toList ++
            (joined ", " ((next :: rest).map identifier)).toList) := by
        rw [← List.append_assoc, ← String.toList_append, ← String.toList_append]
        rfl
      rw [hchars, List.append_assoc, List.append_assoc, hname]
      rfl

theorem pieces_projection (h : Spells cs ps) (columns : Columns) :
    pieces ((Statement.projection columns).toList ++ cs) =
      some (projectionPieces columns.listed ++ ps) := by
  cases columns with
  | all => exact pieces_word (w := "*") (by decide) h.read
  | letters s => exact pieces_listing h _
  | these names => exact pieces_listing h names

/-! ### Clauses -/

/-- The text of a clause, with a blank in front. -/
def further (clause : Statement) : List Char :=
  " ".toList ++ clause.sql.toList

theorem spells_filter (h : Spells cs ps) (p : Predicate) :
    Spells (further (Statement.filterClause p) ++ cs) (filterPieces p.column ++ ps) := by
  have hparameter := spells_word (w := " = %s") (by decide) (by decide) h.read
  have hname := pieces_identifier hparameter p.column
  have hwhere := spells_word (w := " WHERE ") (by decide) (by decide) hname
  have hsql : (Statement.filterClause p).sql = "WHERE " ++ identifier p.column ++ " = %s" := rfl
  have hchars : further (Statement.filterClause p) ++ cs =
      " WHERE ".toList ++ ((identifier p.column).toList ++ (" = %s".toList ++ cs)) := by
    simp [further, hsql]
  rw [hchars, filterPieces, List.append_assoc, List.cons_append]
  exact hwhere

theorem spells_order (h : Spells cs ps) (o : OrderBy) :
    Spells (further (Statement.orderClause o) ++ cs) (orderPieces o ++ ps) := by
  have hdirection : Spells ((direction o.ascending).toList ++ cs)
      (word (direction o.ascending) ++ ps) := by
    cases o.ascending <;> exact spells_word (by decide) (by decide) h.read
  have hname := pieces_identifier hdirection o.column
  have horder := spells_word (w := " ORDER BY ") (by decide) (by decide) hname
  have hsql : (Statement.orderClause o).sql =
      "ORDER BY " ++ identifier o.column ++ " " ++ (if o.ascending then "ASC" else "DESC") := rfl
  have hchars : further (Statement.orderClause o) ++ cs =
      " ORDER BY ".toList ++ ((identifier o.column).toList ++
        ((direction o.ascending).toList ++ cs)) := by
    cases hascending : o.ascending <;> simp [further, hsql, hascending, direction]
  rw [hchars, orderPieces, List.append_assoc, List.cons_append]
  exact horder

theorem spells_limit (limit : Option Int) :
    Spells ((limit.map Statement.limitClause).toList.flatMap further)
      (limitPieces limit.isSome) := by
  cases limit with
  | none => exact spells_nil
  | some n =>
    have hlimit := spells_word (w := " LIMIT %s") (by decide) (by decide) spells_nil.read
    have hchars : (Option.map Statement.limitClause (some n)).toList.flatMap further =
        " LIMIT %s".toList := by
      simp [further, Statement.limitClause]
    rw [List.append_nil, List.append_nil] at hlimit
    rw [hchars]
    exact hlimit

/-- A clause that may be missing. -/
theorem spells_optional {α β : Type} (part : α → β) {clause : α → Statement}
    {shown : β → List Piece}
    (hclause : ∀ a, Spells (further (clause a) ++ cs) (shown (part a) ++ ps)) (h : Spells cs ps)
    (o : Option α) :
    Spells ((o.map clause).toList.flatMap further ++ cs)
      ((o.map part).toList.flatMap shown ++ ps) := by
  cases o with
  | none => exact h
  | some a =>
    have ha := hclause a
    simpa using ha

end Pieces

/-- **The pieces of a statement** are the fixed words of its template and the names in it, whatever
characters these have. -/
theorem pieces_ofSelection (q : Selection) :
    pieces (Statement.ofSelection q).sql.toList = some (template q.frame) := by
  have hlimit := spells_limit q.limit
  have horder := spells_optional id (spells_order hlimit) hlimit q.orderBy
  have hfilter := spells_optional (·.column) (spells_filter horder) horder q.predicate
  have htable := pieces_identifier hfilter q.table
  have hfrom := spells_word (w := " FROM ") (by decide) (by decide) htable
  have hcolumns := pieces_projection hfrom q.columns
  have hselect := pieces_word (w := "SELECT ") (by decide) hcolumns
  have hfirst : s!"SELECT {Statement.projection q.columns} FROM {identifier q.table}" =
    "SELECT " ++ Statement.projection q.columns ++ " FROM " ++ identifier q.table := rfl
  have hchars : (Statement.ofSelection q).sql.toList =
      "SELECT ".toList ++ ((Statement.projection q.columns).toList ++ (" FROM ".toList ++
        ((identifier q.table).toList ++
          ((q.predicate.map Statement.filterClause).toList.flatMap further ++
            ((q.orderBy.map Statement.orderClause).toList.flatMap further ++
              (q.limit.map Statement.limitClause).toList.flatMap further))))) := by
    unfold Statement.ofSelection Statement.clauses
    rw [List.cons_append, List.cons_append, List.map_cons, toList_joined, hfirst]
    simp only [List.map_append, List.flatMap_append, List.flatMap_map, String.toList_append,
      List.append_assoc]
    rfl
  rw [hchars, hselect, Option.map_id]
  rfl

end Postgres

end ReadGate
