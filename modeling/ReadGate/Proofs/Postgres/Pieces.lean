import ReadGate.Postgres.Statement

/-!
# The pieces of a statement

Outside its quoted names, a statement is read character by character.  A double quote opens a name,
two of them in a row stand for one inside it, and a single one closes it.  A quoted name is read as
that name whatever characters it has, unless another quote follows it.

* `Piece` — a character outside names, or a name.
* `pieces` — the reader.
* `spells_word`, `pieces_identifier` — what it reads where a word or a quoted name stands.
-/

namespace ReadGate.Postgres

/-- A piece of a statement. -/
inductive Piece
  /-- A character outside names. -/
  | plain (c : Char)
  /-- A quoted name. -/
  | name (s : String)
  deriving DecidableEq, Repr

/-- The pieces that a word has outside names. -/
def word (w : String) : List Piece :=
  w.toList.map .plain

/-- Where the reader stands.  The characters of a name are held in reverse. -/
inductive Place
  | outside
  | within (read : List Char)
  /-- Behind a quote inside a name, which closes it unless another one follows. -/
  | behindQuote (read : List Char)

/-- The pieces that are read from a place on; a name that is not closed has none. -/
def piecesFrom : Place → List Char → Option (List Piece)
  | .outside, [] => some []
  | .outside, c :: rest =>
    if c = '"' then piecesFrom (.within []) rest
    else (piecesFrom .outside rest).map (.plain c :: ·)
  | .within _, [] => none
  | .within read, c :: rest =>
    if c = '"' then piecesFrom (.behindQuote read) rest else piecesFrom (.within (c :: read)) rest
  | .behindQuote read, [] => some [.name (String.ofList read.reverse)]
  | .behindQuote read, c :: rest =>
    if c = '"' then piecesFrom (.within (c :: read)) rest
    else (piecesFrom .outside rest).map (.name (String.ofList read.reverse) :: .plain c :: ·)

/-- The pieces of a text. -/
def pieces (cs : List Char) : Option (List Piece) :=
  piecesFrom .outside cs

variable {cs rest : List Char} {ps : List Piece}

/-- The text is read as the pieces, also behind a name. -/
structure Spells (cs : List Char) (ps : List Piece) : Prop where
  read : pieces cs = some ps
  apart : cs.head? ≠ some '"'

theorem spells_nil : Spells [] [] :=
  ⟨rfl, nofun⟩

/-- A word without quotes is read as it is. -/
theorem pieces_word {w : String} (hw : '"' ∉ w.toList) (h : pieces cs = some ps) :
    pieces (w.toList ++ cs) = some (word w ++ ps) := by
  unfold word
  generalize w.toList = chars at hw
  induction chars with
  | nil => exact h
  | cons c rest ih =>
    have hc : c ≠ '"' := fun hquote => hw (hquote ▸ List.mem_cons_self)
    have hrest := ih fun hmem => hw (List.mem_cons_of_mem c hmem)
    unfold pieces at hrest ⊢
    rw [List.cons_append, piecesFrom, if_neg hc, hrest]
    rfl

/-- A word without quotes can stand behind a name. -/
theorem spells_word {w : String} (hempty : w.toList ≠ []) (hw : '"' ∉ w.toList)
    (h : pieces cs = some ps) : Spells (w.toList ++ cs) (word w ++ ps) := by
  refine ⟨pieces_word hw h, ?_⟩
  obtain ⟨c, rest, hchars⟩ := List.exists_cons_of_ne_nil hempty
  rw [hchars, List.cons_append, List.head?_cons]
  intro hquote
  refine hw ?_
  rw [hchars, ← Option.some.inj hquote]
  exact List.mem_cons_self

/-- The reader of a name takes all of its characters up to the closing quote. -/
theorem piecesFrom_within (h : Spells rest ps) (read cs : List Char) :
    piecesFrom (.within read) (doubleQuotes cs ++ '"' :: rest) =
      some (.name (String.ofList (read.reverse ++ cs)) :: ps) := by
  induction cs generalizing read with
  | nil =>
    rw [doubleQuotes, List.nil_append, piecesFrom, if_pos rfl, List.append_nil]
    cases rest with
    | nil =>
      have hps : some [] = some ps := h.read
      cases hps
      rfl
    | cons c rest =>
      have hc : c ≠ '"' := fun hquote => h.apart (congrArg some hquote)
      have hread := h.read
      rw [pieces, piecesFrom, if_neg hc] at hread
      rw [piecesFrom, if_neg hc]
      obtain ⟨qs, hqs, rfl⟩ := Option.map_eq_some_iff.1 hread
      rw [hqs]
      rfl
  | cons c cs ih =>
    have hname : read.reverse ++ c :: cs = (c :: read).reverse ++ cs := by simp
    rw [doubleQuotes, hname, ← ih (c :: read)]
    split
    · rename_i hc
      subst hc
      rfl
    · rename_i hc
      rw [List.cons_append, piecesFrom, if_neg hc]

/-- **A quoted name is read as that name**, whatever characters it has. -/
theorem pieces_identifier (h : Spells cs ps) (name : String) :
    pieces ((identifier name).toList ++ cs) = some (.name name :: ps) := by
  have hchars : (identifier name).toList ++ cs = '"' :: (doubleQuotes name.toList ++ '"' :: cs) := by
    simp [identifier]
  rw [hchars, pieces, piecesFrom, if_pos rfl, piecesFrom_within h, List.reverse_nil, List.nil_append,
    String.ofList_toList]

end ReadGate.Postgres
