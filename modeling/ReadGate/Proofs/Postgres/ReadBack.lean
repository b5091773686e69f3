import Mathlib.Data.List.Forall2
import ReadGate.Proofs.Postgres.Frames

/-!
# Statements are read back

The frame of a selection is read from the pieces of its statement, and the parameters are its values
in their order.  So a selection can be read back from its statement and its parameters, whatever
characters its names have.

* `readFrame`, `readFrame_ofSelection` — the frame is read from the pieces.
* `Selection.values`, `ofSelection_params` — the parameters are the values.
* `Matches` — selections with the same names, and the same values in a given sense.
* `ofSelection_readBack` — no two selections have one statement with the same parameters.
-/

namespace ReadGate

/-- The columns are all, or given by their names. -/
def Columns.Given (columns : Columns) : Prop :=
  ∀ s, columns ≠ .letters s

theorem Columns.listed_injective {columns columns' : Columns} (h : columns.Given)
    (h' : columns'.Given) (heq : columns.listed = columns'.listed) : columns = columns' := by
  cases columns with
  | all =>
    cases columns' with
    | all => rfl
    | letters s => exact absurd rfl (h' s)
    | these names => cases heq
  | letters s => exact absurd rfl (h s)
  | these names =>
    cases columns' with
    | all => cases heq
    | letters s => exact absurd rfl (h' s)
    | these names' => exact congrArg these (Option.some.inj heq)

theorem Value.ofWide_injective {t t' : WideText} (h : Value.ofWide t = Value.ofWide t') :
    t = t' := by
  cases t <;> cases t' <;> cases h <;> rfl

theorem Operand.value_injective {operand operand' : Operand}
    (h : operand.value = operand'.value) : operand = operand' := by
  cases operand with
  | text t =>
    cases operand' with
    | text t' => exact congrArg Operand.text (Value.ofWide_injective h)
    | int n | float x => cases t <;> cases h
  | int n =>
    cases operand' with
    | text t => cases t <;> cases h
    | int m => exact congrArg Operand.int (Value.int.inj h)
    | float x => cases h
  | float x =>
    cases operand' with
    | text t => cases t <;> cases h
    | int n => cases h
    | float y => exact congrArg Operand.float (Value.float.inj h)

/-- The values of a selection: what the rows are compared with, and the limit. -/
def Selection.values (q : Selection) : List Value :=
  (q.predicate.map (·.operand.value)).toList ++ (q.limit.map Value.int).toList

namespace Postgres

/-! ## Reading a frame -/

/-- What is left behind a word, if the pieces begin with it. -/
def skip : List Char → List Piece → Option (List Piece)
  | [], ps => some ps
  | c :: w, .plain d :: ps => if c = d then skip w ps else none
  | _ :: _, _ => none

/-- Reads a list of names. -/
def readListing : List Piece → List String × List Piece
  | .name name :: .plain ',' :: .plain ' ' :: ps =>
    (name :: (readListing ps).1, (readListing ps).2)
  | .name name :: ps => ([name], ps)
  | ps => ([], ps)

/-- Reads the columns. -/
def readProjection (ps : List Piece) : Option (List String) × List Piece :=
  match skip "*".toList ps with
  | some ps => (none, ps)
  | none => (some (readListing ps).1, (readListing ps).2)

/-- Reads a name. -/
def readName : List Piece → Option (String × List Piece)
  | .name name :: ps => some (name, ps)
  | _ => none

/-- Reads the filter, if there is one. -/
def readFilter (ps : List Piece) : Option (Option String × List Piece) :=
  match skip " WHERE ".toList ps with
  | none => some (none, ps)
  | some ps => do
    let (column, ps) ← readName ps
    let ps ← skip " = %s".toList ps
    return (some column, ps)

/-- Reads the direction of an order. -/
def readDirection (ps : List Piece) : Option (Bool × List Piece) :=
  match skip (direction true).toList ps with
  | some ps => some (true, ps)
  | none => (skip (direction false).toList ps).map (false, ·)

/-- Reads the order, if there is one. -/
def readOrder (ps : List Piece) : Option (Option OrderBy × List Piece) :=
  match skip " ORDER BY ".toList ps with
  | none => some (none, ps)
  | some ps => do
    let (column, ps) ← readName ps
    let (ascending, ps) ← readDirection ps
    return (some ⟨column, ascending⟩, ps)

/-- Reads the limit, if there is one, and the end. -/
def readLimit (ps : List Piece) : Option Bool :=
  if ps = [] then some false
  else if ps = word " LIMIT %s" then some true
  else none

/-- Reads a frame. -/
def readFrame (ps : List Piece) : Option Frame := do
  let ps ← skip "SELECT ".toList ps
  let (columns, ps) := readProjection ps
  let ps ← skip " FROM ".toList ps
  let (table, ps) ← readName ps
  let (filter, ps) ← readFilter ps
  let (order, ps) ← readOrder ps
  let limited ← readLimit ps
  return { table, columns, filter, order, limited }

section Reading

variable {ps : List Piece}

theorem skip_word (w : String) : skip w.toList (word w ++ ps) = some ps := by
  unfold word
  induction w.toList with
  | nil => rfl
  | cons c rest ih => rw [List.map_cons, List.cons_append, skip, if_pos rfl, ih]

theorem readListing_listing (names : List String) :
    readListing (listing names ++ .plain ' ' :: ps) = (names, .plain ' ' :: ps) := by
  induction names with
  | nil => rfl
  | cons name rest ih =>
    cases rest with
    | nil => rfl
    | cons next rest =>
      have hlisting : listing (name :: next :: rest) ++ .plain ' ' :: ps =
          .name name :: .plain ',' :: .plain ' ' :: (listing (next :: rest) ++ .plain ' ' :: ps) :=
        rfl
      rw [hlisting, readListing, ih]

theorem readProjection_pieces (columns : Option (List String)) :
    readProjection (projectionPieces columns ++ .plain ' ' :: ps) = (columns, .plain ' ' :: ps) := by
  cases columns with
  | none => rfl
  | some names =>
    have hstar : skip "*".toList (listing names ++ .plain ' ' :: ps) = none := by
      rcases names with _ | ⟨name, _ | ⟨next, rest⟩⟩ <;> rfl
    rw [readProjection, projectionPieces, hstar, readListing_listing]

theorem readFilter_pieces (hps : skip " WHERE ".toList ps = none) (filter : Option String) :
    readFilter (filter.toList.flatMap filterPieces ++ ps) = some (filter, ps) := by
  cases filter with
  | none =>
    rw [Option.toList_none, List.flatMap_nil, List.nil_append, readFilter, hps]
  | some column =>
    rw [Option.toList_some, List.flatMap_singleton, filterPieces, List.append_assoc,
      List.cons_append, readFilter, skip_word]
    simp only [readName, Option.bind_eq_bind, Option.bind_some, skip_word]
    rfl

theorem readDirection_word (ascending : Bool) :
    readDirection (word (direction ascending) ++ ps) = some (ascending, ps) := by
  cases ascending <;> rfl

theorem readOrder_pieces (hps : skip " ORDER BY ".toList ps = none) (order : Option OrderBy) :
    readOrder (order.toList.flatMap orderPieces ++ ps) = some (order, ps) := by
  cases order with
  | none => rw [Option.toList_none, List.flatMap_nil, List.nil_append, readOrder, hps]
  | some o =>
    rw [Option.toList_some, List.flatMap_singleton, orderPieces, List.append_assoc,
      List.cons_append, readOrder, skip_word]
    simp only [readName, Option.bind_eq_bind, Option.bind_some, readDirection_word]
    rfl

theorem readLimit_pieces (limited : Bool) : readLimit (limitPieces limited) = some limited := by
  cases limited <;> rfl

end Reading

/-- **The frame can be read from the pieces of its template.** -/
theorem readFrame_template (f : Frame) : readFrame (template f) = some f := by
  have horder : skip " ORDER BY ".toList (limitPieces f.limited) = none := by
    cases f.limited <;> rfl
  have hfilter : skip " WHERE ".toList
      (f.order.toList.flatMap orderPieces ++ limitPieces f.limited) = none := by
    cases f.order <;> cases f.limited <;> rfl
  have hblank : ∀ ps, word " FROM " ++ ps = .plain ' ' :: (word "FROM " ++ ps) := fun ps => rfl
  have hprojection : ∀ ps, readProjection (projectionPieces f.columns ++ (word " FROM " ++ ps)) =
      (f.columns, word " FROM " ++ ps) := by
    intro ps
    rw [hblank, readProjection_pieces]
  unfold template readFrame
  simp only [skip_word, hprojection, readName, readFilter_pieces hfilter, readOrder_pieces horder,
    readLimit_pieces, Option.bind_eq_bind, Option.bind_some]
  rfl

/-- The frame of a selection is read from the text of its statement. -/
theorem readFrame_ofSelection (q : Selection) :
    (pieces (Statement.ofSelection q).sql.toList).bind readFrame = some q.frame := by
  rw [pieces_ofSelection, Option.bind_some, readFrame_template]

/-! ## Reading a selection back -/

section Values

variable {R : Value → Value → Prop}

theorem rel_of_forall₂_toList {o o' : Option Value} (h : List.Forall₂ R o.toList o'.toList) :
    Option.Rel R o o' := by
  cases o <;> cases o' <;> cases h
  · exact .none
  · rename_i hvalue _
    exact .some hvalue

/-- Values line up with the optional places that they are for. -/
theorem rel_of_forall₂_append {o o' p p' : Option Value} (hplace : o.isSome = o'.isSome)
    (h : List.Forall₂ R (o.toList ++ p.toList) (o'.toList ++ p'.toList)) :
    Option.Rel R o o' ∧ Option.Rel R p p' := by
  cases o <;> cases o' <;> cases hplace
  · exact ⟨.none, rel_of_forall₂_toList h⟩
  · obtain ⟨hvalue, hrest⟩ := List.forall₂_cons.1 h
    exact ⟨.some hvalue, rel_of_forall₂_toList hrest⟩

/-- Selections with the same names, and values that are the same in the given sense. -/
structure Matches (R : Value → Value → Prop) (q q' : Selection) : Prop where
  table : q.table = q'.table
  columns : q.columns = q'.columns
  predicate : Option.Rel
    (fun p p' => p.column = p'.column ∧ R p.operand.value p'.operand.value) q.predicate q'.predicate
  orderBy : q.orderBy = q'.orderBy
  limit : Option.Rel (fun n n' => R (.int n) (.int n')) q.limit q'.limit

variable {q q' : Selection}

theorem matches_of_frame (hcolumns : q.columns.Given) (hcolumns' : q'.columns.Given)
    (hframe : q.frame = q'.frame) (hvalues : List.Forall₂ R q.values q'.values) :
    Matches R q q' := by
  have hfilter : q.predicate.map (·.column) = q'.predicate.map (·.column) :=
    congrArg Frame.filter hframe
  have hplace : (q.predicate.map (·.operand.value)).isSome =
      (q'.predicate.map (·.operand.value)).isSome := by
    simpa using congrArg Option.isSome hfilter
  obtain ⟨hoperand, hlimit⟩ := rel_of_forall₂_append hplace hvalues
  refine ⟨congrArg Frame.table hframe,
    Columns.listed_injective hcolumns hcolumns' (congrArg Frame.columns hframe), ?_,
    congrArg Frame.order hframe, ?_⟩
  · cases hp : q.predicate <;> cases hp' : q'.predicate <;> rw [hp, hp'] at hfilter hoperand <;>
      cases hoperand
    · exact .none
    · rename_i hvalue
      exact .some ⟨Option.some.inj hfilter, hvalue⟩
  · cases hn : q.limit <;> cases hn' : q'.limit <;> rw [hn, hn'] at hlimit <;> cases hlimit
    · exact .none
    · rename_i hvalue
      exact .some hvalue

theorem eq_of_rel {α : Type} {S : α → α → Prop} (hS : ∀ a b, S a b → a = b) {o o' : Option α}
    (h : Option.Rel S o o') : o = o' := by
  cases h with
  | none => rfl
  | some h => rw [hS _ _ h]

theorem eq_of_matches (h : Matches Eq q q') : q = q' := by
  have hpredicate : q.predicate = q'.predicate := by
    refine eq_of_rel ?_ h.predicate
    rintro ⟨column, operand⟩ ⟨column', operand'⟩ ⟨rfl, hoperand⟩
    have hsame : operand = operand' := Operand.value_injective hoperand
    rw [hsame]
  have hlimit : q.limit = q'.limit := eq_of_rel (fun _ _ => Value.int.inj) h.limit
  obtain ⟨htable, hcolumns, -, horder, -⟩ := h
  cases q
  cases q'
  simp only [Selection.mk.injEq]
  exact ⟨htable, hcolumns, hpredicate, hlimit, horder⟩

theorem ofSelection_params (q : Selection) : (Statement.ofSelection q).params = q.values := by
  unfold Statement.ofSelection Statement.clauses Selection.values
  cases q.predicate <;> cases q.orderBy <;> cases q.limit <;> rfl

/-- **A selection can be read back from its statement and its parameters**, whatever characters its
names have.  The statement is made of fixed words and quoted names, the parameters are the values in
their order, and no two selections have one statement with the same parameters, in whatever sense
these are the same. -/
theorem ofSelection_readBack (hcolumns : q.columns.Given) (hcolumns' : q'.columns.Given) :
    pieces (Statement.ofSelection q).sql.toList = some (template q.frame) ∧
    (pieces (Statement.ofSelection q).sql.toList).bind readFrame = some q.frame ∧
    (Statement.ofSelection q).params = q.values ∧
    ((Statement.ofSelection q).sql = (Statement.ofSelection q').sql →
      (∀ R, List.Forall₂ R (Statement.ofSelection q).params (Statement.ofSelection q').params →
        Matches R q q') ∧
      ((Statement.ofSelection q).params = (Statement.ofSelection q').params → q = q')) := by
  refine ⟨pieces_ofSelection q, readFrame_ofSelection q, ofSelection_params q, fun hsql => ?_⟩
  have hframe : q.frame = q'.frame := by
    have hread := readFrame_ofSelection q
    rw [hsql, readFrame_ofSelection q'] at hread
    exact (Option.some.inj hread).symm
  simp only [ofSelection_params]
  refine ⟨fun R => matches_of_frame hcolumns hcolumns' hframe, fun hvalues => ?_⟩
  refine eq_of_matches (matches_of_frame hcolumns hcolumns' hframe ?_)
  rw [hvalues]
  exact List.forall₂_same.2 fun _ _ => rfl

/-- The name of a table that imitates an order is read as a name, and is not taken for the order. -/
theorem ofSelection_readBack_imitation :
    let q : Selection := ⟨"t\" ORDER BY \"id\" ASC", .these ["a\", \"b"], none, none, none⟩
    let q' : Selection := ⟨"t", .these ["a", "b"], none, none, some ⟨"id", true⟩⟩
    pieces (Statement.ofSelection q).sql.toList = some (word "SELECT " ++ .name "a\", \"b" ::
      (word " FROM " ++ [.name "t\" ORDER BY \"id\" ASC"])) ∧
    (Statement.ofSelection q).params = (Statement.ofSelection q').params ∧
    (Statement.ofSelection q).sql ≠ (Statement.ofSelection q').sql := by
  intro q q'
  obtain ⟨hpieces, -, -, hback⟩ := @ofSelection_readBack q q' nofun nofun
  refine ⟨hpieces, rfl, fun hsql => ?_⟩
  have hsame := (hback hsql).2 rfl
  exact absurd hsame (by decide)

end Values

end Postgres

end ReadGate
