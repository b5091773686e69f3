import ReadGate.Proofs.Value.Decoding

/-!
# Driver values in rows

The cells of a record that are lists or records stay as they are when it becomes a row, and all
others become scalars.  So driver values reach a row within its lists and records, and in no other
way.

* `Value.Within` — a value at some depth of another.
* `Value.isJson_iff_within` — a JSON value is one of JSON kinds at every depth.
* `Leaks` — a value that is no JSON value, at some depth of a row.
* `toRow_leaks_iff` — what leaks into a row is what its lists and records hold.
* `toRow_leaks_prices` — a list of decimals leaks, a decimal does not.
-/

namespace ReadGate

namespace Value

/-! ## Values at some depth -/

/-- The first value is the second one, or stands within it at some depth. -/
inductive Within (part : Value) : Value → Prop
  | whole : Within part part
  | item {items : List Value} {v : Value} (hv : v ∈ items) (h : Within part v) :
    Within part (.list items)
  | member {items : List Value} {v : Value} (hv : v ∈ items) (h : Within part v) :
    Within part (.tuple items)
  | field {fields : Row} {p : String × Value} (hp : p ∈ fields) (h : Within part p.2) :
    Within part (.record fields)

/-- Is the value a list or a record? -/
def isNested : Value → Bool
  | list _ | record _ => true
  | _ => false

/-- Is the value of a JSON kind, whatever it holds: null, a truth value, a number, a text, a list or
a record? -/
def isJsonKind : Value → Bool
  | null | bool _ | int _ | float _ | text _ | halves _ | list _ | record _ => true
  | _ => false

variable {v w part : Value}

theorem Within.isJson (h : Within part v) (hv : v.isJson = true) : part.isJson = true := by
  induction h with
  | whole => exact hv
  | item hw _ ih =>
    rw [Value.isJson, allJson_iff] at hv
    exact ih (hv _ hw)
  | member => cases hv
  | field hp _ ih =>
    rw [Value.isJson, allJsonFields_iff] at hv
    exact ih (hv _ hp)

theorem isJson_of_within (v : Value) (h : ∀ part, Within part v → part.isJsonKind = true) :
    v.isJson = true := by
  match v with
  | list items =>
    rw [isJson, allJson_iff]
    intro w hw
    exact isJson_of_within w fun part hpart => h part (.item hw hpart)
  | record fields =>
    rw [isJson, allJsonFields_iff]
    intro p hp
    have hsmaller : sizeOf p.2 < sizeOf fields := by
      have hcell := List.sizeOf_lt_of_mem hp
      have hparts : sizeOf p = 1 + sizeOf p.1 + sizeOf p.2 := rfl
      omega
    exact isJson_of_within p.2 fun part hpart => h part (.field hp hpart)
  | null | bool _ | int _ | float _ | text _ | halves _ => rfl
  | tuple _ | decimal _ | bytes _ | buffer _ _ | uuid _ | date _ | time _ | moment _ | span _ =>
    cases h _ .whole

/-- **A JSON value is one whose parts at every depth are of JSON kinds.** -/
theorem isJson_iff_within :
    v.isJson = true ↔ ∀ part, Within part v → part.isJsonKind = true := by
  refine ⟨fun hv part hpart => ?_, isJson_of_within v⟩
  have hjson := hpart.isJson hv
  cases part with
  | tuple | decimal | bytes | buffer | uuid | date | time | moment | span => cases hjson
  | _ => rfl

/-! ## Cells -/

theorem toCell_of_isNested (h : v.isNested = true) : v.toCell = .ok v := by
  cases v with
  | list | record => rfl
  | _ => cases h

theorem toCell_of_not_nested (h : v.isNested = false) : v.toCell = v.toScalar := by
  cases v with
  | list | record => cases h
  | _ => rfl

/-- Is the value a tuple that cannot be written? -/
def isLongTuple : Value → Bool
  | tuple items => !allWritable items
  | _ => false

/-- A value that holds others becomes its text, if it can be written. -/
theorem toScalar_of_holds (h : v.isNested = true ∨ ∃ items, v = tuple items) :
    v.toScalar =
      if v.isWritable = true then .ok (text v.plain) else .error (.numeral .unwritable) := by
  have hdisplay : v.toScalar = (v.display.mapError .numeral).map ofWide ∧ v.wide = .whole v.plain := by
    rcases h with hnested | ⟨items, rfl⟩
    · cases v with
      | list | record => exact ⟨rfl, rfl⟩
      | _ => cases hnested
    · exact ⟨rfl, rfl⟩
  rw [hdisplay.1, display]
  split
  · rw [hdisplay.2]
    rfl
  · rfl

/-- Only a signaling decimal and a tuple that cannot be written become no cell. -/
theorem toCell_fails_iff :
    (∃ e, v.toCell = .error e) ↔ v.isSignaling = true ∨ v.isLongTuple = true := by
  cases v
  case decimal d =>
    cases d with
    | undefined negative signaling payload =>
      cases signaling
      · exact iff_of_false nofun (by simp [isSignaling, isLongTuple])
      · exact iff_of_true ⟨_, rfl⟩ (.inl rfl)
    | _ => exact iff_of_false (fun ⟨_, h⟩ => by cases h) (by simp [isSignaling, isLongTuple])
  case tuple items =>
    rw [toCell_of_not_nested rfl, toScalar_of_holds (.inr ⟨items, rfl⟩)]
    cases hitems : allWritable items <;> simp [isSignaling, isLongTuple, isWritable, hitems]
  all_goals exact iff_of_false (fun ⟨_, h⟩ => by cases h) (by simp [isSignaling, isLongTuple])

/-- A scalar of JSON holds nothing. -/
theorem isJsonKind_of_toScalar (h : v.toScalar = .ok w) (hpart : Within part w) :
    part.isJsonKind = true := by
  have hscalar : w.isJsonKind = true ∧ w.isNested = false := by
    cases v
    case decimal d =>
      cases d with
      | undefined negative signaling payload =>
        cases signaling
        · cases h
          exact ⟨rfl, rfl⟩
        · cases h
      | _ =>
        cases h
        exact ⟨rfl, rfl⟩
    case list | record | tuple =>
      rw [toScalar_of_holds (by simp [isNested])] at h
      split at h <;> cases h
      exact ⟨rfl, rfl⟩
    all_goals
      cases h
      exact ⟨rfl, rfl⟩
  obtain ⟨hkind, hflat⟩ := hscalar
  cases hpart with
  | whole => exact hkind
  | item => cases hflat
  | member => cases hkind
  | field => cases hflat

end Value

open Value

/-! ## Rows -/

theorem toRow_eq_mapM (row : Row) :
    toRow row = row.mapM fun p => p.2.toCell.map fun cell => (p.1, cell) := by
  induction row with
  | nil => rfl
  | cons p rest ih =>
    obtain ⟨column, v⟩ := p
    rw [toRow, List.mapM_cons, ← ih]
    cases v.toCell <;> rfl

/-- Each cell of a row is what becomes of the cell of the record in its place. -/
theorem toRow_eq_ok_iff {row out : Row} :
    toRow row = .ok out ↔
      List.Forall₂ (fun p q => q.1 = p.1 ∧ p.2.toCell = .ok q.2) row out := by
  have hcell (p q : String × Value) : (p.2.toCell.map fun cell => (p.1, cell)) = .ok q ↔
      q.1 = p.1 ∧ p.2.toCell = .ok q.2 := by
    obtain ⟨column, w⟩ := q
    cases p.2.toCell with
    | error e => simp [Except.map]
    | ok cell => simp [Except.map, eq_comm]
  rw [toRow_eq_mapM, mapM_eq_ok_iff]
  simp only [hcell]

/-- A record becomes no row exactly if one of its cells becomes none. -/
theorem toRow_fails_iff {row : Row} :
    (∃ e, toRow row = .error e) ↔
      ∃ p ∈ row, p.2.isSignaling = true ∨ p.2.isLongTuple = true := by
  induction row with
  | nil => simp [toRow]
  | cons p rest ih =>
    rw [List.exists_mem_cons_iff, ← ih, ← toCell_fails_iff, toRow]
    cases p.2.toCell with
    | error e => simp [bind, Except.bind]
    | ok cell => cases toRow rest <;> simp [bind, Except.bind, pure, Except.pure]

/-- A value that is no JSON value stands in the row at some depth. -/
def Leaks (row : Row) (v : Value) : Prop :=
  v.isJsonKind = false ∧ ∃ p ∈ row, Within v p.2

variable {row out : Row} {v : Value}

theorem leaks_cons {p : String × Value} :
    Leaks (p :: row) v ↔ v.isJsonKind = false ∧ Within v p.2 ∨ Leaks row v := by
  simp only [Leaks, List.exists_mem_cons_iff, and_or_left]

/-- Lists and records stay as they are, and all other cells become scalars. -/
theorem leaks_iff (h : toRow row = .ok out) :
    Leaks out v ↔ Leaks (row.filter fun p => p.2.isNested) v := by
  rw [toRow_eq_ok_iff] at h
  induction h with
  | nil => exact Iff.rfl
  | @cons p q row out hpq _ ih =>
    obtain ⟨-, hcell⟩ := hpq
    rw [leaks_cons, ih]
    cases hnested : p.2.isNested with
    | true =>
      rw [toCell_of_isNested hnested, Except.ok.injEq] at hcell
      rw [List.filter_cons, if_pos hnested, leaks_cons, hcell]
    | false =>
      rw [toCell_of_not_nested hnested] at hcell
      have hnone : ¬ (v.isJsonKind = false ∧ Within v q.2) := fun ⟨hkind, hpart⟩ => by
        rw [isJsonKind_of_toScalar hcell hpart] at hkind
        cases hkind
      rw [List.filter_cons, if_neg (by simp [hnested]), or_iff_right hnone]

theorem toRow_columns (h : toRow row = .ok out) : out.map Prod.fst = row.map Prod.fst := by
  rw [toRow_eq_ok_iff] at h
  induction h with
  | nil => rfl
  | cons hpq _ ih => rw [List.map_cons, List.map_cons, hpq.1, ih]

/-- Nothing leaks into some cells exactly if all of them hold JSON values. -/
theorem not_leaks_iff : (∀ v, ¬ Leaks row v) ↔ ∀ p ∈ row, p.2.isJson = true := by
  simp only [isJson_iff_within, Leaks, not_and, not_exists, ← Bool.not_eq_true]
  constructor
  · intro h p hp part hpart
    by_contra hkind
    exact h part hkind p hp hpart
  · intro h part hkind p hp hpart
    exact hkind (h p hp part hpart)

/-- **What leaks into a row.**  A record becomes a row, with the same columns, unless one of its
cells is a signaling decimal, or a tuple with an integer too long to be written.  The values that
leak into the row are those that leak into the lists and records of the record; so none does exactly
if all of these are JSON values. -/
theorem toRow_leaks_iff (row : Row) :
    ((∃ e, toRow row = .error e) ↔
      ∃ p ∈ row, p.2.isSignaling = true ∨ p.2.isLongTuple = true) ∧
    ∀ out, toRow row = .ok out →
      out.map Prod.fst = row.map Prod.fst ∧
      (∀ v, Leaks out v ↔ Leaks (row.filter fun p => p.2.isNested) v) ∧
      ((∀ v, ¬ Leaks out v) ↔ ∀ p ∈ row, p.2.isNested = true → p.2.isJson = true) := by
  refine ⟨toRow_fails_iff, fun out hout => ⟨toRow_columns hout, fun v => leaks_iff hout, ?_⟩⟩
  simp only [leaks_iff hout, not_leaks_iff, List.mem_filter, and_imp]

/-- A price, and a list with the same one. -/
def pricesRecord : Row :=
  [("price", .decimal (.finite false 15 (-1))),
    ("prices", .list [.decimal (.finite false 15 (-1))])]

/-- The price becomes a number of the row; within the list it leaks. -/
theorem toRow_leaks_prices :
    (∃ x, toRow pricesRecord =
      .ok [("price", .float x), ("prices", .list [.decimal (.finite false 15 (-1))])]) ∧
    (∀ out, toRow pricesRecord = .ok out → Leaks out (.decimal (.finite false 15 (-1)))) ∧
    ∀ out, toRow (pricesRecord.take 1) = .ok out → ∀ v, ¬ Leaks out v := by
  refine ⟨⟨_, rfl⟩, fun out hout => ?_, fun out hout => ?_⟩
  · obtain ⟨-, hleaks, -⟩ := (toRow_leaks_iff pricesRecord).2 out hout
    have hprices : ("prices", Value.list [.decimal (.finite false 15 (-1))]) ∈
        pricesRecord.filter fun p => p.2.isNested := by
      simp [pricesRecord, isNested]
    exact (hleaks _).2 ⟨rfl, _, hprices, .item List.mem_cons_self .whole⟩
  · obtain ⟨-, -, hnone⟩ := (toRow_leaks_iff (pricesRecord.take 1)).2 out hout
    refine hnone.2 fun p hp hnested => ?_
    rw [List.mem_singleton.1 hp] at hnested
    cases hnested

end ReadGate
