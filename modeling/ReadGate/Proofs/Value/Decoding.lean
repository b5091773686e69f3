import Mathlib.Data.List.Forall2
import ReadGate.Postgrest.Adapter
import ReadGate.Proofs.Value.Rows

/-!
# Decoding JSON values

Rows that hold nothing but JSON values need no decoding: none of their cells is a driver value.  A
column of theirs can be taken as scalars, unless a cell holds an integer too long to be written.

* `mapM_eq_ok_iff`, `mapM_isOk_iff` — a list is decoded item by item, in order.
* `Value.Legible` — JSON values that can be written.
* `toScalar_of_legible`, `toRow_of_json` — decoding never fails on such values, and leaves rows as
  they are.
* `mapM_rowOfValue`, `mapM_columnValue` — the same for all rows of an answer.
-/

namespace ReadGate

theorem mapM_eq_ok_iff {α β ε : Type} {f : α → Except ε β} {xs : List α} {ys : List β} :
    xs.mapM f = .ok ys ↔ List.Forall₂ (fun x y => f x = .ok y) xs ys := by
  induction xs generalizing ys with
  | nil => cases ys <;> simp [pure, Except.pure]
  | cons x xs ih =>
    rw [List.mapM_cons]
    rcases hx : f x with e | y
    · simp [bind, Except.bind, List.forall₂_cons_left_iff, hx]
    · rcases hxs : xs.mapM f with e | zs
      · have hnone (us : List β) : ¬ List.Forall₂ (fun x y => f x = .ok y) xs us := by
          rw [← ih, hxs]
          exact nofun
        simp [bind, Except.bind, List.forall₂_cons_left_iff, hnone]
      · have hsome (us : List β) : List.Forall₂ (fun x y => f x = .ok y) xs us ↔ zs = us := by
          rw [← ih, hxs, Except.ok.injEq]
        simp [bind, Except.bind, pure, Except.pure, List.forall₂_cons_left_iff, hx, hsome,
          eq_comm]

theorem exists_forall₂_iff {α β : Type} {R : α → β → Prop} {xs : List α} :
    (∃ ys, List.Forall₂ R xs ys) ↔ ∀ x ∈ xs, ∃ y, R x y := by
  induction xs with
  | nil => exact iff_of_true ⟨[], .nil⟩ nofun
  | cons x rest ih =>
    rw [List.forall_mem_cons, ← ih]
    constructor
    · rintro ⟨_, _ | ⟨hx, hrest⟩⟩
      exact ⟨⟨_, hx⟩, ⟨_, hrest⟩⟩
    · rintro ⟨⟨y, hx⟩, ⟨ys, hrest⟩⟩
      exact ⟨y :: ys, .cons hx hrest⟩

/-- A list is decoded if all its items are. -/
theorem mapM_isOk_iff {α β ε : Type} {f : α → Except ε β} {xs : List α} :
    (∃ ys, xs.mapM f = .ok ys) ↔ ∀ x ∈ xs, ∃ y, f x = .ok y := by
  simp only [mapM_eq_ok_iff, exists_forall₂_iff]

/-- What is known of all items that are decoded is known of all that come out. -/
theorem forall_mem_of_mapM {α β ε : Type} {f : α → Except ε β} {good : β → Prop} {xs : List α}
    {ys : List β} (h : ∀ x ∈ xs, ∀ y, f x = .ok y → good y) (hys : xs.mapM f = .ok ys) :
    ∀ y ∈ ys, good y := by
  have hpairs := mapM_eq_ok_iff.1 hys
  clear hys
  induction hpairs with
  | nil => exact nofun
  | @cons x y xs ys hxy _ ih =>
    rw [List.forall_mem_cons] at h ⊢
    exact ⟨h.1 y hxy, ih h.2⟩

namespace Value

/-! ## Legible values -/

/-- The value is a JSON value, and it can be written. -/
def Legible (v : Value) : Prop :=
  v.isJson = true ∧ v.isWritable = true

/-- So are all items. -/
def LegibleItems (items : List Value) : Prop :=
  allJson items = true ∧ allWritable items = true

/-- So are the values of all fields. -/
def LegibleFields (fields : List (String × Value)) : Prop :=
  allJsonFields fields = true ∧ allWritableFields fields = true

theorem legibleItems_cons {v : Value} {rest : List Value} :
    LegibleItems (v :: rest) ↔ v.Legible ∧ LegibleItems rest := by
  simp only [LegibleItems, Legible, allJson, allWritable, Bool.and_eq_true]
  exact and_and_and_comm

theorem legibleFields_cons {name : String} {v : Value} {rest : List (String × Value)} :
    LegibleFields ((name, v) :: rest) ↔ v.Legible ∧ LegibleFields rest := by
  simp only [LegibleFields, Legible, allJsonFields, allWritableFields, Bool.and_eq_true]
  exact and_and_and_comm

theorem allJson_iff (items : List Value) :
    allJson items = true ↔ ∀ v ∈ items, v.isJson = true := by
  induction items with
  | nil => simp [allJson]
  | cons v rest ih => simp [allJson, ih]

theorem allJsonFields_iff (fields : Row) :
    allJsonFields fields = true ↔ ∀ p ∈ fields, p.2.isJson = true := by
  induction fields with
  | nil => simp [allJsonFields]
  | cons p rest ih => simp [allJsonFields, ih]

theorem legibleFields_iff (fields : Row) :
    LegibleFields fields ↔ ∀ p ∈ fields, p.2.Legible := by
  induction fields with
  | nil => exact iff_of_true ⟨rfl, rfl⟩ nofun
  | cons p rest ih =>
    obtain ⟨name, v⟩ := p
    rw [legibleFields_cons, ih, List.forall_mem_cons]

/-! ## Parts and scalars -/

theorem part_record {fields : Row} {key : String} {v : Value} (h : Row.get? fields key = some v) :
    (record fields).part key = .ok v := by
  simp only [part, h]

theorem member_record {fields : Row} {key : String} {v : Value}
    (h : Row.get? fields key = some v) : (record fields).member key = .ok v := by
  simp only [member, h, Option.getD_some]

theorem display_eq_ok {v : Value} (h : v.isWritable = true) : v.display = .ok v.wide :=
  if_pos h

/-- What a JSON value becomes as a scalar: the text of a list or a record, or the value itself. -/
def scalarForm : Value → Value
  | list items => text (list items).plain
  | record fields => text (record fields).plain
  | v => v

theorem toScalar_of_legible {v : Value} (h : v.Legible) : v.toScalar = .ok v.scalarForm := by
  obtain ⟨hjson, hwritable⟩ := h
  cases v with
  | list items | record fields =>
    unfold toScalar
    simp only [display_eq_ok hwritable]
    rfl
  | _ => first | rfl | cases hjson

theorem toCell_of_isJson {v : Value} (h : v.isJson = true) : v.toCell = .ok v := by
  cases v <;> first | rfl | cases h

/-- What a row holds under a column, or null, has what all cells and null have. -/
theorem getD_of_forall {good : Value → Prop} {row : Row} (hnull : good null)
    (h : ∀ p ∈ row, good p.2) (column : String) : good ((Row.get? row column).getD null) := by
  cases hget : Row.get? row column with
  | none => exact hnull
  | some v =>
    obtain ⟨p, hp, rfl⟩ := Row.mem_of_get? hget
    exact h p hp

theorem isJson_of_get? {row : Row} (h : allJsonFields row = true) (column : String) :
    ((Row.get? row column).getD null).isJson = true :=
  @getD_of_forall (fun v => v.isJson = true) row rfl ((allJsonFields_iff row).1 h) column

theorem legible_of_get? {row : Row} (h : LegibleFields row) (column : String) :
    ((Row.get? row column).getD null).Legible :=
  @getD_of_forall Legible row ⟨rfl, rfl⟩ ((legibleFields_iff row).1 h) column

end Value

open Value

/-- A row of JSON values is decoded to itself. -/
theorem toRow_of_json {row : Row} (h : allJsonFields row = true) : toRow row = .ok row := by
  induction row with
  | nil => rfl
  | cons cell rest ih =>
    obtain ⟨name, v⟩ := cell
    simp only [allJsonFields, Bool.and_eq_true] at h
    simp only [toRow, toCell_of_isJson h.1, ih h.2]
    rfl

theorem mapM_rowOfValue {rows : List Row} (h : ∀ row ∈ rows, allJsonFields row = true) :
    (rows.map Value.record).mapM rowOfValue = .ok rows := by
  rw [mapM_eq_ok_iff, List.forall₂_map_left_iff, List.forall₂_same]
  exact fun row hrow => toRow_of_json (h row hrow)

theorem columnValue_of_legible {row : Row} (h : LegibleFields row) (column : Option String) :
    ∃ v, Postgrest.Client.columnValue column (.record row) = .ok v := by
  cases column with
  | none => exact ⟨.null, rfl⟩
  | some name => exact ⟨_, toScalar_of_legible (legible_of_get? h name)⟩

/-- The values of a column, one for each row and in the order of the rows. -/
theorem mapM_columnValue {rows : List Row} (h : ∀ row ∈ rows, LegibleFields row)
    (column : Option String) :
    ∃ values, (rows.map Value.record).mapM (Postgrest.Client.columnValue column) = .ok values ∧
      List.Forall₂ (fun row v => Postgrest.Client.columnValue column (.record row) = .ok v)
        rows values := by
  have hall : ∃ values, List.Forall₂
      (fun row v => Postgrest.Client.columnValue column (.record row) = .ok v) rows values :=
    exists_forall₂_iff.2 fun row hrow => columnValue_of_legible (h row hrow) column
  obtain ⟨values, hvalues⟩ := hall
  refine ⟨values, ?_, hvalues⟩
  rw [mapM_eq_ok_iff, List.forall₂_map_left_iff]
  exact hvalues

end ReadGate
