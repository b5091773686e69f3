import ReadGate.Http.Message
import ReadGate.Proofs.Number.Numeral
import ReadGate.Proofs.Value.Decoding

/-!
# Plain values

A value is plain if JSON can write it as it is: its numbers are finite, its integers have no more
digits than are read, its texts hold no lone half of a surrogate pair, and it does not nest too
deep.

* `Value.Plain`, `Row.IsPlain` — plain values and rows.
* `isWritable_of_plain`, `isJson_of_plain` — a plain value has a text, and is one of JSON.
* `serialized?_of_plain`, `written?_of_plain` — a response shows a plain value as it is.
-/

namespace ReadGate

/-- A JSON value of finite numbers, integers that are read again, and whole texts, that nests less
than so many levels deep. -/
inductive Value.Plain : Nat → Value → Prop
  | null (depth : Nat) : Plain (depth + 1) .null
  | bool (depth : Nat) (b : Bool) : Plain (depth + 1) (.bool b)
  | int (depth : Nat) {n : Int} (short : Numeral.IsShort n.natAbs) : Plain (depth + 1) (.int n)
  | float (depth : Nat) {x : Binary64} (finite : x.isFinite = true) : Plain (depth + 1) (.float x)
  | text (depth : Nat) (s : String) : Plain (depth + 1) (.text s)
  | list {depth : Nat} {items : List Value} (parts : ∀ v ∈ items, Plain depth v) :
    Plain (depth + 1) (.list items)
  | record {depth : Nat} {fields : Row} (parts : ∀ p ∈ fields, Plain depth p.2) :
    Plain (depth + 1) (.record fields)

/-- A row whose cells are plain, as deep as a response can nest. -/
def Row.IsPlain (row : Row) : Prop :=
  ∀ p ∈ row, p.2.Plain Http.resultDepth

namespace Http

variable {depth : Nat} {v : Value}

/-! ## Results -/

theorem serializedItems?_of_parts {items : List Value}
    (h : ∀ v ∈ items, serialized? depth v = some v) : serializedItems? depth items = some items := by
  induction items with
  | nil => rw [serializedItems?]
  | cons v rest ih =>
    have hrest := ih fun v hv => h v (List.mem_cons_of_mem _ hv)
    rw [serializedItems?, h v List.mem_cons_self, hrest]
    rfl

theorem serializedFields?_of_parts {fields : Row}
    (h : ∀ p ∈ fields, serialized? depth p.2 = some p.2) :
    serializedFields? depth fields = some fields := by
  induction fields with
  | nil => rw [serializedFields?]
  | cons p rest ih =>
    have hrest := ih fun p hp => h p (List.mem_cons_of_mem _ hp)
    rw [serializedFields?, h p List.mem_cons_self, hrest]
    rfl

/-- A plain value is shown as it is. -/
theorem serialized?_of_plain (h : v.Plain depth) : serialized? depth v = some v := by
  induction h with
  | null => rw [serialized?]
  | bool => rw [serialized?]
  | int => rw [serialized?]
  | float _ finite => rw [serialized?, if_pos finite]
  | text => simp [serialized?, Value.plain]
  | list _ ih =>
    rw [serialized?, serializedItems?_of_parts ih]
    rfl
  | record _ ih =>
    rw [serialized?, serializedFields?_of_parts ih]
    rfl

theorem allWritable_of_parts {items : List Value} (h : ∀ v ∈ items, v.isWritable = true) :
    Value.allWritable items = true := by
  induction items with
  | nil => rfl
  | cons v rest ih =>
    have hrest := ih fun v hv => h v (List.mem_cons_of_mem _ hv)
    rw [Value.allWritable, h v List.mem_cons_self, hrest]
    rfl

theorem allWritableFields_of_parts {fields : Row} (h : ∀ p ∈ fields, p.2.isWritable = true) :
    Value.allWritableFields fields = true := by
  induction fields with
  | nil => rfl
  | cons p rest ih =>
    have hrest := ih fun p hp => h p (List.mem_cons_of_mem _ hp)
    rw [Value.allWritableFields, h p List.mem_cons_self, hrest]
    rfl

/-- A plain value has a text. -/
theorem isWritable_of_plain (h : v.Plain depth) : v.isWritable = true := by
  induction h with
  | null => rfl
  | bool => rfl
  | int _ short => exact decide_eq_true short
  | float => rfl
  | text => rfl
  | list _ ih => exact allWritable_of_parts ih
  | record _ ih => exact allWritableFields_of_parts ih

/-- A plain value is one of JSON. -/
theorem isJson_of_plain (h : v.Plain depth) : v.isJson = true := by
  induction h with
  | list _ ih => exact (Value.allJson_iff _).2 ih
  | record _ ih => exact (Value.allJsonFields_iff _).2 ih
  | _ => rfl

/-! ## Reports -/

theorem writtenItems?_of_parts {items : List Value} (h : ∀ v ∈ items, written? v = some v) :
    writtenItems? items = some items := by
  induction items with
  | nil => rw [writtenItems?]
  | cons v rest ih =>
    have hrest := ih fun v hv => h v (List.mem_cons_of_mem _ hv)
    rw [writtenItems?, h v List.mem_cons_self, hrest]
    rfl

theorem writtenFields?_of_parts {fields : Row} (h : ∀ p ∈ fields, written? p.2 = some p.2) :
    writtenFields? fields = some fields := by
  induction fields with
  | nil => rw [writtenFields?]
  | cons p rest ih =>
    have hrest := ih fun p hp => h p (List.mem_cons_of_mem _ hp)
    rw [writtenFields?, h p List.mem_cons_self, hrest]
    rfl

/-- A plain value is shown as it is in a report, too. -/
theorem written?_of_plain (h : v.Plain depth) : written? v = some v := by
  induction h with
  | null => rw [written?]
  | bool => rw [written?]
  | int _ short => rw [written?, if_pos short]
  | float _ finite => rw [written?, if_pos finite]
  | text => rw [written?]
  | list _ ih =>
    rw [written?, writtenItems?_of_parts ih]
    rfl
  | record _ ih =>
    rw [written?, writtenFields?_of_parts ih]
    rfl

/-! ## Rows and details -/

/-- A cell of a result is shown as it is. -/
def IsSerialized (v : Value) : Prop :=
  serialized? resultDepth v = some v

/-- A cell of a result is shown as it is, and a summary can show it, too. -/
structure IsServed (v : Value) : Prop where
  serialized : IsSerialized v
  writable : v.isWritable = true

theorem isServed_of_plain (h : v.Plain resultDepth) : IsServed v :=
  ⟨serialized?_of_plain h, isWritable_of_plain h⟩

theorem isServed_int {n : Int} (h : Numeral.IsShort n.natAbs) : IsServed (.int n) :=
  isServed_of_plain (.int 254 h)

theorem isServed_null : IsServed .null :=
  isServed_of_plain (.null 254)

theorem serializedRows_of_isSerialized {rows : List Row}
    (h : ∀ row ∈ rows, ∀ p ∈ row, IsSerialized p.2) :
    rows.mapM serializedRow? = some (rows.map .record) := by
  induction rows with
  | nil => rfl
  | cons row rest ih =>
    have hrest := ih fun row hrow => h row (List.mem_cons_of_mem _ hrow)
    have hrow : serializedRow? row = some (.record row) := by
      rw [serializedRow?, serializedFields?_of_parts (h row List.mem_cons_self)]
      rfl
    rw [List.mapM_cons, hrow, hrest]
    rfl

theorem writtenFields?_of_isPlain {details : Row} (h : details.IsPlain) :
    writtenFields? details = some details :=
  writtenFields?_of_parts fun p hp => written?_of_plain (h p hp)

end Http

end ReadGate
