import ReadGate.Proofs.Json.Extent
import ReadGate.Proofs.Value.Decoding

/-!
# What a document holds

Whatever is read from a document is a JSON value at every depth, and has no integer with more digits
than are read: text, numbers and words are such values, and lists and objects are made of values
that were read before.

* `Reads` — a parsing function gives nothing but results of a kind.
* `value_contents` — values, items and fields, by induction on the fuel.
* `legible_of_read`, `isJson_of_read` — so is the whole document.
-/

namespace ReadGate

open Value

theorem Row.legibleFields_put {row : Row} {v : Value} (hrow : LegibleFields row) (hv : v.Legible)
    (name : String) : LegibleFields (Row.put row name v) := by
  induction row with
  | nil => exact legibleFields_cons.2 ⟨hv, hrow⟩
  | cons head rest ih =>
    obtain ⟨column, old⟩ := head
    rw [legibleFields_cons] at hrow
    unfold Row.put
    split
    · exact legibleFields_cons.2 ⟨hv, hrow.2⟩
    · exact legibleFields_cons.2 ⟨hrow.1, ih hrow.2⟩

namespace Json

/-- Whatever is read has the property. -/
def Reads {α : Type} (good : α → Prop) (x : Parsed α) : Prop :=
  ∀ a rest, x = .ok (a, rest) → good a

open Text

variable {α : Type} {good : α → Prop} {dialect : Dialect}

theorem Reads.ok {a : α} {rest : List Char} (h : good a) : Reads good (.ok (a, rest)) := by
  rintro _ _ ⟨⟩
  exact h

theorem Reads.error (e : ReadError) : Reads good (.error e) := nofun

/-! ## Strings, numbers and words -/

theorem legible_stringValue (codes : List Nat) : (stringValue codes).Legible := by
  unfold stringValue
  split <;> exact ⟨rfl, rfl⟩

theorem legible_fieldValue {v : Value} (h : v.Legible) (name : List Nat) :
    (fieldValue name v).Legible := by
  unfold fieldValue
  split
  · exact legibleItems_cons.2 ⟨⟨rfl, rfl⟩, legibleItems_cons.2 ⟨h, rfl, rfl⟩⟩
  · exact h

theorem wholePart?_isDecimal {cs whole rest : List Char} (h : wholePart? cs = some (whole, rest)) :
    ∀ c ∈ whole, isDecimal c = true := by
  unfold wholePart? at h
  split at h
  · cases h
  · cases h
    exact List.forall_mem_singleton.2 rfl
  · split at h
    · rename_i hc
      cases h
      exact (IsRun.cons_takeWhile hc).all
    · cases h

theorem unsignedNumber?_reads (negative : Bool) (cs : List Char) :
    ∀ x ∈ unsignedNumber? negative cs, Reads Value.Legible x := by
  intro x hx
  unfold unsignedNumber? at hx
  obtain ⟨⟨whole, rest⟩, hwhole, hx⟩ := Option.bind_eq_some_iff.1 hx
  dsimp only at hx
  split at hx
  · split at hx <;> cases hx
    · rename_i n hn
      have hshort : Numeral.IsShort n := by
        refine Numeral.isShort_of_natOfDigits (fun d hd => ?_) hn
        obtain ⟨c, hc, rfl⟩ := List.mem_map.1 hd
        have hrange := toNat_of_isDecimal (wholePart?_isDecimal hwhole c hc)
        omega
      refine .ok ⟨rfl, decide_eq_true ?_⟩
      split <;> simpa using hshort
    · exact .error _
  · cases hx
    exact .ok ⟨rfl, rfl⟩

theorem number_reads (cs : List Char) : Reads Value.Legible (number dialect cs) := by
  unfold number
  split
  · exact .error _
  · cases hx : signedNumber? cs with
    | none => exact .error _
    | some x =>
      unfold signedNumber? at hx
      split at hx <;> exact unsignedNumber?_reads _ _ x hx

theorem scalar_reads (cs : List Char) : Reads Value.Legible (scalar dialect cs) := by
  unfold scalar
  split
  · rename_i word v hword
    have hwords : ∀ entry ∈ words, entry.2.isJson = true ∧ entry.2.isWritable = true := by decide
    exact .ok (hwords (word, v) (List.mem_of_find?_eq_some hword))
  · exact number_reads cs

/-! ## Documents -/

/-- What stands in a document.  The fields before a place belong to the object that is read. -/
theorem value_contents (dialect : Dialect) (fuel : Nat) :
    (∀ depth cs, Reads Value.Legible (value dialect fuel depth cs)) ∧
    (∀ depth cs, Reads Value.LegibleItems (items dialect fuel depth cs)) ∧
    ∀ depth before cs, Value.LegibleFields before →
      Reads Value.LegibleFields (fields dialect fuel depth before cs) := by
  induction fuel with
  | zero =>
    refine ⟨fun depth cs => ?_, fun depth cs => ?_, fun depth before cs _ => ?_⟩
    · unfold value
      exact .error _
    · unfold items
      exact .error _
    · unfold fields
      exact .error _
  | succ fuel ih =>
    obtain ⟨hvalue, hitems, hfields⟩ := ih
    refine ⟨fun depth cs v rest h => ?_, fun depth cs vs rest h => ?_,
      fun depth before cs hbefore row rest h => ?_⟩
    · cases value_eq_ok.1 h with
      | string h => exact legible_stringValue _
      | emptyObject hdepth h | emptyList hdepth h => exact ⟨rfl, rfl⟩
      | object hdepth h => exact hfields _ _ _ ⟨rfl, rfl⟩ _ _ h
      | list hdepth h => exact hitems _ _ _ _ h
      | scalar h => exact scalar_reads _ _ _ h
    · rcases items_eq_ok.1 h with ⟨v, hv, rfl⟩ | ⟨v, more, mid, hv, hmore, rfl⟩
      · obtain ⟨_, hv, -⟩ := upTo_eq_ok.1 hv
        exact legibleItems_cons.2 ⟨hvalue _ _ _ _ hv, rfl, rfl⟩
      · obtain ⟨_, hv, -⟩ := upTo_eq_ok.1 hv
        exact legibleItems_cons.2 ⟨hvalue _ _ _ _ hv, hitems _ _ _ _ hmore⟩
    · obtain ⟨_, name, named, v, rfl, -, ⟨hv, rfl⟩ | ⟨mid, hv, hmore⟩⟩ := fields_eq_ok.1 h
      · obtain ⟨_, hv, -⟩ := upTo_eq_ok.1 hv
        exact Row.legibleFields_put hbefore (legible_fieldValue (hvalue _ _ _ _ hv) name) _
      · obtain ⟨_, hv, -⟩ := upTo_eq_ok.1 hv
        refine hfields _ _ _ ?_ _ _ hmore
        exact Row.legibleFields_put hbefore (legible_fieldValue (hvalue _ _ _ _ hv) name) _

/-- **A document holds JSON values only**, and none of its integers is too long to be written. -/
theorem legible_of_read {document : String} {v : Value} (h : read dialect document = .ok v) :
    v.Legible := by
  obtain ⟨-, rest, hvalue, -⟩ := read_eq_ok.1 h
  exact (value_contents dialect _).1 _ _ _ rest hvalue

theorem isJson_of_read {document : String} {v : Value} (h : read dialect document = .ok v) :
    v.isJson = true :=
  (legible_of_read h).1

end Json

end ReadGate
