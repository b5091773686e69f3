import ReadGate.Proofs.Text.Wide
import ReadGate.Record

/-!
# Fields that are read

A record is read if each of its fields is.  The equations here say when a check succeeds, and with
which value, so that a record is taken apart field by field.
-/

namespace ReadGate

variable {α β : Type}

/-! ## Checks -/

namespace Checked

theorem map_eq_ok {x : Checked α} {f : α → β} {b : β} :
    x.map f = .ok b ↔ ∃ a, x = .ok a ∧ f a = b := by
  cases x <;> simp [Except.map]

@[simp] theorem under_eq_ok {step : PathStep} {x : Checked α} {a : α} :
    x.under step = .ok a ↔ x = .ok a := by
  cases x <;> simp [under]

@[simp] theorem both_eq_ok {x : Checked α} {y : Checked β} {p : α × β} :
    both x y = .ok p ↔ x = .ok p.1 ∧ y = .ok p.2 := by
  obtain ⟨a, b⟩ := p
  cases x <;> cases y <;> simp [both]

end Checked

/-! ## Fields -/

namespace Record

variable {name : String} {read : Value → Checked α} {fields : Row} {v : Value}

theorem required_eq_ok (h : Row.get? fields name = some v) {a : α} :
    required name read fields = .ok a ↔ read v = .ok a := by
  unfold required
  rw [h]
  exact Checked.under_eq_ok

theorem optional_eq_ok (h : Row.get? fields name = some v) {default a : α} :
    optional name default read fields = .ok a ↔ read v = .ok a := by
  unfold optional
  rw [h]
  exact Checked.under_eq_ok

theorem nullable_eq_ok (h : Row.get? fields name = some v) {a : Option α} :
    nullable name read fields = .ok a ↔ orNull read v = .ok a :=
  optional_eq_ok h

theorem mapping_eq_ok {row : Row} : mapping v = .ok row ↔ v = .record row := by
  cases v <;> simp [mapping, Checked.fail]

/-! ## Values of known types -/

/-- A list of records is read as these records. -/
theorem list_mapping (rows : List Row) : list mapping (.list (rows.map .record)) = .ok rows := by
  have heach (index : Nat) : Checked.each mapping index (rows.map .record) = .ok rows := by
    induction rows generalizing index with
    | nil => rfl
    | cons row rows ih =>
      rw [List.map_cons, Checked.each, ih]
      rfl
  exact heach 0

theorem wholeText_eq_ok {s t : String} : wholeText (.text s) = .ok t ↔ t = s := by
  simp [wholeText, eq_comm]

/-- Every text is read where halves may stand alone. -/
theorem text_ofWide (t : WideText) : Record.text (.ofWide t) = .ok t := by
  cases t with
  | whole s => rfl
  | broken codes half => exact congrArg Except.ok (WideText.ofCodes_of_half half)

theorem text_eq_ok {s t : WideText} : Record.text (.ofWide s) = .ok t ↔ t = s := by
  rw [text_ofWide, Except.ok.injEq, eq_comm]

theorem sizedText_eq_ok {least most : Nat} {t : String} :
    sizedText least (some most) v = .ok t ↔
      wholeText v = .ok t ∧ least ≤ Text.size t ∧ Text.size t ≤ most := by
  unfold sizedText
  cases hread : wholeText v with
  | error issues => exact iff_of_false nofun nofun
  | ok s =>
    dsimp only
    rw [Except.ok.injEq]
    split
    · rename_i hshort
      refine iff_of_false nofun ?_
      rintro ⟨rfl, hleast, -⟩
      omega
    · rename_i hleast
      split
      · rename_i hlong
        simp only [Option.any_some, decide_eq_true_eq] at hlong
        refine iff_of_false nofun ?_
        rintro ⟨rfl, -, hmost⟩
        omega
      · rename_i hmost
        simp only [Option.any_some, decide_eq_true_eq] at hmost
        rw [Except.ok.injEq]
        constructor
        · rintro rfl
          exact ⟨rfl, by omega, by omega⟩
        · rintro ⟨rfl, -⟩
          rfl

theorem someText_eq_ok {s t : String} : someText (.text s) = .ok t ↔ t = s ∧ s ≠ "" := by
  have hempty : Text.size s < 1 ↔ s = "" := by
    rw [Text.size, Nat.lt_one_iff, List.length_eq_zero_iff, String.toList_eq_nil_iff]
  simp only [someText, sizedText, wholeText, hempty, Option.any_none, Bool.false_eq_true,
    if_false]
  split
  · rename_i hs
    exact iff_of_false nofun fun h => h.2 hs
  · rename_i hs
    rw [Except.ok.injEq]
    exact ⟨fun h => ⟨h.symm, hs⟩, fun h => h.1.symm⟩

theorem truth_eq_ok {b c : Bool} : truth (.bool b) = .ok c ↔ c = b := by
  simp [truth, eq_comm]

theorem nat_eq_ok {n : Int} {k : Nat} : nat (.int n) = .ok k ↔ (k : Int) = n := by
  have hread : Record.int (.int n) = .ok n := rfl
  unfold nat
  rw [hread]
  dsimp only
  split
  · rename_i hn
    simp only [Except.ok.injEq]
    omega
  · rename_i hn
    simp only [Checked.fail, reduceCtorEq, false_iff]
    omega

/-- A value that may be null is read as its field is, if nothing else is null. -/
theorem orNull_eq_ok (write : β → Value) (project : α → β)
    (hsome : ∀ b, write b ≠ .null) (hread : ∀ b a, read (write b) = .ok a ↔ project a = b)
    {b : Option β} {a : Option α} :
    orNull read ((b.map write).getD .null) = .ok a ↔ a.map project = b := by
  cases b with
  | none => simp [orNull, eq_comm]
  | some b =>
    have hread' : orNull read (write b) = (read (write b)).map some := by
      unfold orNull
      split
      · rename_i heq
        exact absurd heq (hsome b)
      · rfl
    show orNull read (write b) = .ok a ↔ _
    rw [hread', Checked.map_eq_ok]
    cases a <;> simp [hread]

theorem optionalNat_eq_ok {n : Option Int} {k : Option Nat} :
    orNull nat (.ofInt? n) = .ok k ↔ k.map Int.ofNat = n := by
  have hvalue : Value.ofInt? n = (n.map Value.int).getD .null := by cases n <;> rfl
  rw [hvalue]
  exact orNull_eq_ok Value.int Int.ofNat (fun _ => nofun) fun _ _ => nat_eq_ok

theorem optionalWholeText_eq_ok {s t : Option String} :
    orNull wholeText (.ofText? s) = .ok t ↔ t = s := by
  have hvalue : Value.ofText? s = (s.map Value.text).getD .null := by cases s <;> rfl
  rw [hvalue, orNull_eq_ok Value.text id (fun _ => nofun) fun _ _ => wholeText_eq_ok,
    Option.map_id, id]

theorem optionalText_eq_ok {s t : Option WideText} :
    orNull Record.text (.ofWide? s) = .ok t ↔ t = s := by
  have hvalue : Value.ofWide? s = (s.map Value.ofWide).getD .null := by cases s <;> rfl
  have hwide : ∀ t : WideText, Value.ofWide t ≠ .null := by
    intro t
    cases t <;> exact nofun
  rw [hvalue, orNull_eq_ok Value.ofWide id hwide fun _ _ => text_eq_ok, Option.map_id, id]

end Record

end ReadGate
