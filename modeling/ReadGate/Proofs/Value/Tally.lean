import ReadGate.Grouping
import ReadGate.Proofs.Value.Scalars

/-!
# Groups of values

Values are grouped one after the other: each joins the first group that it is alike, or opens one.
So the first value takes all later ones that are alike with it, and the others are grouped as if
they stood alone.  Every value is counted in one group, whatever the values are.  Those of scalars
are the groups of equal scalars: one for each, shown by the first of them.

* `tally_cons` — the group of the first value, and the groups of the rest.
* `total_tally` — no value is lost, and none counts twice.
* `tally_of_isScalar` — the groups of scalars.
-/

namespace ReadGate.Grouping

variable {vs : List Value}

/-! ## The first group -/

/-- A group takes all values that are alike with it, and leaves the others to the next groups. -/
theorem foldl_add_cons (w : Value) (n : Nat) (groups : List (Value × Nat)) (vs : List Value) :
    vs.foldl add ((w, n) :: groups) =
      (w, n + vs.countP w.alike) :: (vs.filter fun v => !w.alike v).foldl add groups := by
  induction vs generalizing n groups with
  | nil => rfl
  | cons v rest ih =>
    cases h : w.alike v with
    | true =>
      have hjoins : add ((w, n) :: groups) v = (w, n + 1) :: groups := by simp [add, h]
      rw [List.foldl_cons, hjoins, ih, List.countP_cons_of_pos h, Nat.add_assoc, Nat.add_comm 1]
      simp [h]
    | false =>
      have hpasses : add ((w, n) :: groups) v = (w, n) :: add groups v := by simp [add, h]
      rw [List.foldl_cons, hpasses, ih, List.countP_cons_of_neg (by simp [h])]
      simp [h]

theorem tally_cons (v : Value) (vs : List Value) :
    tally (v :: vs) =
      (v, 1 + vs.countP v.alike) :: tally (vs.filter fun w => !v.alike w) :=
  foldl_add_cons v 1 [] vs

/-! ## No value is lost -/

theorem total_foldl_add (groups : List (Value × Nat)) (vs : List Value) :
    total (vs.foldl add groups) = total groups + vs.length := by
  induction vs generalizing groups with
  | nil => rfl
  | cons v rest ih =>
    rw [List.foldl_cons, ih, total_add, List.length_cons]
    omega

/-- **Every value is counted once**, whatever equality does. -/
theorem total_tally (vs : List Value) : total (tally vs) = vs.length := by
  rw [tally, total_foldl_add, total, Nat.zero_add]

theorem total_eq_sum (groups : List (Value × Nat)) : total groups = (groups.map (·.2)).sum := by
  induction groups with
  | nil => rfl
  | cons group rest ih => rw [total, ih, List.map_cons, List.sum_cons]

/-! ## Groups of scalars -/

/-- The scalars that no scalar before them equals, in their order. -/
def distinct (vs : List Value) : List Value :=
  vs.eraseDupsBy Value.equals

/-- How many of the values equal the given one. -/
def occurrences (v : Value) (vs : List Value) : Nat :=
  vs.countP v.equals

@[simp] theorem distinct_nil : distinct [] = [] := rfl

theorem distinct_cons (v : Value) (vs : List Value) :
    distinct (v :: vs) = v :: distinct (vs.filter fun w => !v.equals w) := by
  rw [distinct, List.eraseDupsBy_cons, distinct]
  congr 2
  refine List.filter_congr fun w _ => ?_
  rw [Value.equals, Value.equals, Bool.beq_comm]
  cases v.scalar? == w.scalar? <;> rfl

/-- Induction by the first group: it is taken away with all its values. -/
theorem induction_by_group {P : List Value → Prop} (nil : P [])
    (cons : ∀ v vs, P (vs.filter fun w => !v.equals w) → P (v :: vs)) (vs : List Value) : P vs := by
  induction hn : vs.length using Nat.strongRecOn generalizing vs with
  | ind n ih =>
    cases vs with
    | nil => exact nil
    | cons v rest =>
      refine cons v rest (ih _ ?_ _ rfl)
      have hle := List.length_filter_le (fun w => !v.equals w) rest
      rw [List.length_cons] at hn
      omega

theorem mem_of_mem_distinct {v : Value} (h : v ∈ distinct vs) : v ∈ vs := by
  induction vs using induction_by_group with
  | nil => exact h
  | cons w rest ih =>
    rw [distinct_cons] at h
    rcases List.mem_cons.1 h with rfl | hrest
    · exact List.mem_cons_self
    · exact List.mem_cons_of_mem w (List.mem_filter.1 (ih hrest)).1

/-- Values of another group do not equal the value of this one. -/
theorem occurrences_of_apart {u v : Value} (hne : v.equals u = false) (vs : List Value) :
    occurrences u (v :: vs) = occurrences u (vs.filter fun w => !v.equals w) := by
  have hapart : u.scalar? ≠ v.scalar? := by
    rw [Value.equals, beq_eq_false_iff_ne] at hne
    exact hne.symm
  rw [occurrences, occurrences, List.countP_filter, List.countP_cons_of_neg]
  · refine List.countP_congr fun w _ => ?_
    rw [Bool.and_eq_true, Bool.not_eq_true', Value.equals_iff]
    refine ⟨fun hu => ⟨hu, ?_⟩, fun h => h.1⟩
    rw [Value.equals, beq_eq_false_iff_ne, ← hu]
    exact hapart.symm
  · rw [Value.equals_iff]
    exact hapart

/-- **The groups of scalars**: one for each scalar that no earlier one equals, with the number of
those that equal it. -/
theorem tally_of_isScalar (h : ∀ v ∈ vs, v.IsScalar) :
    tally vs = (distinct vs).map fun v => (v, occurrences v vs) := by
  induction vs using induction_by_group with
  | nil => rfl
  | cons v rest ih =>
    have hfirst := h v List.mem_cons_self
    have hrest (w : Value) (hw : w ∈ rest) : w.IsScalar := h w (List.mem_cons_of_mem v hw)
    have hcount : rest.countP v.alike = occurrences v rest :=
      List.countP_congr fun w hw => by rw [Value.alike_eq_equals hfirst (hrest w hw)]
    have hothers : (rest.filter fun w => !v.alike w) = rest.filter fun w => !v.equals w :=
      List.filter_congr fun w hw => by rw [Value.alike_eq_equals hfirst (hrest w hw)]
    rw [tally_cons, hcount, hothers, distinct_cons, List.map_cons,
      ih fun w hw => hrest w (List.mem_filter.1 hw).1]
    congr 1
    · rw [occurrences, occurrences, List.countP_cons_of_pos (Value.equals_iff.2 rfl), Nat.add_comm]
    · refine List.map_congr_left fun u hu => ?_
      have hne := (List.mem_filter.1 (mem_of_mem_distinct hu)).2
      rw [occurrences_of_apart (by simpa using hne)]

end ReadGate.Grouping
