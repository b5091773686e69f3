import Mathlib.Data.List.Pairwise
import ReadGate.Value.Basic

/-!
# Columns written one after the other

A row has the columns that were written into it, and no others.  A column is read back as it was
written unless another value was written under its name later.

* `Row.mem_ofPairs` — a row that is made of columns has no others.
* `Row.ofPairs_reads_iff` — all columns are read back if and only if those with the same name have
  the same value.
* `Row.ofPairs_of_nodup` — columns with different names stay as they are.
-/

namespace ReadGate.Row

variable {α : Type} {row pairs : List (String × α)} {p : String × α} {name : String} {value : α}

/-! ## What a row has -/

theorem mem_of_get? (h : get? row name = some value) : ∃ p ∈ row, p.2 = value := by
  obtain ⟨p, hp, hvalue⟩ := Option.map_eq_some_iff.1 h
  exact ⟨p, List.mem_of_find?_eq_some hp, hvalue⟩

theorem mem_put (h : p ∈ put row name value) : p = (name, value) ∨ p ∈ row := by
  induction row with
  | nil => exact .inl (List.mem_singleton.1 h)
  | cons head rest ih =>
    unfold put at h
    split at h
    · rename_i hname
      rcases List.mem_cons.1 h with rfl | hrest
      · exact .inl (by rw [hname])
      · exact .inr (List.mem_cons_of_mem _ hrest)
    · rcases List.mem_cons.1 h with rfl | hrest
      · exact .inr List.mem_cons_self
      · exact (ih hrest).imp_right (List.mem_cons_of_mem _)

theorem mem_putAll (h : p ∈ putAll row pairs) : p ∈ row ∨ p ∈ pairs := by
  induction pairs generalizing row with
  | nil => exact .inl h
  | cons pair rest ih =>
    rcases ih h with hput | hrest
    · rcases mem_put hput with rfl | hrow
      · exact .inr List.mem_cons_self
      · exact .inl hrow
    · exact .inr (List.mem_cons_of_mem _ hrest)

/-- A row that is made of columns has no others. -/
theorem mem_ofPairs (h : p ∈ ofPairs pairs) : p ∈ pairs :=
  (mem_putAll h).resolve_left List.not_mem_nil

/-! ## What is read back -/

theorem get?_putAll_of_agree (row pairs : List (String × α)) (hrow : get? row name = some value)
    (hpairs : ∀ p ∈ pairs, name = p.1 → value = p.2) : get? (putAll row pairs) name = some value := by
  induction pairs generalizing row with
  | nil => exact hrow
  | cons first rest ih =>
    refine ih (put row first.1 first.2) ?_ fun p hp => hpairs p (List.mem_cons_of_mem first hp)
    by_cases hname : name = first.1
    · rw [hpairs first List.mem_cons_self hname, hname, get?_put_self]
    · rw [get?_put_of_ne row first.2 hname, hrow]

theorem get?_putAll_of_mem (row : List (String × α)) {pairs : List (String × α)}
    (hagree : pairs.Pairwise fun p p' => p.1 = p'.1 → p.2 = p'.2) :
    ∀ p ∈ pairs, get? (putAll row pairs) p.1 = some p.2 := by
  induction pairs generalizing row with
  | nil => exact nofun
  | cons first rest ih =>
    obtain ⟨hfirst, hrest⟩ := List.pairwise_cons.1 hagree
    intro p hp
    rcases List.mem_cons.1 hp with rfl | hlater
    · exact get?_putAll_of_agree (put row p.1 p.2) rest (get?_put_self ..) hfirst
    · exact ih (put row first.1 first.2) hrest p hlater

/-- **Columns are read back as they were written** if and only if no two of them have the same name
and different values. -/
theorem ofPairs_reads_iff (pairs : List (String × α)) :
    (∀ p ∈ pairs, get? (ofPairs pairs) p.1 = some p.2) ↔
      pairs.Pairwise fun p p' => p.1 = p'.1 → p.2 = p'.2 := by
  constructor
  · intro hreads
    refine List.pairwise_of_forall_mem_list fun p hp p' hp' hname => ?_
    have hvalue := hreads p' hp'
    rw [← hname, hreads p hp] at hvalue
    exact Option.some.inj hvalue
  · exact get?_putAll_of_mem []

/-! ## Columns with different names -/

theorem put_of_notMem (h : name ∉ row.map (·.1)) : put row name value = row ++ [(name, value)] := by
  induction row with
  | nil => rfl
  | cons head rest ih =>
    obtain ⟨hne, hrest⟩ := not_or.1 (mt List.mem_cons.2 h)
    rw [put, if_neg (Ne.symm hne), ih hrest]
    rfl

theorem putAll_of_nodup (h : ((row ++ pairs).map (·.1)).Nodup) : putAll row pairs = row ++ pairs := by
  induction pairs generalizing row with
  | nil => exact (List.append_nil row).symm
  | cons first rest ih =>
    have hput : put row first.1 first.2 = row ++ [first] := by
      rw [List.map_append, List.map_cons] at h
      exact put_of_notMem fun hmem =>
        (List.nodup_append.1 h).2.2 first.1 hmem first.1 List.mem_cons_self rfl
    rw [List.append_cons] at h ⊢
    rw [← ih h, ← hput]
    rfl

/-- Columns with different names stay as they are. -/
theorem ofPairs_of_nodup (h : (pairs.map (·.1)).Nodup) : ofPairs pairs = pairs :=
  putAll_of_nodup h

theorem get?_erase_of_ne (row : List (String × α)) {column other : String} (hne : other ≠ column) :
    get? (erase row column) other = get? row other := by
  have hkept (p : String × α) : decide ((p.1 != column) = true ∧ (p.1 == other) = true) =
      (p.1 == other) := by
    by_cases hp : p.1 = other
    · simp [hp, hne]
    · simp [hp]
  simp only [get?, erase, List.find?_filter, hkept]

end ReadGate.Row
