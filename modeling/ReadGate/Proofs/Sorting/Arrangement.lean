import Mathlib.Data.List.Pairwise
import Mathlib.Order.Lattice
import ReadGate.Sorting

/-!
# Ascending lists and ties

Items are ordered by keys.  A stable sort gives a list whose keys never fall, in which the items of
each key stand as they stood before; so it gives the same items, each as often as before.

* `Ascending` — the keys of a list never fall.
* `KeepsTies` — two lists that agree on the items of each key.
* `Arranges` — both at once: what a stable sort makes of a list.
* `Decided` — a comparison that follows the keys and does not fail.
-/

namespace ReadGate.Sorting

variable {α ε κ : Type} [LinearOrder κ] {key : α → κ} {l l' r r' s : List α} {a : α}

/-! ## Ascending lists -/

/-- Along the list the keys never fall. -/
def Ascending (key : α → κ) (l : List α) : Prop :=
  l.Pairwise fun a b => key a ≤ key b

theorem ascending_append :
    Ascending key (l ++ r) ↔ Ascending key l ∧ Ascending key r ∧
      ∀ a ∈ l, ∀ b ∈ r, key a ≤ key b :=
  List.pairwise_append

theorem ascending_reverse :
    Ascending (OrderDual.toDual ∘ key) l.reverse ↔ Ascending key l :=
  List.pairwise_reverse

/-- The first item is a least one. -/
theorem Ascending.head_le {x : α} (h : Ascending key (x :: l)) : ∀ a ∈ x :: l, key x ≤ key a := by
  intro a ha
  rcases List.mem_cons.1 ha with rfl | ha
  · exact le_rfl
  · exact (List.pairwise_cons.1 h).1 a ha

/-- The last item is a greatest one. -/
theorem Ascending.le_last {x : α} (h : Ascending key (l ++ [x])) :
    ∀ a ∈ l ++ [x], key a ≤ key x := by
  intro a ha
  rcases List.mem_append.1 ha with ha | ha
  · exact (ascending_append.1 h).2.2 a ha x List.mem_cons_self
  · rw [List.mem_singleton.1 ha]

/-! ## Ties -/

/-- The second list has the items of each key that the first one has, in the same order. -/
def KeepsTies (key : α → κ) (l r : List α) : Prop :=
  ∀ k, (r.filter fun a => key a = k) = l.filter fun a => key a = k

namespace KeepsTies

theorem refl (key : α → κ) (l : List α) : KeepsTies key l l :=
  fun _ => rfl

theorem trans (h : KeepsTies key l r) (h' : KeepsTies key r s) : KeepsTies key l s :=
  fun k => (h' k).trans (h k)

theorem append (h : KeepsTies key l r) (h' : KeepsTies key l' r') :
    KeepsTies key (l ++ l') (r ++ r') := by
  intro k
  rw [List.filter_append, List.filter_append, h k, h' k]

theorem reverse (h : KeepsTies key l r) : KeepsTies key l.reverse r.reverse := by
  intro k
  rw [List.filter_reverse, List.filter_reverse, h k]

/-- Neighbours without a common key may change places. -/
theorem swap (h : ∀ a ∈ l, ∀ b ∈ r, key a ≠ key b) : KeepsTies key (l ++ r) (r ++ l) := by
  intro k
  rw [List.filter_append, List.filter_append]
  by_cases hl : ∃ a ∈ l, key a = k
  · obtain ⟨a, ha, rfl⟩ := hl
    have hnone : (r.filter fun b => key b = key a) = [] := by
      rw [List.filter_eq_nil_iff]
      intro b hb
      simpa using (h a ha b hb).symm
    rw [hnone, List.nil_append, List.append_nil]
  · have hnone : (l.filter fun a => key a = k) = [] := by
      rw [List.filter_eq_nil_iff]
      intro a ha
      simpa using fun hk => hl ⟨a, ha, hk⟩
    rw [hnone, List.nil_append, List.append_nil]

/-- The items are the same, each as often as before. -/
theorem perm (h : KeepsTies key l r) : r.Perm l := by
  classical
  rw [List.perm_iff_count]
  intro a
  have hkey : decide (key a = key a) = true := by simp
  rw [← List.count_filter (p := fun b => key b = key a) hkey, h,
    List.count_filter (p := fun b => key b = key a) hkey]

theorem mem_iff (h : KeepsTies key l r) : a ∈ r ↔ a ∈ l :=
  h.perm.mem_iff

theorem toDual (h : KeepsTies key l r) : KeepsTies (OrderDual.toDual ∘ key) l r :=
  fun k => h (OrderDual.ofDual k)

theorem ofDual (h : KeepsTies (OrderDual.toDual ∘ key) l r) : KeepsTies key l r :=
  fun k => h (OrderDual.toDual k)

end KeepsTies

/-! ## Stable sorting -/

/-- The second list is what a stable sort makes of the first. -/
structure Arranges (key : α → κ) (l r : List α) : Prop where
  ascending : Ascending key r
  ties : KeepsTies key l r

/-- Items of a kind are compared by their keys. -/
def Decided (before : α → α → Except ε Bool) (key : α → κ) (kind : α → Prop) : Prop :=
  ∀ a b, kind a → kind b → before a b = .ok (decide (key a < key b))

variable {before : α → α → Except ε Bool} {kind : α → Prop}

theorem Decided.flip (h : Decided before key kind) :
    Decided (fun b a => before a b) (OrderDual.toDual ∘ key) kind :=
  fun b a hb ha => h a b ha hb

theorem Decided.negated (h : Decided before key kind) {b : α} (ha : kind a) (hb : kind b) :
    negated before a b = .ok (decide (key b ≤ key a)) := by
  rw [Sorting.negated, h a b ha hb]
  simp [Except.map, ← not_lt]

end ReadGate.Sorting
