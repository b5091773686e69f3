import ReadGate.Sorting.Merge

/-!
# Finding a place by halving

A test that fails behind every item that fails it splits a list in two.  The place of the split is
found by halving, from any bracket around it, and the bracket by doubling steps.

* `Splits`, `Falling` — a place of a split, and the tests that have one.
* `halve_splits`, `leading_splits` — what the searches find, if no test of an item fails to answer.
* `place_eq_halve` — the place of an insertion is found by the same search.
-/

namespace ReadGate.Sorting

variable {α ε : Type} {pass : α → Prop} {items : List α} {x : α} {m : Nat}

/-! ## Splits -/

/-- The first `n` items pass, and none of the others does. -/
structure Splits (pass : α → Prop) (items : List α) (n : Nat) : Prop where
  front : ∀ x ∈ items.take n, pass x
  back : ∀ x ∈ items.drop n, ¬ pass x

/-- Behind an item that does not pass, none does. -/
def Falling (pass : α → Prop) (items : List α) : Prop :=
  items.Pairwise fun a b => pass b → pass a

theorem Falling.around (h : Falling pass items) (hm : items[m]? = some x) :
    (∀ y ∈ items.take m, pass x → pass y) ∧ ∀ y ∈ items.drop (m + 1), pass y → pass x := by
  obtain ⟨hlt, rfl⟩ := List.getElem?_eq_some_iff.1 hm
  have hsplit : items.take m ++ items[m] :: items.drop (m + 1) = items := by
    rw [← List.drop_eq_getElem_cons hlt, List.take_append_drop]
  rw [Falling, ← hsplit, List.pairwise_append, List.pairwise_cons] at h
  obtain ⟨-, ⟨hbehind, -⟩, hbefore⟩ := h
  exact ⟨fun y hy => hbefore y hy _ List.mem_cons_self, hbehind⟩

/-- All items up to one that passes do so. -/
theorem Falling.front (h : Falling pass items) (hm : items[m]? = some x) (hx : pass x) :
    ∀ y ∈ items.take (m + 1), pass y := by
  intro y hy
  rw [List.take_add_one, hm, List.mem_append] at hy
  rcases hy with hy | hy
  · exact (h.around hm).1 y hy hx
  · rw [List.mem_singleton.1 hy]
    exact hx

/-- All items from one that does not pass on do not. -/
theorem Falling.back (h : Falling pass items) (hm : items[m]? = some x) (hx : ¬ pass x) :
    ∀ y ∈ items.drop m, ¬ pass y := by
  obtain ⟨hlt, rfl⟩ := List.getElem?_eq_some_iff.1 hm
  intro y hy
  rw [List.drop_eq_getElem_cons hlt] at hy
  rcases List.mem_cons.1 hy with rfl | hy
  · exact hx
  · exact fun hpass => hx ((h.around hm).2 y hy hpass)

/-! ## Searches -/

section Search

variable [DecidablePred pass] {passes : α → Except ε Bool} {low high : Nat}

theorem middle_between (fromEnd : Bool) (h : low < high) :
    low ≤ middle fromEnd low high ∧ middle fromEnd low high < high := by
  unfold middle
  split <;> omega

/-- **Halving finds the split** between a place up to which all items pass and one from which on
none does. -/
theorem halve_splits (fromEnd : Bool) (hpasses : ∀ x ∈ items, passes x = .ok (decide (pass x)))
    (hfall : Falling pass items) (hle : low ≤ high) (hhigh : high ≤ items.length)
    (hfront : ∀ x ∈ items.take low, pass x) (hback : ∀ x ∈ items.drop high, ¬ pass x) :
    ∃ n, halve fromEnd passes items low high = .ok n ∧ Splits pass items n := by
  induction hn : high - low using Nat.strongRecOn generalizing low high with
  | ind n ih =>
    rw [halve]
    by_cases hlt : low < high
    · obtain ⟨hlow, hbelow⟩ := middle_between fromEnd hlt
      have hin : middle fromEnd low high < items.length := by omega
      have hget : items[middle fromEnd low high]? = some items[middle fromEnd low high] :=
        List.getElem?_eq_getElem hin
      rw [if_pos hlt, hget]
      simp only [hpasses _ (List.getElem_mem hin)]
      by_cases hpass : pass items[middle fromEnd low high]
      · simp only [decide_eq_true hpass]
        exact ih _ (by omega) (by omega) hhigh (hfall.front hget hpass) hback rfl
      · simp only [decide_eq_false hpass]
        exact ih _ (by omega) (by omega) (by omega) hfront (hfall.back hget hpass) rfl
    · rw [if_neg hlt]
      have hmeet : low = high := by omega
      exact ⟨low, rfl, hfront, by rwa [hmeet]⟩

/-- Doubling steps end with a bracket around the split. -/
theorem bracket_around (hpasses : ∀ x ∈ items, passes x = .ok (decide (pass x)))
    (hfall : Falling pass items) (hlow : low < items.length) (hle : low < high)
    (hfront : ∀ x ∈ items.take (low + 1), pass x) :
    ∃ low' high', bracket passes items low high = .ok (low', high') ∧ low' < high' ∧
      high' ≤ items.length ∧ (∀ x ∈ items.take (low' + 1), pass x) ∧
      ∀ x ∈ items.drop high', ¬ pass x := by
  induction hn : items.length - high using Nat.strongRecOn generalizing low high with
  | ind n ih =>
    rw [bracket]
    by_cases hin : high < items.length
    · have hget : items[high]? = some items[high] := List.getElem?_eq_getElem hin
      rw [if_pos hin, hget]
      simp only [hpasses _ (List.getElem_mem hin)]
      by_cases hpass : pass items[high]
      · simp only [decide_eq_true hpass]
        exact ih _ (by omega) hin (by omega) (hfall.front hget hpass) rfl
      · simp only [decide_eq_false hpass]
        exact ⟨low, high, rfl, hle, Nat.le_of_lt hin, hfront, hfall.back hget hpass⟩
    · rw [if_neg hin]
      exact ⟨low, items.length, rfl, hlow, Nat.le_refl _, hfront, by simp⟩

/-- **Leading items that pass are counted.** -/
theorem leading_splits (fromEnd : Bool) (hpasses : ∀ x ∈ items, passes x = .ok (decide (pass x)))
    (hfall : Falling pass items) :
    ∃ n, leading fromEnd passes items = .ok n ∧ Splits pass items n := by
  cases items with
  | nil => exact ⟨0, rfl, nofun, nofun⟩
  | cons first rest =>
    have hget : (first :: rest)[0]? = some first := rfl
    rw [leading]
    simp only [hpasses first List.mem_cons_self]
    by_cases hpass : pass first
    · have hsome : 0 < (first :: rest).length := by simp
      obtain ⟨low, high, hbracket, hlt, hhigh, hfront, hback⟩ :=
        bracket_around hpasses hfall hsome Nat.zero_lt_one (hfall.front hget hpass)
      obtain ⟨n, hhalve, hsplits⟩ :=
        halve_splits fromEnd hpasses hfall (by omega) hhigh hfront hback
      simp only [decide_eq_true hpass]
      refine ⟨n, ?_, hsplits⟩
      show (bracket passes (first :: rest) 0 1 >>= _) = _
      rw [hbracket]
      exact hhalve
    · simp only [decide_eq_false hpass]
      exact ⟨0, rfl, nofun, hfall.back hget hpass⟩

end Search

/-! ## Insertion -/

/-- The place of an insertion is the split by the items that the new one does not come before. -/
theorem place_eq_halve (before : α → α → Except ε Bool) (item : α) (sorted : List α)
    {low high : Nat} (hle : low ≤ high) :
    place before item sorted low high = halve false (negated before item) sorted low high := by
  induction hn : high - low using Nat.strongRecOn generalizing low high with
  | ind n ih =>
    rw [place, halve]
    by_cases hlt : low < high
    · have hmiddle : middle false low high = (low + high) / 2 := by
        unfold middle
        simp only [Bool.false_eq_true, if_false]
        omega
      rw [if_pos hlt, if_pos hlt, hmiddle]
      cases sorted[(low + high) / 2]? with
      | none => rfl
      | some x =>
        have hleft : place before item sorted low ((low + high) / 2) =
            halve false (negated before item) sorted low ((low + high) / 2) :=
          ih _ (by omega) (by omega) rfl
        have hright : place before item sorted ((low + high) / 2 + 1) high =
            halve false (negated before item) sorted ((low + high) / 2 + 1) high :=
          ih _ (by omega) (by omega) rfl
        simp only [negated]
        cases before item x with
        | error e => rfl
        | ok b =>
          cases b with
          | true => exact hleft
          | false => exact hright
    · rw [if_neg hlt, if_neg hlt]

end ReadGate.Sorting
