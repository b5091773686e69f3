import ReadGate.Proofs.Sorting.Arrangement
import ReadGate.Proofs.Sorting.Search

/-!
# Runs and insertion, arranged

A run is ascending, whether it was found in that order or turned round; only a run that falls
strictly is turned round, so that no tie changes its order.  An inserted item stands behind all
items that it ties with.

* `insert_arranges` — an item put into a run.
* `firstRun_ascending` — the run at the start of a list.
* `nextRun_ascending` — the same run with further items put into it.
-/

namespace ReadGate.Sorting

variable {α ε κ : Type} [LinearOrder κ] {key : α → κ} {kind : α → Prop}
  {before : α → α → Except ε Bool} {items sorted : List α} {item : α}

/-! ## Insertion -/

/-- An item is put behind all those whose keys are not greater. -/
theorem insert_arranges (hbefore : Decided before key kind) (hitem : kind item)
    (hkind : ∀ x ∈ sorted, kind x) (hsorted : Ascending key sorted) :
    ∃ out, insert before sorted item = .ok out ∧ Arranges key (sorted ++ [item]) out := by
  have hfall : Falling (fun x => key x ≤ key item) sorted :=
    hsorted.imp fun hab hb => le_trans hab hb
  obtain ⟨n, hn, hfront, hback⟩ := halve_splits false
    (fun x hx => hbefore.negated hitem (hkind x hx)) hfall (Nat.zero_le _) (Nat.le_refl _)
    (by simp) (by simp)
  rw [← place_eq_halve before item sorted (Nat.zero_le _)] at hn
  refine ⟨sorted.take n ++ item :: sorted.drop n, ?_, ?_, ?_⟩
  · unfold insert
    rw [hn]
    rfl
  · have hparts : Ascending key (sorted.take n ++ sorted.drop n) := by
      rwa [List.take_append_drop]
    obtain ⟨htake, hdrop, hacross⟩ := ascending_append.1 hparts
    have hbehind : ∀ y ∈ sorted.drop n, key item ≤ key y :=
      fun y hy => (not_le.1 (hback y hy)).le
    refine ascending_append.2 ⟨htake, List.pairwise_cons.2 ⟨hbehind, hdrop⟩, ?_⟩
    intro a ha b hb
    rcases List.mem_cons.1 hb with rfl | hb
    · exact hfront a ha
    · exact hacross a ha b hb
  · -- the items behind the new one have greater keys
    have hapart : ∀ a ∈ sorted.drop n, ∀ b ∈ [item], key a ≠ key b := by
      intro a ha b hb
      rw [List.mem_singleton.1 hb]
      exact (not_le.1 (hback a ha)).ne'
    have hswap := (KeepsTies.refl key (sorted.take n)).append (KeepsTies.swap hapart)
    rwa [← List.append_assoc, List.take_append_drop] at hswap

/-- Items are put into a run one after the other. -/
theorem foldlM_insert_arranges (hbefore : Decided before key kind) (hitems : ∀ x ∈ items, kind x)
    (hkind : ∀ x ∈ sorted, kind x) (hsorted : Ascending key sorted) :
    ∃ out, items.foldlM (insert before) sorted = .ok out ∧ Arranges key (sorted ++ items) out := by
  induction items generalizing sorted with
  | nil =>
    refine ⟨sorted, rfl, hsorted, ?_⟩
    rw [List.append_nil]
    exact .refl key sorted
  | cons item rest ih =>
    obtain ⟨next, hnext, hascending, hties⟩ :=
      insert_arranges hbefore (hitems item List.mem_cons_self) hkind hsorted
    have hnextKind : ∀ x ∈ next, kind x := by
      intro x hx
      rw [hties.mem_iff, List.mem_append, List.mem_singleton] at hx
      rcases hx with hx | rfl
      · exact hkind x hx
      · exact hitems x List.mem_cons_self
    obtain ⟨out, hout, harranged⟩ :=
      ih (fun x hx => hitems x (List.mem_cons_of_mem item hx)) hnextKind hascending
    refine ⟨out, ?_, harranged.ascending, ?_⟩
    · rw [List.foldlM_cons, hnext]
      exact hout
    · have hfirst := hties.append (.refl key rest)
      rw [List.append_assoc] at hfirst
      exact hfirst.trans harranged.ties

/-! ## Runs -/

/-- The start of a list in which each item is wanted behind its predecessor. -/
theorem span_run (rel : α → α → Prop) [DecidableRel rel] {wanted : α → α → Except ε Bool}
    (hwanted : ∀ a b, kind a → kind b → wanted b a = .ok (decide (rel a b)))
    (htrans : ∀ a b c, rel a b → rel b c → rel a c) {last : α} (hlast : kind last)
    (hitems : ∀ x ∈ items, kind x) :
    ∃ run rest, span wanted last items = .ok (run, rest) ∧ run ++ rest = items ∧
      (last :: run).Pairwise rel := by
  induction items generalizing last with
  | nil => exact ⟨[], [], rfl, rfl, List.pairwise_singleton rel last⟩
  | cons item rest ih =>
    have hitem := hitems item List.mem_cons_self
    rw [span]
    simp only [hwanted last item hlast hitem]
    by_cases hrel : rel last item
    · obtain ⟨run, rest', hspan, happend, hrun⟩ :=
        ih hitem fun x hx => hitems x (List.mem_cons_of_mem item hx)
      refine ⟨item :: run, rest', ?_, by rw [List.cons_append, happend], ?_⟩
      · simp only [decide_eq_true hrel]
        show (span wanted item rest >>= _) = _
        rw [hspan]
        rfl
      · refine List.pairwise_cons.2 ⟨?_, hrun⟩
        intro x hx
        rcases List.mem_cons.1 hx with rfl | hx
        · exact hrel
        · exact htrans _ _ _ hrel ((List.pairwise_cons.1 hrun).1 x hx)
    · simp only [decide_eq_false hrel]
      exact ⟨[], item :: rest, rfl, rfl, List.pairwise_singleton rel last⟩

/-- A list that falls strictly has no ties, and so it may be turned round. -/
theorem KeepsTies.turned {l : List α} (h : l.Pairwise fun a b => key b < key a) :
    KeepsTies key l l.reverse := by
  induction l with
  | nil => exact .refl key []
  | cons a l ih =>
    obtain ⟨hfirst, hrest⟩ := List.pairwise_cons.1 h
    have hapart : ∀ x ∈ [a], ∀ b ∈ l, key x ≠ key b := by
      intro x hx b hb
      rw [List.mem_singleton.1 hx]
      exact (hfirst b hb).ne'
    rw [List.reverse_cons]
    exact (KeepsTies.swap hapart).trans ((ih hrest).append (.refl key [a]))

/-- A split of a list into an ascending run and what is left of it. -/
structure RunOf (key : α → κ) (items run rest : List α) : Prop where
  ascending : Ascending key run
  ties : KeepsTies key items (run ++ rest)
  shorter : items ≠ [] → rest.length < items.length

/-- **The first run is ascending**, and only strictly falling items were turned round for it. -/
theorem firstRun_ascending (hbefore : Decided before key kind) (hitems : ∀ x ∈ items, kind x) :
    ∃ run rest, firstRun before items = .ok (run, rest) ∧ RunOf key items run rest := by
  match items with
  | [] => exact ⟨[], [], rfl, .nil, .refl key [], fun h => absurd rfl h⟩
  | [item] =>
    exact ⟨[item], [], rfl, List.pairwise_singleton _ item, .refl key [item], fun _ => by simp⟩
  | first :: second :: rest =>
    have hfirst := hitems first List.mem_cons_self
    have hsecond := hitems second (by simp)
    have hrest : ∀ x ∈ rest, kind x := fun x hx => hitems x (by simp [hx])
    rw [firstRun]
    simp only [hbefore second first hsecond hfirst]
    by_cases hfalls : key second < key first
    · obtain ⟨run, rest', hspan, happend, hrun⟩ :=
        span_run (fun a b => key b < key a) (fun a b ha hb => hbefore b a hb ha)
          (fun a b c hab hbc => lt_trans hbc hab) hsecond hrest
      have hfalling : (first :: second :: run).Pairwise fun a b => key b < key a := by
        refine List.pairwise_cons.2 ⟨?_, hrun⟩
        intro x hx
        rcases List.mem_cons.1 hx with rfl | hx
        · exact hfalls
        · exact lt_trans ((List.pairwise_cons.1 hrun).1 x hx) hfalls
      refine ⟨(first :: second :: run).reverse, rest', ?_, ?_, ?_, fun _ => ?_⟩
      · simp only [decide_eq_true hfalls]
        show (span before second rest >>= _) = _
        rw [hspan]
        rfl
      · exact List.pairwise_reverse.2 (hfalling.imp fun h => h.le)
      · have hties := (KeepsTies.turned hfalling).append (.refl key rest')
        rwa [List.cons_append, List.cons_append, happend] at hties
      · simp only [← happend, List.length_cons, List.length_append]
        omega
    · obtain ⟨run, rest', hspan, happend, hrun⟩ :=
        span_run (fun a b => key a ≤ key b) (fun a b ha hb => hbefore.negated hb ha)
          (fun a b c hab hbc => le_trans hab hbc) hsecond hrest
      refine ⟨first :: second :: run, rest', ?_, ?_, ?_, fun _ => ?_⟩
      · simp only [decide_eq_false hfalls]
        show (span (negated before) second rest >>= _) = _
        rw [hspan]
        rfl
      · refine List.pairwise_cons.2 ⟨?_, hrun⟩
        intro x hx
        rcases List.mem_cons.1 hx with rfl | hx
        · exact not_lt.1 hfalls
        · exact le_trans (not_lt.1 hfalls) ((List.pairwise_cons.1 hrun).1 x hx)
      · rw [List.cons_append, List.cons_append, happend]
        exact .refl key _
      · simp only [← happend, List.length_cons, List.length_append]
        omega

/-- **The next run**, with as many items put into it as it lacks. -/
theorem nextRun_ascending (hbefore : Decided before key kind) (least : Nat)
    (hitems : ∀ x ∈ items, kind x) :
    ∃ run rest, nextRun before least items = .ok (run, rest) ∧ RunOf key items run rest := by
  obtain ⟨run, rest, hrun, hof⟩ := firstRun_ascending hbefore hitems
  have hparts : ∀ x, x ∈ run ∨ x ∈ rest → kind x := by
    intro x hx
    exact hitems x (hof.ties.mem_iff.1 (List.mem_append.2 hx))
  obtain ⟨out, hout, harranged⟩ := foldlM_insert_arranges hbefore
    (fun x (hx : x ∈ rest.take (least - run.length)) => hparts x (.inr (List.mem_of_mem_take hx)))
    (fun x hx => hparts x (.inl hx)) hof.ascending
  refine ⟨out, rest.drop (least - run.length), ?_, harranged.ascending, ?_, fun hsome => ?_⟩
  · unfold nextRun
    rw [hrun]
    show (List.foldlM (insert before) run (rest.take (least - run.length)) >>= _) = _
    rw [hout]
    rfl
  · have hties := harranged.ties.append (.refl key (rest.drop (least - run.length)))
    rw [List.append_assoc, List.take_append_drop] at hties
    exact hof.ties.trans hties
  · have hshorter := hof.shorter hsome
    rw [List.length_drop]
    omega

end ReadGate.Sorting
