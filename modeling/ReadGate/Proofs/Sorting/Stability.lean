import ReadGate.Proofs.Sorting.Merges
import ReadGate.Proofs.Sorting.Runs

/-!
# The sort is stable

The runs that wait are ascending, and in the order in which they stand in the list they hold its
items up to ties.  Every step of the sort keeps that: a run that is added, two neighbours that are
merged.

* `Settles` — what a part of the sort does to the runs that wait.
* `collapse_settles`, `push_settles` — the merges before a run is added, and the adding.
* `pushRuns_waiting`, `mergeAll_arranges` — the two loops of the sort, by induction.
* `sort_arranges`, `sortDescending_arranges` — the sort in both directions.
-/

namespace ReadGate.Sorting

variable {α ε κ : Type} [LinearOrder κ] {key : α → κ} {kind : α → Prop}
  {before : α → α → Except ε Bool} {second third top : Pending α}
  {rest runs runs' runs'' : List (Pending α)}

/-! ## Waiting runs -/

/-- The items of the runs, in the order of the list. -/
def contents (runs : List (Pending α)) : List α :=
  runs.reverse.flatMap (·.items)

theorem contents_cons : contents (top :: rest) = contents rest ++ top.items := by
  simp [contents]

/-- A part of the sort leads from some waiting runs to others. -/
structure Settles (key : α → κ) (runs runs' : List (Pending α)) : Prop where
  ascending : ∀ run ∈ runs', Ascending key run.items
  ties : KeepsTies key (contents runs) (contents runs')
  fewer : runs'.length ≤ runs.length

namespace Settles

theorem refl (h : ∀ run ∈ runs, Ascending key run.items) : Settles key runs runs :=
  ⟨h, .refl key _, Nat.le_refl _⟩

theorem trans (h : Settles key runs runs') (h' : Settles key runs' runs'') :
    Settles key runs runs'' :=
  ⟨h'.ascending, h.ties.trans h'.ties, Nat.le_trans h'.fewer h.fewer⟩

theorem keepsKind (h : Settles key runs runs') (hkind : ∀ x ∈ contents runs, kind x) :
    ∀ x ∈ contents runs', kind x :=
  fun x hx => hkind x (h.ties.mem_iff.1 hx)

/-- The last run stays as it is while those before it are settled. -/
theorem cons (h : Settles key runs runs') (htop : Ascending key top.items) :
    Settles key (top :: runs) (top :: runs') := by
  refine ⟨?_, ?_, Nat.succ_le_succ h.fewer⟩
  · intro run hrun
    rcases List.mem_cons.1 hrun with rfl | hrun
    · exact htop
    · exact h.ascending run hrun
  · rw [contents_cons, contents_cons]
    exact h.ties.append (.refl key top.items)

end Settles

/-- **Two neighbours become one run.** -/
theorem mergeTop_settles (hbefore : Decided before key kind) (patience : Nat)
    (h : ∀ run ∈ top :: second :: rest, Ascending key run.items)
    (hkind : ∀ x ∈ contents (top :: second :: rest), kind x) :
    ∃ merged left, mergeTop before patience second top = .ok (merged, left) ∧
      Settles key (top :: second :: rest) (merged :: rest) := by
  rw [contents_cons, contents_cons, List.append_assoc] at hkind
  obtain ⟨out, left, hout, harranged⟩ := mergePair_arranges hbefore patience
    (h second (by simp)) (h top (by simp)) fun x hx => hkind x (List.mem_append_right _ hx)
  refine ⟨⟨out, second.level⟩, left, ?_, ?_, ?_, by simp⟩
  · unfold mergeTop
    rw [hout]
    rfl
  · intro run hrun
    rcases List.mem_cons.1 hrun with rfl | hrun
    · exact harranged.ascending
    · exact h run (by simp [hrun])
  · rw [contents_cons, contents_cons, contents_cons, List.append_assoc]
    exact (KeepsTies.refl key (contents rest)).append harranged.ties

/-! ## Adding runs -/

/-- Merging at the end of the waiting runs settles them. -/
theorem collapse_settles (hbefore : Decided before key kind) (level patience : Nat)
    (h : ∀ run ∈ top :: rest, Ascending key run.items)
    (hkind : ∀ x ∈ contents (top :: rest), kind x) :
    ∃ s, collapse before level top rest patience = .ok s ∧ Settles key (top :: rest) s.runs := by
  induction rest generalizing top patience with
  | nil => exact ⟨_, rfl, .refl h⟩
  | cons second rest ih =>
    unfold collapse
    split
    · obtain ⟨merged, left, hmerged, hsettles⟩ := mergeTop_settles hbefore patience h hkind
      obtain ⟨s, hs, hcollapsed⟩ := ih left hsettles.ascending (hsettles.keepsKind hkind)
      refine ⟨s, ?_, hsettles.trans hcollapsed⟩
      rw [hmerged]
      exact hs
    · exact ⟨_, rfl, .refl h⟩

/-- A level changes no items. -/
theorem withLevel_settles (level : Nat) (h : ∀ run ∈ runs, Ascending key run.items) :
    Settles key runs (withLevel level runs) := by
  cases runs with
  | nil => exact .refl h
  | cons top rest =>
    refine ⟨?_, ?_, Nat.le_refl _⟩
    · intro run hrun
      rcases List.mem_cons.1 hrun with rfl | hrun
      · exact h top List.mem_cons_self
      · exact h run (List.mem_cons_of_mem top hrun)
    · rw [withLevel, contents_cons, contents_cons]
      exact .refl key _

/-- **A run is added behind the others**, some of which may be merged before. -/
theorem push_settles (hbefore : Decided before key kind) (n : Nat) {run : List α} {s : Stack α}
    (hrun : Ascending key run) (h : ∀ run ∈ s.runs, Ascending key run.items)
    (hkind : ∀ x ∈ contents s.runs, kind x) :
    ∃ s', push before n run s = .ok s' ∧ Settles key (⟨run, 0⟩ :: s.runs) s'.runs := by
  unfold push
  cases hruns : s.runs with
  | nil => exact ⟨{ s with runs := [⟨run, 0⟩] }, rfl, .refl (by simpa using hrun)⟩
  | cons top rest =>
    rw [hruns] at h hkind
    let level := borderLevel n (itemCount rest) top.items.length run.length
    obtain ⟨collapsed, hcollapsed, hsettles⟩ :=
      collapse_settles hbefore level s.patience h hkind
    have hlevelled := hsettles.trans (withLevel_settles level hsettles.ascending)
    refine ⟨{ collapsed with runs := ⟨run, 0⟩ :: withLevel level collapsed.runs }, ?_,
      hlevelled.cons hrun⟩
    show (collapse before level top rest s.patience >>= _) = _
    rw [hcollapsed]
    rfl

/-- The items of a list are waiting in runs, no more of them than there are items. -/
structure Waiting (key : α → κ) (items : List α) (runs : List (Pending α)) : Prop where
  ascending : ∀ run ∈ runs, Ascending key run.items
  ties : KeepsTies key items (contents runs)
  few : runs.length ≤ items.length

/-- **All runs of a list are added.**  Each takes an item at least, so the number of items is fuel
enough. -/
theorem pushRuns_waiting (hbefore : Decided before key kind) (n fuel : Nat) {done items : List α}
    {s : Stack α} (h : Waiting key done s.runs) (hkind : ∀ x ∈ done ++ items, kind x)
    (hfuel : items.length ≤ fuel) :
    ∃ s', pushRuns before n fuel items s = .ok s' ∧ Waiting key (done ++ items) s'.runs := by
  induction fuel generalizing done items s with
  | zero =>
    obtain rfl : items = [] := List.length_eq_zero_iff.1 (Nat.le_zero.1 hfuel)
    rw [List.append_nil]
    exact ⟨s, rfl, h⟩
  | succ fuel ih =>
    cases hitems : items with
    | nil =>
      rw [List.append_nil]
      exact ⟨s, rfl, h⟩
    | cons first others =>
      rw [← hitems]
      have hsome : items ≠ [] := by simp [hitems]
      obtain ⟨run, left, hrun, hof⟩ := nextRun_ascending hbefore (leastRun n)
        fun x hx => hkind x (List.mem_append_right done hx)
      obtain ⟨pushed, hpushed, hsettles⟩ := push_settles hbefore n hof.ascending h.ascending
        fun x hx => hkind x (List.mem_append_left items (h.ties.mem_iff.1 hx))
      have hties : KeepsTies key (done ++ items) (done ++ run ++ left) := by
        rw [List.append_assoc]
        exact (KeepsTies.refl key done).append hof.ties
      have hshorter := hof.shorter hsome
      have hlength := hof.ties.perm.length_eq
      have hwaiting : Waiting key (done ++ run) pushed.runs := by
        refine ⟨hsettles.ascending, ?_, ?_⟩
        · refine (h.ties.append (.refl key run)).trans ?_
          have hadded := hsettles.ties
          rwa [contents_cons] at hadded
        · have hfewer := hsettles.fewer
          have hfew := h.few
          simp only [List.length_cons, List.length_append] at hfewer hlength ⊢
          omega
      obtain ⟨s', hs', hall⟩ := ih hwaiting
        (fun x hx => hkind x (hties.mem_iff.1 hx)) (by omega)
      refine ⟨s', ?_, hall.ascending, hties.trans hall.ties, ?_⟩
      · rw [hitems] at hrun ⊢
        unfold pushRuns
        rw [hrun]
        show (push before n run s >>= _) = _
        rw [hpushed]
        exact hs'
      · exact hties.perm.length_eq ▸ hall.few

/-! ## Merging all runs -/

/-- Two runs at most are merged at once. -/
theorem mergeFew_arranges (hbefore : Decided before key kind) (fuel patience : Nat)
    (h : ∀ run ∈ runs, Ascending key run.items) (hkind : ∀ x ∈ contents runs, kind x)
    (hfew : runs.length ≤ 2) :
    ∃ out, mergeAll before fuel runs patience = .ok out ∧ Arranges key (contents runs) out := by
  match runs with
  | [] => exact ⟨[], by simp [mergeAll], .nil, .refl key _⟩
  | [run] =>
    refine ⟨run.items, by simp [mergeAll], h run List.mem_cons_self, ?_⟩
    rw [contents_cons]
    exact .refl key _
  | [top, second] =>
    obtain ⟨merged, left, hmerged, hsettles⟩ := mergeTop_settles hbefore patience h hkind
    refine ⟨merged.items, ?_, hsettles.ascending merged List.mem_cons_self, ?_⟩
    · simp [mergeAll, hmerged]
    · have hone : contents [merged] = merged.items := by simp [contents]
      rw [← hone]
      exact hsettles.ties
  | _ :: _ :: _ :: _ => simp at hfew

/-- **All runs become one.** -/
theorem mergeAll_arranges (hbefore : Decided before key kind) (fuel patience : Nat)
    (h : ∀ run ∈ runs, Ascending key run.items) (hkind : ∀ x ∈ contents runs, kind x)
    (hfuel : runs.length ≤ fuel + 2) :
    ∃ out, mergeAll before fuel runs patience = .ok out ∧ Arranges key (contents runs) out := by
  induction fuel generalizing runs patience with
  | zero => exact mergeFew_arranges hbefore 0 patience h hkind hfuel
  | succ fuel ih =>
    match runs with
    | [] | [_] | [_, _] => exact mergeFew_arranges hbefore (fuel + 1) patience h hkind (by simp)
    | top :: second :: third :: rest =>
      -- one merge of two neighbours, and all the others after it
      have hrest : ∀ runs' left, Settles key (top :: second :: third :: rest) runs' →
          runs'.length < (top :: second :: third :: rest).length →
          ∃ out, mergeAll before fuel runs' left = .ok out ∧
            Arranges key (contents (top :: second :: third :: rest)) out := by
        intro runs' left hsettles hless
        obtain ⟨out, hout, harranged⟩ :=
          ih left hsettles.ascending (hsettles.keepsKind hkind) (by omega)
        exact ⟨out, hout, harranged.ascending, hsettles.ties.trans harranged.ties⟩
      rw [mergeAll]
      split
      · have hbelow : ∀ run ∈ second :: third :: rest, Ascending key run.items :=
          fun run hrun => h run (List.mem_cons_of_mem top hrun)
        obtain ⟨merged, left, hmerged, hsettles⟩ := mergeTop_settles hbefore patience hbelow
          fun x hx => hkind x (by rw [contents_cons]; exact List.mem_append_left _ hx)
        obtain ⟨out, hout, harranged⟩ :=
          hrest _ left (hsettles.cons (h top List.mem_cons_self)) (by simp)
        refine ⟨out, ?_, harranged⟩
        rw [hmerged]
        exact hout
      · obtain ⟨merged, left, hmerged, hsettles⟩ := mergeTop_settles hbefore patience h hkind
        obtain ⟨out, hout, harranged⟩ := hrest _ left hsettles (by simp)
        refine ⟨out, ?_, harranged⟩
        rw [hmerged]
        exact hout

/-! ## Sorting -/

variable {items : List α}

/-- **Items that the comparison decides by their keys are sorted by them**, those of one key in
their old order. -/
theorem sort_arranges (hbefore : Decided before key kind) (hkind : ∀ x ∈ items, kind x) :
    ∃ out, sort before items = .ok out ∧ Arranges key items out := by
  have hnone : Waiting key [] ([] : List (Pending α)) := ⟨nofun, .refl key [], Nat.le_refl _⟩
  obtain ⟨s, hs, hwaiting⟩ := pushRuns_waiting hbefore items.length items.length
    (s := ⟨[], stretch⟩) hnone hkind (Nat.le_refl _)
  rw [List.nil_append] at hwaiting
  have hfew := hwaiting.few
  obtain ⟨out, hout, harranged⟩ := mergeAll_arranges hbefore items.length s.patience
    hwaiting.ascending (fun x hx => hkind x (hwaiting.ties.mem_iff.1 hx)) (by omega)
  refine ⟨out, ?_, harranged.ascending, hwaiting.ties.trans harranged.ties⟩
  show (pushRuns before items.length items.length items ⟨[], stretch⟩ >>= _) = _
  rw [hs]
  exact hout

/-- **In descending order too, those of one key keep their old order.** -/
theorem sortDescending_arranges (hbefore : Decided before key kind)
    (hkind : ∀ x ∈ items, kind x) :
    ∃ out, sortDescending before items = .ok out ∧
      Arranges (OrderDual.toDual ∘ key) items out := by
  obtain ⟨out, hout, hascending, hties⟩ := sort_arranges hbefore
    fun x (hx : x ∈ items.reverse) => hkind x (List.mem_reverse.1 hx)
  refine ⟨out.reverse, ?_, ascending_reverse.2 hascending, ?_⟩
  · unfold sortDescending
    rw [hout]
    rfl
  · have hback := hties.toDual.reverse
    rwa [List.reverse_reverse] at hback

end ReadGate.Sorting
