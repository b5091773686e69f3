import ReadGate.Proofs.Sorting.Arrangement
import ReadGate.Proofs.Sorting.Search

/-!
# Merging two runs, arranged

While two piles are merged, what is merged stands before all that is left of either pile, and the
last held item comes after the whole other pile.  Held items go before others that they tie with,
so every step keeps the ties of the held items followed by the others.

* `Piles.Merging` — the invariant of a merge.
* `turn_advances`, `gallopRound_advances` — what one round keeps, and that it takes an item.
* `mergePiles_over` — what a whole merge keeps, by induction on its fuel.
* `mergePair_arranges` — two ascending runs become one.
-/

namespace ReadGate.Sorting

variable {α ε κ : Type} [LinearOrder κ] {key : α → κ} {kind : α → Prop}
  {wins : α → α → Except ε Bool} {p q : Piles α} {n : Nat}

/-! ## The invariant -/

namespace Piles

/-- All items, the held ones before the others. -/
def contents (p : Piles α) : List α :=
  p.merged.reverse ++ p.held ++ p.other

/-- How many items are left. -/
def remaining (p : Piles α) : Nat :=
  p.held.length + p.other.length

/-- The piles are being merged: each of them goes on from what is merged, and the last held item
comes after all others. -/
structure Merging (key : α → κ) (kind : α → Prop) (p : Piles α) : Prop where
  held : Ascending key (p.merged.reverse ++ p.held)
  other : Ascending key (p.merged.reverse ++ p.other)
  last : ∃ body last, p.held = body ++ [last] ∧ ∀ y ∈ p.other, key y < key last
  kind : ∀ x ∈ p.contents, kind x

/-- A part of a merge leads from one state of the piles to another. -/
structure Advances (key : α → κ) (kind : α → Prop) (p q : Piles α) : Prop where
  merging : q.Merging key kind
  ties : KeepsTies key p.contents q.contents
  remaining : q.remaining ≤ p.remaining

namespace Merging

variable {x y : α}

theorem refl (h : p.Merging key kind) : p.Advances key kind p :=
  ⟨h, .refl key _, Nat.le_refl _⟩

theorem held_ascending (h : p.Merging key kind) : Ascending key p.held :=
  (ascending_append.1 h.held).2.1

theorem other_ascending (h : p.Merging key kind) : Ascending key p.other :=
  (ascending_append.1 h.other).2.1

theorem held_kind (h : p.Merging key kind) (hx : x ∈ p.held) : kind x :=
  h.kind x (by simp [contents, hx])

theorem other_kind (h : p.Merging key kind) (hy : y ∈ p.other) : kind y :=
  h.kind y (by simp [contents, hy])

/-- Held items are taken that come before all others or tie with them. -/
theorem moveHeld (h : p.Merging key kind) (hn : n < p.held.length)
    (hfirst : ∀ x ∈ p.held.take n, ∀ y ∈ p.other, key x ≤ key y) :
    p.Advances key kind (p.moveHeld n) := by
  obtain ⟨body, last, hlast, hbehind⟩ := h.last
  have hcontents : (p.moveHeld n).contents = p.contents := by
    simp [Piles.moveHeld, contents]
  refine ⟨⟨?_, ?_, ⟨body.drop n, last, ?_, hbehind⟩, ?_⟩, ?_, ?_⟩
  · have hsame : (p.moveHeld n).merged.reverse ++ (p.moveHeld n).held =
        p.merged.reverse ++ p.held := by simp [Piles.moveHeld]
    rw [hsame]
    exact h.held
  · obtain ⟨hmerged, hother, hacross⟩ := ascending_append.1 h.other
    have hfront : Ascending key (p.merged.reverse ++ p.held.take n ++ p.held.drop n) := by
      rw [List.append_assoc, List.take_append_drop]
      exact h.held
    have hmoved : (p.moveHeld n).merged.reverse = p.merged.reverse ++ p.held.take n := by
      simp [Piles.moveHeld]
    rw [hmoved]
    refine ascending_append.2 ⟨(ascending_append.1 hfront).1, hother, ?_⟩
    intro a ha b hb
    rcases List.mem_append.1 ha with ha | ha
    · exact hacross a ha b hb
    · exact hfirst a ha b hb
  · have hle : n ≤ body.length := by
      rw [hlast, List.length_append, List.length_singleton] at hn
      omega
    show p.held.drop n = _
    rw [hlast, List.drop_append_of_le_length hle]
  · rw [hcontents]
    exact h.kind
  · rw [hcontents]
    exact .refl key _
  · simp only [Piles.moveHeld, Piles.remaining, List.length_drop]
    omega

/-- Others are taken that come before all held items. -/
theorem moveOther (h : p.Merging key kind)
    (hfirst : ∀ y ∈ p.other.take n, ∀ x ∈ p.held, key y < key x) :
    p.Advances key kind (p.moveOther n) := by
  obtain ⟨body, last, hlast, hbehind⟩ := h.last
  have hties : KeepsTies key p.contents (p.moveOther n).contents := by
    have hapart : ∀ x ∈ p.held, ∀ y ∈ p.other.take n, key x ≠ key y :=
      fun x hx y hy => (hfirst y hy x hx).ne'
    have hswap := ((KeepsTies.refl key p.merged.reverse).append (KeepsTies.swap hapart)).append
      (.refl key (p.other.drop n))
    simpa [Piles.moveOther, contents] using hswap
  refine ⟨⟨?_, ?_, ⟨body, last, hlast, fun y hy => hbehind y (List.mem_of_mem_drop hy)⟩, ?_⟩,
    hties, ?_⟩
  · obtain ⟨hmerged, hheld, hacross⟩ := ascending_append.1 h.held
    have hfront : Ascending key (p.merged.reverse ++ p.other.take n ++ p.other.drop n) := by
      rw [List.append_assoc, List.take_append_drop]
      exact h.other
    have hmoved : (p.moveOther n).merged.reverse = p.merged.reverse ++ p.other.take n := by
      simp [Piles.moveOther]
    rw [hmoved]
    refine ascending_append.2 ⟨(ascending_append.1 hfront).1, hheld, ?_⟩
    intro a ha b hb
    rcases List.mem_append.1 ha with ha | ha
    · exact hacross a ha b hb
    · exact (hfirst a ha b hb).le
  · have hsame : (p.moveOther n).merged.reverse ++ (p.moveOther n).other =
        p.merged.reverse ++ p.other := by simp [Piles.moveOther]
    rw [hsame]
    exact h.other
  · intro x hx
    exact h.kind x (hties.mem_iff.1 hx)
  · simp only [Piles.moveOther, Piles.remaining, List.length_drop]
    omega

/-- The first held item is taken if no other item comes before it. -/
theorem moveHeld_head {held : List α} (h : p.Merging key kind) (hx : p.held = x :: held)
    (hmore : 1 < p.held.length) (hfirst : ∀ y ∈ p.other, key x ≤ key y) :
    p.Advances key kind (p.moveHeld 1) := by
  refine h.moveHeld hmore fun a ha y hy => ?_
  rw [hx, List.take_succ_cons, List.take_zero, List.mem_singleton] at ha
  rw [ha]
  exact hfirst y hy

/-- The first of the others is taken if it comes before all held items. -/
theorem moveOther_head {other : List α} (h : p.Merging key kind) (hy : p.other = y :: other)
    (hfirst : ∀ x ∈ p.held, key y < key x) : p.Advances key kind (p.moveOther 1) := by
  refine h.moveOther fun b hb x hx => ?_
  rw [hy, List.take_succ_cons, List.take_zero, List.mem_singleton] at hb
  rw [hb]
  exact hfirst x hx

/-- **A merge that is over arranged its items.** -/
theorem arranges (h : p.Merging key kind) (hover : p.isOver = true) :
    Arranges key p.contents p.items := by
  obtain ⟨body, last, hlast, hbehind⟩ := h.last
  rw [isOver, Bool.or_eq_true, List.isEmpty_iff, decide_eq_true_eq] at hover
  rcases hover with hnone | hone
  · have hitems : p.items = p.merged.reverse ++ p.held := by simp [items, hnone]
    have hcontents : p.contents = p.items := by simp [items, contents, hnone]
    rw [hcontents]
    exact ⟨hitems ▸ h.held, .refl key _⟩
  · have hbody : body = [] := by
      rw [hlast, List.length_append, List.length_singleton] at hone
      exact List.length_eq_zero_iff.1 (by omega)
    rw [hbody, List.nil_append] at hlast
    obtain ⟨-, -, hmerged⟩ := ascending_append.1 h.held
    constructor
    · refine ascending_append.2 ⟨h.other, by simp [hlast, Ascending], ?_⟩
      intro a ha b hb
      rcases List.mem_append.1 ha with ha | ha
      · exact hmerged a ha b hb
      · rw [hlast, List.mem_singleton] at hb
        rw [hb]
        exact (hbehind a ha).le
    · have hapart : ∀ x ∈ p.held, ∀ y ∈ p.other, key x ≠ key y := by
        intro x hx y hy
        rw [hlast, List.mem_singleton] at hx
        rw [hx]
        exact (hbehind y hy).ne'
      have hswap := (KeepsTies.refl key p.merged.reverse).append (KeepsTies.swap hapart)
      simpa [items, contents] using hswap

end Merging

namespace Advances

variable {o : Piles α}

theorem trans (h : o.Advances key kind p) (h' : p.Advances key kind q) :
    o.Advances key kind q :=
  ⟨h'.merging, h.ties.trans h'.ties, Nat.le_trans h'.remaining h.remaining⟩

/-- The patience of a merge plays no part in what it merges. -/
theorem patient (h : p.Advances key kind q) (patience : Nat) :
    p.Advances key kind { q with patience } :=
  ⟨⟨h.merging.held, h.merging.other, h.merging.last, h.merging.kind⟩, h.ties, h.remaining⟩

end Advances

theorem not_isOver (h : p.isOver = false) : p.other ≠ [] ∧ 1 < p.held.length := by
  rw [isOver, Bool.or_eq_false_iff, decide_eq_false_iff_not] at h
  exact ⟨by simpa using h.1, by omega⟩

end Piles

open Piles

/-! ## Rounds -/

/-- **A turn takes one item.** -/
theorem turn_advances (hwins : Decided wins key kind) (h : p.Merging key kind)
    (hgoes : p.isOver = false) (heldWins otherWins : Nat) :
    ∃ q pace, turn wins heldWins otherWins p = .ok (q, pace) ∧ p.Advances key kind q ∧
      q.remaining < p.remaining := by
  obtain ⟨hother, hheld⟩ := not_isOver hgoes
  obtain ⟨x, held, hx⟩ := List.exists_cons_of_length_pos (Nat.lt_of_succ_lt hheld)
  obtain ⟨y, other, hy⟩ := List.exists_cons_of_ne_nil hother
  have hheldAsc := h.held_ascending
  have hotherAsc := h.other_ascending
  rw [hx] at hheldAsc
  rw [hy] at hotherAsc
  have hxk : kind x := h.held_kind (by simp [hx])
  have hyk : kind y := h.other_kind (by simp [hy])
  unfold turn
  rw [hx, hy]
  simp only [hwins y x hyk hxk]
  by_cases hlt : key y < key x
  · simp only [decide_eq_true hlt]
    refine ⟨_, _, rfl, h.moveOther_head hy ?_, ?_⟩
    · intro a ha
      rw [hx] at ha
      exact lt_of_lt_of_le hlt (hheldAsc.head_le a ha)
    · simp only [Piles.moveOther, Piles.remaining, hy, List.length_drop, List.length_cons]
      omega
  · simp only [decide_eq_false hlt]
    refine ⟨_, _, rfl, h.moveHeld_head hx hheld ?_, ?_⟩
    · intro b hb
      rw [hy] at hb
      exact le_trans (not_lt.1 hlt) (hotherAsc.head_le b hb)
    · simp only [Piles.moveHeld, Piles.remaining, hx, List.length_drop, List.length_cons]
      omega

/-- Galloping through the held items takes an item, unless the merge is over. -/
theorem gallopHeld_advances (fromEnd : Bool) (hwins : Decided wins key kind)
    (h : p.Merging key kind) :
    ∃ q count, gallopHeld fromEnd wins p = .ok (q, count) ∧ p.Advances key kind q ∧
      (p.isOver = false → q.remaining < p.remaining) := by
  unfold gallopHeld
  cases hgoes : p.isOver with
  | true => exact ⟨p, 0, rfl, h.refl, nofun⟩
  | false =>
    obtain ⟨hother, hheld⟩ := not_isOver hgoes
    obtain ⟨y, other, hy⟩ := List.exists_cons_of_ne_nil hother
    have hyk : kind y := h.other_kind (by simp [hy])
    have hotherAsc := h.other_ascending
    rw [hy] at hotherAsc
    -- those that go before the head of the other pile are its ties and what comes before them
    have hfall : Falling (fun x => key x ≤ key y) p.held :=
      h.held_ascending.imp fun hab hb => le_trans hab hb
    obtain ⟨count, hcount, hfront, hback⟩ := leading_splits fromEnd
      (fun x hx => hwins.negated hyk (h.held_kind hx)) hfall
    obtain ⟨body, last, hlast, hbehind⟩ := h.last
    have hless : count < p.held.length := by
      by_contra hall
      have hmem : last ∈ p.held.take count := by
        rw [List.take_of_length_le (by omega), hlast]
        simp
      exact absurd (hfront last hmem) (not_le.2 (hbehind y (by simp [hy])))
    have hmoved := h.moveHeld hless fun x hx z hz => by
      rw [hy] at hz
      exact le_trans (hfront x hx) (hotherAsc.head_le z hz)
    have hhead := hmoved.merging.moveOther_head hy fun x hx => not_le.1 (hback x hx)
    rw [hy]
    simp only [hcount]
    refine ⟨_, count, rfl, ?_, fun _ => ?_⟩
    · split
      · exact hmoved
      · exact hmoved.trans hhead
    · -- where no held item was taken, the head of the other pile is
      cases hover : (p.moveHeld count).isOver with
      | true =>
        have hsome : count ≠ 0 := by
          rintro rfl
          have hsame : p.moveHeld 0 = p := by simp [Piles.moveHeld]
          rw [hsame, hgoes] at hover
          cases hover
        simp only [if_true, Piles.moveHeld, Piles.remaining, List.length_drop]
        omega
      | false =>
        simp only [Bool.false_eq_true, if_false, Piles.moveHeld, Piles.moveOther, Piles.remaining,
          hy, List.length_drop, List.length_cons]
        omega

/-- Galloping through the other pile takes an item, unless the merge is over. -/
theorem gallopOther_advances (fromEnd : Bool) (hwins : Decided wins key kind)
    (h : p.Merging key kind) :
    ∃ q count, gallopOther fromEnd wins p = .ok (q, count) ∧ p.Advances key kind q ∧
      (p.isOver = false → q.remaining < p.remaining) := by
  unfold gallopOther
  cases hgoes : p.isOver with
  | true => exact ⟨p, 0, rfl, h.refl, nofun⟩
  | false =>
    obtain ⟨hother, hheld⟩ := not_isOver hgoes
    obtain ⟨x, held, hx⟩ := List.exists_cons_of_length_pos (Nat.lt_of_succ_lt hheld)
    have hxk : kind x := h.held_kind (by simp [hx])
    have hheldAsc := h.held_ascending
    rw [hx] at hheldAsc
    have hfall : Falling (fun y => key y < key x) p.other :=
      h.other_ascending.imp fun hab hb => lt_of_le_of_lt hab hb
    obtain ⟨count, hcount, hfront, hback⟩ := leading_splits fromEnd
      (fun y hy => hwins y x (h.other_kind hy) hxk) hfall
    have hmoved := h.moveOther (n := count) fun y hy z hz => by
      rw [hx] at hz
      exact lt_of_lt_of_le (hfront y hy) (hheldAsc.head_le z hz)
    have hhead := hmoved.merging.moveHeld_head hx hheld fun y hy => not_lt.1 (hback y hy)
    rw [hx]
    simp only [hcount]
    refine ⟨_, count, rfl, ?_, fun _ => ?_⟩
    · split
      · exact hmoved
      · exact hmoved.trans hhead
    · cases hover : (p.moveOther count).isOver with
      | true =>
        have hlength : 0 < p.other.length := List.length_pos_iff.2 hother
        have hsome : count ≠ 0 := by
          rintro rfl
          have hsame : p.moveOther 0 = p := by simp [Piles.moveOther]
          rw [hsame, hgoes] at hover
          cases hover
        simp only [if_true, Piles.moveOther, Piles.remaining, List.length_drop]
        omega
      | false =>
        simp only [Bool.false_eq_true, if_false, Piles.moveHeld, Piles.moveOther, Piles.remaining,
          hx, List.length_drop, List.length_cons]
        omega

theorem settled_advances (h : p.Advances key kind q) (first second : Nat) :
    p.Advances key kind (settled q first second).1 ∧
      (settled q first second).1.remaining = q.remaining := by
  unfold settled
  split
  · exact ⟨h, rfl⟩
  · split
    · exact ⟨h.patient _, rfl⟩
    · exact ⟨h.patient _, rfl⟩

/-- **A round of galloping takes an item.** -/
theorem gallopRound_advances (fromEnd : Bool) (hwins : Decided wins key kind)
    (h : p.Merging key kind) (hgoes : p.isOver = false) :
    ∃ q pace, gallopRound fromEnd wins p = .ok (q, pace) ∧ p.Advances key kind q ∧
      q.remaining < p.remaining := by
  unfold gallopRound
  cases fromEnd with
  | true =>
    obtain ⟨q, first, hfirst, hq, hless⟩ := gallopOther_advances true hwins h
    obtain ⟨r, second, hsecond, hr, -⟩ := gallopHeld_advances true hwins hq.merging
    obtain ⟨hsettled, hsame⟩ := settled_advances (hq.trans hr) first second
    refine ⟨_, (settled r first second).2, ?_, hsettled, ?_⟩
    · simp only [if_true, hfirst, hsecond, bind, Except.bind, pure, Except.pure]
    · rw [hsame]
      exact Nat.lt_of_le_of_lt hr.remaining (hless hgoes)
  | false =>
    obtain ⟨q, first, hfirst, hq, hless⟩ := gallopHeld_advances false hwins h
    obtain ⟨r, second, hsecond, hr, -⟩ := gallopOther_advances false hwins hq.merging
    obtain ⟨hsettled, hsame⟩ := settled_advances (hq.trans hr) first second
    refine ⟨_, (settled r first second).2, ?_, hsettled, ?_⟩
    · simp only [Bool.false_eq_true, if_false, hfirst, hsecond, bind, Except.bind, pure,
        Except.pure]
    · rw [hsame]
      exact Nat.lt_of_le_of_lt hr.remaining (hless hgoes)

/-! ## Whole merges -/

/-- One round of a merge at its pace. -/
def round (fromEnd : Bool) (wins : α → α → Except ε Bool) (p : Piles α) :
    Pace → Except ε (Piles α × Pace)
  | .turns heldWins otherWins => turn wins heldWins otherWins p
  | .gallop => gallopRound fromEnd wins p

theorem mergePiles_succ (fromEnd : Bool) (fuel : Nat) (pace : Pace) (hgoes : p.isOver = false) :
    mergePiles fromEnd wins (fuel + 1) pace p =
      round fromEnd wins p pace >>= fun next => mergePiles fromEnd wins fuel next.2 next.1 := by
  have hopen : ¬ p.isOver = true := by simp [hgoes]
  cases pace with
  | turns heldWins otherWins =>
    rw [mergePiles, if_neg hopen]
    rfl
  | gallop =>
    rw [mergePiles, if_neg hopen]
    rfl

theorem round_advances (fromEnd : Bool) (hwins : Decided wins key kind) (pace : Pace)
    (h : p.Merging key kind) (hgoes : p.isOver = false) :
    ∃ q next, round fromEnd wins p pace = .ok (q, next) ∧ p.Advances key kind q ∧
      q.remaining < p.remaining := by
  cases pace with
  | turns heldWins otherWins => exact turn_advances hwins h hgoes heldWins otherWins
  | gallop => exact gallopRound_advances fromEnd hwins h hgoes

/-- **A merge with fuel for all items ends**, and keeps the invariant on its way. -/
theorem mergePiles_over (fromEnd : Bool) (hwins : Decided wins key kind) (fuel : Nat) (pace : Pace)
    (h : p.Merging key kind) (hfuel : p.remaining ≤ fuel) :
    ∃ q, mergePiles fromEnd wins fuel pace p = .ok q ∧ p.Advances key kind q ∧
      q.isOver = true := by
  induction fuel generalizing p pace with
  | zero =>
    have hnone : p.other = [] := by
      rw [Piles.remaining] at hfuel
      exact List.length_eq_zero_iff.1 (by omega)
    exact ⟨p, rfl, h.refl, by simp [isOver, hnone]⟩
  | succ fuel ih =>
    cases hgoes : p.isOver with
    | true =>
      unfold mergePiles
      exact ⟨p, by rw [hgoes]; rfl, h.refl, hgoes⟩
    | false =>
      obtain ⟨q, next, hq, hadvances, hless⟩ := round_advances fromEnd hwins pace h hgoes
      obtain ⟨r, hr, hrest, hover⟩ := ih next hadvances.merging (by omega)
      refine ⟨r, ?_, hadvances.trans hrest, hover⟩
      rw [mergePiles_succ fromEnd fuel pace hgoes, hq]
      exact hr

/-- Two ascending runs of which the second begins before the first and the first ends behind the
second. -/
structure Crossing (key : α → κ) (kind : α → Prop) (left right : List α) : Prop where
  first : Ascending key left
  second : Ascending key right
  ends : ∃ body last, left = body ++ [last] ∧ ∀ y ∈ right, key y < key last
  begins : ∃ head tail, right = head :: tail ∧ ∀ x ∈ left, key head < key x
  kind : ∀ x ∈ left ++ right, kind x

variable {held other left right : List α}

/-- Seen from their ends, the runs change places. -/
theorem Crossing.turned (h : Crossing key kind left right) :
    Crossing (OrderDual.toDual ∘ key) kind right.reverse left.reverse where
  first := ascending_reverse.2 h.second
  second := ascending_reverse.2 h.first
  ends := by
    obtain ⟨head, tail, hright, hbegins⟩ := h.begins
    refine ⟨tail.reverse, head, by rw [hright, List.reverse_cons], ?_⟩
    intro y hy
    exact hbegins y (List.mem_reverse.1 hy)
  begins := by
    obtain ⟨body, last, hleft, hends⟩ := h.ends
    refine ⟨last, body.reverse, by rw [hleft, List.reverse_append]; rfl, ?_⟩
    intro x hx
    exact hends x (List.mem_reverse.1 hx)
  kind := by
    intro x hx
    rw [← List.reverse_append, List.mem_reverse] at hx
    exact h.kind x hx

/-- The run that is held is merged with the other one. -/
theorem mergeHeld_arranges (fromEnd : Bool) (hwins : Decided wins key kind) (patience : Nat)
    (h : Crossing key kind held other) :
    ∃ out left, mergeHeld fromEnd wins patience held other = .ok (out, left) ∧
      Arranges key (held ++ other) out := by
  let start : Piles α := ⟨held, other, [], patience⟩
  have hstart : start.Merging key kind := ⟨h.first, h.second, h.ends, h.kind⟩
  obtain ⟨head, tail, hother, hbegins⟩ := h.begins
  have hfirst : start.Advances key kind (start.moveOther 1) := hstart.moveOther_head hother hbegins
  obtain ⟨q, hq, hadvances, hover⟩ := mergePiles_over fromEnd hwins (held.length + other.length)
    (.turns 0 0) hfirst.merging hfirst.remaining
  have harranged := hadvances.merging.arranges hover
  refine ⟨q.items, q.patience, ?_, harranged.ascending, ?_⟩
  · unfold mergeHeld
    rw [hq]
    rfl
  · exact (hfirst.trans hadvances).ties.trans harranged.ties

/-- Either run may be held. -/
theorem mergeBetween_arranges {before : α → α → Except ε Bool} (hbefore : Decided before key kind)
    (patience : Nat) (h : Crossing key kind left right) :
    ∃ out rest, mergeBetween before patience left right = .ok (out, rest) ∧
      Arranges key (left ++ right) out := by
  unfold mergeBetween
  split
  · exact mergeHeld_arranges false hbefore patience h
  · obtain ⟨out, rest, hout, hascending, hties⟩ :=
      mergeHeld_arranges true hbefore.flip patience h.turned
    refine ⟨out.reverse, rest, ?_, ?_, ?_⟩
    · rw [hout]
      rfl
    · rw [← ascending_reverse, List.reverse_reverse]
      exact hascending
    · have hback := hties.ofDual.reverse
      rwa [List.reverse_append, List.reverse_reverse, List.reverse_reverse] at hback

/-- The runs of a pair part into what stays and what crosses. -/
structure Parting (key : α → κ) (left right : List α) (first inner : Nat) : Prop where
  stays : ∀ x ∈ left.take first, ∀ y ∈ right, key x ≤ key y
  begins : ∃ head tail, right.take inner = head :: tail ∧ ∀ x ∈ left.drop first, key head < key x
  ends : ∃ body last, left.drop first = body ++ [last] ∧ ∀ y ∈ right.take inner, key y < key last
  follows : ∀ y ∈ right.drop inner, ∀ x ∈ left, key x ≤ key y

/-- **Only what crosses is merged.** -/
theorem Parting.arranges {first inner : Nat} {before : α → α → Except ε Bool}
    (h : Parting key left right first inner) (hbefore : Decided before key kind) (patience : Nat)
    (hleft : Ascending key left) (hright : Ascending key right)
    (hkind : ∀ x ∈ left ++ right, kind x) :
    ∃ out rest,
      mergeBetween before patience (left.drop first) (right.take inner) = .ok (out, rest) ∧
        Arranges key (left ++ right) (left.take first ++ out ++ right.drop inner) := by
  have hleftParts : Ascending key (left.take first ++ left.drop first) := by
    rwa [List.take_append_drop]
  have hrightParts : Ascending key (right.take inner ++ right.drop inner) := by
    rwa [List.take_append_drop]
  obtain ⟨htake, hdrop, hleftAcross⟩ := ascending_append.1 hleftParts
  obtain ⟨htaken, hdropped, hrightAcross⟩ := ascending_append.1 hrightParts
  have hcrossing : Crossing key kind (left.drop first) (right.take inner) := by
    refine ⟨hdrop, htaken, h.ends, h.begins, fun x hx => hkind x ?_⟩
    rcases List.mem_append.1 hx with hx | hx
    · exact List.mem_append_left _ (List.mem_of_mem_drop hx)
    · exact List.mem_append_right _ (List.mem_of_mem_take hx)
  obtain ⟨out, rest, hout, harranged⟩ := mergeBetween_arranges hbefore patience hcrossing
  refine ⟨out, rest, hout, ?_, ?_⟩
  · refine ascending_append.2
      ⟨ascending_append.2 ⟨htake, harranged.ascending, ?_⟩, hdropped, ?_⟩
    · intro a ha b hb
      rcases List.mem_append.1 (harranged.ties.mem_iff.1 hb) with hb | hb
      · exact hleftAcross a ha b hb
      · exact h.stays a ha b (List.mem_of_mem_take hb)
    · intro a ha b hb
      rcases List.mem_append.1 ha with ha | ha
      · exact h.follows b hb a (List.mem_of_mem_take ha)
      rcases List.mem_append.1 (harranged.ties.mem_iff.1 ha) with ha | ha
      · exact h.follows b hb a (List.mem_of_mem_drop ha)
      · exact hrightAcross a ha b hb
  · have hties := ((KeepsTies.refl key (left.take first)).append harranged.ties).append
      (.refl key (right.drop inner))
    rwa [← List.append_assoc, List.take_append_drop, List.append_assoc,
      List.take_append_drop] at hties

/-- Where some of the first run crosses, so does the head of the second: what stays of the second
run is all that is not less than the last item of the first. -/
theorem exists_parting {before : α → α → Except ε Bool} (hbefore : Decided before key kind)
    {body : List α} {head last : α} {tail : List α} {first : Nat} (hleft : Ascending key left)
    (hright : Ascending key (head :: tail)) (hkind : ∀ x ∈ left ++ head :: tail, kind x)
    (hstay : ∀ x ∈ left.take first, key x ≤ key head)
    (hafter : ∀ x ∈ left.drop first, key head < key x) (hbody : left.drop first = body ++ [last]) :
    ∃ final inner,
      leading true (fun y => negated before y last) (head :: tail).reverse = .ok final ∧
        (head :: tail).length - final = inner + 1 ∧
        Parting key left (head :: tail) first (inner + 1) := by
  have hlast : last ∈ left.drop first := by simp [hbody]
  have hlastKind : kind last := hkind last (List.mem_append_left _ (List.mem_of_mem_drop hlast))
  have hrightKind : ∀ y ∈ (head :: tail).reverse, kind y :=
    fun y hy => hkind y (List.mem_append_right _ (List.mem_reverse.1 hy))
  have hgreatest : ∀ x ∈ left, key x ≤ key last := by
    rw [← List.take_append_drop first left, hbody, ← List.append_assoc] at hleft ⊢
    exact hleft.le_last
  obtain ⟨final, hfinal, hbehind, hinside⟩ := leading_splits true
    (fun y hy => hbefore.negated (hrightKind y hy) hlastKind)
    (List.pairwise_reverse.2 (hright.imp fun hab ha => le_trans ha hab))
  rw [List.take_reverse] at hbehind
  rw [List.drop_reverse] at hinside
  simp only [List.mem_reverse] at hbehind hinside
  obtain ⟨inner, hinner⟩ : ∃ inner, (head :: tail).length - final = inner + 1 := by
    refine Nat.exists_eq_succ_of_ne_zero fun hnone => ?_
    rw [hnone, List.drop_zero] at hbehind
    exact not_le.2 (hafter last hlast) (hbehind head List.mem_cons_self)
  rw [hinner] at hbehind hinside
  refine ⟨final, inner, hfinal, hinner, ?_, ⟨head, tail.take inner, rfl, hafter⟩,
    ⟨body, last, hbody, fun y hy => not_le.1 (hinside y hy)⟩, ?_⟩
  · exact fun x hx y hy => le_trans (hstay x hx) (hright.head_le y hy)
  · exact fun y hy x hx => le_trans (hgreatest x hx) (hbehind y hy)

/-- **Two neighbouring runs become one**, and where keys are equal the items of the first run come
first. -/
theorem mergePair_arranges {before : α → α → Except ε Bool} (hbefore : Decided before key kind)
    (patience : Nat) (hleft : Ascending key left) (hright : Ascending key right)
    (hkind : ∀ x ∈ left ++ right, kind x) :
    ∃ out rest, mergePair before patience left right = .ok (out, rest) ∧
      Arranges key (left ++ right) out := by
  match right with
  | [] =>
    refine ⟨left, patience, rfl, hleft, ?_⟩
    rw [List.append_nil]
    exact .refl key left
  | head :: tail =>
    have hhead : kind head := hkind head (List.mem_append_right _ List.mem_cons_self)
    -- what stays of the first run: all that is not greater than the head of the second
    obtain ⟨first, hfirst, hstay, hafter⟩ := leading_splits false
      (fun x hx => hbefore.negated hhead (hkind x (List.mem_append_left _ hx)))
      (hleft.imp fun hab hb => le_trans hab hb)
    rw [mergePair]
    simp only [hfirst]
    cases hlast : (left.drop first).getLast? with
    | none =>
      have hall : left.take first = left := by
        rw [List.getLast?_eq_none_iff] at hlast
        have hwhole := List.take_append_drop first left
        rwa [hlast, List.append_nil] at hwhole
      rw [hall] at hstay
      refine ⟨left ++ head :: tail, patience, ?_, ?_, .refl key _⟩
      · simp only [bind, Except.bind, hlast]
        rfl
      · exact ascending_append.2 ⟨hleft, hright,
          fun x hx y hy => le_trans (hstay x hx) (hright.head_le y hy)⟩
    | some last =>
      obtain ⟨body, hbody⟩ := List.getLast?_eq_some_iff.1 hlast
      obtain ⟨final, inner, hfinal, hinner, hparting⟩ := exists_parting hbefore hleft hright hkind
        hstay (fun x hx => not_le.1 (hafter x hx)) hbody
      obtain ⟨out, rest, hout, harranged⟩ :=
        hparting.arranges hbefore patience hleft hright hkind
      refine ⟨_, rest, ?_, harranged⟩
      simp only [bind, Except.bind, hlast]
      show (leading true (fun y => negated before y last) (head :: tail).reverse >>= _) = _
      rw [hfinal]
      show (if (head :: tail).length - final = 0 then _ else _) = _
      rw [if_neg (by omega), hinner, hout]
      rfl

end ReadGate.Sorting
