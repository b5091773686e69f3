import ReadGate.Proofs.Backend.Failures
import ReadGate.Proofs.Number.Numeral
import ReadGate.Proofs.Value.Rows
import ReadGate.Proofs.Value.Tally

/-!
# What computations yield

Beside the failures of a confined computation, something may be known of its results.  It is handed
on from one computation to the next, so that something is known of the rows of an answer if it is
known of what the backend fetched for it.

* `Yields` — a confined computation with good results only.
* `mem_tally` — a group is named by one of the values that were grouped.
* `executeStructured_yields` — the cells of an answer are those of the backend, or short numbers.
-/

namespace ReadGate

open Run

variable {σ α β : Type} {kept : σ → Prop} {allowed : Failure → Prop} {guarded : Bool}

/-- Wherever `kept` holds of the remote side, the computation is confined, and its results are
good. -/
structure Yields (kept : σ → Prop) (good : α → Prop) (allowed : Failure → Prop) (x : Run σ α) : Prop
    extends Confined kept allowed x where
  result : ∀ w a, kept w.remote → (x w).1 = .ok a → good a

namespace Yields

variable {good : α → Prop} {better : β → Prop} {x : Run σ α}

theorem of_confined (h : Confined kept allowed x) : Yields kept (fun _ => True) allowed x :=
  ⟨h, fun _ _ _ _ => trivial⟩

theorem pure {a : α} (h : good a) : Yields kept good allowed (Pure.pure a) := by
  refine ⟨.of_still fun _ => ⟨rfl, nofun⟩, ?_⟩
  rintro w _ - ⟨⟩
  exact h

theorem mishap (m : Mishap) : Yields kept good allowed (throw (.mishap m)) :=
  ⟨.of_still fun _ => ⟨rfl, nofun⟩, nofun⟩

theorem bind {f : α → Run σ β} (hx : Yields kept good allowed x)
    (hf : ∀ a, good a → Yields kept better allowed (f a)) : Yields kept better allowed (x >>= f) := by
  refine ⟨hx.bind_of fun w a hkept ha => (hf a (hx.result w a hkept ha)).toConfined, ?_⟩
  intro w b hkept hb
  have hfirst := (hx.confined w hkept).1
  have hgood := fun a => hx.result w a hkept
  rw [bind_apply] at hb
  rcases hw : x w with ⟨t | a, w₁⟩ <;> rw [hw] at hb hfirst hgood
  · cases hb
  · exact (hf a (hgood a rfl)).result w₁ b hfirst hb

end Yields

/-! ## Groups -/

namespace Grouping

variable {groups : List (Value × Nat)} {group : Value × Nat} {v : Value}

theorem mem_add (h : group ∈ add groups v) : group.1 = v ∨ ∃ g ∈ groups, g.1 = group.1 := by
  induction groups with
  | nil =>
    rw [List.mem_singleton.1 h]
    exact .inl rfl
  | cons head rest ih =>
    obtain ⟨u, n⟩ := head
    unfold add at h
    split at h
    · rcases List.mem_cons.1 h with rfl | hrest
      · exact .inr ⟨_, List.mem_cons_self, rfl⟩
      · exact .inr ⟨group, List.mem_cons_of_mem _ hrest, rfl⟩
    · rcases List.mem_cons.1 h with rfl | hrest
      · exact .inr ⟨_, List.mem_cons_self, rfl⟩
      · refine (ih hrest).imp_right ?_
        rintro ⟨g, hg, hname⟩
        exact ⟨g, List.mem_cons_of_mem _ hg, hname⟩

theorem mem_foldl_add {values : List Value} (h : group ∈ values.foldl add groups) :
    group.1 ∈ values ∨ ∃ g ∈ groups, g.1 = group.1 := by
  induction values generalizing groups with
  | nil => exact .inr ⟨group, h, rfl⟩
  | cons v rest ih =>
    rcases ih h with hrest | ⟨g, hg, hname⟩
    · exact .inl (List.mem_cons_of_mem _ hrest)
    · rw [← hname]
      rcases mem_add hg with hv | hold
      · exact .inl (List.mem_cons.2 (.inl hv))
      · exact .inr hold

/-- A group is named by one of the values. -/
theorem mem_tally {values : List Value} (h : group ∈ tally values) : group.1 ∈ values := by
  refine (mem_foldl_add h).resolve_right ?_
  rintro ⟨g, hg, -⟩
  cases hg

/-- No group is larger than all that was grouped. -/
theorem le_of_mem_tally {values : List Value} (h : group ∈ tally values) :
    group.2 ≤ values.length := by
  rw [← total_tally, total_eq_sum]
  exact List.single_le_sum (fun _ _ => Nat.zero_le _) _ (List.mem_map_of_mem h)

end Grouping

/-! ## Answers -/

namespace Engine

/-- All cells of all rows are good. -/
def AllCells (good : Value → Prop) (rows : List Row) : Prop :=
  ∀ row ∈ rows, ∀ p ∈ row, good p.2

variable {good : Value → Prop} {backend : Adapter σ} {q : StructuredQuery}

/-- Values that are good, and so few that their number can be written. -/
def FewGood (good : Value → Prop) (values : List Value) : Prop :=
  (∀ v ∈ values, good v) ∧ Numeral.IsShort values.length

/-- Groups of good values, with sizes that can be written. -/
def GoodGroups (good : Value → Prop) (groups : List (Value × Nat)) : Prop :=
  ∀ group ∈ groups, good group.1 ∧ Numeral.IsShort group.2

theorem groupsOf_yields {values : List Value} (h : FewGood good values) :
    Yields kept (GoodGroups good) allowed (groupsOf q values : Run σ (List (Value × Nat))) := by
  unfold groupsOf
  cases Grouping.obstacle? values with
  | some why => exact .mishap (.unhashable why)
  | none =>
    refine (Yields.of_confined (.of_still fun _ => ⟨rfl, nofun⟩)).bind fun _ _ => .pure ?_
    intro group hgroup
    exact ⟨h.1 _ (Grouping.mem_tally hgroup), h.2.mono (Grouping.le_of_mem_tally hgroup)⟩

theorem countGroups_yields (hstopped : ∀ stage, allowed (.cancelledBefore stage))
    (hvalues : Yields kept (FewGood good) allowed
      (backend.columnValues guarded q.table q.groupBy)) :
    Yields kept (GoodGroups good) allowed (countGroups backend guarded q) :=
  hvalues.bind fun _ hgood =>
    (Yields.of_confined (.check hstopped _)).bind fun _ _ => groupsOf_yields hgood

/-- The cells of an answer are good if those are that the backend fetches, and if short numbers are,
as long as the backend has no more rows than it can write the number of. -/
theorem executeStructured_yields (hstopped : ∀ stage, allowed (.cancelledBefore stage))
    (hnumber : ∀ n : Int, Numeral.IsShort n.natAbs → good (.int n))
    (hselect : Yields kept (AllCells good) allowed (backend.structuredQuery guarded q.selection))
    (hcount : Yields kept (fun n => Numeral.IsShort n.natAbs) allowed
      (backend.count guarded q.table))
    (hvalues : Yields kept (FewGood good) allowed
      (backend.columnValues guarded q.table q.groupBy)) :
    Yields kept (AllCells good) allowed (executeStructured backend guarded q) := by
  unfold executeStructured
  cases q.aggregate with
  | rows => exact hselect
  | count =>
    refine hcount.bind fun total hshort => .pure ?_
    intro row hrow p hp
    cases List.mem_singleton.1 hrow
    cases List.mem_singleton.1 hp
    exact hnumber total hshort
  | groupCount =>
    refine (countGroups_yields hstopped hvalues).bind fun groups hgroups => .pure ?_
    intro row hrow p hp
    obtain ⟨group, hgroup, rfl⟩ := List.mem_map.1 hrow
    obtain ⟨hname, hsize⟩ := hgroups group hgroup
    have hcell := Row.mem_ofPairs hp
    simp only [List.mem_cons, List.not_mem_nil, or_false] at hcell
    rcases hcell with rfl | rfl
    · exact hname
    · exact hnumber group.2 hsize

end Engine

end ReadGate
