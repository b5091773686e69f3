import ReadGate.Proofs.Backend.Closure

/-!
# Honest cancellations

A call that ends as cancelled was handed the token, and the token is cancelled.  Computations hand
this down, so a backend is honest if whatever it fails with on its own account does not claim to be
a cancellation.
-/

namespace ReadGate

open Run

variable {σ α β : Type} {guarded : Bool}

/-- The failure claims to be a cancellation only if the call was handed a cancelled token. -/
def Failure.IsHonest (guarded : Bool) (token : Token Nat) (f : Failure) : Prop :=
  f.kind = .cancelled → (guarded && token.cancelled) = true

/-- A computation claims to be cancelled only if it was handed a token that is cancelled. -/
structure Honest (guarded : Bool) (x : Run σ α) : Prop where
  honest : ∀ w f, (x w).1 = .error (.failure f) → f.IsHonest guarded (x w).2.token

namespace Honest

/-- Whatever does not fail with a cancellation does not claim to be one. -/
theorem of_kinds {x : Run σ α}
    (h : ∀ w f, (x w).1 = .error (.failure f) → f.kind ≠ .cancelled) : Honest guarded x :=
  ⟨fun w f hf hkind => absurd hkind (h w f hf)⟩

/-- A check fails with a cancellation, but only of a cancelled token. -/
theorem check (stage : String) : Honest guarded (Run.check guarded stage : Run σ Unit) := by
  refine ⟨fun w f hf _ => ?_⟩
  cases hc : guarded && w.token.cancelled with
  | true =>
    rw [check_stop hc]
    exact hc
  | false =>
    rw [check_pass hc] at hf
    cases hf

/-- Behind a check, a call that was handed the token finds it not cancelled. -/
theorem checked {stage : String} {x : Run σ α}
    (h : ∀ w f, (guarded && w.token.cancelled) = false → (x w).1 = .error (.failure f) →
      f.IsHonest guarded (x w).2.token) : Honest guarded (do Run.check guarded stage; x) := by
  refine ⟨fun w f hf => ?_⟩
  rw [bind_apply] at hf ⊢
  cases hc : guarded && w.token.cancelled with
  | true =>
    rw [check_stop hc]
    exact fun _ => hc
  | false =>
    rw [check_pass hc] at hf ⊢
    exact h w f hc hf

theorem bind {x : Run σ α} {f : α → Run σ β} (hx : Honest guarded x)
    (hf : ∀ a, Honest guarded (f a)) : Honest guarded (x >>= f) := by
  refine ⟨fun w failure hfailure => ?_⟩
  have hfirst := hx.honest w
  rw [bind_apply] at hfailure ⊢
  rcases hw : x w with ⟨t | a, w₁⟩ <;> rw [hw] at hfirst hfailure
  · cases hfailure
    exact hfirst failure rfl
  · exact (hf a).honest w₁ failure hfailure

theorem closed : Closed guarded fun α (x : Run σ α) => Honest guarded x where
  pure _ := of_kinds fun _ _ h => by cases h
  mishap _ := of_kinds fun _ _ h => by cases h
  failure _ hkind := of_kinds fun _ _ h => by cases h; exact hkind
  report _ _ _ := of_kinds fun _ _ h => by cases h
  check := check
  bind := bind

end Honest

end ReadGate
