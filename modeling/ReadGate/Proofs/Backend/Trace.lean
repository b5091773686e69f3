import ReadGate.Proofs.Backend.Closure

/-!
# Traces of requests

What a call does to its world is a sequence of requests to the remote side, with nothing between
them but lines in the log.  What a request may find and what it changes is said by a relation
between the world before it and the world after it; a trace puts such steps together, so a property
of every step is a property of every request that a call makes.

* `Trace`, `Trace.trans` — sequences of requests, one after the other.
* `Ending` — requests behind which a call ends, and the trouble in which it ends there.
* `Traces` — whatever a computation does is a trace.  Computations hand this down
  (`Traces.closed`), and a check in front of a request tells what the request finds
  (`Traces.checked`).
-/

namespace ReadGate

variable {σ ι : Type} {step : World σ → ι → World σ → Prop}

/-- A call leads from one world to another by requests; between them only the log changes. -/
inductive Trace (step : World σ → ι → World σ → Prop) : World σ → List ι → World σ → Prop
  | done (w : World σ) (lines : List LogLine) : Trace step w [] (w.logged lines)
  | next {w w₁ w₂ : World σ} {i : ι} {requests : List ι} (lines : List LogLine)
    (first : step (w.logged lines) i w₁) (rest : Trace step w₁ requests w₂) :
    Trace step w (i :: requests) w₂

namespace Trace

variable {w w₁ w₂ : World σ} {i : ι} {requests more : List ι}

theorem refl (w : World σ) : Trace step w [] w := by
  have h : Trace step w [] (w.logged []) := done w []
  rwa [World.logged_nil] at h

theorem one (h : step w i w₁) : Trace step w [i] w₁ := by
  refine next [] ?_ (refl w₁)
  simpa using h

/-- Lines before the first request belong to the trace. -/
theorem of_logged (lines : List LogLine) (h : Trace step (w.logged lines) requests w₁) :
    Trace step w requests w₁ := by
  cases h with
  | done =>
    rw [World.logged_logged]
    exact done ..
  | next later first rest =>
    rw [World.logged_logged] at first
    exact next _ first rest

theorem logged (h : Trace step w requests w₁) (lines : List LogLine) :
    Trace step w requests (w₁.logged lines) := by
  induction h with
  | done =>
    rw [World.logged_logged]
    exact done ..
  | next before first _ ih => exact next before first ih

theorem trans (h : Trace step w requests w₁) (h' : Trace step w₁ more w₂) :
    Trace step w (requests ++ more) w₂ := by
  induction h with
  | done w lines => exact of_logged lines h'
  | next before first _ ih => exact next before first (ih h')

/-- What a request may find and change can be said less exactly. -/
theorem mono {step' : World σ → ι → World σ → Prop} (hstep : ∀ w i w', step w i w' → step' w i w')
    (h : Trace step w requests w₁) : Trace step' w requests w₁ := by
  induction h with
  | done w lines => exact done w lines
  | next lines first _ ih => exact next lines (hstep _ _ _ first) ih

end Trace

/-! ## Computations -/

variable {α β : Type}

/-- Some requests are fatal: a call that makes one ends in trouble that is blamed on it. -/
structure Ending (ι : Type) where
  fatal : ι → Prop
  blame : Trouble → Token Nat → Prop

namespace Ending

/-- No request is fatal. -/
def none : Ending ι := ⟨fun _ => False, fun _ _ => False⟩

/-- A computation that made the requests ended with the right result, if one of them is fatal. -/
def Explains (ending : Ending ι) (requests : List ι) (result : Except Trouble α)
    (token : Token Nat) : Prop :=
  ∀ i ∈ requests, ending.fatal i → ∃ trouble, result = .error trouble ∧ ending.blame trouble token

variable {ending : Ending ι} {requests more : List ι} {token : Token Nat}

theorem explains_nil (result : Except Trouble α) : ending.Explains [] result token := nofun

theorem explains_none (result : Except Trouble α) :
    (none : Ending ι).Explains requests result token :=
  fun _ _ hfatal => hfatal.elim

theorem explains_error {trouble : Trouble}
    (h : ending.Explains requests (.error trouble : Except Trouble α) token) :
    ending.Explains requests (.error trouble : Except Trouble β) token := by
  intro i hi hfatal
  obtain ⟨_, ⟨⟩, hblame⟩ := h i hi hfatal
  exact ⟨trouble, rfl, hblame⟩

/-- None of the requests was fatal, so nothing has to be explained. -/
theorem explains_of_harmless (h : ∀ i ∈ requests, ¬ ending.fatal i) (result : Except Trouble β) :
    ending.Explains requests result token :=
  fun i hi hfatal => absurd hfatal (h i hi)

theorem harmless_of_ok {a : α} (h : ending.Explains requests (.ok a) token) :
    ∀ i ∈ requests, ¬ ending.fatal i := by
  intro i hi hfatal
  obtain ⟨_, hresult, -⟩ := h i hi hfatal
  cases hresult

theorem harmless_of_error {trouble : Trouble} (hnot : ¬ ending.blame trouble token)
    (h : ending.Explains requests (.error trouble : Except Trouble α) token) :
    ∀ i ∈ requests, ¬ ending.fatal i := by
  intro i hi hfatal
  obtain ⟨_, ⟨⟩, hblame⟩ := h i hi hfatal
  exact hnot hblame

theorem explains_append {result : Except Trouble α} (h : ∀ i ∈ requests, ¬ ending.fatal i)
    (h' : ending.Explains more result token) : ending.Explains (requests ++ more) result token := by
  intro i hi hfatal
  rcases List.mem_append.1 hi with hfirst | hsecond
  · exact absurd hfatal (h i hfirst)
  · exact h' i hsecond hfatal

end Ending

/-- Whatever world the computation starts in, what it does there is a trace, and if a request was
fatal, the computation ended for it. -/
structure Traces (step : World σ → ι → World σ → Prop) (ending : Ending ι) (x : Run σ α) :
    Prop where
  trace : ∀ w, ∃ requests, Trace step w requests (x w).2 ∧
    ending.Explains requests (x w).1 (x w).2.token

namespace Traces

open Run

variable {ending : Ending ι}

/-- A computation that changes nothing but the log makes no requests. -/
theorem of_logged {x : Run σ α} (h : ∀ w, ∃ lines, (x w).2 = w.logged lines) :
    Traces step ending x := by
  refine ⟨fun w => ?_⟩
  obtain ⟨lines, hlines⟩ := h w
  rw [hlines]
  exact ⟨[], .done w lines, Ending.explains_nil _⟩

theorem of_unchanged {x : Run σ α} (h : ∀ w, (x w).2 = w) : Traces step ending x :=
  of_logged fun w => ⟨[], by rw [h, World.logged_nil]⟩

theorem mono {step' : World σ → ι → World σ → Prop} {x : Run σ α}
    (hstep : ∀ w i w', step w i w' → step' w i w') (hx : Traces step ending x) :
    Traces step' ending x := by
  refine ⟨fun w => ?_⟩
  obtain ⟨requests, htrace, hends⟩ := hx.trace w
  exact ⟨requests, htrace.mono hstep, hends⟩

theorem bind {x : Run σ α} {f : α → Run σ β} (hx : Traces step ending x)
    (hf : ∀ a, Traces step ending (f a)) : Traces step ending (x >>= f) := by
  refine ⟨fun w => ?_⟩
  obtain ⟨first, hfirst, hends⟩ := hx.trace w
  rw [bind_apply]
  rcases hw : x w with ⟨t | a, w₁⟩ <;> rw [hw] at hfirst hends
  · exact ⟨first, hfirst, Ending.explains_error hends⟩
  · obtain ⟨second, hsecond, hends'⟩ := (hf a).trace w₁
    exact ⟨first ++ second, hfirst.trans hsecond,
      Ending.explains_append (Ending.harmless_of_ok hends) hends'⟩

/-- Behind a check, a call that was handed the token finds it not cancelled. -/
theorem checked {guarded : Bool} {stage : String} {x : Run σ α}
    (h : ∀ w, (guarded && w.token.cancelled) = false → ∃ requests,
      Trace step w requests (x w).2 ∧ ending.Explains requests (x w).1 (x w).2.token) :
    Traces step ending (do Run.check guarded stage; x) := by
  refine ⟨fun w => ?_⟩
  cases hc : guarded && w.token.cancelled with
  | true =>
    rw [bind_apply, check_stop hc]
    exact ⟨[], .refl w, Ending.explains_nil _⟩
  | false =>
    rw [bind_apply, check_pass hc]
    exact h w hc

theorem check (guarded : Bool) (stage : String) :
    Traces step ending (Run.check guarded stage : Run σ Unit) := by
  refine of_unchanged fun w => ?_
  cases hc : guarded && w.token.cancelled with
  | true => rw [check_stop hc]
  | false => rw [check_pass hc]

theorem closed (guarded : Bool) : Closed guarded fun α (x : Run σ α) => Traces step ending x where
  pure _ := of_unchanged fun _ => rfl
  mishap _ := of_unchanged fun _ => rfl
  failure _ _ := of_unchanged fun _ => rfl
  report _ _ _ := of_logged fun _ => ⟨_, rfl⟩
  check := check guarded
  bind := bind

end Traces

end ReadGate
