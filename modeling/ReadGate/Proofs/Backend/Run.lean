import ReadGate.Backend.Basic

/-!
# Runs of computations

A computation is run at a world, and gives a result or trouble with the world after it.  The
equations here run each way of putting computations together, so that no later proof has to open the
monad.

* `Run.bind_apply`, `Run.tryCatch_apply` — what runs after a result, and what runs after trouble.
* `Run.check_stop`, `Run.check_pass` — a check, by whether it finds the token cancelled.
* `World.logged` — the same world with more lines in its log; a token and a remote side never
  change by it.
-/

namespace ReadGate

/-- The world with lines added to its log. -/
def World.logged {σ : Type} (w : World σ) (lines : List LogLine) : World σ :=
  { w with log := w.log ++ lines }

namespace World

variable {σ : Type} (w : World σ) (lines : List LogLine)

@[simp] theorem logged_token : (w.logged lines).token = w.token := rfl

@[simp] theorem logged_remote : (w.logged lines).remote = w.remote := rfl

@[simp] theorem logged_log : (w.logged lines).log = w.log ++ lines := rfl

@[simp] theorem logged_nil : w.logged [] = w := by
  simp [logged]

@[simp] theorem logged_logged (more : List LogLine) :
    (w.logged lines).logged more = w.logged (lines ++ more) := by
  simp [logged]

end World

namespace Run

variable {σ α β : Type} (w : World σ)

theorem pure_apply (a : α) : (pure a : Run σ α) w = (.ok a, w) := rfl

theorem throw_apply (t : Trouble) : (throw t : Run σ α) w = (.error t, w) := rfl

theorem fail_apply (f : Failure) : (fail f : Run σ α) w = (.error (.failure f), w) := rfl

theorem bind_apply (x : Run σ α) (f : α → Run σ β) :
    (x >>= f) w = match x w with
      | (.ok a, w) => f a w
      | (.error t, w) => (.error t, w) := by
  show (match x w with | (r, w') => ExceptT.bindCont f r w') = _
  rcases x w with ⟨_ | _, w'⟩ <;> rfl

theorem tryCatch_apply (x : Run σ α) (f : Trouble → Run σ α) :
    (tryCatch x f) w = match x w with
      | (.ok a, w) => (.ok a, w)
      | (.error t, w) => f t w := by
  simp only [tryCatch, tryCatchThe, MonadExceptOf.tryCatch, ExceptT.tryCatch, ExceptT.mk, bind,
    StateT.bind]
  rcases x w with ⟨_ | _, w'⟩ <;> rfl

theorem get_apply : (get : Run σ (World σ)) w = (.ok w, w) := rfl

theorem set_apply (w' : World σ) : (set w' : Run σ PUnit) w = (.ok ⟨⟩, w') := rfl

theorem report_apply (level : Level) (source : Source) (text : String) :
    (report level source text) w = (.ok (), w.logged [⟨level, source, text⟩]) := rfl

theorem mk_apply (x : Except Trouble α) : (ExceptT.mk (pure x) : Run σ α) w = (x, w) := rfl

theorem lift_ok (a : α) : (lift (.ok a) : Run σ α) w = (.ok a, w) := rfl

theorem lift_mapError_ok {ε : Type} (f : ε → Mishap) (a : α) :
    (lift ((Except.ok a).mapError f) : Run σ α) w = (.ok a, w) := rfl

theorem lift_mapError_error {ε : Type} (f : ε → Mishap) (e : ε) :
    (lift ((Except.error e).mapError f) : Run σ α) w = (.error (.mishap (f e)), w) := rfl

/-- A check that finds the token cancelled ends the call before the stage. -/
theorem check_stop {guarded : Bool} {w : World σ} (h : (guarded && w.token.cancelled) = true)
    (stage : String) :
    (check guarded stage) w = (.error (.failure (.cancelledBefore stage)), w) := by
  unfold check
  rw [bind_apply]
  show (if guarded && w.token.cancelled then fail (.cancelledBefore stage) else pure ()) w = _
  rw [if_pos h, fail_apply]

/-- Any other check has no effect. -/
theorem check_pass {guarded : Bool} {w : World σ} (h : (guarded && w.token.cancelled) = false)
    (stage : String) : (check guarded stage) w = (.ok (), w) := by
  unfold check
  rw [bind_apply]
  show (if guarded && w.token.cancelled then fail (.cancelledBefore stage) else pure ()) w = _
  rw [h]
  rfl

end Run

end ReadGate
