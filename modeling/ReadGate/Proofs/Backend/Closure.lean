import ReadGate.Engine.Structured
import ReadGate.Proofs.Backend.Run

/-!
# Properties that computations hand down

Some properties of computations hold of everything that is put together from computations that have
them.  For such a property it is enough to look at the requests of a call.

* `ClosedUnder` — the ways of putting computations together that keep a property, with the failures
  in which they may end.
* `Closed` — the same if any failure is allowed that does not claim to be a cancellation.
* `executeStructured_keeps` — an answer to a structured query has the property if the capabilities
  of the backend have it.
-/

namespace ReadGate

variable {σ : Type}

/-- A property that holds of every computation that is put together from computations with it.
A failure has to be an allowed one, or that of a check. -/
structure ClosedUnder (allowed : Failure → Prop) (guarded : Bool)
    (P : (α : Type) → Run σ α → Prop) : Prop where
  pure : ∀ {α : Type} (a : α), P α (Pure.pure a)
  mishap : ∀ {α : Type} (m : Mishap), P α (throw (.mishap m))
  failure : ∀ {α : Type} (f : Failure), allowed f → P α (Run.fail f)
  report : ∀ level source text, P Unit (Run.report level source text)
  check : ∀ stage, P Unit (Run.check guarded stage)
  bind : ∀ {α β : Type} {x : Run σ α} {f : α → Run σ β},
    P α x → (∀ a, P β (f a)) → P β (x >>= f)

/-- Any failure is allowed that does not claim to be a cancellation. -/
abbrev Closed (guarded : Bool) (P : (α : Type) → Run σ α → Prop) : Prop :=
  ClosedUnder (fun f => f.kind ≠ .cancelled) guarded P

namespace ClosedUnder

variable {allowed : Failure → Prop} {guarded : Bool} {P : (α : Type) → Run σ α → Prop} {α : Type}

theorem lift (h : ClosedUnder allowed guarded P) (x : Except Mishap α) : P α (Run.lift x) := by
  cases x with
  | ok a => exact h.pure a
  | error m => exact h.mishap m

end ClosedUnder

namespace Engine

variable {allowed : Failure → Prop} {guarded : Bool} {P : (α : Type) → Run σ α → Prop}
  {backend : Adapter σ}

theorem groupsOf_keeps (h : ClosedUnder allowed guarded P) (q : StructuredQuery)
    (values : List Value) : P _ (groupsOf q values) := by
  unfold groupsOf
  cases Grouping.obstacle? values with
  | some why => exact h.bind (h.mishap _) fun _ => h.bind (h.report ..) fun _ => h.pure _
  | none => exact h.bind (h.report ..) fun _ => h.pure _

theorem executeStructured_keeps (h : ClosedUnder allowed guarded P) {q : StructuredQuery}
    (hselect : P _ (backend.structuredQuery guarded q.selection))
    (hcount : P _ (backend.count guarded q.table))
    (hvalues : P _ (backend.columnValues guarded q.table q.groupBy)) :
    P _ (executeStructured backend guarded q) := by
  unfold executeStructured
  cases q.aggregate with
  | rows => exact hselect
  | count => exact h.bind hcount fun total => h.pure _
  | groupCount =>
    refine h.bind ?_ fun groups => h.pure _
    exact h.bind hvalues fun values => h.bind (h.check _) fun _ => groupsOf_keeps h q values

end Engine

end ReadGate
