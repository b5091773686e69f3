import ReadGate.Proofs.Postgres.Calls
import ReadGate.Proofs.Postgres.Statements

/-!
# Only single reads reach the database

Whatever text the engine is called with, each statement that it executes on the database begins with
the word that reads and holds no terminator, and its connection was made read-only right before.

* `EachRead` — what a sequence of events has to be for that.
* `Visit.eachRead`, `trace_eachRead` — one visit, and from it every sequence of visits.
* `execute_eachRead` — every execution.
-/

namespace ReadGate.Postgres

variable {ρ : Type}

/-! ## Events -/

/-- Every statement among the events is a single read, and directly before it stand the opening of
its connection and the setting that makes the connection read-only. -/
def EachRead (events : List Event) : Prop :=
  ∀ before sql params after, events = before ++ .execute sql params :: after →
    SingleRead sql ∧ ∃ earlier settings, before = earlier ++ [.connect settings, .readOnly]

theorem EachRead.nil : EachRead [] := by
  intro before sql params after h
  simp at h

theorem EachRead.append {events more : List Event} (h : EachRead events) (h' : EachRead more) :
    EachRead (events ++ more) := by
  intro before sql params after heq
  rcases List.append_eq_append_iff.1 heq with ⟨later, rfl, hmore⟩ | ⟨later, hevents, hmore⟩
  · obtain ⟨hread, earlier, settings, rfl⟩ := h' later sql params after hmore
    exact ⟨hread, events ++ earlier, settings, (List.append_assoc ..).symm⟩
  · rcases later with _ | ⟨event, later⟩
    · obtain ⟨hread, earlier, settings, hbefore⟩ := h' [] sql params after hmore.symm
      simp at hbefore
    · cases hmore
      exact h before sql params later hevents

/-- A visit executes one statement, on a connection that was just made read-only. -/
theorem Visit.eachRead (v : Visit) (h : SingleRead v.sql) : EachRead v.events := by
  intro before sql params after heq
  unfold Visit.events at heq
  split at heq
  · rcases before with _ | ⟨first, _ | ⟨second, _ | ⟨third, rest⟩⟩⟩
    · cases heq
    · cases heq
    · simp only [List.cons_append, List.nil_append, List.cons.injEq, Event.execute.injEq] at heq
      obtain ⟨rfl, rfl, ⟨rfl, -⟩, -⟩ := heq
      exact ⟨h, [], v.settings, rfl⟩
    · -- behind the statement nothing is executed any more
      simp only [List.cons_append, List.cons.injEq] at heq
      have hmem : Event.execute sql params ∈ List.replicate v.cancels Event.cancel ++ [.close] := by
        rw [heq.2.2.2]
        simp
      simp at hmem
  · rcases before with _ | ⟨first, rest⟩
    · cases heq
    · simp at heq

/-! ## Visits -/

/-- What reaches the database in a sequence of visits. -/
theorem trace_events {guarded : Bool} {allowed : String → Prop} {w w' : World Server}
    {visits : List Visit} (h : Trace (Visited guarded allowed) w visits w') :
    w'.remote.events = w.remote.events ++ visits.flatMap Visit.events ∧
      ∀ v ∈ visits, allowed v.sql := by
  induction h with
  | done w lines => simp
  | @next w w₁ w₂ v visits lines first _ ih =>
    obtain ⟨hevents, hallowed⟩ := ih
    refine ⟨?_, List.forall_mem_cons.2 ⟨first.statement, hallowed⟩⟩
    rw [hevents, first.progress.events, List.flatMap_cons, World.logged_remote, List.append_assoc]

theorem trace_eachRead {visits : List Visit} (h : ∀ v ∈ visits, SingleRead v.sql) :
    EachRead (visits.flatMap Visit.events) := by
  induction visits with
  | nil => exact .nil
  | cons v rest ih =>
    obtain ⟨hfirst, hrest⟩ := List.forall_mem_cons.1 h
    exact (v.eachRead hfirst).append (ih hrest)

/-! ## Executions -/

theorem plainNames_of_namesOnly {q : StructuredQuery} (h : Grammar.NamesOnly q) :
    PlainNames q.selection where
  table := plain_of_named h.table
  columns name hname := plain_of_named (h.columns name hname)
  predicate p hp := plain_of_named (h.predicate p hp)
  orderBy o ho := by
    rw [StructuredQuery.selection, h.unordered] at ho
    cases ho

theorem statementOf_single {d : Database} (hd : ∀ name ∈ d.rpcFunction, Plain name)
    {raw : Option WideText} {text : String} (h : Validation.validateWide raw = .ok (.whole text)) :
    SingleRead (d.statementOf text) := by
  unfold Database.statementOf
  cases hfunction : d.rpcFunction with
  | some name => exact callFunction_single (hd name hfunction)
  | none =>
    obtain ⟨s, -, hs⟩ := Validation.validateWide_eq_whole.1 h
    exact single_of_validate hs

theorem structured_single (d : Database) (guarded : Bool) {q : StructuredQuery}
    (h : Grammar.NamesOnly q) :
    Traces (Visited guarded SingleRead) (interruption guarded)
      (Engine.executeStructured d.adapter guarded q) := by
  have htable := plain_of_named h.table
  refine Engine.executeStructured_keeps (Traces.closed guarded)
    (structuredQuery_traces (ofSelection_single (plainNames_of_namesOnly h)))
    (count_traces (countRows_single htable)) (columnValues_traces fun name hname => ?_)
  exact listColumn_single htable (plain_of_named (h.groupBy name hname))

/-- **Only single reads reach the database, and only on connections that were made read-only.**
This holds of every call, whatever the connections do and whenever the token is cancelled, if the
execution function has no terminator in its name, or if there is none. -/
theorem execute_eachRead (d : Database) (hd : ∀ name ∈ d.rpcFunction, ';' ∉ name.toList)
    (sink : Sink ρ) (schema : Option Schema) (freshId : String) (call : Call) (w : World Server)
    (reports : ρ) :
    ∃ events,
      ((⟨d.adapter, sink, schema⟩ : Engine Server ρ).execute freshId call w
        reports).2.1.remote.events = w.remote.events ++ events ∧ EachRead events := by
  have hconduct := Engine.execute_conduct ⟨d.adapter, sink, schema⟩ freshId call w reports
  obtain ⟨visits, htrace, -⟩ := hconduct.trace interruption_final
    (fun text hv => rawExecute_traces (statementOf_single hd hv))
    (fun text rule q _ htr => structured_single d call.guarded (Grammar.translate_namesOnly htr))
  obtain ⟨hevents, hsingle⟩ := trace_events htrace
  exact ⟨_, hevents, trace_eachRead hsingle⟩

/-- A database whose execution function is not installed. -/
def unequipped : Database :=
  ⟨"localhost", Database.usualPort, "shop", "reader", "secret", Database.usualTimeout,
    some "execute_sql"⟩

/-- Two connections: the function is missing on the first, and the second answers. -/
def missingThenRows : List Connection :=
  [⟨none, some (.database ⟨some "42883", "function execute_sql(text) does not exist"⟩), [], none,
      none, false, false⟩,
    ⟨none, none, [[("id", .int 1)]], none, none, false, false⟩]

/-- The statements among events. -/
def statements (events : List Event) : List String :=
  events.filterMap fun event =>
    match event with
    | .execute sql _ => some sql
    | _ => none

/-- Both paths reach the database: the text as an argument of the function, and then composed. -/
theorem execute_eachRead_fallback :
    (∀ name ∈ unequipped.rpcFunction, ';' ∉ name.toList) ∧
    ∃ events,
      ((⟨unequipped.adapter, fun _ state => (.ok (), state), none⟩ : Engine Server Unit).execute
        "c-1" ⟨some "select * from Items;", true, none⟩ ⟨.fresh, [], ⟨missingThenRows, [], []⟩⟩
        ()).2.1.remote.events = events ∧
      EachRead events ∧
      statements events =
        ["SELECT \"execute_sql\"(%s) AS result", "SELECT * FROM \"items\""] := by
  have hname : ∀ name ∈ unequipped.rpcFunction, ';' ∉ name.toList := by
    rintro name ⟨⟩
    decide
  obtain ⟨events, hevents, heach⟩ := execute_eachRead unequipped hname
    (fun _ state => (.ok (), state)) none "c-1" ⟨some "select * from Items;", true, none⟩
    ⟨.fresh, [], ⟨missingThenRows, [], []⟩⟩ ()
  refine ⟨hname, events, hevents, heach, ?_⟩
  rw [List.nil_append] at hevents
  rw [← hevents]
  decide +kernel

end ReadGate.Postgres
