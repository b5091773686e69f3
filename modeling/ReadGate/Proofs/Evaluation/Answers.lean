import ReadGate.Evaluation.Runner
import ReadGate.Proofs.Engine.Cancellation
import ReadGate.Proofs.Engine.Groups
import ReadGate.Proofs.Engine.Outcome
import ReadGate.Proofs.Memory.Answers

/-!
# Answers that depend on nothing before them

All cases of an evaluation run on one engine, whose backend records the calls that reach it.  The
answers do not depend on the record, nor on the log, so that the answer to a query is the same
wherever it stands among the cases.

* `Memory.executeStructured_tables`, `Memory.translated_tables` — a translated query depends on the
  tables alone.
* `Memory.execute_remote` — an execution leaves the tables as they are.
* `Holds` — what stays so between the cases of an evaluation.
* `answer_holds` — every query has one answer, which the structured path has served if it is rows.
-/

namespace ReadGate

open Engine

/-! ## The same tables -/

namespace Memory

variable {ρ : Type} {w w' : World MemoryStore} {text : String}

/-- The answer to a structured query depends on the tables alone. -/
theorem executeStructured_tables (h : w.remote.tables = w'.remote.tables) (q : StructuredQuery) :
    (executeStructured adapter false q w).1 = (executeStructured adapter false q w').1 := by
  cases hq : q.aggregate with
  | rows =>
    simp only [executeStructured, hq, structuredQuery_answer]
    show MemoryStore.select _ _ = MemoryStore.select _ _
    simp only [MemoryStore.select, MemoryStore.rows, h]
  | count =>
    obtain ⟨w₁, hcall, -⟩ := @count_free false w q.table rfl
    obtain ⟨w₁', hcall', -⟩ := @count_free false w' q.table rfl
    simp only [executeStructured, hq, Run.bind_apply, hcall, hcall', MemoryStore.rows, h]
    cases Row.get? w'.remote.tables q.table <;> rfl
  | groupCount =>
    obtain ⟨w₁, hcall, -⟩ := @columnValues_free false w q.table q.groupBy rfl
    obtain ⟨w₁', hcall', -⟩ := @columnValues_free false w' q.table q.groupBy rfl
    have hvalues : w.remote.values q.table q.groupBy = w'.remote.values q.table q.groupBy := by
      simp only [MemoryStore.values, MemoryStore.rows, h]
    rw [executeStructured_groups adapter false hq w, executeStructured_groups adapter false hq w',
      hcall, hcall', hvalues]
    rfl

/-- So does what becomes of a text that is translated. -/
theorem translated_tables (h : w.remote.tables = w'.remote.tables) (before before' : List LogLine) :
    translated adapter text w before = translated adapter text w' before' := by
  unfold translated
  rcases translate text with e | _ | ⟨rule, q⟩
  · rfl
  · rfl
  · have hlogged : (w.logged before).remote.tables = (w'.logged before').remote.tables := h
    exact congrArg (·.map (fallbackResult rule)) (executeStructured_tables hlogged q)

/-- The tables with more calls on record. -/
def callingAll (s : MemoryStore) (records : List MemoryCall) : MemoryStore :=
  { s with calls := s.calls ++ records }

/-- Requests add calls to the record, and change nothing else that the backend holds. -/
theorem remote_of_trace {guarded : Bool} {requests : List MemoryCall}
    (h : Trace (Called guarded) w requests w') : w'.remote = callingAll w.remote requests := by
  induction h with
  | done w lines => simp [callingAll]
  | next lines first _ ih =>
    rw [ih, first.remote]
    simp [callingAll, calling]

/-- An execution leaves the tables as they are, whatever becomes of it. -/
theorem execute_remote (sink : Sink ρ) (schema : Option Schema) (freshId : String) (call : Call)
    (w : World MemoryStore) (reports : ρ) :
    ∃ requests, ((⟨adapter, sink, schema⟩ : Engine MemoryStore ρ).execute freshId call w
      reports).2.1.remote = callingAll w.remote requests := by
  obtain ⟨requests, htrace, -⟩ := (execute_conduct (⟨adapter, sink, schema⟩ : Engine MemoryStore ρ)
    freshId call w reports).trace none_final (fun text _ => rawExecute_traces call.guarded text)
    fun text rule q _ _ => memory_structured_traces call.guarded q
  exact ⟨requests, remote_of_trace htrace⟩

end Memory

/-! ## Between cases -/

namespace Evaluation

/-- The backend holds the tables, and cannot execute query texts. -/
structure Holds (tables : List (String × List Row)) (w : World MemoryStore) : Prop where
  tables : w.remote.tables = tables
  results : w.remote.results = none
  trouble : w.remote.trouble = none

section Runs

variable {tables : List (String × List Row)} {w w' : World MemoryStore}

theorem start_holds (tables : List (String × List Row)) : Holds tables (start tables) :=
  ⟨rfl, rfl, rfl⟩

theorem Holds.absent (h : Holds tables w) (text : String) :
    w.remote.execute text = .error (.failure MemoryStore.noExecution) := by
  simp only [MemoryStore.execute, h.trouble, h.results]

/-- A call as a case makes it: under an id, and without a token. -/
def caseCall (id : String) (text : Option WideText) : Call :=
  ⟨text, false, some id⟩

theorem execute_caseCall_rejected {text : Option WideText} {rejection : Validation.Rejection}
    (hv : Validation.validateWide text = .error rejection) (id : String) (w : World MemoryStore) :
    (engine.execute id (caseCall id text) w ()).1 = .error (.failure rejection.failure) := by
  have hquery : Validation.validateWide (caseCall id text).query = .error rejection := hv
  exact execute_rejected hquery id w ()

theorem execute_caseCall_withheld {text : Option WideText} {codes : List Nat}
    {half : codes.any Text.isHalf = true}
    (hv : Validation.validateWide text = .ok (.broken codes half)) (id : String)
    (w : World MemoryStore) :
    (engine.execute id (caseCall id text) w ()).1 = .error (.mishap brokenText) := by
  have hquery : Validation.validateWide (caseCall id text).query = .ok (.broken codes half) := hv
  exact execute_withheld hquery id w ()

/-- What becomes of a text does not depend on the id, nor on what was run before. -/
theorem execute_holds (hw : Holds tables w) (hw' : Holds tables w') (id id' : String)
    (text : Option WideText) : (engine.execute id (caseCall id text) w ()).1 =
      (engine.execute id' (caseCall id' text) w' ()).1 := by
  rcases hv : Validation.validateWide text with rejection | (cleaned | ⟨codes, half⟩)
  · rw [execute_caseCall_rejected hv, execute_caseCall_rejected hv]
  · obtain ⟨w₁, before, htables, houtcome⟩ := Memory.execute_translated engine.sink none id
      (caseCall id text) w () hv rfl (hw.absent cleaned) rfl
    obtain ⟨w₁', before', htables', houtcome'⟩ := Memory.execute_translated engine.sink none id'
      (caseCall id' text) w' () hv rfl (hw'.absent cleaned) rfl
    have hsame : w₁.remote.tables = w₁'.remote.tables := by
      rw [htables, htables', hw.tables, hw'.tables]
    exact houtcome.trans ((Memory.translated_tables hsame before before').trans houtcome'.symm)
  · rw [execute_caseCall_withheld hv, execute_caseCall_withheld hv]

/-- Rows come from the structured path. -/
theorem execute_rule (hw : Holds tables w) {id : String} {text : Option WideText} {r : QueryResult}
    (h : (engine.execute id (caseCall id text) w ()).1 = .ok r) :
    ∃ rule : Rule, r.rule = some (.whole rule.name) := by
  rcases hv : Validation.validateWide text with rejection | (cleaned | ⟨codes, half⟩)
  · rw [execute_caseCall_rejected hv] at h
    cases h
  · obtain ⟨w₁, before, -, houtcome⟩ := Memory.execute_translated engine.sink none id
      (caseCall id text) w () hv rfl (hw.absent cleaned) rfl
    have htranslated : translated Memory.adapter cleaned w₁ before = .ok r := houtcome.symm.trans h
    unfold translated at htranslated
    rcases htr : translate cleaned with e | _ | ⟨rule, q⟩ <;> rw [htr] at htranslated
    · cases htranslated
    · cases htranslated
    · refine ⟨rule, ?_⟩
      dsimp only at htranslated
      rcases hanswer : (executeStructured Memory.adapter false q (w₁.logged before)).1 with
        trouble | rows <;> rw [hanswer] at htranslated <;> cases htranslated
      rfl
  · rw [execute_caseCall_withheld hv] at h
    cases h

/-- A run leaves what the backend holds as it is. -/
theorem run_holds (hw : Holds tables w) (id : String) (text : Option WideText) :
    Holds tables (engine.run id (caseCall id text) w ()).2.1 := by
  obtain ⟨requests, hremote⟩ :=
    Memory.execute_remote engine.sink engine.schema id (caseCall id text) w ()
  have hafter : (engine.run id (caseCall id text) w ()).2.1.remote =
      Memory.callingAll w.remote requests :=
    (run_remote engine id (caseCall id text) w ()).trans hremote
  constructor <;> rw [hafter]
  · exact hw.tables
  · exact hw.results
  · exact hw.trouble

/-- A run always has an outcome. -/
theorem run_outcome (hw : Holds tables w) (id : String) (text : Option WideText) :
    ∃ outcome, (engine.run id (caseCall id text) w ()).1 = .ok outcome ∧
      Tells (engine.execute id (caseCall id text) w ()).1 outcome := by
  have hconcludes : Concludes (fun f => w.remote.trouble = some (.failure f)) engine id
      (caseCall id text) w () := by
    have hkept : (fun s : MemoryStore => s.trouble = w.remote.trouble) w.remote := rfl
    exact concludes_of_accountable (Memory.accountable w.remote.trouble false) hkept id ()
  obtain ⟨outcome, houtcome⟩ := hconcludes.outcome_iff.2 fun f hf => by
    by_contra hfits
    have horigin := hconcludes.unfit f hf hfits
    rw [hw.trouble] at horigin
    cases horigin
  exact ⟨outcome, houtcome, hconcludes.told outcome houtcome⟩

end Runs

/-! ## Answers -/

/-- Rows were served by the structured path, under the name of a rule. -/
def Answer.IsServed (a : Answer) : Prop :=
  a.kind = okKind → ∃ rule : Rule, a.rule = some rule.name

/-- No failure is reported under the name that stands for rows. -/
theorem kindName_ne_ok (kind : FailureKind) : kind.name ≠ okKind := by
  cases kind <;> simp [FailureKind.name, okKind]

/-- Every query text has one answer, under whatever id and after whatever cases it is run. -/
theorem runText_holds (tables : List (String × List Row)) (text : Option WideText) :
    ∃ a : Answer, a.IsServed ∧ ∀ id w, Holds tables w →
      ∃ w', runText id text w = .ok (a, w') ∧ Holds tables w' := by
  have hstart := start_holds tables
  obtain ⟨outcome, houtcome, htells⟩ := run_outcome hstart "" text
  refine ⟨.ofOutcome outcome, ?_, fun id w hw => ?_⟩
  · intro hkind
    generalize hexecute : (engine.execute "" (caseCall "" text) (start tables) ()).1 = result
      at htells
    cases htells with
    | result r =>
      obtain ⟨rule, hrule⟩ := execute_rule hstart hexecute
      exact ⟨rule, congrArg (Option.map WideText.plain) hrule⟩
    | @failure f => exact absurd hkind (kindName_ne_ok f.kind)
    | mishap => simp [Answer.ofOutcome, okKind, WideText.plain] at hkind
    | invalid => simp [Answer.ofOutcome, okKind, WideText.plain] at hkind
  · refine ⟨(engine.run id (caseCall id text) w ()).2.1, ?_, run_holds hw id text⟩
    have hsame : (engine.run id (caseCall id text) w ()).1 = .ok outcome := by
      rw [run_apply, execute_holds hw hstart id "", ← run_apply, houtcome]
    unfold runText
    rw [show (⟨text, false, some id⟩ : Call) = caseCall id text from rfl]
    rcases hrun : engine.run id (caseCall id text) w () with ⟨result, w₁, reports⟩
    rw [hrun] at hsame
    subst hsame
    rfl

/-- **Every query has one answer**, under whatever id and after whatever cases it is run. -/
theorem answer_holds (tables : List (String × List Row)) (query : Value) :
    ∃ a : Answer, a.IsServed ∧ ∀ id w, Holds tables w →
      ∃ w', answer id query w = .ok (a, w') ∧ Holds tables w' := by
  have hplain (a : Answer) (ha : a.kind ≠ okKind) (hanswer : ∀ id, answer id query = pure a) :
      ∃ a : Answer, a.IsServed ∧ ∀ id w, Holds tables w →
        ∃ w', answer id query w = .ok (a, w') ∧ Holds tables w' :=
    ⟨a, fun hkind => absurd hkind ha, fun id w hw => ⟨w, by rw [hanswer]; rfl, hw⟩⟩
  cases query with
  | text s => exact runText_holds tables (some s)
  | null => exact runText_holds tables none
  | halves codes => exact runText_holds tables (some (.ofCodes codes))
  | _ => exact hplain _ (show Trouble.unknownKind ≠ okKind by decide) fun id => rfl

end Evaluation

end ReadGate
