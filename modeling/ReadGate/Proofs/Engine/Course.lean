import ReadGate.Engine.Execute
import ReadGate.Proofs.Backend.Run
import ReadGate.Proofs.Record.Fields

/-!
# The course of a call

A text that can be handed to a backend takes one of seven courses.  Each is told by what the backend
replied, whether the token was cancelled by then, and what the text translates to; nothing else that
the engine does on the way, such as writing to the log, has a part in it.  A text with halves of
surrogate pairs goes no way at all.

* `rawText_whole`, `rawText_broken`, `dispatch_broken` — which texts are handed over, and what
  becomes of the others.
* `tryGeneric_apply`, `fallback_apply`, `countGroups_apply` — the two paths, with the log left open.
* `Course` — the seven courses, with the world in which each call of the backend is made.
* `dispatch_course` — every text that is handed over takes one of them.
* `resultReport_eq`, `run_eq` — a result fits its record, so a run reports it as it is.
-/

namespace ReadGate

/-- May the structured path be tried after this trouble? -/
def Trouble.isRecoverable : Trouble → Bool
  | failure f => f.kind.isRecoverable
  | mishap _ => false

namespace Engine

open Run

variable {σ : Type} {backend : Adapter σ} {schema : Option Schema} {ticket : Ticket} {text : String}

/-! ## Texts that are handed over -/

/-- The mishap of a text with halves, which no call takes. -/
def brokenText : Mishap := .invalid [⟨.stringUnicode, [.field "sql"]⟩]

/-- What becomes of a text with halves, if its token stops it or not. -/
def unsent (stopped : Bool) : Except Trouble QueryResult :=
  if stopped then .error (.failure (.cancelledBefore "generic execution"))
  else .error (.mishap brokenText)

theorem rawText_whole (h : text ≠ "") : rawText (.whole text) = .ok text := by
  have hread : Record.rawExecute [("sql", .text text)] = .ok text := by
    unfold Record.rawExecute
    rw [Checked.map_eq_ok]
    exact ⟨((), text), Checked.both_eq_ok.2 ⟨rfl,
      (Record.required_eq_ok rfl).2 (Record.someText_eq_ok.2 ⟨rfl, h⟩)⟩, rfl⟩
  exact congrArg (Except.mapError Mishap.invalid) hread

theorem rawText_broken (codes : List Nat) (half : codes.any Text.isHalf = true) :
    rawText (.broken codes half) = .error brokenText := rfl

/-- A text with halves goes no way at all. -/
theorem dispatch_broken (backend : Adapter σ) (schema : Option Schema) (ticket : Ticket)
    (codes : List Nat) (half : codes.any Text.isHalf = true) (w : World σ) :
    dispatch backend schema ticket (.broken codes half) w =
      (unsent (ticket.guarded && w.token.cancelled), w) := by
  unfold dispatch unsent
  cases hc : ticket.guarded && w.token.cancelled with
  | true =>
    rw [bind_apply, check_stop hc]
    rfl
  | false =>
    rw [bind_apply, check_pass hc]
    simp only [bind_apply, rawText_broken]
    rfl

/-! ## The two paths -/

theorem note_apply (level : Level) (line : String) (w : World σ) :
    note ticket level line w =
      (.ok (), w.logged [⟨level, .dispatcher, s!"[{ticket.id}] {line}"⟩]) := rfl

/-- Giving up changes nothing but the log. -/
theorem giveUp_apply (α : Type) (ticket : Ticket) (path : ExecutionPath) (trouble : Trouble)
    (w : World σ) :
    ∃ lines, (giveUp ticket path trouble : Run σ α) w = (.error trouble, w.logged lines) := by
  cases trouble with
  | mishap m =>
    refine ⟨[], ?_⟩
    simp only [giveUp, throw_apply, World.logged_nil]
  | failure f =>
    cases hf : f.kind.isBackend with
    | true =>
      simp only [giveUp, hf, if_true, bind_apply, note_apply, throw_apply]
      exact ⟨_, rfl⟩
    | false =>
      refine ⟨[], ?_⟩
      simp only [giveUp, hf, Bool.false_eq_true, if_false, throw_apply, World.logged_nil]

/-- The generic path is one call of the backend; only recoverable trouble is held back. -/
theorem tryGeneric_apply (backend : Adapter σ) (ticket : Ticket) (text : String) (w : World σ) :
    ∃ lines, tryGeneric backend ticket text w =
      match backend.rawExecute ticket.guarded text w with
      | (.ok rows, w) => (.ok (some rows), w.logged lines)
      | (.error trouble, w) =>
        (if trouble.isRecoverable then .ok none else .error trouble, w.logged lines) := by
  unfold tryGeneric
  rcases hraw : backend.rawExecute ticket.guarded text w with ⟨trouble | rows, w₁⟩
  · cases trouble with
    | mishap m =>
      obtain ⟨lines, hgive⟩ := giveUp_apply (Option (List Row)) ticket
        .generic (.mishap m) w₁
      refine ⟨lines, ?_⟩
      simp only [tryCatch_apply, bind_apply, hraw, hgive, Trouble.isRecoverable,
        Bool.false_eq_true, if_false]
    | failure f =>
      obtain ⟨lines, hgive⟩ := giveUp_apply (Option (List Row)) ticket
        .generic (.failure f) w₁
      cases hf : f.kind.isRecoverable with
      | true =>
        simp only [tryCatch_apply, bind_apply, hraw, hf, note_apply, pure_apply,
          Trouble.isRecoverable, if_true]
        exact ⟨_, rfl⟩
      | false =>
        refine ⟨lines, ?_⟩
        simp only [tryCatch_apply, bind_apply, hraw, hf, hgive, Trouble.isRecoverable,
          Bool.false_eq_true, if_false]
  · simp only [tryCatch_apply, bind_apply, hraw, note_apply, pure_apply]
    exact ⟨_, rfl⟩

/-- The rows of a fallback, as the engine returns them. -/
def fallbackResult (rule : Rule) (rows : List Row) : QueryResult :=
  ⟨rows, rows.length, .fallback, some rule.name⟩

/-- A translated query is answered once, whatever the schema knows of its table. -/
theorem fallback_answer {rule : Rule} {q : StructuredQuery}
    (h : translate text = .ok (some (rule, q))) (w : World σ) :
    ∃ before after, fallback backend schema ticket text w =
      match executeStructured backend ticket.guarded q (w.logged before) with
      | (answer, w) => (answer.map (fallbackResult rule), w.logged after) := by
  -- what comes before the answer is log lines only
  have hwarn : ∃ before, fallback backend schema ticket text w =
      (do
        let rows ← tryCatch (executeStructured backend ticket.guarded q) (giveUp ticket .fallback)
        return fallbackResult rule rows : Run σ QueryResult) (w.logged before) := by
    cases hs : schema.any fun s => !s.hasTable q.table with
    | true =>
      simp only [fallback, h, hs, bind_apply, lift_mapError_ok, note_apply, if_true,
        World.logged_logged]
      exact ⟨_, rfl⟩
    | false =>
      simp only [fallback, h, hs, bind_apply, lift_mapError_ok, note_apply,
        Bool.false_eq_true, if_false, pure_apply]
      exact ⟨_, rfl⟩
  obtain ⟨before, hbefore⟩ := hwarn
  rcases hq : executeStructured backend ticket.guarded q (w.logged before) with ⟨trouble | rows, w₁⟩
  · obtain ⟨after, hgive⟩ := giveUp_apply (List Row) ticket .fallback trouble w₁
    refine ⟨before, after, ?_⟩
    simp only [hbefore, bind_apply, tryCatch_apply, hq, hgive, Except.map]
  · refine ⟨before, [], ?_⟩
    simp only [hbefore, bind_apply, tryCatch_apply, hq, pure_apply, Except.map, World.logged_nil]

/-- The fallback path is the translation of the text, and then the answer to what it gives. -/
theorem fallback_apply (backend : Adapter σ) (schema : Option Schema) (ticket : Ticket)
    (text : String) (w : World σ) :
    ∃ before after, fallback backend schema ticket text w =
      match translate text with
      | .error e => (.error (.mishap (.numeral e)), w)
      | .ok none => (.error (.failure (unsupported text)), w.logged after)
      | .ok (some (rule, q)) =>
        match executeStructured backend ticket.guarded q (w.logged before) with
        | (answer, w) => (answer.map (fallbackResult rule), w.logged after) := by
  rcases h : translate text with e | _ | ⟨rule, q⟩
  · refine ⟨[], [], ?_⟩
    simp only [fallback, h, bind_apply, lift_mapError_error]
  · simp only [fallback, h, bind_apply, lift_mapError_ok, note_apply, fail_apply]
    exact ⟨[], _, rfl⟩
  · exact fallback_answer h w

/-! ## Answers -/

/-- What is made of the fetched values of a column, unless the call is stopped before that. -/
def grouping (stopped : Bool) (values : List Value) :
    Except Trouble (List (Value × Nat)) :=
  if stopped then .error (.failure (.cancelledBefore "group_count aggregation"))
  else
    match Grouping.obstacle? values with
    | some why => .error (.mishap (.unhashable why))
    | none => .ok (Grouping.tally values)

theorem groupsOf_apply (q : StructuredQuery) (values : List Value) (w : World σ) :
    ∃ lines, groupsOf q values w = (grouping false values, w.logged lines) := by
  cases h : Grouping.obstacle? values with
  | some why =>
    refine ⟨[], ?_⟩
    simp only [groupsOf, grouping, h, Bool.false_eq_true, if_false, bind_apply, throw_apply,
      World.logged_nil]
  | none =>
    simp only [groupsOf, grouping, h, Bool.false_eq_true, if_false, bind_apply, pure_apply,
      report_apply]
    exact ⟨_, rfl⟩

/-- A grouped count is one call of the backend; whatever stops it after that leaves no counts. -/
theorem countGroups_apply (backend : Adapter σ) (guarded : Bool) (q : StructuredQuery)
    (w : World σ) :
    ∃ lines, countGroups backend guarded q w =
      match backend.columnValues guarded q.table q.groupBy w with
      | (.ok values, w) => (grouping (guarded && w.token.cancelled) values, w.logged lines)
      | (.error trouble, w) => (.error trouble, w) := by
  unfold countGroups
  rcases h : backend.columnValues guarded q.table q.groupBy w with ⟨trouble | values, w₁⟩
  · refine ⟨[], ?_⟩
    simp only [bind_apply, h]
  · cases hc : guarded && w₁.token.cancelled with
    | true =>
      refine ⟨[], ?_⟩
      simp only [bind_apply, h, check_stop hc, hc, if_true, grouping, World.logged_nil]
    | false =>
      obtain ⟨lines, hgroups⟩ := groupsOf_apply q values w₁
      refine ⟨lines, ?_⟩
      simp only [bind_apply, h, check_pass hc, hc, hgroups]

/-! ## Courses -/

/-- How a text that can be handed over may go, and how it ends. -/
inductive Course (backend : Adapter σ) (ticket : Ticket) (text : String) (w : World σ) :
    Except Trouble QueryResult × World σ → Prop
  /-- The token was cancelled before anything was tried. -/
  | stopped (hc : (ticket.guarded && w.token.cancelled) = true) :
    Course backend ticket text w (.error (.failure (.cancelledBefore "generic execution")), w)
  /-- The backend executed the text. -/
  | generic {rows : List Row} {w₁ : World σ} (lines : List LogLine)
    (hc : (ticket.guarded && w.token.cancelled) = false)
    (hraw : backend.rawExecute ticket.guarded text w = (.ok rows, w₁)) :
    Course backend ticket text w (.ok ⟨rows, rows.length, .generic, none⟩, w₁.logged lines)
  /-- The backend failed for good. -/
  | refused {trouble : Trouble} {w₁ : World σ} (lines : List LogLine)
    (hc : (ticket.guarded && w.token.cancelled) = false)
    (hraw : backend.rawExecute ticket.guarded text w = (.error trouble, w₁))
    (ht : trouble.isRecoverable = false) :
    Course backend ticket text w (.error trouble, w₁.logged lines)
  /-- The backend could not execute the text, and the token was cancelled by then. -/
  | stoppedBetween {trouble : Trouble} {w₁ : World σ} (lines : List LogLine)
    (hc : (ticket.guarded && w.token.cancelled) = false)
    (hraw : backend.rawExecute ticket.guarded text w = (.error trouble, w₁))
    (ht : trouble.isRecoverable = true) (hc₁ : (ticket.guarded && w₁.token.cancelled) = true) :
    Course backend ticket text w
      (.error (.failure (.cancelledBefore "fallback translation")), w₁.logged lines)
  /-- The text holds a numeral that has no value. -/
  | unreadable {trouble : Trouble} {w₁ : World σ} {e : NumeralError} (lines : List LogLine)
    (hc : (ticket.guarded && w.token.cancelled) = false)
    (hraw : backend.rawExecute ticket.guarded text w = (.error trouble, w₁))
    (ht : trouble.isRecoverable = true) (hc₁ : (ticket.guarded && w₁.token.cancelled) = false)
    (htr : translate text = .error e) :
    Course backend ticket text w (.error (.mishap (.numeral e)), w₁.logged lines)
  /-- No rule recognizes the text. -/
  | unsupported {trouble : Trouble} {w₁ : World σ} (lines : List LogLine)
    (hc : (ticket.guarded && w.token.cancelled) = false)
    (hraw : backend.rawExecute ticket.guarded text w = (.error trouble, w₁))
    (ht : trouble.isRecoverable = true) (hc₁ : (ticket.guarded && w₁.token.cancelled) = false)
    (htr : translate text = .ok none) :
    Course backend ticket text w (.error (.failure (ReadGate.unsupported text)), w₁.logged lines)
  /-- The translation was answered, with rows or with trouble. -/
  | fallback {trouble : Trouble} {w₁ w₂ : World σ} {rule : Rule} {q : StructuredQuery}
    {answer : Except Trouble (List Row)} (before after : List LogLine)
    (hc : (ticket.guarded && w.token.cancelled) = false)
    (hraw : backend.rawExecute ticket.guarded text w = (.error trouble, w₁))
    (ht : trouble.isRecoverable = true) (hc₁ : (ticket.guarded && w₁.token.cancelled) = false)
    (htr : translate text = .ok (some (rule, q)))
    (hq : executeStructured backend ticket.guarded q (w₁.logged before) = (answer, w₂)) :
    Course backend ticket text w (answer.map (fallbackResult rule), w₂.logged after)

/-- **Every text that can be handed over takes one of the courses.** -/
theorem dispatch_course (backend : Adapter σ) (schema : Option Schema) (ticket : Ticket)
    (h : text ≠ "") (w : World σ) :
    Course backend ticket text w (dispatch backend schema ticket text w) := by
  unfold dispatch pursue
  cases hc : ticket.guarded && w.token.cancelled with
  | true =>
    rw [bind_apply, check_stop hc]
    exact .stopped hc
  | false =>
    obtain ⟨lines, hgeneric⟩ := tryGeneric_apply backend ticket text w
    rw [bind_apply, check_pass hc]
    simp only [bind_apply, rawText_whole h, lift_ok, hgeneric]
    rcases hraw : backend.rawExecute ticket.guarded text w with ⟨trouble | rows, w₁⟩
    · cases ht : trouble.isRecoverable with
      | false =>
        simp only [ht, Bool.false_eq_true, if_false]
        exact .refused lines hc hraw ht
      | true =>
        simp only [ht, if_true, bind_apply]
        cases hc₁ : ticket.guarded && w₁.token.cancelled with
        | true =>
          rw [check_stop (w := w₁.logged lines) hc₁]
          exact .stoppedBetween lines hc hraw ht hc₁
        | false =>
          obtain ⟨before, after, hfallback⟩ :=
            fallback_apply backend schema ticket text (w₁.logged lines)
          rw [check_pass (w := w₁.logged lines) hc₁]
          simp only [hfallback, World.logged_logged]
          rcases htr : translate text with e | _ | ⟨rule, q⟩
          · exact .unreadable lines hc hraw ht hc₁ htr
          · exact .unsupported (lines ++ after) hc hraw ht hc₁ htr
          · exact .fallback (lines ++ before) after hc hraw ht hc₁ htr rfl
    · exact .generic lines hc hraw

/-! ## Runs -/

/-- The parts of a result are read as this result. -/
theorem resultReport_eq (r : QueryResult) : resultReport r = .ok (.result r) := by
  have hpath : Record.word Record.paths (.text r.path.name) = .ok r.path := by
    cases r.path <;> rfl
  have hread : Record.queryResult [("rows", .list (r.rows.map .record)),
      ("row_count", .int r.rowCount), ("path", .text r.path.name), ("rule", .ofWide? r.rule)] =
        .ok r := by
    unfold Record.queryResult
    rw [Checked.map_eq_ok]
    refine ⟨(r.rows, r.rowCount, r.path, r.rule), ?_, rfl⟩
    simp only [Checked.both_eq_ok]
    exact ⟨(Record.required_eq_ok rfl).2 (Record.list_mapping r.rows),
      (Record.required_eq_ok rfl).2 (Record.nat_eq_ok.2 rfl), (Record.required_eq_ok rfl).2 hpath,
      (Record.nullable_eq_ok rfl).2 (Record.optionalText_eq_ok.2 rfl)⟩
  unfold resultReport
  rw [hread]

/-- A run reports the result of its execution, or the trouble in which it ended. -/
theorem run_eq {ρ : Type} (e : Engine σ ρ) (freshId : String) (call : Call) (w : World σ)
    (reports : ρ) :
    e.run freshId call w reports =
      match e.execute freshId call w reports with
      | (.ok r, w, reports) => (.ok (.result r), w, reports)
      | (.error (.failure f), w, reports) => (failureReport f, w, reports)
      | (.error (.mishap m), w, reports) =>
        (.ok (mishapReport m), addLine .error "Unexpected failure executing query" w, reports) := by
  unfold run
  rcases e.execute freshId call w reports with ⟨(f | m) | r, w₁, reports₁⟩
  · rfl
  · rfl
  · have hreport : (resultReport r).mapError Trouble.mishap = .ok (.result r) := by
      rw [resultReport_eq]
      rfl
    simp only [Except.bind, hreport]

end Engine

end ReadGate
