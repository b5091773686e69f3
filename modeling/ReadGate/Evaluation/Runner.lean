import ReadGate.Backend.Memory
import ReadGate.Decoding
import ReadGate.Engine.Execute
import ReadGate.Evaluation.Metrics
import ReadGate.Json.Reader
import ReadGate.Json.Stored
import ReadGate.Json.Writer
import ReadGate.Text.Lines

/-!
# Evaluation of recorded cases

A case is a query with the kind of its outcome, and perhaps the rule and the number of rows that it
should have.  Cases run over tables in memory without execution of query texts, so that every
accepted query is translated.

* `readCases` reads one case from each line of a text.
* `judge` runs a case and says what it misses; `evaluate` does so for all of them, one after the
  other on one engine.
* `Counters.add` counts a verdict, and `reportOf` is the report on what was counted.
* `Report.value` is the report as a record, `gate` the complaint if any case misses.
-/

namespace ReadGate.Evaluation

/-! ## Cases -/

/-- The values on the lines of a text; blank lines do not count. -/
def readCases (text : String) : Except Mishap (List Value) :=
  ((Text.textLines text).filter fun line => !Text.isBlankText line).mapM fun line =>
    (Json.read Json.lenient line).mapError (Mishap.ofReadError line)

/-- Tables from a record of lists of records. -/
def tablesOf (v : Value) : List (String × List Row) :=
  let rowOf : Value → Row
    | .record fields => fields
    | _ => []
  let rowsOf : Value → List Row
    | .list items => items.map rowOf
    | _ => []
  match v with
  | .record fields => fields.map fun t => (t.1, rowsOf t.2)
  | _ => []

/-- The tables as they are after they were stored in a document. -/
def storedTables (tables : List (String × List Row)) :
    Except Mishap (List (String × List Row)) :=
  let document : Value := .record (tables.map fun t => (t.1, .list (t.2.map .record)))
  ((Json.stored document).mapError .notSerializable).map tablesOf

/-- A store with the given tables that cannot execute query texts. -/
def storeOf (tables : List (String × List Row)) : MemoryStore :=
  ⟨tables, none, none, [], []⟩

/-! ## Running a case -/

/-- An engine over tables in memory that reports to nobody. -/
def engine : Engine MemoryStore Unit :=
  .create Memory.adapter none () none

/-- What became of a case: the kind of its outcome, and the rule and the number of rows if it
succeeded. -/
structure Answer where
  kind : String
  rule : Option String
  rowCount : Option Nat
  deriving DecidableEq, Repr

/-- The kind of an outcome with rows. -/
def okKind : String := "ok"

/-- What became of an outcome. -/
def Answer.ofOutcome : Engine.Outcome → Answer
  | .result r => ⟨okKind, r.rule.map (·.plain), some r.rowCount⟩
  | .failed error _ => ⟨error.kind.plain, none, none⟩

/-- A step of an evaluation.  It uses the engine in the world that the steps before have left, and
may end in a mishap. -/
abbrev Step (α : Type) : Type :=
  StateT (World MemoryStore) (Except Mishap) α

/-- The world before the first case. -/
def start (tables : List (String × List Row)) : World MemoryStore :=
  ⟨.fresh, [], storeOf tables⟩

/-- Runs a query text, or none, on the engine. -/
def runText (id : String) (text : Option WideText) : Step Answer := fun w =>
  let (outcome, w, _) := engine.run id ⟨text, false, some id⟩ w ()
  outcome.map fun outcome => (.ofOutcome outcome, w)

/-- The answer to the query of a case.  Only a text or null can be run. -/
def answer (id : String) (query : Value) : Step Answer :=
  match query with
  | .text s => runText id (some s)
  | .halves codes => runText id (some (.ofCodes codes))
  | .null => runText id none
  | _ => return ⟨Trouble.unknownKind, none, none⟩

/-! ## Judging a case -/

/-- What a case misses first. -/
inductive Shortfall
  | kind
  | rule
  | rowCount
  deriving DecidableEq, Repr

/-- The name under which a shortfall is reported. -/
def Shortfall.name : Shortfall → String
  | kind => "kind_mismatch"
  | rule => "rule_mismatch"
  | rowCount => "row_count_mismatch"

/-- A case that misses an expectation, with the milliseconds that it took if they were measured. -/
structure Miss where
  id : Value
  shortfall : Shortfall
  expected : Value
  got : Value
  elapsed : Option Binary64

/-- A case that was run. -/
structure Verdict where
  answer : Answer
  miss : Option Miss

/-- The verdict on a case that took so many milliseconds. -/
def Verdict.timed (elapsed : Binary64) (v : Verdict) : Verdict :=
  { v with miss := v.miss.map fun m => { m with elapsed := some elapsed } }

/-- The first expectation that an answer misses: its kind, then its rule, then its row count. -/
def firstMiss (test id expectedKind : Value) (a : Answer) : Except Mishap (Option Miss) := do
  let got : Value := .text a.kind
  if !got.alike expectedKind then return some ⟨id, .kind, expectedKind, got, none⟩
  let rule ← test.member "expected_rule"
  let gotRule : Value := .ofText? a.rule
  if !rule.isVoid && !gotRule.alike rule then return some ⟨id, .rule, rule, gotRule, none⟩
  let gotCount : Value := .ofInt? (a.rowCount.map Int.ofNat)
  match test with
  | .record fields =>
    match Row.get? fields "expected_row_count" with
    | some count =>
      if gotCount.alike count then return none
      else return some ⟨id, .rowCount, count, gotCount, none⟩
    | none => return none
  | _ => return none

/-- The id under which a case is run. -/
def runId (id : Value) : String :=
  s!"eval-{id.plain}"

/-- Runs a case and compares the answer with what is expected. -/
def judge (test : Value) : Step Verdict := do
  let query ← test.part "query"
  let id ← test.part "id"
  let a ← answer (runId id) query
  let expectedKind ← test.part "expected_kind"
  return ⟨a, ← firstMiss test id expectedKind a⟩

/-- Runs all cases, one after the other. -/
def evaluate (tables : List (String × List Row)) (tests : List Value) :
    Except Mishap (List Verdict) :=
  (tests.mapM judge).run' (start tables)

/-! ## Counting -/

/-- Did the structured path serve the answer? -/
def Verdict.isFallback (v : Verdict) : Bool :=
  v.answer.kind == okKind && v.answer.rule.any (!·.isEmpty)

/-- What is counted while cases run, and the cases that missed so far. -/
structure Counters where
  total : Nat
  correct : Nat
  okTotal : Nat
  fallbackServed : Nat
  misses : List Miss

/-- The counters before the first case. -/
def Counters.zero : Counters :=
  ⟨0, 0, 0, 0, []⟩

/-- Counts a verdict. -/
def Counters.add (c : Counters) (v : Verdict) : Counters where
  total := c.total + 1
  correct := if v.miss.isNone then c.correct + 1 else c.correct
  okTotal := if v.answer.kind == okKind then c.okTotal + 1 else c.okTotal
  fallbackServed := if v.isFallback then c.fallbackServed + 1 else c.fallbackServed
  misses := c.misses ++ v.miss.toList

/-- Counts verdicts, one after the other. -/
def count (verdicts : List Verdict) : Counters :=
  verdicts.foldl .add .zero

/-! ## Reports -/

/-- The report of an evaluation: its measures, rounded, and the first cases that miss. -/
structure Report where
  measures : Measures
  misses : List Miss

/-- How many misses a report lists. -/
def listedMisses : Nat := 50

/-- The measures of what was counted. -/
def Counters.measures (c : Counters) : Measures :=
  Evaluation.measures c.total c.correct c.okTotal c.fallbackServed

/-- The report of verdicts. -/
def reportOf (verdicts : List Verdict) : Report :=
  let c := count verdicts
  let m := c.measures
  ⟨{ m with accuracy := rounded m.accuracy, fallbackCoverage := rounded m.fallbackCoverage },
    c.misses.take listedMisses⟩

/-- The complaint if any case misses. -/
def gate (verdicts : List Verdict) : Option String :=
  let accuracy := (count verdicts).measures.accuracy
  if belowOne accuracy then some s!"Accuracy gate failed: {percentText accuracy} < 100%" else none

/-- Measures as a record. -/
def Measures.value (m : Measures) : Value :=
  .record [("total", .int m.total), ("correct", .int m.correct), ("accuracy", .float m.accuracy),
    ("ok_total", .int m.okTotal), ("fallback_served", .int m.fallbackServed),
    ("fallback_coverage", .float m.fallbackCoverage)]

/-- A miss as a record. -/
def Miss.value (m : Miss) : Value :=
  .record ([("id", m.id), ("error", .text m.shortfall.name), ("expected", m.expected),
    ("got", m.got)] ++ (m.elapsed.map fun x => ("elapsed_ms", Value.float x)).toList)

/-- The report as a record. -/
def Report.value (r : Report) : Value :=
  .record [("summary", r.measures.value), ("failures", .list (r.misses.map Miss.value))]

/-- The report as it is printed and written to a file. -/
def Report.text (r : Report) : String :=
  Json.indented r.value

end ReadGate.Evaluation
