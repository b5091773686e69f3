import Mathlib.Data.List.Forall2
import ReadGate.Proofs.Audit.Entries

/-!
# Journals that are read back

A journal is told of calls one after the other.  Each of them adds one line or none, and whatever
the texts of the calls hold, the lines are read back as the entries that record them.

* `Journal.Holds` — the file of a journal consists of the lines of some entries.
* `Journal.Holds.record` — what one call does to such a journal.
* `Journal.Holds.read` — what is read from it.
* `Journal.recordAll_holds` — what a run of calls leaves, by induction on the calls.
-/

namespace ReadGate.Journal

variable {maxChars : Nat} {j : Journal} {entries : List AuditEntry} {e : AuditEntry}

/-! ## Journals of entries -/

/-- The lines of the file of a journal. -/
def lines (j : Journal) : List String :=
  Text.fileLines (j.text.getD "")

/-- The file consists of the lines of the entries, each of which can be read. -/
structure Holds (j : Journal) (entries : List AuditEntry) : Prop where
  text : j.text.getD "" = String.ofList (Text.linesText (entries.map fun e => e.line.toList))
  readable : ∀ e ∈ entries, e.IsReadable

theorem empty_holds : empty.Holds [] where
  text := rfl
  readable := fun _ => nofun

theorem Holds.append (h : j.Holds entries) (he : e.IsReadable) :
    (j.append (e.line ++ "\n")).Holds (entries ++ [e]) where
  text := by
    show j.text.getD "" ++ (e.line ++ "\n") = _
    rw [h.text, ← String.toList_inj]
    simp [Text.linesText]
  readable := by
    intro e' he'
    rcases List.mem_append.1 he' with he' | he'
    · exact h.readable e' he'
    · rw [List.mem_singleton.1 he']
      exact he

/-- The entries stand on lines of their own. -/
theorem Holds.lines (h : j.Holds entries) : j.lines = entries.map fun e => e.line ++ "\n" := by
  have hinline : ∀ l ∈ entries.map (fun e => e.line.toList), Text.Inline l := by
    intro l hl
    obtain ⟨e, he, rfl⟩ := List.mem_map.1 hl
    exact AuditEntry.line_inline (h.readable e he)
  rw [Journal.lines, h.text, Text.fileLines_linesText hinline, List.map_map]
  refine List.map_congr_left fun e _ => ?_
  rw [← String.toList_inj]
  simp

/-! ## Reading -/

/-- The line of an entry starts with a brace. -/
theorem isBlankText_line (e : AuditEntry) : Text.isBlankText (e.line ++ "\n") = false := by
  have hbrace : Text.isBlank '\x7b' = false := by decide
  rw [Text.isBlankText, String.toList_append, AuditEntry.line_eq, String.toList_ofList,
    List.cons_append, List.cons_append, List.all_cons, hbrace, Bool.false_and]

theorem entriesOf_lines (h : ∀ e ∈ entries, e.IsReadable) :
    entriesOf (entries.map fun e => e.line ++ "\n") = .ok entries := by
  induction entries with
  | nil => rfl
  | cons e entries ih =>
    have hrest := ih fun e' he' => h e' (List.mem_cons_of_mem e he')
    rw [List.map_cons, entriesOf, AuditEntry.entryOf_line (h e (by simp)), hrest]
    rfl

/-- **The latest entries are read, the latest first.** -/
theorem Holds.read (h : j.Holds entries) (id : Option String) (limit : Nat) :
    j.read id limit = .ok ((entries.filter fun e =>
      id.all fun id => e.correlationId == id).reverse.take limit) := by
  have hlines : (Text.fileLines (j.text.getD "")).filter (fun line => !Text.isBlankText line) =
      entries.map fun e => e.line ++ "\n" := by
    show j.lines.filter _ = _
    rw [h.lines, List.filter_eq_self]
    intro line hline
    obtain ⟨e, -, rfl⟩ := List.mem_map.1 hline
    rw [isBlankText_line]
    rfl
  unfold Journal.read
  dsimp only
  rw [hlines, entriesOf_lines h.readable, ← Text.cutList_nonneg]
  rfl

/-! ## Recording -/

/-- What a call does to a journal: it adds one line, that of an entry which records the call, or it
fails and leaves the journal as it was. -/
inductive Appends (maxChars : Nat) (c : AuditCall) (j : Journal) :
    Except Mishap AuditEntry × Journal → Prop
  | recorded {e : AuditEntry} {j' : Journal} (entry : c.RecordedAs maxChars e)
      (text : j'.text = some (j.text.getD "" ++ (e.line ++ "\n")))
      (line : j'.lines = j.lines ++ [e.line ++ "\n"]) : Appends maxChars c j (.ok e, j')
  | refused (m : Mishap) (unfit : c.isAcceptable maxChars = false) :
      Appends maxChars c j (.error m, j)

theorem record_of_recordedAs {c : AuditCall} (hfits : c.Fits) (h : c.RecordedAs maxChars e)
    (j : Journal) :
    record maxChars c.time c.arguments j = (.ok e, j.append (e.line ++ "\n")) := by
  rw [record, (AuditEntry.make_eq_ok hfits.time).2 h]

theorem record_of_not_isAcceptable {c : AuditCall} (hfits : c.Fits)
    (h : c.isAcceptable maxChars = false) (j : Journal) :
    ∃ m, record maxChars c.time c.arguments j = (.error m, j) := by
  unfold record
  cases hmake : AuditEntry.make maxChars c.time c.arguments with
  | error m => exact ⟨m, rfl⟩
  | ok e =>
    have haccept := AuditEntry.isAcceptable_iff.2 ⟨e, (AuditEntry.make_eq_ok hfits.time).1 hmake⟩
    rw [h] at haccept
    cases haccept

/-- **A call adds one line or leaves the journal as it is.** -/
theorem Holds.record (h : j.Holds entries) {c : AuditCall} (hfits : c.Fits) :
    Appends maxChars c j (record maxChars c.time c.arguments j) := by
  cases haccept : c.isAcceptable maxChars with
  | false =>
    obtain ⟨m, hm⟩ := record_of_not_isAcceptable hfits haccept j
    rw [hm]
    exact .refused m haccept
  | true =>
    obtain ⟨e, he⟩ := AuditEntry.isAcceptable_iff.1 haccept
    have hlines := (h.append (.of_recordedAs hfits he)).lines
    rw [List.map_append, ← h.lines] at hlines
    rw [record_of_recordedAs hfits he]
    exact .recorded he rfl hlines

/-! ## Runs -/

/-- The journal after calls, told of one after the other. -/
def recordAll (maxChars : Nat) (calls : List AuditCall) (j : Journal) : Journal :=
  calls.foldl (fun j c => (record maxChars c.time c.arguments j).2) j

/-- **A run adds the entries of the acceptable calls**, in their order. -/
theorem recordAll_holds (maxChars : Nat) {calls : List AuditCall} (hfits : ∀ c ∈ calls, c.Fits)
    (h : j.Holds entries) :
    ∃ added, List.Forall₂ (AuditCall.RecordedAs maxChars)
        (calls.filter (AuditCall.isAcceptable maxChars)) added ∧
      (recordAll maxChars calls j).Holds (entries ++ added) := by
  induction calls generalizing j entries with
  | nil => exact ⟨[], .nil, by rwa [List.append_nil]⟩
  | cons c calls ih =>
    have hc := hfits c (by simp)
    have hcalls : ∀ c' ∈ calls, c'.Fits := fun c' hc' => hfits c' (List.mem_cons_of_mem c hc')
    rw [recordAll, List.foldl_cons, ← recordAll]
    cases haccept : c.isAcceptable maxChars with
    | false =>
      obtain ⟨m, hm⟩ := record_of_not_isAcceptable hc haccept j
      have hskip : ¬ c.isAcceptable maxChars = true := by
        rw [haccept]
        exact Bool.false_ne_true
      rw [hm, List.filter_cons_of_neg hskip]
      exact ih hcalls h
    | true =>
      obtain ⟨e, he⟩ := AuditEntry.isAcceptable_iff.1 haccept
      obtain ⟨added, hadded, hholds⟩ := ih hcalls (h.append (.of_recordedAs hc he))
      rw [record_of_recordedAs hc he, List.filter_cons_of_pos haccept]
      rw [List.append_assoc] at hholds
      exact ⟨e :: added, .cons he hadded, hholds⟩

/-- **A journal is faithful.**  Each call of a run on a new journal adds the one line of an entry
that records it or leaves the journal as it was, and at the end the latest entries of the calls that
were recorded are read, the latest first. -/
theorem recordAll_faithful (maxChars : Nat) {calls : List AuditCall} (hfits : ∀ c ∈ calls, c.Fits) :
    (∀ before c after, calls = before ++ c :: after →
      Appends maxChars c (recordAll maxChars before empty)
        (record maxChars c.time c.arguments (recordAll maxChars before empty))) ∧
    ∃ entries, List.Forall₂ (AuditCall.RecordedAs maxChars)
        (calls.filter (AuditCall.isAcceptable maxChars)) entries ∧
      (∀ limit : Nat,
        (recordAll maxChars calls empty).read none limit = .ok (entries.reverse.take limit)) ∧
      ∀ (id : String) (limit : Nat), (recordAll maxChars calls empty).read (some id) limit =
        .ok ((entries.filter fun e => e.correlationId == id).reverse.take limit) := by
  constructor
  · rintro before c after rfl
    have hbefore : ∀ c' ∈ before, c'.Fits := fun c' hc' => hfits c' (by simp [hc'])
    obtain ⟨added, -, hholds⟩ := recordAll_holds maxChars hbefore empty_holds
    exact hholds.record (hfits c (by simp))
  · obtain ⟨entries, hentries, hholds⟩ := recordAll_holds maxChars hfits empty_holds
    rw [List.nil_append] at hholds
    refine ⟨entries, hentries, fun limit => ?_, fun id limit => hholds.read (some id) limit⟩
    have hread := hholds.read none limit
    have hall : entries.filter (fun e => (none : Option String).all fun id =>
        e.correlationId == id) = entries := List.filter_eq_self.2 fun _ _ => rfl
    rwa [hall] at hread

/-- A text with a quote, a backslash and characters that end a line somewhere. -/
def brokenText : String := "a\"b\\c\nd\re\u0085f\u2028"

/-- A call with such texts under an id, whose duration is below zero. -/
def brokenCall (id : String) : AuditCall where
  time := ⟨⟨2024, 1, 15⟩, ⟨10, 30, 0, 0⟩, some 0⟩
  correlationId := Text.codes id
  query := Text.codes brokenText
  success := false
  rowCount := none
  path := none
  errorKind := some (Text.codes brokenText)
  durationMs := -5

theorem brokenCall_fits (id : String) : (brokenCall id).Fits where
  time := by
    have htime : (⟨⟨2024, 1, 15⟩, ⟨10, 30, 0, 0⟩, some 0⟩ : Moment).IsUtc := by
      constructor <;> decide
    exact htime
  rowCount := fun _ => nofun
  durationMs := by
    show Record.isWord (-5) = true
    decide

/-- A call without an id leaves no trace, and one whose texts would break a line is read back. -/
theorem recordAll_faithful_broken :
    (∀ c ∈ [brokenCall "", brokenCall brokenText], c.Fits) ∧
    ∃ e, (recordAll 6 [brokenCall "", brokenCall brokenText] empty).read none 5 = .ok [e] ∧
      e.correlationId = brokenText ∧ e.query = "a\"b\\c\n" ∧
      e.queryHash = Digest.ofValue (.text brokenText) ∧ e.errorKind = some brokenText ∧
      e.durationMs = 0 := by
  have hfits : ∀ c ∈ [brokenCall "", brokenCall brokenText], c.Fits := by
    intro c hc
    simp only [List.mem_cons, List.not_mem_nil, or_false] at hc
    rcases hc with rfl | rfl <;> exact brokenCall_fits _
  obtain ⟨-, entries, hentries, hread, -⟩ := recordAll_faithful 6 hfits
  have hkept : [brokenCall "", brokenCall brokenText].filter (AuditCall.isAcceptable 6) =
      [brokenCall brokenText] := by decide
  rw [hkept] at hentries
  rcases hentries with _ | ⟨he, ⟨⟩⟩
  refine ⟨hfits, _, hread 5, ?_, ?_, ?_, ?_, ?_⟩
  · exact Text.codes_inj.1 he.correlationId
  · exact Text.codes_inj.1 he.query
  · rw [he.queryHash, brokenCall, Value.ofCodes_codes]
  · obtain ⟨kind, hkind, hcodes⟩ := Option.map_eq_some_iff.1 he.errorKind
    rw [hkind, Text.codes_inj.1 hcodes]
  · exact Int.ofNat_inj.1 he.durationMs

end ReadGate.Journal
