import ReadGate.Audit.Journal
import ReadGate.Proofs.Calendar.Moments
import ReadGate.Proofs.Json.Documents
import ReadGate.Proofs.Record.Fields
import ReadGate.Proofs.Value.Codes

/-!
# Audit entries that are read back

The operation that records a call is told about it in values of known types.  It makes an entry of
them unless one of them is out of bounds, and the line that it writes for an entry is read back as
this entry.

* `AuditCall`, `AuditCall.RecordedAs` — what is told about a call, and what an entry says of it.
* `make_eq_ok`, `isAcceptable_iff` — which calls are recorded, and as which entry.
* `entryOf_line` — a written entry is read back.
-/

namespace ReadGate

open Checked

/-! ## Digests -/

namespace Digest

theorem length_bigEndian (places n : Nat) : (bigEndian places n).length = places := by
  induction places generalizing n with
  | zero => rfl
  | succ places ih => rw [bigEndian, List.length_append, ih, List.length_singleton]

theorem length_hexPlaces (places n : Nat) : (Text.hexPlaces places n).length = places := by
  induction places generalizing n with
  | zero => rfl
  | succ places ih => rw [Text.hexPlaces, List.length_append, ih, List.length_singleton]

theorem length_sha256 (message : List UInt8) : (sha256 message).length = 32 := by
  simp [sha256, length_bigEndian]

/-- A digest has as many characters as an entry asks for. -/
theorem size_ofValue (v : Value) : Text.size (ofValue v) = AuditEntry.hashChars := by
  have hbytes (bs : List UInt8) : (bs.flatMap fun b => Text.hexPlaces 2 b.toNat).length =
      bs.length * 2 := by
    induction bs with
    | nil => rfl
    | cons b bs ih =>
      rw [List.flatMap_cons, List.length_append, ih, length_hexPlaces, List.length_cons]
      omega
  rw [ofValue, ofText, Text.hexBytes, Text.size, String.toList_ofList, hbytes, length_sha256]
  rfl

end Digest

/-! ## Fields -/

namespace Record

theorem path_eq_ok {v : Value} {p : ExecutionPath} : word paths v = .ok p ↔ v = .text p.name := by
  cases v with
  | text s =>
    by_cases hgeneric : s = "generic"
    · subst hgeneric
      cases p <;> simp [word, paths, Row.get?, ExecutionPath.name]
    · by_cases hfallback : s = "fallback"
      · subst hfallback
        cases p <;> simp [word, paths, Row.get?, ExecutionPath.name]
      · have hnone : Row.get? paths s = none := by
          simp [paths, Row.get?, Ne.symm hgeneric, Ne.symm hfallback]
        cases p <;> simp [word, hnone, Checked.fail, ExecutionPath.name, hgeneric, hfallback]
  | _ => simp [word, Checked.fail]

/-! ## Entries -/

/-- The fields of an entry. -/
def entryFields (time id query hash success rowCount path errorKind duration : Value) : Row :=
  [("ts", time), ("correlation_id", id), ("query", query), ("query_hash", hash),
    ("success", success), ("row_count", rowCount), ("path", path), ("error_kind", errorKind),
    ("duration_ms", duration)]

theorem auditEntry_eq_ok {time id query hash success rowCount path errorKind duration : Value}
    {e : AuditEntry} :
    auditEntry (entryFields time id query hash success rowCount path errorKind duration) = .ok e ↔
      timestamp time = .ok e.time ∧
      sizedText 1 (some AuditEntry.idChars) id = .ok e.correlationId ∧
      Record.wholeText query = .ok e.query ∧
      sizedText AuditEntry.hashChars (some AuditEntry.hashChars) hash = .ok e.queryHash ∧
      truth success = .ok e.success ∧
      orNull nat rowCount = .ok e.rowCount ∧
      orNull (word paths) path = .ok e.path ∧
      orNull Record.wholeText errorKind = .ok e.errorKind ∧
      nat duration = .ok e.durationMs := by
  obtain ⟨time', id', query', hash', success', rows', path', kind', duration'⟩ := e
  -- each field stands under its name
  generalize hfields :
    entryFields time id query hash success rowCount path errorKind duration = fields
  have htime : Row.get? fields "ts" = some time := by rw [← hfields]; rfl
  have hid : Row.get? fields "correlation_id" = some id := by rw [← hfields]; rfl
  have hquery : Row.get? fields "query" = some query := by rw [← hfields]; rfl
  have hhash : Row.get? fields "query_hash" = some hash := by rw [← hfields]; rfl
  have hsuccess : Row.get? fields "success" = some success := by rw [← hfields]; rfl
  have hrows : Row.get? fields "row_count" = some rowCount := by rw [← hfields]; rfl
  have hpath : Row.get? fields "path" = some path := by rw [← hfields]; rfl
  have hkind : Row.get? fields "error_kind" = some errorKind := by rw [← hfields]; rfl
  have hduration : Row.get? fields "duration_ms" = some duration := by rw [← hfields]; rfl
  simp only [auditEntry, map_eq_ok, both_eq_ok, required_eq_ok htime, required_eq_ok hid,
    required_eq_ok hquery, required_eq_ok hhash, required_eq_ok hsuccess, nullable_eq_ok hrows,
    nullable_eq_ok hpath, nullable_eq_ok hkind, required_eq_ok hduration]
  constructor
  · rintro ⟨⟨_, _, _, _, _, _, _, _, _⟩, hall, heq⟩
    cases heq
    exact hall
  · intro hall
    exact ⟨(time', id', query', hash', success', rows', path', kind', duration'), hall, rfl⟩

end Record

/-! ## Calls -/

/-- What is told about a call, in the types that the operation declares, and when it was told. -/
structure AuditCall where
  time : Moment
  correlationId : List Code
  query : List Code
  success : Bool
  rowCount : Option Int
  path : Option (List Code)
  errorKind : Option (List Code)
  durationMs : Int
  deriving DecidableEq, Repr

namespace AuditCall

/-- The arguments of the operation. -/
def arguments (c : AuditCall) : AuditArguments :=
  ⟨.ofCodes c.correlationId, .ofCodes c.query, .bool c.success, .ofInt? c.rowCount,
    .ofCodes? c.path, .ofCodes? c.errorKind, .int c.durationMs⟩

/-- The clock is that of UTC, and the numbers are integers of 64 bits. -/
structure Fits (c : AuditCall) : Prop where
  time : c.time.IsUtc
  rowCount : ∀ n ∈ c.rowCount, Record.isWord n = true
  durationMs : Record.isWord c.durationMs = true

/-- Can the call be recorded?  It has an id, what is kept of its texts is whole, its rows are not
fewer than none, and its path is a known one. -/
def isAcceptable (maxChars : Nat) (c : AuditCall) : Bool :=
  !c.correlationId.isEmpty && Text.isWhole (c.correlationId.take 64) &&
    Text.isWhole (c.query.take maxChars) && c.rowCount.all (fun n => 0 ≤ n) &&
    c.path.all (fun p => p == Text.codes "generic" || p == Text.codes "fallback") &&
    c.errorKind.all Text.isWhole

/-- The entry says what was told about the call, in the bounds of an entry. -/
structure RecordedAs (maxChars : Nat) (c : AuditCall) (e : AuditEntry) : Prop where
  time : e.time = c.time
  named : e.correlationId ≠ ""
  correlationId : Text.codes e.correlationId = c.correlationId.take 64
  query : Text.codes e.query = c.query.take maxChars
  /-- The digest is that of the whole query. -/
  queryHash : e.queryHash = Digest.ofValue (.ofCodes c.query)
  success : e.success = c.success
  rowCount : e.rowCount.map Int.ofNat = c.rowCount
  path : (e.path.map fun p => Text.codes p.name) = c.path
  errorKind : e.errorKind.map Text.codes = c.errorKind
  durationMs : (e.durationMs : Int) = max c.durationMs 0

end AuditCall

namespace AuditEntry

/-! ## Making -/

theorem cutValue_ofCodes (cs : List Code) (n : Nat) :
    cutValue (.ofCodes cs) n = .ok (.ofCodes (cs.take n)) := by
  cases hwhole : Text.isWhole cs with
  | true =>
    have hcut : Text.codes (Text.cut (Text.ofCodes (cs.map (·.val))) n) = cs.take n := by
      rw [Text.cut, Text.cutList_nonneg, Text.codes, String.toList_ofList, List.map_take,
        ← Text.codes, Text.codes_ofCodes hwhole]
    rw [← Text.codes_ofCodes hwhole, Value.ofCodes_codes, Text.codes_ofCodes hwhole, ← hcut,
      Value.ofCodes_codes, cutValue]
  | false =>
    rw [Value.ofCodes_of_not_isWhole hwhole, cutValue, Text.cutList_nonneg, ← List.map_take]
    rfl

/-- A duration below zero counts as none. -/
theorem raised_int (d : Int) : raised (.int d) = .ok (.int (max d 0)) := by
  simp only [raised, Value.number?, Value.isUndefinedDecimal, Extended.compare?,
    Extended.compareRatios, or_true, if_true, Bool.false_eq_true, if_false]
  rcases Int.lt_trichotomy d 0 with hd | rfl | hd
  · rw [Int.sign_eq_neg_one_of_neg hd, Int.max_eq_right (by omega)]
    rfl
  · rfl
  · rw [Int.sign_eq_one_of_pos hd, Int.max_eq_left (by omega)]
    rfl

/-- Arguments become an entry as their parts are read: the time that is put in is the one that was
read. -/
theorem make_eq_ok_iff {maxChars : Int} {now : Moment} {a : AuditArguments}
    {id query duration : Value} (htime : now.IsUtc)
    (hid : cutValue a.correlationId idChars = .ok id)
    (hquery : cutValue a.query maxChars = .ok query) (hduration : raised a.durationMs = .ok duration)
    (e : AuditEntry) :
    make maxChars now a = .ok e ↔
      Record.auditEntry (Record.entryFields (.text now.isoText) id query
        (.text (Digest.ofValue a.query)) a.success a.rowCount a.path a.errorKind duration) =
          .ok e := by
  have hmake : make maxChars now a =
      ((Record.auditEntry (Record.entryFields (.text now.isoText) id query
        (.text (Digest.ofValue a.query)) a.success a.rowCount a.path a.errorKind
        duration)).mapError Mishap.invalid).map fun e => { e with time := now } := by
    unfold make Record.entryFields
    simp only [hid, hquery, hduration, bind, Except.bind, pure, Except.pure]
    generalize Record.auditEntry _ = read
    cases read <;> rfl
  rw [hmake]
  rcases hread : Record.auditEntry _ with issues | entry
  · exact iff_of_false nofun nofun
  · have hsame : entry.time = now := by
      have hstamp := (Record.auditEntry_eq_ok.1 hread).1
      rw [timestamp_isoText htime] at hstamp
      exact (Except.ok.inj hstamp).symm
    have hentry : ({ entry with time := now } : AuditEntry) = entry := by rw [← hsame]
    show Except.ok ({ entry with time := now } : AuditEntry) = .ok e ↔ _
    rw [hentry, Except.ok.injEq, Except.ok.injEq]

/-- The start of an id is never too long, and only an empty text is too short. -/
theorem size_start {id : String} {cs : List Code} (h : Text.codes id = cs.take 64) :
    (1 ≤ Text.size id ∧ Text.size id ≤ idChars) ↔ id ≠ "" := by
  have hlong : Text.size id ≤ 64 := by
    rw [← Text.length_codes, h, List.length_take]
    omega
  have hshort : Text.size id = 0 ↔ id = "" := by
    rw [Text.size, List.length_eq_zero_iff, String.toList_eq_nil_iff]
  rw [ne_eq, ← hshort, show idChars = 64 from rfl]
  omega

/-- A digest has as many characters as it has to have. -/
theorem sizedText_digest (v : Value) {h : String} :
    Record.sizedText hashChars (some hashChars) (.text (Digest.ofValue v)) = .ok h ↔
      h = Digest.ofValue v := by
  rw [Record.sizedText_eq_ok, Record.wholeText_eq_ok]
  refine and_iff_left_of_imp ?_
  rintro rfl
  rw [Digest.size_ofValue]
  exact ⟨Nat.le_refl _, Nat.le_refl _⟩

/-- **An entry is made of a call if one records it**, and then it is this one. -/
theorem make_eq_ok {maxChars : Nat} {c : AuditCall} (htime : c.time.IsUtc) {e : AuditEntry} :
    make maxChars c.time c.arguments = .ok e ↔ c.RecordedAs maxChars e := by
  have hpath : Record.orNull (Record.word Record.paths) (.ofCodes? c.path) = .ok e.path ↔
      (e.path.map fun p => Text.codes p.name) = c.path :=
    Record.orNull_eq_ok Value.ofCodes _ Value.ofCodes_ne_null fun _ _ =>
      Record.path_eq_ok.trans Value.ofCodes_eq_text
  have hkind : Record.orNull Record.wholeText (.ofCodes? c.errorKind) = .ok e.errorKind ↔
      e.errorKind.map Text.codes = c.errorKind :=
    Record.orNull_eq_ok Value.ofCodes _ Value.ofCodes_ne_null fun _ _ =>
      Record.wholeText_ofCodes_eq_ok
  rw [make_eq_ok_iff htime (cutValue_ofCodes ..) (cutValue_ofCodes ..) (raised_int _),
    Record.auditEntry_eq_ok]
  dsimp only [AuditCall.arguments]
  rw [timestamp_isoText htime, Record.sizedText_eq_ok, Record.wholeText_ofCodes_eq_ok,
    Record.wholeText_ofCodes_eq_ok, sizedText_digest, Record.truth_eq_ok,
    Record.optionalNat_eq_ok, hpath, hkind, Record.nat_eq_ok, Except.ok.injEq]
  constructor
  · rintro ⟨hstamp, ⟨hid, hsize⟩, hquery, hdigest, hsuccess, hrows, hpath, hkind, hduration⟩
    exact ⟨hstamp.symm, (size_start hid).1 hsize, hid, hquery, hdigest, hsuccess, hrows, hpath,
      hkind, hduration⟩
  · intro h
    exact ⟨h.time.symm, ⟨h.correlationId, (size_start h.correlationId).2 h.named⟩, h.query,
      h.queryHash, h.success, h.rowCount, h.path, h.errorKind, h.durationMs⟩

/-- An optional value is the image of another one if all of it is an image. -/
theorem all_iff_exists_map {α β : Type} {f : α → β} {accepts : β → Bool}
    (h : ∀ b, accepts b = true ↔ ∃ a, f a = b) (o : Option β) :
    o.all accepts = true ↔ ∃ o' : Option α, o'.map f = o := by
  cases o with
  | none => exact iff_of_true rfl ⟨none, rfl⟩
  | some b =>
    rw [Option.all_some, h]
    constructor
    · rintro ⟨a, rfl⟩
      exact ⟨some a, rfl⟩
    · rintro ⟨_ | a, ha⟩
      · cases ha
      · exact ⟨a, Option.some.inj ha⟩

theorem nonneg_iff (n : Int) : decide (0 ≤ n) = true ↔ ∃ k : Nat, Int.ofNat k = n := by
  rw [decide_eq_true_eq]
  constructor
  · intro h
    exact ⟨n.toNat, Int.toNat_of_nonneg h⟩
  · rintro ⟨k, rfl⟩
    exact Int.natCast_nonneg k

theorem pathCodes_iff (cs : List Code) :
    (cs == Text.codes "generic" || cs == Text.codes "fallback") = true ↔
      ∃ p : ExecutionPath, Text.codes p.name = cs := by
  rw [Bool.or_eq_true, beq_iff_eq, beq_iff_eq]
  constructor
  · rintro (rfl | rfl)
    · exact ⟨.generic, rfl⟩
    · exact ⟨.fallback, rfl⟩
  · rintro ⟨_ | _, rfl⟩
    · exact .inl rfl
    · exact .inr rfl

/-- **The acceptable calls are those that an entry records.** -/
theorem isAcceptable_iff {maxChars : Nat} {c : AuditCall} :
    c.isAcceptable maxChars = true ↔ ∃ e, c.RecordedAs maxChars e := by
  have hsome {id : String} (hid : Text.codes id = c.correlationId.take 64) :
      (!c.correlationId.isEmpty) = true ↔ id ≠ "" := by
    rw [ne_eq, ← Text.codes_eq_nil, hid, List.take_eq_nil_iff]
    simp
  simp only [AuditCall.isAcceptable, Bool.and_eq_true, Text.isWhole_iff,
    all_iff_exists_map nonneg_iff, all_iff_exists_map pathCodes_iff,
    all_iff_exists_map fun _ => Text.isWhole_iff]
  constructor
  · rintro ⟨⟨⟨⟨⟨hnamed, id, hid⟩, query, hquery⟩, rows, hrows⟩, path, hpath⟩, kind, hkind⟩
    exact ⟨⟨c.time, id, query, Digest.ofValue (.ofCodes c.query), c.success, rows, path, kind,
      (max c.durationMs 0).toNat⟩, {
        time := rfl
        named := (hsome hid).1 hnamed
        correlationId := hid
        query := hquery
        queryHash := rfl
        success := rfl
        rowCount := hrows
        path := hpath
        errorKind := hkind
        durationMs := Int.toNat_of_nonneg (Int.le_max_right ..) }⟩
  · rintro ⟨e, h⟩
    exact ⟨⟨⟨⟨⟨(hsome h.correlationId).2 h.named, _, h.correlationId⟩, _, h.query⟩, _, h.rowCount⟩,
      _, h.path⟩, _, h.errorKind⟩

/-! ## Lines -/

/-- The entry is one of UTC, its texts have the sizes of an entry, and its numbers are not too
long. -/
structure IsReadable (e : AuditEntry) : Prop where
  time : e.time.IsUtc
  correlationId : 1 ≤ Text.size e.correlationId ∧ Text.size e.correlationId ≤ idChars
  queryHash : Text.size e.queryHash = hashChars
  rowCount : ∀ n ∈ e.rowCount, Numeral.IsShort n
  durationMs : Numeral.IsShort e.durationMs

/-- An entry that records a call is readable. -/
theorem IsReadable.of_recordedAs {maxChars : Nat} {c : AuditCall} {e : AuditEntry} (hfits : c.Fits)
    (h : c.RecordedAs maxChars e) : e.IsReadable where
  time := h.time ▸ hfits.time
  correlationId := (size_start h.correlationId).2 h.named
  queryHash := by rw [h.queryHash, Digest.size_ofValue]
  rowCount := by
    intro n hn
    have hword := hfits.rowCount n (by rw [← h.rowCount, hn]; rfl)
    simp only [Record.isWord, Bool.and_eq_true, decide_eq_true_eq] at hword
    have hbound : Binary64.twoPow 63 = 2 ^ 63 := by decide
    exact Numeral.isShort_of_lt (by omega)
  durationMs := by
    have hword := hfits.durationMs
    have hduration := h.durationMs
    simp only [Record.isWord, Bool.and_eq_true, decide_eq_true_eq] at hword
    have hbound : Binary64.twoPow 63 = 2 ^ 63 := by decide
    exact Numeral.isShort_of_lt (by omega)

/-- The fields of the line of an entry. -/
def parts (e : AuditEntry) : List Json.Part := [
  ⟨"ts", Json.compactString e.time.zonedText, .text e.time.zonedText⟩,
  ⟨"correlation_id", Json.compactString e.correlationId, .text e.correlationId⟩,
  ⟨"query", Json.compactString e.query, .text e.query⟩,
  ⟨"query_hash", Json.compactString e.queryHash, .text e.queryHash⟩,
  ⟨"success", Json.bool e.success, .bool e.success⟩,
  ⟨"row_count", orNull (fun n : Nat => Json.int n) e.rowCount, .ofInt? (e.rowCount.map Int.ofNat)⟩,
  ⟨"path", orNull (fun p => Json.compactString p.name) e.path,
    .ofText? (e.path.map ExecutionPath.name)⟩,
  ⟨"error_kind", orNull Json.compactString e.errorKind, .ofText? e.errorKind⟩,
  ⟨"duration_ms", Json.int e.durationMs, .int e.durationMs⟩]

theorem line_eq (e : AuditEntry) :
    e.line = String.ofList ('\x7b' :: Json.objectText e.parts ++ ['\x7d']) := rfl

theorem parts_written {dialect : Json.Dialect} {e : AuditEntry} (h : e.IsReadable) :
    ∀ p ∈ e.parts, Json.Writes dialect p.chars p.value := by
  have hrows : Json.Writes dialect (orNull (fun n : Nat => Json.int n) e.rowCount)
      (.ofInt? (e.rowCount.map Int.ofNat)) := by
    cases hn : e.rowCount with
    | none => exact Json.writes_null
    | some n => exact Json.writes_nat (h.rowCount n hn)
  have hpath : Json.Writes dialect (orNull (fun p => Json.compactString p.name) e.path)
      (.ofText? (e.path.map ExecutionPath.name)) := by
    cases e.path with
    | none => exact Json.writes_null
    | some p => exact Json.writes_text p.name
  have hkind : Json.Writes dialect (orNull Json.compactString e.errorKind)
      (.ofText? e.errorKind) := by
    cases e.errorKind with
    | none => exact Json.writes_null
    | some kind => exact Json.writes_text kind
  simp only [parts, List.forall_mem_cons]
  exact ⟨Json.writes_text _, Json.writes_text _, Json.writes_text _, Json.writes_text _,
    Json.writes_bool _, hrows, hpath, hkind, Json.writes_nat h.durationMs, nofun⟩

/-- The line of an entry is a single one. -/
theorem line_inline {e : AuditEntry} (h : e.IsReadable) : Text.Inline e.line.toList := by
  have hwritten : ∀ p ∈ e.parts, Json.Writes Json.strict p.chars p.value := parts_written h
  have hfields := Json.objectText_inline hwritten
  have hopen : Text.Inline ['\x7b'] := by decide
  have hclose : Text.Inline ['\x7d'] := by decide
  rw [line_eq, String.toList_ofList]
  exact (hopen.append hfields).append hclose

/-- **The line of an entry is read back as this entry.** -/
theorem entryOf_line {e : AuditEntry} (h : e.IsReadable) :
    Journal.entryOf (e.line ++ "\n") = .ok e := by
  have hwritten : ∀ p ∈ e.parts, Json.Writes Json.strict p.chars p.value := parts_written h
  have hsome : e.parts ≠ [] := List.cons_ne_nil _ _
  have hread := Json.read_written hsome hwritten (by decide)
  have hfields : Row.ofPairs (e.parts.map Json.Part.field) =
      Record.entryFields (.text e.time.zonedText) (.text e.correlationId) (.text e.query)
        (.text e.queryHash) (.bool e.success) (.ofInt? (e.rowCount.map Int.ofNat))
        (.ofText? (e.path.map ExecutionPath.name)) (.ofText? e.errorKind) (.int e.durationMs) :=
    rfl
  have hpath : Record.orNull (Record.word Record.paths) (.ofText? (e.path.map ExecutionPath.name)) =
      .ok e.path := by
    rcases e.path with _ | (_ | _) <;> rfl
  rw [Journal.entryOf, line_eq, hread, hfields]
  show Record.auditEntry _ = .ok e
  rw [Record.auditEntry_eq_ok, Record.sizedText_eq_ok, Record.sizedText_eq_ok,
    Record.wholeText_eq_ok, Record.wholeText_eq_ok, Record.wholeText_eq_ok, Record.truth_eq_ok,
    Record.optionalNat_eq_ok, Record.optionalWholeText_eq_ok, Record.nat_eq_ok]
  exact ⟨timestamp_zonedText h.time, ⟨rfl, h.correlationId⟩, rfl,
    ⟨rfl, Nat.le_of_eq h.queryHash.symm, Nat.le_of_eq h.queryHash⟩, rfl, rfl, hpath, rfl, rfl⟩

end AuditEntry

end ReadGate
