import ReadGate.Proofs.Backend.Results
import ReadGate.Proofs.Json.Contents
import ReadGate.Proofs.Postgrest.Conversation
import ReadGate.Proofs.Postgrest.Failures
import ReadGate.Proofs.Postgrest.Progress

/-!
# Replies that the client does not expect

The failures of a client are those of a backend, and cancellations.  But a reply of an unexpected
shape ends in an error of another kind, which nobody up the call expects either: a body that nests
too deep, an error message that is no text, a total that is no number, a page that is no listing, or
a record that is none.  What the session itself raises is passed on as well.

* `TypedUnless` — how a call ends, and when it does not.
* `Reply.Wordless`, `Reply.Miscounts`, `Value.Unlisted` — the shapes of unexpected replies.
* `baffles_iff` — the replies that end the fetching of pages.
* `rawExecute_escapes_iff` and the like — what ends each capability.
* `calls_typed` — all capabilities at once.
-/

namespace ReadGate

/-! ## Typed failures -/

/-- The failure is one of a backend, or a cancellation. -/
def Failure.IsTyped (f : Failure) : Prop :=
  f.kind.isBackend = true ∨ f.kind = .cancelled

/-- A call ends with a result or a typed failure, unless something escapes it; and when it does. -/
structure TypedUnless {α : Type} (escape : Prop) (result : Except Trouble α) : Prop where
  typed : ∀ f, result = .error (.failure f) → f.IsTyped
  escapes : (∃ m, result = .error (.mishap m)) ↔ escape

/-- A value is none that can be listed: a truth, a number, or a float, but none that counts as
absent. -/
inductive Value.Unlisted : Value → Prop
  | truth : Unlisted (.bool true)
  | int {n : Int} (h : n ≠ 0) : Unlisted (.int n)
  | float {x : Binary64} (h : x.isZero = false) : Unlisted (.float x)

/-- A value is no text, and does not count as absent either. -/
structure Value.Unworded (v : Value) : Prop where
  present : v.isVoid = false
  noText : ∀ s, v ≠ .text s
  noHalves : ∀ codes, v ≠ .halves codes

theorem Value.textOf_escapes_iff {v : Value} :
    (∃ m, BackendFault.textOf v = .error m) ↔ v.Unworded := by
  cases v with
  | text s => exact iff_of_false nofun fun h => h.noText s rfl
  | halves codes => exact iff_of_false nofun fun h => h.noHalves codes rfl
  | _ =>
    unfold BackendFault.textOf
    dsimp only
    split
    · rename_i hvoid
      exact iff_of_false nofun fun h => by simp [h.present] at hvoid
    · rename_i hpresent
      exact iff_of_true ⟨_, rfl⟩ ⟨Bool.eq_false_iff.2 hpresent, nofun, nofun⟩

/-- A message is classified if it is a text, or counts as absent. -/
theorem BackendFault.classify_escapes_iff (message code : Value) (function : String) :
    (∃ m, classify message code (.text function) = .error m) ↔ message.Unworded := by
  rw [← Value.textOf_escapes_iff]
  unfold classify
  cases textOf message with
  | error m => exact iff_of_true ⟨m, rfl⟩ ⟨m, rfl⟩
  | ok text =>
    refine iff_of_false ?_ nofun
    simp only [textOf, bind, Except.bind, pure, Except.pure]
    split <;> split <;> exact nofun

theorem Value.unworded_stringValue (codes : List Nat) : ¬ (Json.stringValue codes).Unworded := by
  unfold Json.stringValue
  split
  · exact fun h => h.noHalves _ rfl
  · exact fun h => h.noText _ rfl

/-- Of the values of a document, only these cannot be listed. -/
theorem Value.itemsOrNone_escapes_iff {v : Value} (hv : v.isJson = true) :
    (∃ m, v.itemsOrNone = .error m) ↔ v.Unlisted := by
  constructor
  · rintro ⟨m, h⟩
    cases v with
    | bool b =>
      cases b with
      | true => exact .truth
      | false => cases h
    | int n =>
      refine .int fun hzero => ?_
      subst hzero
      cases h
    | float x =>
      cases hzero : x.isZero with
      | false => exact .float hzero
      | true => simp [itemsOrNone, isVoid, hzero] at h
    | list items => cases items <;> cases h
    | record fields => cases fields <;> cases h
    | text s => simp [itemsOrNone, items] at h; split at h <;> cases h
    | halves codes => cases h
    | null => cases h
    | _ => cases hv
  · rintro (_ | ⟨hn⟩ | ⟨hx⟩)
    · exact ⟨_, rfl⟩
    · exact ⟨.notIterable "int", by simp [itemsOrNone, isVoid, hn, items, fullKind, kind]⟩
    · exact ⟨.notIterable "float", by simp [itemsOrNone, isVoid, hx, items, fullKind, kind]⟩

/-- The items of a document's value are such values themselves. -/
theorem Value.legible_of_itemsOrNone {v : Value} (hv : v.Legible) {items : List Value}
    (h : v.itemsOrNone = .ok items) : ∀ item ∈ items, item.Legible := by
  unfold itemsOrNone at h
  split at h
  · cases h
    nofun
  · intro item hitem
    cases v with
    | list vs =>
      cases h
      exact legible_of_mem hv item hitem
    | record fields =>
      cases h
      obtain ⟨p, -, rfl⟩ := List.mem_map.1 hitem
      exact ⟨rfl, rfl⟩
    | text s =>
      cases h
      obtain ⟨c, -, rfl⟩ := List.mem_map.1 hitem
      exact ⟨rfl, rfl⟩
    | halves codes =>
      cases h
      obtain ⟨code, -, rfl⟩ := List.mem_map.1 hitem
      exact Json.legible_stringValue [code]
    | null | bool _ | int _ | float _ => cases h
    | _ => cases hv.1

/-- A list cannot be decoded if one of its items cannot. -/
theorem mapM_escapes_iff {α β ε : Type} {f : α → Except ε β} {xs : List α} :
    (∃ e, xs.mapM f = .error e) ↔ ∃ x ∈ xs, ∃ e, f x = .error e := by
  induction xs with
  | nil => simp [pure, Except.pure]
  | cons x xs ih =>
    rw [List.mapM_cons, List.exists_mem_cons_iff, ← ih]
    rcases hx : f x with e | y
    · simp [bind, Except.bind]
    · rcases hxs : xs.mapM f with e | ys <;> simp [bind, Except.bind, pure, Except.pure]

/-- A value is no record. -/
def Value.NoRecord (v : Value) : Prop :=
  ∀ fields, v ≠ .record fields

theorem rowOfValue_escapes_iff {v : Value} (hv : v.isJson = true) :
    (∃ m, rowOfValue v = .error m) ↔ v.NoRecord := by
  cases v with
  | record fields =>
    have hrow : toRow fields = .ok fields := toRow_of_json hv
    simp [rowOfValue, hrow, Value.NoRecord]
  | _ => exact iff_of_true ⟨_, rfl⟩ nofun

theorem columnValue_escapes_iff {v : Value} (hv : v.Legible) (column : Option String) :
    (∃ m, Postgrest.Client.columnValue column v = .error m) ↔ v.NoRecord := by
  cases v with
  | record fields =>
    obtain ⟨w, hw⟩ := columnValue_of_legible hv column
    simp [hw, Value.NoRecord]
  | _ => cases column <;> exact iff_of_true ⟨_, rfl⟩ nofun

namespace Postgrest

open Run Value

variable {σ : Type} {c : Client σ} {guarded : Bool} {reply : Reply}

/-! ## Unexpected replies -/

/-- The reply reports an error with a message that is no text, and adds no details to it. -/
structure Reply.Wordless (reply : Reply) : Prop where
  refused : reply.isOk = false
  message : ∃ fields, Json.read Json.lenient reply.body = .ok (.record fields) ∧
    ((Row.get? fields "message").getD .null).Unworded ∧
    ((Row.get? fields "details").getD .null).isVoid = true

/-- The header of the reply announces something, but no integer that is read. -/
structure Reply.Miscounts (reply : Reply) : Prop where
  announced : behindSlash (reply.header "Content-Range") ≠ ""
  counted : behindSlash (reply.header "Content-Range") ≠ "*"
  unread : ∃ e, Numeral.readInt (behindSlash (reply.header "Content-Range")) = .error e

theorem totalOf_escapes_iff :
    (∃ m, totalOf (reply.header "Content-Range") = .error (.mishap m)) ↔ reply.Miscounts := by
  unfold totalOf
  dsimp only
  split
  · rename_i hnone
    simp only [Bool.or_eq_true, String.isEmpty_iff, decide_eq_true_eq] at hnone
    refine iff_of_false nofun fun hmiscounts => ?_
    exact hnone.elim hmiscounts.announced hmiscounts.counted
  · rename_i hsome
    simp only [Bool.or_eq_true, String.isEmpty_iff, decide_eq_true_eq, not_or] at hsome
    cases hread : Numeral.readInt (behindSlash (reply.header "Content-Range")) with
    | error e => exact iff_of_true ⟨_, rfl⟩ ⟨hsome.1, hsome.2, e, hread⟩
    | ok n =>
      refine iff_of_false nofun fun hmiscounts => ?_
      obtain ⟨e, herror⟩ := hmiscounts.unread
      rw [hread] at herror
      cases herror

/-- What ends the fetching of pages: a body that nests too deep, a first total that is no number, or
a page that is no listing. -/
def Reply.Unexpected (first : Bool) (reply : Reply) : Prop :=
  reply.TooDeep ∨ ∃ content, reply.Delivers content ∧
    (first = true ∧ reply.Miscounts ∨
      (first = true → ∃ total, totalOf (reply.header "Content-Range") = .ok total) ∧
        content.Unlisted)

theorem baffles_iff {first : Bool} : reply.Baffles first ↔ reply.Unexpected first := by
  constructor
  · rintro (hdeep | ⟨hfirst, hdelivers, htotal⟩ | ⟨hdelivers, hcounted, hitems⟩)
    · exact .inl hdeep
    · exact .inr ⟨_, hdelivers, .inl ⟨hfirst, totalOf_escapes_iff.1 ⟨_, htotal⟩⟩⟩
    · have hjson := Json.isJson_of_read hdelivers.read
      exact .inr ⟨_, hdelivers, .inr ⟨hcounted, (itemsOrNone_escapes_iff hjson).1 ⟨_, hitems⟩⟩⟩
  · rintro (hdeep | ⟨content, hdelivers, ⟨hfirst, hmiscounts⟩ | ⟨hcounted, hunlisted⟩⟩)
    · exact .deep hdeep
    · obtain ⟨m, htotal⟩ := totalOf_escapes_iff.2 hmiscounts
      exact .total hfirst hdelivers htotal
    · obtain ⟨m, hitems⟩ :=
        (itemsOrNone_escapes_iff (Json.isJson_of_read hdelivers.read)).2 hunlisted
      exact .items hdelivers hcounted hitems

/-! ## One request -/

/-- A call of one request is ended by its reply, if it gets one, or by what the session raises. -/
theorem asked_escapes_iff {α : Type} {f : Reply → Run (Wire σ) α} {P : Reply → Prop}
    (hf : ∀ reply w, (∃ m, (f reply w).1 = .error (.mishap m)) ↔ P reply) (stage operation : String)
    (r : Request) (w : World (Wire σ)) :
    (∃ m, ((do
      Run.check guarded stage
      let reply ← c.send operation r
      f reply : Run (Wire σ) α) w).1 = .error (.mishap m)) ↔
    (guarded && w.token.cancelled) = false ∧
      (c.transport r w.remote.server).1.exchange.Upsets P := by
  cases hc : guarded && w.token.cancelled with
  | true =>
    simp only [bind_apply, check_stop hc]
    exact iff_of_false (by rintro ⟨m, ⟨⟩⟩) fun h => Bool.noConfusion h.1
  | false =>
    simp only [bind_apply, check_pass hc, true_and]
    obtain ⟨reply, hreply, hsend⟩ | ⟨message, hlost, hsend⟩ | ⟨error, hraised, hsend⟩ :=
      send_cases c operation r w
    · simp only [hsend, hf, upsets_iff hreply]
    · simp only [hsend]
      exact iff_of_false (by rintro ⟨m, ⟨⟩⟩) hlost.not_upsets
    · simp only [hsend]
      exact iff_of_true ⟨_, rfl⟩ (.of_raised hraised)

/-- A body of rows is refused or read, unless it nests too deep. -/
theorem rowsOfBody_escapes_iff (w : World (Wire σ)) :
    (∃ m, (Client.rowsOfBody reply w).1 = .error (.mishap m)) ↔ reply.TooDeep := by
  unfold Client.rowsOfBody
  split
  · rename_i hempty
    have hread : Json.read Json.lenient reply.body = Json.read Json.lenient "" :=
      congrArg _ (String.isEmpty_iff.1 hempty)
    exact iff_of_false (by rintro ⟨m, ⟨⟩⟩) fun ⟨container, hdeep⟩ => by cases hread.symm.trans hdeep
  · rw [bind_apply]
    cases hread : Json.read Json.lenient reply.body with
    | ok v =>
      have hrows : rowsOfResult toScalar v = .ok (v.resultRows scalarForm) :=
        rowsOfResult_legible (fun _ => toScalar_of_legible) (Json.legible_of_read hread)
      simp only [decode_apply _ hread, hrows, lift_ok]
      exact iff_of_false (by rintro ⟨m, ⟨⟩⟩) (by simp [Reply.TooDeep, hread])
    | error e =>
      simp only [Client.decode, hread]
      cases e with
      | tooDeep container => exact iff_of_true ⟨_, rfl⟩ ⟨container, hread⟩
      | malformed fault left =>
        exact iff_of_false (by rintro ⟨m, ⟨⟩⟩) (by simp [Reply.TooDeep, hread])
      | numeral error =>
        exact iff_of_false (by rintro ⟨m, ⟨⟩⟩) (by simp [Reply.TooDeep, hread])

/-- The message of an error is that of its record, unless this counts as absent; and what is worded
by the client is a text. -/
theorem errorOf_unworded_iff {message code : Value}
    (h : Client.errorOf reply = .ok (message, code)) :
    message.Unworded ↔ ∃ fields, Json.read Json.lenient reply.body = .ok (.record fields) ∧
      ((Row.get? fields "message").getD .null).Unworded ∧
      ((Row.get? fields "details").getD .null).isVoid = true := by
  unfold Client.errorOf at h
  split at h
  · cases h
  · rename_i fields hread
    simp only [Except.ok.injEq, Prod.mk.injEq] at h
    obtain ⟨rfl, -⟩ := h
    simp only [hread, Except.ok.injEq, Value.record.injEq, exists_eq_left']
    cases ((Row.get? fields "details").getD .null).isVoid with
    | false =>
      simp only [Bool.false_eq_true, if_false, and_false, iff_false]
      exact unworded_stringValue _
    | true =>
      cases hmessage : ((Row.get? fields "message").getD .null).isVoid with
      | false => simp
      | true =>
        simp only [if_true, and_true]
        exact iff_of_false (fun h => h.noText _ rfl) fun h => by simp [h.present] at hmessage
  · rename_i hother
    cases h
    refine iff_of_false (fun h => h.noText _ rfl) ?_
    rintro ⟨fields, hread, -⟩
    exact hother fields hread

/-- A refusal is classified, unless its body nests too deep or its message is no text. -/
theorem executionFailure_escapes_iff (hrefused : reply.isOk = false) :
    (∃ m, c.executionFailure reply = .error m) ↔ reply.TooDeep ∨ reply.Wordless := by
  by_cases hdeep : reply.TooDeep
  · obtain ⟨container, hread⟩ := hdeep
    unfold Client.executionFailure
    rw [errorOf_deep hread]
    exact iff_of_true ⟨_, rfl⟩ (.inl ⟨container, hread⟩)
  · obtain ⟨message, code, herror⟩ := errorOf_shallow hdeep
    have hclassified : (∃ m, c.executionFailure reply = .error m) ↔
        ∃ m, BackendFault.classify message code (.text c.endpoint.rpcFunction) = .error m := by
      unfold Client.executionFailure
      rw [herror]
      show (∃ m, (BackendFault.classify message code (.text c.endpoint.rpcFunction)).map _ =
        .error m) ↔ _
      cases BackendFault.classify message code (.text c.endpoint.rpcFunction) <;>
        simp [Except.map]
    rw [hclassified, BackendFault.classify_escapes_iff, errorOf_unworded_iff herror]
    simp only [hdeep, false_or]
    exact ⟨fun hmessage => ⟨hrefused, hmessage⟩, fun h => h.message⟩

/-- A query text is refused or answered, unless its reply nests too deep or reports no text, or the
session raises something. -/
theorem rawExecute_escapes_iff (c : Client σ) (guarded : Bool) (text : String)
    (w : World (Wire σ)) :
    (∃ m, (c.rawExecute guarded text w).1 = .error (.mishap m)) ↔
      (guarded && w.token.cancelled) = false ∧
        (c.transport (c.executionRequest text) w.remote.server).1.exchange.Upsets fun reply =>
          reply.TooDeep ∨ reply.Wordless := by
  refine asked_escapes_iff (fun reply w => ?_) "raw_execute" "raw_execute"
    (c.executionRequest text) w
  cases hok : reply.isOk with
  | true =>
    have hworded : ¬ reply.Wordless := fun h => by simp [h.refused] at hok
    simp only [if_true, rowsOfBody_escapes_iff, hworded, or_false]
  | false =>
    rw [← executionFailure_escapes_iff hok]
    rcases c.executionFailure reply with m | f
    · exact iff_of_true ⟨m, rfl⟩ ⟨m, rfl⟩
    · exact iff_of_false nofun nofun

/-- The request for the number of rows of a table. -/
def Client.countRequest (c : Client σ) (table : String) : Request :=
  c.request .head table (some [("select", some "*")]) none exactCount

/-- Rows are counted, unless a refusal nests too deep or the total is no number, or the session
raises something. -/
theorem count_escapes_iff (c : Client σ) (guarded : Bool) (table : String) (w : World (Wire σ)) :
    (∃ m, (c.count guarded table w).1 = .error (.mishap m)) ↔
      (guarded && w.token.cancelled) = false ∧
        (c.transport (c.countRequest table) w.remote.server).1.exchange.Upsets fun reply =>
          reply.isOk = false ∧ reply.TooDeep ∨ reply.isOk = true ∧ reply.Miscounts := by
  refine asked_escapes_iff (fun reply w => ?_) "count" "count" (c.countRequest table) w
  rw [bind_apply]
  cases hok : reply.isOk with
  | true =>
    simp only [Client.requireOk, hok, if_true, pure_apply, mk_apply, Bool.true_eq_false, false_and,
      false_or, true_and]
    exact totalOf_escapes_iff
  | false =>
    simp only [Client.requireOk, hok, Bool.false_eq_true, if_false, true_and, false_and, or_false]
    by_cases hdeep : reply.TooDeep
    · obtain ⟨container, hread⟩ := hdeep
      rw [errorOf_deep hread]
      exact iff_of_true ⟨_, rfl⟩ ⟨container, hread⟩
    · obtain ⟨message, code, herror⟩ := errorOf_shallow hdeep
      rw [herror]
      exact iff_of_false (by rintro ⟨m, ⟨⟩⟩) hdeep

/-! ## All pages -/

/-- The last response that a call hears ends the fetching of pages. -/
def EndsUnexpected (c : Client σ) (w w' : World (Wire σ)) : Prop :=
  ∃ response, (heard c w w').getLast? = some response ∧
    response.exchange.Upsets (Reply.Unexpected ((heard c w w').length == 1))

section Rounds

variable {source : Source} {limit : Option Int} {w w₁ w₂ : World (Wire σ)}
  {pages : List (List Value)}

/-- A call that ends behind its rounds heard nothing that ends the fetching of pages. -/
theorem Rounds.not_endsUnexpected (h : Rounds c source limit true 0 w pages w₁)
    (hsent : w₂.remote.sent = w₁.remote.sent) : ¬ EndsUnexpected c w w₂ := by
  rintro ⟨response, hlast, hunexpected⟩
  have hheard := heard_of_sent c (hsent.trans h.remote.1)
  rw [hheard] at hlast hunexpected
  rw [length_answers, length_pageRequests] at hunexpected
  exact h.last_calm hlast (hunexpected.mono fun _ _ => baffles_iff.2)

/-- Behind the rounds, the response to one request more is the last that a call hears. -/
theorem Rounds.endsUnexpected_after (h : Rounds c source limit true 0 w pages w₁) (r : Request) :
    EndsUnexpected c w (after c r w₁) ↔
      (c.transport r w₁.remote.server).1.exchange.Upsets (Reply.Baffles pages.isEmpty) := by
  have hsent : (after c r w₁).remote.sent =
      w.remote.sent ++ (pageRequests c source limit 0 pages ++ [r]) := by
    rw [← List.append_assoc, ← h.remote.1]
    rfl
  have hheard : heard c w (after c r w₁) =
      answers c.transport (pageRequests c source limit 0 pages) w.remote.server ++
        [(c.transport r w₁.remote.server).1] := by
    rw [heard_of_sent c hsent, answers_append, ← h.remote.2]
    rfl
  have hfirst : (pages.length + 1 == 1) = pages.isEmpty := by cases pages <;> rfl
  rw [EndsUnexpected, hheard, List.getLast?_concat, List.length_append, length_answers,
    length_pageRequests, List.length_singleton, hfirst]
  simp only [Option.some.injEq, exists_eq_left']
  exact ⟨fun h => h.mono fun _ _ => baffles_iff.2, fun h => h.mono fun _ _ => baffles_iff.1⟩

/-- A call that breaks at its next request ends in a mishap if the exchange upsets it, and only
then. -/
theorem Rounds.endsUnexpected_iff (h : Rounds c source limit true 0 w pages w₁) {t : Trouble}
    (hbreaks : Breaks c source limit pages.isEmpty pages.flatten.length w₁ t w₂) :
    EndsUnexpected c w w₂ ↔ ∃ m, t = .mishap m := by
  cases hbreaks with
  | stopped => exact iff_of_false (h.not_endsUnexpected rfl) nofun
  | failed hcalm =>
    refine iff_of_false (fun hunexpected => ?_) nofun
    exact hcalm ((h.endsUnexpected_after _).1 hunexpected)
  | upset hupsets => exact iff_of_true ((h.endsUnexpected_after _).2 hupsets) ⟨_, rfl⟩

/-- The rounds bring JSON values that can be written. -/
theorem Rounds.legible {first : Bool} {offset : ℕ}
    (h : Rounds c source limit first offset w pages w₁) :
    ∀ page ∈ pages, ∀ item ∈ page, item.Legible := by
  induction h with
  | done => nofun
  | round _ _ hlists _ ih =>
    obtain ⟨content, hdelivers, hitems⟩ := hlists.page
    have hlegible := legible_of_itemsOrNone (Json.legible_of_read hdelivers.read) hitems
    exact List.forall_mem_cons.2 ⟨hlegible, ih⟩

end Rounds

/-- All records are given or a failure ends the call, unless the limit is not read or the last
response ends the fetching of pages. -/
theorem selectAll_escapes_iff (c : Client σ) (source : Source) (w : World (Wire σ)) :
    (∃ m, (c.selectAll source w).1 = .error (.mishap m)) ↔
      (∃ e, limitOf source.params = .error e) ∨ EndsUnexpected c w (c.selectAll source w).2 := by
  cases hlimit : limitOf source.params with
  | error e =>
    rw [selectAll_apply, hlimit]
    exact iff_of_true ⟨_, rfl⟩ (.inl ⟨e, rfl⟩)
  | ok limit =>
    obtain ⟨pages, w₁, hrounds, -, ⟨lines, hend⟩ | ⟨t, w₂, hbreaks, hend⟩⟩ :=
      selectAll_course c hlimit w
    · rw [hend]
      refine iff_of_false nofun ?_
      rintro (⟨e, herror⟩ | hunexpected)
      · cases herror
      · exact hrounds.not_endsUnexpected rfl hunexpected
    · rw [hend, hrounds.endsUnexpected_iff hbreaks]
      simp

/-- All records are such values. -/
theorem legible_of_selectAll {source : Source} {w : World (Wire σ)} {items : List Value}
    (h : (c.selectAll source w).1 = .ok items) : ∀ item ∈ items, item.Legible := by
  cases hlimit : limitOf source.params with
  | error e =>
    rw [selectAll_apply, hlimit] at h
    cases h
  | ok limit =>
    obtain ⟨pages, w₁, hrounds, -, ⟨lines, hend⟩ | ⟨t, w₂, -, hend⟩⟩ :=
      selectAll_course c hlimit w <;> rw [hend] at h <;> cases h
    intro item hitem
    obtain ⟨page, hpage, hitem⟩ := List.mem_flatten.1 hitem
    exact hrounds.legible page hpage item hitem

/-- A call that decodes all records of a source, each of which has to be a record. -/
theorem decoded_escapes_iff {β : Type} {decode : List Value → Except Mishap β}
    (hdecode : ∀ items, (∀ item ∈ items, item.Legible) →
      ((∃ m, decode items = .error m) ↔ ∃ item ∈ items, item.NoRecord))
    (c : Client σ) (stage : String) (source : Source) (w : World (Wire σ)) :
    let call : Run (Wire σ) β := do
      Run.check source.guarded stage
      let records ← c.selectAll source
      Run.lift (decode records)
    (∃ m, (call w).1 = .error (.mishap m)) ↔
      (source.guarded && w.token.cancelled) = false ∧
        ((∃ e, limitOf source.params = .error e) ∨ EndsUnexpected c w (call w).2 ∨
          ∃ items, (c.selectAll source w).1 = .ok items ∧ ∃ item ∈ items, item.NoRecord) := by
  intro call
  cases hc : source.guarded && w.token.cancelled with
  | true =>
    have hstop : call w = (.error (.failure (.cancelledBefore stage)), w) := by
      simp only [call, bind_apply, check_stop hc]
    rw [hstop]
    exact iff_of_false nofun nofun
  | false =>
    have hescapes := selectAll_escapes_iff c source w
    have hlegible := @legible_of_selectAll σ c source w
    simp only [call, bind_apply, check_pass hc, true_and]
    rcases hselect : c.selectAll source w with ⟨t | items, w₁⟩ <;> rw [hselect] at hescapes hlegible
    · simpa using hescapes
    · -- what is left to fail is the decoding, which leaves the world as it is
      have hlift : Run.lift (decode items) w₁ = ((decode items).mapError .mishap, w₁) := by
        cases decode items <;> rfl
      have hnone : ¬ ((∃ e, limitOf source.params = .error e) ∨ EndsUnexpected c w w₁) :=
        fun h => by simpa using hescapes.2 h
      obtain ⟨hlimit, hcalm⟩ := not_or.1 hnone
      have hitems := hdecode items (hlegible rfl)
      simp only [hlift, hlimit, hcalm, false_or, Except.ok.injEq, exists_eq_left']
      rw [← hitems]
      cases decode items <;> simp [Except.mapError]

/-! ## All capabilities -/

/-- A classified refusal is a failure of a backend. -/
theorem executionFailure_isBackend {f : Failure} (hf : c.executionFailure reply = .ok f) :
    f.kind.isBackend = true := by
  unfold Client.executionFailure at hf
  rcases herror : Client.errorOf reply with m | ⟨message, code⟩ <;> rw [herror] at hf
  · cases hf
  · replace hf : (BackendFault.classify message code (.text c.endpoint.rpcFunction)).map
      (fun fault => fault.failure message (.record (Client.details "raw_execute" reply code))) =
        .ok f := hf
    cases hfault : BackendFault.classify message code (.text c.endpoint.rpcFunction) with
    | error m =>
      rw [hfault] at hf
      cases hf
    | ok fault =>
      rw [hfault] at hf
      cases hf
      cases fault <;> rfl

/-- The requests of the client end in typed failures. -/
theorem serving_typed (c : Client σ) (guarded : Bool) (start : σ) :
    Serving c guarded Failure.IsTyped (Hears c.transport start)
      fun α (x : Run (Wire σ) α) => Confined (Within c start) Failure.IsTyped x :=
  serving_confined (fun _ => .inr rfl) fun f hkind _ => .inl (by rw [hkind]; rfl)

theorem typed_of_confined {α : Type} {x : Run (Wire σ) α} {w : World (Wire σ)}
    (h : Confined (Within c w.remote.server) Failure.IsTyped x) :
    ∀ f, (x w).1 = .error (.failure f) → f.IsTyped :=
  (h.confined w fun _ hheard => hheard).2

/-- What a selection asks for, if it can be written. -/
def selectionSource (guarded : Bool) (q : Selection) : Source :=
  ⟨q.table, writtenParams q.columns q.predicate q.limit q.orderBy, "structured_query", guarded⟩

/-- What the values of a column are taken from. -/
def columnSource (guarded : Bool) (table : String) (column : Option String) : Source :=
  ⟨table, [("select", column.map .whole)], "column_values", guarded⟩

/-- Each call gives a result or a typed failure, unless it is free to make its requests and gets a
reply of an unexpected shape, or the session raises something of its own, or a selection cannot be
written, or its limit is not read, or an item is no record. -/
structure TypedCalls (c : Client σ) (guarded : Bool) (w : World (Wire σ)) : Prop where
  rawExecute : ∀ text, TypedUnless
    ((guarded && w.token.cancelled) = false ∧
      (c.transport (c.executionRequest text) w.remote.server).1.exchange.Upsets fun reply =>
        reply.TooDeep ∨ reply.Wordless)
    (c.rawExecute guarded text w).1
  structuredQuery : ∀ q, TypedUnless
    ((guarded && w.token.cancelled) = false ∧
      (¬ Writable q.predicate q.limit ∨
        (∃ e, limitOf (selectionSource guarded q).params = .error e) ∨
        EndsUnexpected c w (c.structuredQuery guarded q w).2 ∨
        ∃ items, (c.selectAll (selectionSource guarded q) w).1 = .ok items ∧
          ∃ item ∈ items, item.NoRecord))
    (c.structuredQuery guarded q w).1
  count : ∀ table, TypedUnless
    ((guarded && w.token.cancelled) = false ∧
      (c.transport (c.countRequest table) w.remote.server).1.exchange.Upsets fun reply =>
        reply.isOk = false ∧ reply.TooDeep ∨ reply.isOk = true ∧ reply.Miscounts)
    (c.count guarded table w).1
  columnValues : ∀ table column, TypedUnless
    ((guarded && w.token.cancelled) = false ∧
      (EndsUnexpected c w (c.columnValues guarded table column w).2 ∨
        ∃ items, (c.selectAll (columnSource guarded table column) w).1 = .ok items ∧
          ∃ item ∈ items, item.NoRecord))
    (c.columnValues guarded table column w).1

theorem structuredQuery_escapes_iff (c : Client σ) (guarded : Bool) (q : Selection)
    (w : World (Wire σ)) :
    (∃ m, (c.structuredQuery guarded q w).1 = .error (.mishap m)) ↔
      (guarded && w.token.cancelled) = false ∧
        (¬ Writable q.predicate q.limit ∨
          (∃ e, limitOf (selectionSource guarded q).params = .error e) ∨
          EndsUnexpected c w (c.structuredQuery guarded q w).2 ∨
          ∃ items, (c.selectAll (selectionSource guarded q) w).1 = .ok items ∧
            ∃ item ∈ items, item.NoRecord) := by
  by_cases hwritable : Writable q.predicate q.limit
  · have hdecode (items : List Value) (hlegible : ∀ item ∈ items, item.Legible) :
        (∃ m, items.mapM rowOfValue = .error m) ↔ ∃ item ∈ items, item.NoRecord := by
      rw [mapM_escapes_iff]
      exact exists_congr fun item => and_congr_right fun hitem =>
        rowOfValue_escapes_iff (hlegible item hitem).1
    have hdecoded :=
      decoded_escapes_iff hdecode c "structured_query" (selectionSource guarded q) w
    simp only [hwritable, not_true, false_or]
    rw [structuredQuery_eq c guarded hwritable]
    exact hdecoded
  · simp only [hwritable, not_false_iff, true_or, and_true]
    cases hc : guarded && w.token.cancelled with
    | true =>
      simp only [Client.structuredQuery, bind_apply, check_stop hc]
      refine iff_of_false ?_ (by decide)
      rintro ⟨m, ⟨⟩⟩
    | false =>
      simp only [Client.structuredQuery, bind_apply, check_pass hc, paramsOf_eq_error hwritable,
        lift_mapError_error]
      exact iff_of_true ⟨_, rfl⟩ trivial

theorem columnValues_escapes_iff (c : Client σ) (guarded : Bool) (table : String)
    (column : Option String) (w : World (Wire σ)) :
    (∃ m, (c.columnValues guarded table column w).1 = .error (.mishap m)) ↔
      (guarded && w.token.cancelled) = false ∧
        (EndsUnexpected c w (c.columnValues guarded table column w).2 ∨
          ∃ items, (c.selectAll (columnSource guarded table column) w).1 = .ok items ∧
            ∃ item ∈ items, item.NoRecord) := by
  have hdecode (items : List Value) (hlegible : ∀ item ∈ items, item.Legible) :
      (∃ m, items.mapM (Client.columnValue column) = .error m) ↔
        ∃ item ∈ items, item.NoRecord := by
    rw [mapM_escapes_iff]
    exact exists_congr fun item => and_congr_right fun hitem =>
      columnValue_escapes_iff (hlegible item hitem) column
  have hlimit : ¬ ∃ e, limitOf (columnSource guarded table column).params = .error e := nofun
  have hdecoded :=
    decoded_escapes_iff hdecode c "column_values" (columnSource guarded table column) w
  simp only [hlimit, false_or] at hdecoded
  exact hdecoded

/-- **Failures are typed, unless a reply is of an unexpected shape.**  Whatever an endpoint replies,
the errors of other kinds are exactly those of the stated replies, and those that are none of the
client's making. -/
theorem calls_typed (c : Client σ) (guarded : Bool) (w : World (Wire σ)) :
    TypedCalls c guarded w := by
  have hserving := serving_typed c guarded w.remote.server
  constructor
  · intro text
    have hraw := rawExecute_serves hserving
      (fun _ _ _ _ hf => .inl (executionFailure_isBackend hf)) text
    exact ⟨typed_of_confined hraw, rawExecute_escapes_iff c guarded text w⟩
  · intro q
    have hselect := structuredQuery_keeps hserving q
    exact ⟨typed_of_confined hselect, structuredQuery_escapes_iff c guarded q w⟩
  · intro table
    have hcount := count_keeps hserving table
    exact ⟨typed_of_confined hcount, count_escapes_iff c guarded table w⟩
  · intro table column
    have hvalues := columnValues_keeps hserving table column
    exact ⟨typed_of_confined hvalues, columnValues_escapes_iff c guarded table column w⟩

/-- An endpoint that numbers its errors escapes with one, and so does one whose total is a word. -/
theorem calls_typed_numbered :
    (∃ m, ((alwaysClient
        ⟨false, .reply ⟨400, "Bad Request", [], "\x7b\"message\": 5\x7d"⟩⟩).rawExecute
      false "SELECT 1" calmWorld).1 = .error (.mishap m)) ∧
    ∃ m, ((alwaysClient (pageOf "many" "[]")).count false "items" calmWorld).1 =
      .error (.mishap m) := by
  constructor
  · have hread : Json.read Json.lenient "\x7b\"message\": 5\x7d" =
        .ok (.record [("message", .int 5)]) :=
      Json.read_of_chars
        ['\x7b', '"', 'm', 'e', 's', 's', 'a', 'g', 'e', '"', ':', ' ', '5', '\x7d']
        (by decide) (by decide) rfl rfl
    have hnumber : (Value.int 5).Unworded := ⟨rfl, nofun, nofun⟩
    refine ((calls_typed _ false calmWorld).rawExecute "SELECT 1").escapes.2 ⟨rfl, .reply ?_⟩
    exact .inr ⟨rfl, _, hread, hnumber, rfl⟩
  · refine ((calls_typed _ false calmWorld).count "items").escapes.2 ⟨rfl, .reply ?_⟩
    exact .inr ⟨rfl, totalOf_escapes_iff.1 ⟨_, rfl⟩⟩

end Postgrest

end ReadGate
